namespace Prose

/-!
# Files

What a program can find on a disk: for every path a file, a folder with all that is in it, or the reason
why there is neither.
-/

/-- Something on a disk. -/
inductive Item where
  | file (content : ByteArray)
  | folder (items : List (String × Item))

/-- Why something cannot be found or read. -/
inductive Disk.Trouble where
  | missing
  | notAFolder
  | isAFolder
  | nameTooLong
  | nulInName
  | notText
  | other (message : String)
deriving DecidableEq

def Disk.Trouble.message : Trouble → String
  | .missing => "No such file or directory (os error 2)"
  | .notAFolder => "Not a directory (os error 20)"
  | .isAFolder => "Is a directory (os error 21)"
  | .nameTooLong => "File name too long (os error 36)"
  | .nulInName => "file name contained an unexpected NUL byte"
  | .notText => "stream did not contain valid UTF-8"
  | .other message => message

/-- What is found at each path. -/
structure Disk where
  look : String → Except Disk.Trouble Item

namespace Disk

/-- The text that bytes encode. -/
def textOf (content : ByteArray) : Except Trouble String :=
  match String.fromUTF8? content with
  | some text => .ok text
  | none => .error .notText

/-- The text of what is found. -/
def Trouble.readItem : Item → Except Trouble String
  | .file content => textOf content
  | .folder _ => .error .isAFolder

def read (disk : Disk) (path : String) : Except Trouble String :=
  (disk.look path).bind Trouble.readItem

def isFile (disk : Disk) (path : String) : Bool :=
  match disk.look path with
  | .ok (.file _) => true
  | _ => false

/-! ## Paths below a folder -/

/-- The longest name of a file, in bytes. -/
def longestName : Nat := 255

def parts (path : String) : List String := path.splitOn "/"

/-- Find what the parts of a path lead to from an item.  `above` holds the folders passed, the last one
in front.  A part that is empty or a point stays where it is, and two points lead back. -/
def walk : List Item → Item → List String → Except Trouble Item
  | _, item, [] => .ok item
  | above, item, part :: rest =>
    match item with
    | .file _ => .error .notAFolder
    | .folder items =>
      if part = "" || part = "." then walk above item rest
      else if part = ".." then
        match above with
        | up :: above => walk above up rest
        | [] => walk [] item rest
      else if longestName < part.utf8ByteSize then .error .nameTooLong
      else
        match items.lookup part with
        | some next => walk (item :: above) next rest
        | none => .error .missing

/-- Find what a path leads to from a folder.  Nothing is known of other places. -/
def find (root : Item) (path : String) : Except Trouble Item :=
  if path.contains '\x00' then .error .nulInName
  else if path.isEmpty || path.startsWith "/" then .error .missing
  else walk [] root (parts path)

/-- The disk on which paths begin at a folder. -/
def ofFolder (root : Item) : Disk := ⟨find root⟩

/-- Put something into a list of named items at its place in the order of names, or in the place of
what has its name. -/
def place (name : String) (item : Item) : List (String × Item) → List (String × Item)
  | [] => [(name, item)]
  | (other, there) :: rest =>
    if name < other then (name, item) :: (other, there) :: rest
    else if name = other then (name, item) :: rest
    else (other, there) :: place name item rest

/-- Put something at a path below an item, with the folders that lead to it. -/
def put (new : Item) : List String → Item → Item
  | [], old =>
    match new, old with
    | .folder [], .folder items => .folder items
    | _, _ => new
  | part :: rest, item =>
    let items :=
      match item with
      | .folder items => items
      | .file _ => []
    if part = "" || part = "." then put new rest (.folder items)
    else .folder (place part (put new rest ((items.lookup part).getD (.folder []))) items)

end Disk
end Prose
