import Prose.CommandLine.Arguments
import Prose.Config.Load
import Prose.Trace.Steps
import Prose.Tree.Outline
import Prose.Workbench

namespace Prose
namespace CommandLine

/-!
# What a command line does

A command attaches plugins, reads documents, and prints.  What has been printed before a failure stays.
-/

/-- A text with the name that it is shown under. -/
structure Document where
  name : String
  text : String

/-- What a command has printed, and how it ended. -/
structure Outcome where
  status : Nat
  output : String
  error : Option Error

/-! ## Documents -/

/-- Whether a path means the standard input. -/
def isStandardInput (path : String) : Bool :=
  match Disk.parts path with
  | [] => false
  | first :: rest => first = "-" && rest.all fun part => part = "" || part = "."

def isText (name : String) : Bool :=
  match name.toList.reverse with
  | 't' :: 'x' :: 't' :: '.' :: _ :: _ => true
  | _ => false

def joinPath (path name : String) : String :=
  if path.endsWith "/" then path ++ name else path ++ "/" ++ name

mutual

/-- The texts in what is found at a path: all files of a folder that have the extension, in the order of
their names. -/
def texts (path : String) : Item → Except Error (List Document)
  | .file content =>
    match Disk.textOf content with
    | .ok text => .ok [⟨path, text⟩]
    | .error trouble => .error (.io (path ++ ": " ++ trouble.message))
  | .folder items => textsOf path items

def textsOf (path : String) : List (String × Item) → Except Error (List Document)
  | [] => .ok []
  | (name, .file content) :: rest =>
    if isText name then do
      let documents ← texts (joinPath path name) (.file content)
      return documents ++ (← textsOf path rest)
    else textsOf path rest
  | (name, .folder items) :: rest => do
    let documents ← textsOf (joinPath path name) items
    return documents ++ (← textsOf path rest)

end

def documents (disk : Disk) (input : ByteArray) (path : String) : Except Error (List Document) :=
  if isStandardInput path then
    match Disk.textOf input with
    | .ok text => .ok [⟨"<stdin>", text⟩]
    | .error trouble => .error (.io trouble.message)
  else
    match disk.look path with
    | .ok item => texts path item
    | .error trouble => .error (.io (path ++ ": " ++ trouble.message))

/-! ## Printing -/

/-- A text that ends with a line end. -/
def closed (text : String) : String := if text.endsWith "\n" then text else text ++ "\n"

/-- Print something about each document, up to the first failure. -/
def printAll (print : Document → Except Error String) :
    List Document → String × Option Error
  | [] => ("", none)
  | document :: rest =>
    match print document with
    | .error error => ("", some error)
    | .ok text =>
      let (more, error) := printAll print rest
      (text ++ more, error)

/-- Print something about each document below its name, which is left out if there is only one. -/
def printNamed (documents : List Document) (print : Document → Except Error String) :
    String × Option Error :=
  documents.foldl
    (fun (output, error) document =>
      match error with
      | some error => (output, some error)
      | none =>
        let output :=
          if 1 < documents.length then output ++ "==> " ++ document.name ++ " <==\n" else output
        match print document with
        | .ok text => (output ++ closed text, none)
        | .error error => (output, some error))
    ("", none)

/-- A name filled up with spaces. -/
def padded (name : String) (width : Nat) : String :=
  name ++ String.ofList (List.replicate (width - name.length) ' ')

/-- The plugins of the catalog, with a mark at those attached. -/
def listing (bench : Workbench) : String :=
  String.join <| bench.attachments.catalog.summaries.map fun (name, summary) =>
    padded name 12 ++ " " ++ summary ++ (if name ∈ bench.names then " (attached)" else "") ++ "\n"

def trace (bench : Workbench) (document : Document) : Except Error String := do
  let tree ← bench.build document.text
  let stages ← Workbench.stages tree bench.plugins
  return Trace.render
    (("parse", tree) :: stages |>.map fun (label, tree) => ⟨label, tree.outline⟩)

/-! ## Commands -/

/-- Attach what a configuration and options ask for. -/
def prepare (disk : Disk) (arguments : Arguments) : Except Error Workbench := do
  let config ← Config.loadOrDefault disk arguments.config
  let (bench, result) :=
    Workbench.standard.attachAll (config.plugins ++ arguments.names.map .bare)
  result.map fun _ => bench

def perform (disk : Disk) (input : ByteArray) (bench : Workbench) :
    Command → Except Error (String × Option Error)
  | .process path => do
    return printNamed (← documents disk input path) fun document =>
      (bench.process document.text).map Tree.text
  | .tree path json => do
    return printNamed (← documents disk input path) fun document =>
      (bench.process document.text).map fun tree =>
        if json then tree.toCst.toJson.pretty else tree.outline
  | .trace path => do
    return printAll (trace bench) (← documents disk input path)
  | .plugins => .ok (listing bench, none)

def version : String := "retext 0.1.0"

def run (disk : Disk) (input : ByteArray) (arguments : List String) : Outcome :=
  match read arguments with
  | .error .usage => ⟨2, "", none⟩
  | .error .version => ⟨0, version ++ "\n", none⟩
  | .error .help => ⟨0, "", none⟩
  | .ok arguments =>
    match prepare disk arguments >>= fun bench => perform disk input bench arguments.command with
    | .ok (output, none) => ⟨0, output, none⟩
    | .ok (output, some error) => ⟨1, output, some error⟩
    | .error error => ⟨1, "", some error⟩

end CommandLine
end Prose
