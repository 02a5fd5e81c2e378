import Prose.Yaml.Token

namespace Prose
namespace Yaml

/-!
# YAML documents

The tokens of a text make up at most one document here.  An alias is replaced by the node that it stands
for; one that stands for a collection around it has no finite meaning and is refused.
-/

/-- A node of a document, with its tag if it has one. -/
inductive Node where
  | scalar (tag : Option String) (plain : Bool) (text : String)
  | sequence (tag : Option String) (items : List Node)
  | mapping (tag : Option String) (pairs : List (Node × Node))
  | alias (target : Node)
deriving Repr, Inhabited

namespace Node

/-- A node that is not written out. -/
def missing (tag : Option String) : Node := .scalar tag true ""

mutual

/-- How many events a node is reported by: one for a scalar or an alias, and two for the ends of a
collection. -/
def events : Node → Nat
  | .scalar .. | .alias _ => 1
  | .sequence _ items => eventsAll items + 2
  | .mapping _ pairs => eventsPairs pairs + 2

def eventsAll : List Node → Nat
  | [] => 0
  | node :: rest => node.events + eventsAll rest

def eventsPairs : List (Node × Node) → Nat
  | [] => 0
  | (key, value) :: rest => key.events + value.events + eventsPairs rest

end

/-! ## Reading -/

/-- What is left to read, and what names stand for. -/
structure Reading where
  tokens : List Token
  /-- What the handles of tags stand for. -/
  handles : List (String × String)
  /-- What anchors stand for, the last one in front; nothing while the collection is still open. -/
  anchors : List (String × Option Node)

/-- A step of reading, which may fail. -/
abbrev Reader := StateT Reading Option

def peek : Reader (Option Token) := do return (← get).tokens.head?

def pass : Reader Unit := modify fun reading => { reading with tokens := reading.tokens.drop 1 }

/-- Pass over the token in front if it is the given one. -/
def accept (token : Token) : Reader Bool := do
  if (← peek) = some token then
    pass
    return true
  else return false

/-- Whether one of the given tokens, or the end, is in front. -/
def ahead (tokens : List Token) : Reader Bool := do return (← peek).all (· ∈ tokens)

/-- The tag that a handle and a suffix make. -/
def tagOf (handle suffix : String) : Reader String := do
  if handle.isEmpty then return suffix
  else
    match (← get).handles.lookup handle with
    | some replacement => return replacement ++ suffix
    | none => failure

/-- Read the anchor and the tag in front of a node, in either order. -/
def properties : Reader (Option String × Option String) := do
  match ← peek with
  | some (.anchor name) =>
    pass
    match ← peek with
    | some (.tag handle suffix) =>
      pass
      return (some name, some (← tagOf handle suffix))
    | _ => return (some name, none)
  | some (.tag handle suffix) =>
    pass
    match ← peek with
    | some (.anchor name) =>
      pass
      return (some name, some (← tagOf handle suffix))
    | _ => return (none, some (← tagOf handle suffix))
  | _ => return (none, none)

/-- Read a node with its anchor, which may be used inside the node already. -/
def anchored (anchor : Option String) (read : Reader Node) : Reader Node := do
  match anchor with
  | none => read
  | some name =>
    let place := (← get).anchors.length
    modify fun reading => { reading with anchors := (name, none) :: reading.anchors }
    let node ← read
    modify fun reading =>
      { reading with
        anchors := reading.anchors.set (reading.anchors.length - 1 - place) (name, some node) }
    return node

mutual

/-- Read a node.  Inside brackets only collections in brackets may stand; behind a key or a colon the
items of a sequence may stand without indentation. -/
def node : Nat → Bool → Bool → Reader Node
  | 0, _, _ => failure
  | fuel + 1, block, indentless => do
    match ← peek with
    | some (.alias name) =>
      pass
      match (← get).anchors.lookup name with
      | some (some target) => return .alias target
      | _ => failure
    | _ =>
      let (anchor, tag) ← properties
      anchored anchor do
        match ← peek with
        | some (.scalar plain text) =>
          pass
          return .scalar tag plain text
        | some .openBracket =>
          pass
          return .sequence tag (← bracketItems fuel true)
        | some .openBrace =>
          pass
          return .mapping tag (← bracePairs fuel true)
        | some .sequenceStart =>
          if block then
            pass
            return .sequence tag (← blockItems fuel)
          else absent anchor tag
        | some .mappingStart =>
          if block then
            pass
            return .mapping tag (← blockPairs fuel)
          else absent anchor tag
        | some .dash =>
          if indentless then return .sequence tag (← bareItems fuel) else absent anchor tag
        | _ => absent anchor tag

/-- A node may be missing behind an anchor or a tag. -/
def absent (anchor tag : Option String) : Reader Node :=
  if anchor.isSome || tag.isSome then return .missing tag else failure

/-- Read a node unless one of some tokens is in front. -/
def nodeUnless (fuel : Nat) (block : Bool) (tokens : List Token) (indentless : Bool) :
    Reader Node := do
  if ← ahead tokens then return .missing none else node fuel block indentless

def blockItems : Nat → Reader (List Node)
  | 0 => failure
  | fuel + 1 => do
    if ← accept .dash then
      let item ← nodeUnless fuel true [.dash, .collectionEnd] false
      return item :: (← blockItems fuel)
    else if ← accept .collectionEnd then return []
    else failure

/-- Read the items of a sequence without indentation. -/
def bareItems : Nat → Reader (List Node)
  | 0 => failure
  | fuel + 1 => do
    if ← accept .dash then
      let item ← nodeUnless fuel true [.dash, .key, .colon, .collectionEnd] false
      return item :: (← bareItems fuel)
    else return []

/-- Read the pairs of a mapping outside brackets. -/
def blockPairs : Nat → Reader (List (Node × Node))
  | 0 => failure
  | fuel + 1 => do
    if ← accept .collectionEnd then return []
    else if ← accept .key then
      let key ← nodeUnless fuel true [.key, .colon, .collectionEnd] true
      let value ←
        if ← accept .colon then nodeUnless fuel true [.key, .colon, .collectionEnd] true
        else pure (.missing none)
      return (key, value) :: (← blockPairs fuel)
    else failure

/-- Read the items of a sequence in brackets.  An item may be a single pair. -/
def bracketItems : Nat → Bool → Reader (List Node)
  | 0, _ => failure
  | fuel + 1, first => do
    if ← accept .closeBracket then return []
    if !first then
      if !(← accept .comma) then failure
    if ← accept .closeBracket then return []
    let item ←
      if ← accept .key then singlePair fuel else node fuel false false
    return item :: (← bracketItems fuel false)

/-- Read a pair that is an item in brackets.  Where its key is missing, the token in front is lost. -/
def singlePair : Nat → Reader Node
  | 0 => failure
  | fuel + 1 => do
    let key ←
      if ← ahead [.colon, .comma, .closeBracket] then
        pass
        pure (.missing none)
      else node fuel false false
    let value ←
      if ← accept .colon then nodeUnless fuel false [.comma, .closeBracket] false
      else pure (.missing none)
    return .mapping none [(key, value)]

def bracePairs : Nat → Bool → Reader (List (Node × Node))
  | 0, _ => failure
  | fuel + 1, first => do
    if ← accept .closeBrace then return []
    if !first then
      if !(← accept .comma) then failure
    if ← accept .closeBrace then return []
    let pair ←
      if ← accept .key then
        let key ← nodeUnless fuel false [.colon, .comma, .closeBrace] false
        let value ←
          if ← accept .colon then nodeUnless fuel false [.comma, .closeBrace] false
          else pure (.missing none)
        pure (key, value)
      else
        pure ((← node fuel false false), .missing none)
    return pair :: (← bracePairs fuel false)

end

/-! ## Documents -/

/-- Read directives.  There is one version at most, and one shorthand for a handle. -/
def directives : Nat → Bool → Reader Unit
  | 0, _ => failure
  | fuel + 1, versioned => do
    match ← peek with
    | some (.version major minor) =>
      if versioned || major ≠ 1 || !(minor = 1 || minor = 2) then failure
      pass
      directives fuel true
    | some (.tagShorthand handle replacement) =>
      if ((← get).handles.lookup handle).isSome then failure
      pass
      modify fun reading => { reading with handles := (handle, replacement) :: reading.handles }
      directives fuel versioned
    | _ => return

/-- The handles that every document has, unless it gives them another meaning. -/
def standardHandles : List (String × String) := [("!", "!"), ("!!", "tag:yaml.org,2002:")]

/-- Whether a token ends the content of a document. -/
def isBoundary : Token → Bool
  | .version .. | .tagShorthand .. | .documentStart | .documentEnd => true
  | _ => false

def document (fuel : Nat) : Reader Node := do
  let explicit := (← peek).any fun token => isBoundary token && token ≠ .documentEnd
  if explicit then
    directives fuel false
    if !(← accept .documentStart) then failure
  modify fun reading => { reading with handles := reading.handles ++ standardHandles }
  let root ←
    if explicit && (← peek).all isBoundary then pure (.missing none) else node fuel true false
  return root

def passEnds : Nat → Reader Unit
  | 0 => failure
  | fuel + 1 => do if ← accept .documentEnd then passEnds fuel else return

/-- The document that tokens make up, if there is one. -/
def ofTokens? (tokens : List Token) : Option (Option Node) :=
  if tokens.isEmpty then some none
  else
    let fuel := 2 * tokens.length + 2
    match (do let root ← document fuel; passEnds fuel; return root : Reader Node)
        ⟨tokens, [], []⟩ with
    | some (root, ⟨[], _, _⟩) => some (some root)
    | _ => none

/-- The document of a text, if there is one.  Several documents are refused. -/
def ofString? (text : String) : Option (Option Node) := (Token.scan text).bind ofTokens?

end Node
end Yaml
end Prose
