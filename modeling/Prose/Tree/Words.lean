import Prose.Text.Casing
import Prose.Tree.Basic

namespace Prose
namespace Tree

/-!
# Editing words

Words are the leaves of type `WordNode`.  An edit looks at the text of each and leaves it, replaces
it, or replaces it and marks the word.
-/

/-- What an edit does with a word. -/
inductive Edit where
  | keep
  | replace (text : String)
  | replaceAndMark (text : String) (key : String) (value : Json)

mutual

def editWords (edit : String → Edit) : Tree → Tree
  | .branch type data children => .branch type data (editWordsAll edit children)
  | .leaf type data value =>
    if type.name = Kind.word then
      match edit value with
      | .keep => .leaf type data value
      | .replace text => .leaf type data text
      | .replaceAndMark text key mark => .leaf type (data.insert key mark) text
    else .leaf type data value

def editWordsAll (edit : String → Edit) : List Tree → List Tree
  | [] => []
  | tree :: rest => editWords edit tree :: editWordsAll edit rest

end

def upperWords (tree : Tree) : Tree :=
  tree.editWords fun word => .replace (Text.Casing.upper word)

def lowerWords (tree : Tree) : Tree :=
  tree.editWords fun word => .replace (Text.Casing.lower word)

/-- A text of as many masking characters as a word has code points. -/
def masked (mask : Char) (word : String) : String :=
  String.ofList (List.replicate word.length mask)

/-- Mask the words that match, and mark them. -/
def redactWords (isMatch : String → Bool) (mask : Char) (tree : Tree) : Tree :=
  tree.editWords fun word =>
    if isMatch word then .replaceAndMark (masked mask word) "redacted" (.boolean true) else .keep

end Tree
end Prose
