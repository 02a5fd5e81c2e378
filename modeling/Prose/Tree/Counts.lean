import Prose.Tree.Basic

namespace Prose

/-!
# Counts

How many words, sentences and paragraphs a tree has, by the types of its nodes, and how many code points
its text has.
-/

/-- The counts of a tree. -/
structure Counts where
  words : Nat
  sentences : Nat
  paragraphs : Nat
  characters : Nat
deriving DecidableEq, Repr

namespace Counts

def ofTree (tree : Tree) : Counts where
  words := tree.subtrees.countP (·.is Kind.word)
  sentences := tree.subtrees.countP (·.is Kind.sentence)
  paragraphs := tree.subtrees.countP (·.is Kind.paragraph)
  characters := tree.text.length

def toJson (counts : Counts) : Json :=
  .ofFields
    [("words", .ofNat counts.words), ("sentences", .ofNat counts.sentences),
     ("paragraphs", .ofNat counts.paragraphs), ("characters", .ofNat counts.characters)]

end Counts

/-- Annotate the root of a tree with its counts. -/
def Tree.withStats (tree : Tree) : Tree := tree.annotate "stats" (Counts.ofTree tree).toJson

end Prose
