import Prose.Plugin.Stock
import Prose.Store

namespace Prose
namespace Store

/-!
# Transforms in a store

Positions and counts are written over the nodes below a reference as they are found for the tree that is
read there.  Words are rewritten in place: a walk goes over the nodes below the reference and gives new
texts to words, and the words that it has rewritten may be marked afterwards.

A word may be shared, and a name may stand for a type of any shape, so a walk has to be ready for a word
that does not take a text.  The first such failure is the result, but it does not end the walk.
-/

/-- How many visits a walk over the nodes below a reference takes. -/
def visits (store : Store) (ref : Ref) : Nat :=
  ((store.tree? ref).map fun tree => tree.subtrees.length).getD 0

/-- Rewrite a node if it is a word for which there is a new text: the word, or the failure. -/
def rewriteAt (rewrite : String → Option String) (store : Store) (ref : Ref) :
    Store × List (Except Error Ref) :=
  match store.get? ref with
  | none => (store, [])
  | some node =>
    if node.type.name = Kind.word then
      match node.text?.bind rewrite with
      | none => (store, [])
      | some text =>
        match store.edit ref (·.setText text) with
        | .ok store => (store, [.ok ref])
        | .error error => (store, [.error error])
    else (store, [])

/-- Rewrite the words below a reference: those that have got a new text, or the first failure. -/
def rewriteWords (store : Store) (ref : Ref) (rewrite : String → Option String) :
    Store × Except Error (List Ref) :=
  let (after, outcomes) := visit (rewriteAt rewrite) (store.visits ref) store [ref]
  (after, outcomes.mapM id)

def annotateAt (store : Store) (ref : Ref) (key : String) (value : Json) : Store :=
  match store.get? ref with
  | some node => store.set ref (node.annotate key value)
  | none => store

def annotateAll (store : Store) (refs : List Ref) (key : String) (value : Json) : Store :=
  refs.foldl (fun store ref => store.annotateAt ref key value) store

/-- Mask the words below a reference that match, and mark those that have been masked. -/
def redactWords (store : Store) (ref : Ref) (isMatch : String → Bool) (mask : Char) :
    Store × Except Error Unit :=
  match store.rewriteWords ref fun word =>
      if isMatch word then some (Tree.masked mask word) else none with
  | (store, .ok words) => (store.annotateAll words "redacted" (.boolean true), .ok ())
  | (store, .error error) => (store, .error error)

/-- Give every word below a reference a new text. -/
def respellWords (store : Store) (ref : Ref) (spell : String → String) : Store × Except Error Unit :=
  let (store, result) := store.rewriteWords ref fun word => some (spell word)
  (store, result.map fun _ => ())

/-- Take the nodes below a reference through a stock transform. -/
def run (store : Store) (ref : Ref) : Stock.Transform → Store × Except Error Unit
  | .position => (store.transform ref Tree.withPositions, .ok ())
  | .stats => (store.transform ref Tree.withStats, .ok ())
  | .redact isMatch mask => store.redactWords ref isMatch mask
  | .uppercase => store.respellWords ref Text.Casing.upper
  | .lowercase => store.respellWords ref Text.Casing.lower

end Store
end Prose
