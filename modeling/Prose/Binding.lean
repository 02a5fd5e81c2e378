namespace Prose

/-!
# Bindings

A parser and a model may each be bound to one of the other sort.  The first binding stays.  A binding
does not keep alive what it leads to: once that is gone, it leads nowhere.

Parsers and models are known by numbers here.
-/

/-- The parsers and models that are there, and what they have been bound to. -/
structure Bindings where
  parsers : List Nat
  models : List Nat
  /-- The models that parsers have been bound to. -/
  modelOf : List (Nat × Nat)
  /-- The parsers that models have been bound to. -/
  parserOf : List (Nat × Nat)
deriving DecidableEq, Repr

namespace Bindings

def empty : Bindings := ⟨[], [], [], []⟩

def addParser (b : Bindings) (parser : Nat) : Bindings := { b with parsers := parser :: b.parsers }

def addModel (b : Bindings) (model : Nat) : Bindings := { b with models := model :: b.models }

def dropParser (b : Bindings) (parser : Nat) : Bindings :=
  { b with parsers := b.parsers.filter (· ≠ parser) }

def dropModel (b : Bindings) (model : Nat) : Bindings :=
  { b with models := b.models.filter (· ≠ model) }

/-- Bind a parser to a model, unless it is bound. -/
def bindModel (b : Bindings) (parser model : Nat) : Bindings :=
  match b.modelOf.lookup parser with
  | some _ => b
  | none => { b with modelOf := (parser, model) :: b.modelOf }

def isBound (b : Bindings) (model : Nat) : Bool := (b.parserOf.lookup model).isSome

/-- Bind a model to a parser, unless it is bound; tells whether it was not. -/
def bindParser (b : Bindings) (model parser : Nat) : Bindings × Bool :=
  if b.isBound model then (b, false)
  else ({ b with parserOf := (model, parser) :: b.parserOf }, true)

/-- The model that a parser is bound to, if it is there. -/
def model? (b : Bindings) (parser : Nat) : Option Nat :=
  (b.modelOf.lookup parser).filter (· ∈ b.models)

/-- The parser that a model is bound to, if it is there. -/
def parser? (b : Bindings) (model : Nat) : Option Nat :=
  (b.parserOf.lookup model).filter (· ∈ b.parsers)

/-- Bind a parser and a model to each other, as far as they are not bound. -/
def unite (b : Bindings) (parser model : Nat) : Bindings :=
  (b.bindParser model parser).1.bindModel parser model

end Bindings
end Prose
