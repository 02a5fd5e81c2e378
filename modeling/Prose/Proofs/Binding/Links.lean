import Prose.Binding

namespace Prose
namespace Bindings

/-!
# Links that stay

A parser and a model that are put together are bound to each other, as far as they are not bound already.
A link that is there is never replaced, neither by putting its ends together with others nor by binding
them later.  So where either of the two leads is settled by the first binding that it ever got, and
changes only when what it leads to is gone.

`United` says where the two lead as long as both are there.  They lead to each other exactly if neither
was bound to something else before.
-/

/-- What may happen to parsers and models. -/
inductive Event where
  | addParser (parser : Nat)
  | addModel (model : Nat)
  | dropParser (parser : Nat)
  | dropModel (model : Nat)
  | bindModel (parser model : Nat)
  | bindParser (model parser : Nat)

/-- An event leaves a parser and a model there, as it must while something holds them. -/
def Event.Spares (parser model : Nat) : Event → Prop
  | .dropParser other => parser ≠ other
  | .dropModel other => model ≠ other
  | _ => True

def step (b : Bindings) : Event → Bindings
  | .addParser parser => b.addParser parser
  | .addModel model => b.addModel model
  | .dropParser parser => b.dropParser parser
  | .dropModel model => b.dropModel model
  | .bindModel parser model => b.bindModel parser model
  | .bindParser model parser => (b.bindParser model parser).1

def after (b : Bindings) (events : List Event) : Bindings := events.foldl step b

variable {b : Bindings} {parser model first : Nat}

/-! ## One event -/

theorem modelOf_bindParser (b : Bindings) (model parser : Nat) :
    (b.bindParser model parser).1.modelOf = b.modelOf := by
  unfold bindParser
  split <;> rfl

theorem parsers_bindParser (b : Bindings) (model parser : Nat) :
    (b.bindParser model parser).1.parsers = b.parsers := by
  unfold bindParser
  split <;> rfl

theorem models_bindParser (b : Bindings) (model parser : Nat) :
    (b.bindParser model parser).1.models = b.models := by
  unfold bindParser
  split <;> rfl

theorem parserOf_bindModel (b : Bindings) (parser model : Nat) :
    (b.bindModel parser model).parserOf = b.parserOf := by
  unfold bindModel
  split <;> rfl

theorem parsers_bindModel (b : Bindings) (parser model : Nat) :
    (b.bindModel parser model).parsers = b.parsers := by
  unfold bindModel
  split <;> rfl

theorem models_bindModel (b : Bindings) (parser model : Nat) :
    (b.bindModel parser model).models = b.models := by
  unfold bindModel
  split <;> rfl

theorem lookup_cons_of_some {key other value link : Nat} {links : List (Nat × Nat)}
    (found : links.lookup key = some link) (free : links.lookup other = none) :
    ((other, value) :: links).lookup key = some link := by
  have different : key ≠ other := by
    rintro rfl
    rw [free] at found
    cases found
  rw [List.lookup_cons, beq_eq_false_iff_ne.mpr different]
  exact found

/-- A link that is there is not replaced. -/
theorem lookup_bindModel (found : b.modelOf.lookup parser = some first) (other model : Nat) :
    (b.bindModel other model).modelOf.lookup parser = some first := by
  unfold bindModel
  split
  · exact found
  · rename_i free
    exact lookup_cons_of_some found free

theorem lookup_bindParser (found : b.parserOf.lookup model = some first) (other parser : Nat) :
    (b.bindParser other parser).1.parserOf.lookup model = some first := by
  unfold bindParser isBound
  split
  · exact found
  · rename_i unbound
    exact lookup_cons_of_some found (Option.not_isSome_iff_eq_none.mp unbound)

/-- What is bound leads where it led before, or to what it is bound to. -/
theorem lookup_bindModel_self (b : Bindings) (parser model : Nat) :
    (b.bindModel parser model).modelOf.lookup parser =
      some ((b.modelOf.lookup parser).getD model) := by
  cases bound : b.modelOf.lookup parser with
  | some first => exact lookup_bindModel bound parser model
  | none =>
      rw [bindModel, bound]
      exact List.lookup_cons_self

theorem lookup_bindParser_self (b : Bindings) (model parser : Nat) :
    (b.bindParser model parser).1.parserOf.lookup model =
      some ((b.parserOf.lookup model).getD parser) := by
  cases bound : b.parserOf.lookup model with
  | some first => exact lookup_bindParser bound model parser
  | none =>
      rw [bindParser, isBound, bound]
      exact List.lookup_cons_self

theorem lookup_modelOf_step (found : b.modelOf.lookup parser = some first) (event : Event) :
    (b.step event).modelOf.lookup parser = some first := by
  cases event with
  | bindModel other model => exact lookup_bindModel found other model
  | bindParser other parser => rwa [step, modelOf_bindParser]
  | addParser other => exact found
  | addModel other => exact found
  | dropParser other => exact found
  | dropModel other => exact found

theorem lookup_parserOf_step (found : b.parserOf.lookup model = some first) (event : Event) :
    (b.step event).parserOf.lookup model = some first := by
  cases event with
  | bindParser other parser => exact lookup_bindParser found other parser
  | bindModel other model => rwa [step, parserOf_bindModel]
  | addParser other => exact found
  | addModel other => exact found
  | dropParser other => exact found
  | dropModel other => exact found

theorem mem_parsers_step {event : Event} (spares : event.Spares parser model)
    (there : parser ∈ b.parsers) : parser ∈ (b.step event).parsers := by
  cases event with
  | addParser other => exact List.mem_cons_of_mem _ there
  | dropParser other => exact List.mem_filter.mpr ⟨there, decide_eq_true spares⟩
  | bindModel other model => rwa [step, parsers_bindModel]
  | bindParser model other => rwa [step, parsers_bindParser]
  | addModel other => exact there
  | dropModel other => exact there

theorem mem_models_step {event : Event} (spares : event.Spares parser model)
    (there : model ∈ b.models) : model ∈ (b.step event).models := by
  cases event with
  | addModel other => exact List.mem_cons_of_mem _ there
  | dropModel other => exact List.mem_filter.mpr ⟨there, decide_eq_true spares⟩
  | bindModel parser other => rwa [step, models_bindModel]
  | bindParser other parser => rwa [step, models_bindParser]
  | addParser other => exact there
  | dropParser other => exact there

/-! ## Any number of events -/

/-- A parser and a model are there, and have been bound to something. -/
structure Linked (b : Bindings) (parser model firstModel firstParser : Nat) : Prop where
  parser_mem : parser ∈ b.parsers
  model_mem : model ∈ b.models
  modelOf_eq : b.modelOf.lookup parser = some firstModel
  parserOf_eq : b.parserOf.lookup model = some firstParser

theorem Linked.after {firstModel firstParser : Nat} (linked : Linked b parser model firstModel firstParser)
    {events : List Event} (spared : ∀ event ∈ events, event.Spares parser model) :
    Linked (b.after events) parser model firstModel firstParser := by
  induction events generalizing b with
  | nil => exact linked
  | cons event rest inductionHypothesis =>
      have spares := spared event List.mem_cons_self
      refine inductionHypothesis ?_ fun other member => spared other (List.mem_cons_of_mem _ member)
      exact ⟨mem_parsers_step spares linked.parser_mem, mem_models_step spares linked.model_mem,
        lookup_modelOf_step linked.modelOf_eq event, lookup_parserOf_step linked.parserOf_eq event⟩

/-- What is put together is bound: each side to what it was bound to before, or to the other one. -/
theorem linked_unite (parser_mem : parser ∈ b.parsers) (model_mem : model ∈ b.models) :
    Linked (b.unite parser model) parser model ((b.modelOf.lookup parser).getD model)
      ((b.parserOf.lookup model).getD parser) where
  parser_mem := by rwa [unite, parsers_bindModel, parsers_bindParser]
  model_mem := by rwa [unite, models_bindModel, models_bindParser]
  modelOf_eq := by rw [unite, lookup_bindModel_self, modelOf_bindParser]
  parserOf_eq := by rw [unite, parserOf_bindModel, lookup_bindParser_self]

/-! ## Where the two lead -/

/-- A parser and a model lead to each other. -/
def BothWays (b : Bindings) (parser model : Nat) : Prop :=
  b.parser? model = some parser ∧ b.model? parser = some model

/-- Where a parser and a model lead that were put together when the links were `before`, and are still
there. -/
structure United (before b : Bindings) (parser model : Nat) : Prop where
  /-- A model that had not been bound leads to the parser. -/
  parser? : before.parserOf.lookup model = none → b.parser? model = some parser
  /-- A parser that had not been bound leads to the model. -/
  model? : before.modelOf.lookup parser = none → b.model? parser = some model
  /-- A model that had been bound leads where it led, as long as that is there. -/
  parser?_first : ∀ first, before.parserOf.lookup model = some first →
    b.parser? model = if first ∈ b.parsers then some first else none
  /-- A parser that had been bound leads where it led, as long as that is there. -/
  model?_first : ∀ first, before.modelOf.lookup parser = some first →
    b.model? parser = if first ∈ b.models then some first else none
  bothWays_iff : b.BothWays parser model ↔
    (∀ first, before.parserOf.lookup model = some first → first = parser) ∧
      ∀ first, before.modelOf.lookup parser = some first → first = model

theorem Linked.parser?_eq {firstModel firstParser : Nat}
    (linked : Linked b parser model firstModel firstParser) :
    b.parser? model = if firstParser ∈ b.parsers then some firstParser else none := by
  rw [Bindings.parser?, linked.parserOf_eq, Option.filter_some]
  simp only [decide_eq_true_eq]

theorem Linked.model?_eq {firstModel firstParser : Nat}
    (linked : Linked b parser model firstModel firstParser) :
    b.model? parser = if firstModel ∈ b.models then some firstModel else none := by
  rw [Bindings.model?, linked.modelOf_eq, Option.filter_some]
  simp only [decide_eq_true_eq]

/-- A link leads to something that is there exactly if that was the first it led to. -/
theorem link_eq_some_iff {own : Nat} {link : Option Nat} {there : List Nat} (member : own ∈ there) :
    (if link.getD own ∈ there then some (link.getD own) else none) = some own ↔
      ∀ first, link = some first → first = own := by
  cases link with
  | none =>
      rw [Option.getD_none, if_pos member]
      exact iff_of_true rfl nofun
  | some first =>
      rw [Option.getD_some]
      constructor
      · rintro led _ ⟨⟩
        split at led <;> cases led
        rfl
      · intro same
        rw [same first rfl, if_pos member]

/-- Whatever happens later, what has been put together leads where it was bound first. -/
theorem united_after {parser model : Nat} {b : Bindings} (parser_mem : parser ∈ b.parsers)
    (model_mem : model ∈ b.models) {later : List Event}
    (spared : ∀ event ∈ later, event.Spares parser model) :
    United b ((b.unite parser model).after later) parser model := by
  have linked := (linked_unite parser_mem model_mem).after spared
  generalize (b.unite parser model).after later = last at linked
  constructor
  case parser? =>
    intro unbound
    rw [linked.parser?_eq, unbound, Option.getD_none, if_pos linked.parser_mem]
  case model? =>
    intro unbound
    rw [linked.model?_eq, unbound, Option.getD_none, if_pos linked.model_mem]
  case parser?_first =>
    intro first bound
    rw [linked.parser?_eq, bound, Option.getD_some]
  case model?_first =>
    intro first bound
    rw [linked.model?_eq, bound, Option.getD_some]
  case bothWays_iff =>
    rw [BothWays, linked.parser?_eq, linked.model?_eq, link_eq_some_iff linked.parser_mem,
      link_eq_some_iff linked.model_mem]

/-- A parser and two models, of which the parser has been bound to the first. -/
def boundBefore : Bindings := (((empty.addParser 0).addModel 1).addModel 2).bindModel 0 1

/-- The parser is put together with the second model, which then leads to it.  Binding either of the two
again has no effect, and when the first model is gone, the parser leads nowhere. -/
theorem united_after_rebound :
    United boundBefore
        ((boundBefore.unite 0 2).after [.bindModel 0 2, .addParser 3, .bindParser 2 3, .dropModel 1]) 0 2 ∧
      ((boundBefore.unite 0 2).after
        [.bindModel 0 2, .addParser 3, .bindParser 2 3, .dropModel 1]).parser? 2 = some 0 := by
  refine ⟨united_after (by decide) (by decide) ?_, rfl⟩
  intro event member
  simp only [List.mem_cons, List.not_mem_nil, or_false] at member
  rcases member with rfl | rfl | rfl | rfl
  · trivial
  · trivial
  · trivial
  · exact Nat.succ_ne_self 1

/-- A parser that has been bound before does not lead to the model that it is put together with. -/
theorem not_bothWays_of_boundBefore :
    0 ∈ boundBefore.parsers ∧ 2 ∈ boundBefore.models ∧
      ¬ ((boundBefore.unite 0 2).after []).BothWays 0 2 := by
  refine ⟨by decide, by decide, ?_⟩
  rintro ⟨_, elsewhere⟩
  cases elsewhere

end Bindings
end Prose
