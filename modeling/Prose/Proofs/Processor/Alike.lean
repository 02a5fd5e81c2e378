import Prose.Proofs.Processor.Depth
import Prose.Proofs.Processor.Listeners
import Prose.Proofs.Processor.Offsets
import Prose.Proofs.Processor.Openings

namespace Prose
namespace Processor

/-!
# The same code in two histories

Two histories are compared that go on from states in which different requests have been made.  Code in
control may be any code, but it is the same code in both: `Alike` says that it does the same for as long as
it is told the same.  Then a parser that is asked for a text for different purposes gives back the same, and
a run with a callback comes to the same as a run without one.
-/

open Story Run

variable {η β κ : Type}

/-- The code in control does the same in two histories for as long as it is told the same. -/
inductive Alike : Processor η β κ → Response η β κ → List (Act η β κ) →
    Processor η β κ → Response η β κ → List (Act η β κ) → Prop where
  | act {p q : Processor η β κ} {response : Response η β κ} {act : Act η β κ}
      {acts acts' : List (Act η β κ)}
      (rest : Alike (p.act act) (p.responds response act) acts (q.act act) (q.responds response act) acts') :
      Alike p response (act :: acts) q response (act :: acts')
  | apart {p q : Processor η β κ} {response response' : Response η β κ} {acts acts' : List (Act η β κ)}
      (different : response ≠ response') : Alike p response acts q response' acts'
  | done {p q : Processor η β κ} {response : Response η β κ} : Alike p response [] q response []

section

variable {p q : Processor η β κ} {run : Nat} {below : List (Call κ)}
variable {stories stories' : Nat → List (Event η β Ref)}
variable {reports reports' : Nat → List (κ × Except Error Ref)}
variable {acts acts' : List (Act η β κ)} {response response' : Response η β κ}
variable {answer answer' : Except Error Answer}

/-! ## A run with a callback and without one -/

/-- How a run with a callback and the same run without one stand above the code that opened them. -/
inductive Beside (run : Nat) (below : List (Call κ)) :
    Processor η β κ → Response η β κ → Processor η β κ → Response η β κ → Prop where
  /-- They have no results, and the code in control has been told the same. -/
  | going {p : Processor η β κ} {response : Response η β κ} (inside : run < p.dispatches.size)
      (unsettled : p.outcome run = none) (serves : p.Serves run below) :
      Beside run below p response (p.mute run) response
  /-- They have the same result. -/
  | settled {p q : Processor η β κ} {response response' : Response η β κ} (result : Except Error Ref)
      (outcome : p.outcome run = some result) (outcome' : q.outcome run = some result) :
      Beside run below p response q response'
  /-- Control is back with the code that opened them. -/
  | ended {p : Processor η β κ} {answer answer' : Except Error Answer} (inside : run < p.dispatches.size)
      (calls : p.calls = below) : Beside run below p (.reply answer) (p.mute run) (.reply answer')

/-- A request keeps the two runs beside each other. -/
theorem beside_serve (consistent : Consistent p stories reports) (reporting : p.Reporting)
    (inside : run < p.dispatches.size) (unsettled : p.outcome run = none) (serves : p.Serves run below)
    (request : Request η β κ) :
    Beside run below (p.serve request).1 (p.serve request).2 ((p.mute run).serve request).1
      ((p.mute run).serve request).2 := by
  have untold : ∀ origin, .report run origin ∉ p.calls := fun origin told => by
    have settled := reporting run origin told
    rw [unsettled] at settled
    cases settled
  have inside' : run < (p.serve request).1.dispatches.size := by
    have known : p.listener run = some p.dispatches[run].listener := by
      rw [Processor.listener, Array.getElem?_eq_getElem inside]
      rfl
    rcases Option.map_eq_some_iff.mp (listener_serve known request) with ⟨_, there, _⟩
    exact (Array.getElem?_eq_some_iff.mp there).1
  cases p.twin_serve inside untold request with
  | settled result outcome muted => exact .settled result outcome muted
  | same same =>
      rw [show (p.mute run).serve request = _ from same]
      cases outcome : (p.serve request).1.outcome run with
      | some result => exact .settled result outcome ((outcome_mute _).trans outcome)
      | none =>
          rcases serves.serve consistent request with serves | ⟨answer, replied, calls, _⟩
          · exact .going inside' outcome serves
          · rw [replied]
            exact .ended inside' calls
  | rests q step answer answer' top served muted =>
      rw [served] at inside' ⊢
      rw [muted]
      refine .ended inside' ?_
      rcases serves with ⟨own, opened, within⟩
      rcases List.suffix_cons_iff.mp (top ▸ within) with whole | inner
      · cases whole
        rfl
      · -- No other turn of the run is in progress, and its callback has not been called.
        have member := inner.mem List.mem_cons_self
        cases opened with
        | report => exact absurd (top ▸ List.mem_cons_of_mem _ member) (untold .opening)
        | turn other =>
            rcases consistent.of_top top with ⟨_, _, _, alone⟩
            have another : other ∈ turns run q.calls :=
              List.mem_filterMap.mpr ⟨_, member, if_pos rfl⟩
            rw [alone] at another
            cases another

/-- A run that has its result keeps it. -/
theorem Consistent.result_after (consistent : Consistent p stories reports) {result : Except Error Ref}
    (settled : p.outcome run = some result) (acts : List (Act η β κ)) :
    ∃ dispatch, (p.after acts).dispatches[run]? = some dispatch ∧ dispatch.run.result = result := by
  rcases Option.bind_eq_some_iff.mp (consistent.final settled acts).2.2.2 with ⟨dispatch, there, outcome⟩
  exact ⟨dispatch, there, result_of_settled outcome⟩

/-- If the same code is in control, a run comes to the same with a callback and without one. -/
theorem Beside.result_eq (beside : Beside run below p response q response')
    (consistent : Consistent p stories reports) (consistent' : Consistent q stories' reports')
    (reporting : p.Reporting) (back : Back below p response acts answer)
    (back' : Back below q response' acts' answer') (alike : Alike p response acts q response' acts') :
    ∃ dispatch dispatch', (p.after acts).dispatches[run]? = some dispatch ∧
      (q.after acts').dispatches[run]? = some dispatch' ∧
      dispatch'.run.result = dispatch.run.result := by
  induction back generalizing q response' acts' stories stories' reports reports' with
  | @here p answer calls =>
      cases beside with
      | going inside unsettled serves => exact absurd calls serves.ne
      | settled result outcome outcome' =>
          rcases consistent.result_after outcome [] with ⟨dispatch, there, result_eq⟩
          rcases consistent'.result_after outcome' acts' with ⟨dispatch', there', result_eq'⟩
          exact ⟨dispatch, dispatch', there, there', result_eq'.trans result_eq.symm⟩
      | ended inside =>
          cases back' with
          | inside away _ => exact absurd calls (away _ rfl)
          | here _ =>
              have there : p.dispatches[run]? = some p.dispatches[run] := Array.getElem?_eq_getElem inside
              refine ⟨p.dispatches[run], { p.dispatches[run] with listener := .caller }, there, ?_, rfl⟩
              exact (dispatch_mute_self p).trans (by rw [there]; rfl)
  | @inside p response act acts answer away rest inductionHypothesis =>
      cases beside with
      | settled result outcome outcome' =>
          rcases consistent.result_after outcome (act :: acts) with ⟨dispatch, there, result_eq⟩
          rcases consistent'.result_after outcome' acts' with ⟨dispatch', there', result_eq'⟩
          exact ⟨dispatch, dispatch', there, there', result_eq'.trans result_eq.symm⟩
      | ended inside calls => exact absurd calls (away _ rfl)
      | going inside unsettled serves =>
          cases back' with
          | here calls => exact absurd calls serves.ne
          | inside _ rest' =>
              cases alike with
              | apart different => exact absurd rfl different
              | act alike =>
                  have next : Beside run below (p.act act) (p.responds response act)
                      ((p.mute run).act act) ((p.mute run).responds response act) := by
                    cases act with
                    | edit store => exact .going inside unsettled serves
                    | define definition => exact .going inside unsettled serves
                    | request request =>
                        exact beside_serve consistent reporting inside unsettled serves request
                  have same := inductionHypothesis next (consistent.act act) (consistent'.act act)
                    (reporting.act consistent act) rest' alike
                  exact same

/-- The runs opened over a tree with a callback and without one stand beside each other. -/
theorem beside_dispatch (p : Processor η β κ) (tree : Ref) (callback : κ) :
    Beside p.dispatches.size p.calls (p.dispatch tree (.callback callback)).1
      (p.dispatch tree (.callback callback)).2 (p.dispatch tree .caller).1 (p.dispatch tree .caller).2 := by
  let state : Run η β Ref := initial p.attachments.registry.plugins tree
  let opened : Processor η β κ := { p with dispatches := p.dispatches.push ⟨state, .callback callback⟩ }
  have muted : { p with dispatches := p.dispatches.push ⟨state, .caller⟩ } =
      opened.mute p.dispatches.size := by
    simp only [opened, mute, mk.injEq, true_and, and_true]
    refine Array.ext_getElem? fun place => ?_
    simp only [Array.getElem?_push, Array.getElem?_modify]
    split <;> split <;> simp_all
  have inside : p.dispatches.size < (p.dispatch tree (.callback callback)).1.dispatches.size := by
    rcases Option.map_eq_some_iff.mp (listener_dispatch p tree (.callback callback)) with ⟨_, there, _⟩
    exact (Array.getElem?_eq_some_iff.mp there).1
  have served : p.dispatch tree .caller =
      (opened.mute p.dispatches.size).drive p.dispatches.size .opening advance := by
    rw [← muted]
    rfl
  rcases opened.drive_mute_cases p.dispatches.size .opening tells_advance with
    same | ⟨result, outcome, outcome'⟩ | ⟨_, q, answer, answer', kept, rests, rests'⟩
  · have same : p.dispatch tree .caller =
        ((p.dispatch tree (.callback callback)).1.mute p.dispatches.size,
          (p.dispatch tree (.callback callback)).2) := served.trans same
    rw [same]
    cases outcome : (p.dispatch tree (.callback callback)).1.outcome p.dispatches.size with
    | some result => exact .settled result outcome ((outcome_mute _).trans outcome)
    | none =>
        rcases p.serves_dispatch tree (.callback callback) with serves | ⟨answer, replied, calls⟩
        · exact .going inside outcome serves
        · rw [replied]
          exact .ended inside calls
  · rw [served]
    exact .settled result outcome outcome'
  · have rested : p.dispatch tree (.callback callback) = q.reply answer := rests
    rw [rested] at inside ⊢
    rw [served, rests']
    exact .ended inside kept

/-! ## A text is parsed for two purposes -/

/-- A parser in control gives back a syntax tree or an error, and does not return as a plugin does. -/
def Parses (p : Processor η β κ) (act : Act η β κ) (_ : List (Act η β κ)) : Prop :=
  ∀ purpose calls result, p.calls = .parser purpose :: calls → act ≠ .request (.returned result)

theorem serve_parsed {purpose : Purpose κ} (top : p.calls = .parser purpose :: below)
    (result : Except Error Cst) : p.serve (.parsed result) = (p.under below).build purpose result := by
  simp only [Processor.serve, top]
  rfl

/-- The parser is done with a text in two histories.  They have been the same up to then, with other code
above the parser, whatever the text has been parsed for. -/
structure Read (p : Processor η β κ) (above below : List (Call κ)) (purpose purpose' : Purpose κ)
    (acts acts' : List (Act η β κ)) (answer answer' : Except Error Answer) (inner : List (Act η β κ))
    (result : Except Error Cst) (later later' : List (Act η β κ)) : Prop where
  acts_eq : acts = inner ++ .request (.parsed result) :: later
  acts_eq' : acts' = inner ++ .request (.parsed result) :: later'
  calls : (p.after inner).calls = .parser purpose :: below
  steady : ∀ other, (p.under (above ++ other :: below)).after inner = (p.after inner).under (other :: below)
  back : Back below (((p.after inner).under below).build purpose result).1
    (((p.after inner).under below).build purpose result).2 later answer
  back' : Back below (((p.after inner).under below).build purpose' result).1
    (((p.after inner).under below).build purpose' result).2 later' answer'
  alike : Alike (((p.after inner).under below).build purpose result).1
    (((p.after inner).under below).build purpose result).2 later
    (((p.after inner).under below).build purpose' result).1
    (((p.after inner).under below).build purpose' result).2 later'

/-- A parser that has been asked for a text is done with it before control is back. -/
theorem Back.read {above : List (Call κ)} {purpose purpose' : Purpose κ}
    (back : Back below p response acts answer) (calls : p.calls = above ++ .parser purpose :: below)
    (parses : Throughout Parses p acts)
    (back' : Back below (p.under (above ++ .parser purpose' :: below)) response acts' answer')
    (alike : Alike p response acts (p.under (above ++ .parser purpose' :: below)) response acts') :
    ∃ inner result later later',
      Read p above below purpose purpose' acts acts' answer answer' inner result later later' := by
  have longer : ∀ (above : List (Call κ)) purpose, above ++ .parser purpose :: below ≠ below := by
    intro above purpose same
    have length := congrArg List.length same
    rw [List.length_append, List.length_cons] at length
    omega
  induction back generalizing above acts' with
  | here ended => exact absurd (calls.symm.trans ended) (longer _ purpose)
  | @inside p response act acts answer away rest inductionHypothesis =>
      cases back' with
      | here ended => exact absurd ended (longer _ purpose')
      | inside _ rest' =>
          cases alike with
          | apart different => exact absurd rfl different
          | act alike =>
              have parserDone : (above = [] → ∀ request, act = .request request → request.returns = false) ∨
                  above = [] ∧ ∃ result, act = .request (.parsed result) := by
                cases above with
                | cons call above => exact Or.inl fun impossible => by cases impossible
                | nil =>
                    rcases act with request | store | definition
                    · cases request with
                      | parsed result => exact Or.inr ⟨rfl, result, rfl⟩
                      | returned result => exact absurd rfl (parses.1 purpose below result calls)
                      | _ => exact Or.inl fun _ _ same => by cases same; rfl
                    · exact Or.inl fun _ _ impossible => by cases impossible
                    · exact Or.inl fun _ _ impossible => by cases impossible
              rcases parserDone with busy | ⟨rfl, result, rfl⟩
              · rcases act_above calls response busy with ⟨pushed, calls', others⟩
                rw [(others _).1, (others _).2] at rest' alike
                rcases inductionHypothesis calls' parses.2 rest' alike with
                  ⟨inner, result, later, later', read⟩
                refine ⟨act :: inner, result, later, later', congrArg (act :: ·) read.acts_eq,
                  congrArg (act :: ·) read.acts_eq', read.calls, fun other => ?_, read.back, read.back',
                  read.alike⟩
                refine Eq.trans ?_ (read.steady other)
                exact congrArg (fun q => Processor.after q inner) (others other).1
              · have served := serve_parsed calls result
                have served' := serve_parsed (p := p.under (.parser purpose' :: below)) rfl result
                rw [responds, Processor.act, served] at rest alike
                rw [responds, Processor.act, List.nil_append, served'] at rest' alike
                exact ⟨[], result, acts, _, rfl, rfl, calls, fun _ => rfl, rest, rest', alike⟩

end

end Processor
end Prose
