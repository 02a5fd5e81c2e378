import Prose.Proofs.Processor.Alike
import Prose.Proofs.Processor.Callbacks

namespace Prose

/-!
# Entry points

A text can be parsed for a callback, or be processed for the code that asks.  Both ways hand the text to the
parser, build the same tree and open a run of the same plugins, so the code that they put in control is told
the same until the run has its result or rests.  What the parser or the builder refuses is answered at once
and forgets the callback; afterwards a failure is one of a plugin, and the callback is told it.
-/

/-- Who gets the result of the run over a text, if a run is opened over it. -/
def Purpose.listener {κ : Type} : Purpose κ → Option (Listener κ)
  | .build => none
  | .parse callback => some (.callback callback)
  | .process => some .caller

namespace Processor

open Story Run

variable {η β κ : Type}

section

variable {p : Processor η β κ} {below : List (Call κ)} {acts : List (Act η β κ)}
variable {answer : Except Error Answer}

/-! ## A text is built -/

/-- A text that the parser or the builder refuses is answered with the error, whatever it was parsed for. -/
theorem build_of_error {result : Except Error Cst} {error : Error}
    (failed : result.bind (Tree.ofCst p.model) = .error error) (calls : List (Call κ))
    (purpose : Purpose κ) :
    (p.under calls).build purpose result = (p.under calls).reply (.error error) := by
  simp only [build, under, failed]

def planted (p : Processor η β κ) (tree : Tree) : Processor η β κ :=
  { p with store := (p.store.plant tree).1 }

/-- A run is opened over a text of which a tree has been built. -/
theorem build_of_ok (purpose : Purpose κ) {result : Except Error Cst} {tree : Tree} {listener : Listener κ}
    (built : result.bind (Tree.ofCst p.model) = .ok tree) (listens : purpose.listener = some listener)
    (calls : List (Call κ)) :
    (p.under calls).build purpose result =
      ((p.under calls).planted tree).dispatch (p.store.plant tree).2 listener := by
  simp only [build, under, built]
  cases purpose with
  | build => cases listens
  | parse callback => cases listens; rfl
  | process => cases listens; rfl

theorem opens_parsed {result : Except Error Cst} {tree : Tree} {purpose : Purpose κ}
    {listener : Listener κ} (top : p.calls = .parser purpose :: below)
    (built : result.bind (Tree.ofCst p.model) = .ok tree) (listens : purpose.listener = some listener) :
    p.opens (.parsed result) = some (p.store.plant tree).2 := by
  cases purpose with
  | build => cases listens
  | parse callback => simp only [opens, top, built]
  | process => simp only [opens, top, built]

/-- The code that asked for a text to be parsed is answered when the run over the text rests. -/
theorem come_of_parsed (model : Model) (store : Store) (attachments : Attachments η β)
    {before : List (Act η β κ)} {purpose : Purpose κ} {listener : Listener κ} {result : Except Error Cst}
    {tree : Tree} (start : p = (fresh model store attachments).after before)
    (top : p.calls = .parser purpose :: below) (built : result.bind (Tree.ofCst p.model) = .ok tree)
    (listens : purpose.listener = some listener)
    (back : Back below ((p.under below).build purpose result).1 ((p.under below).build purpose result).2
      acts answer) :
    ∃ dispatch, (p.after (.request (.parsed result) :: acts)).dispatches[p.dispatches.size]? =
        some dispatch ∧
      dispatch.listener = listener ∧ answer = dispatch.answer ∧
      (fresh model store attachments).Come (before ++ .request (.parsed result) :: acts)
        p.dispatches.size dispatch := by
  have consistent := consistent_after model store attachments before
  rw [← start] at consistent
  let b := (p.under below).planted tree
  have served : p.serve (.parsed result) = b.dispatch (p.store.plant tree).2 listener :=
    (serve_parsed top result).trans (build_of_ok purpose built listens below)
  rw [← serve_parsed top result] at back
  have goes := b.serves_dispatch (p.store.plant tree).2 listener
  rw [← served] at goes
  rcases Back.of_opens consistent (opens_parsed top built listens) goes back with
    ⟨inner, last, split, closes, response⟩
  have ended : (before ++ inner) ++ [.request last] = before ++ .request (.parsed result) :: acts := by
    rw [List.append_assoc, ← split]
  have state : (fresh model store attachments).after (before ++ inner) = p.after inner := by
    rw [after_append, ← start]
  rcases (rests_after model store attachments (before ++ inner)).closed last p.dispatches.size answer
    (state ▸ closes) (state ▸ response) with ⟨dispatch, there, come, answered⟩
  have there' : (p.after (.request (.parsed result) :: acts)).dispatches[p.dispatches.size]? =
      some dispatch := by
    rw [split, after_append]
    rw [state] at there
    exact there
  have listened := listener_dispatch b (p.store.plant tree).2 listener
  rw [← served] at listened
  have known := listener_after listened acts
  refine ⟨dispatch, there', ?_, answered, ended ▸ come⟩
  have same : (p.after (.request (.parsed result) :: acts)).listener p.dispatches.size = some listener :=
    known
  rw [Processor.listener, there'] at same
  exact Option.some.inj same

end

/-! ## What the entry points come to -/

/-- A history that goes on with a request and what is done after it. -/
def asked (history : List (Act η β κ)) (request : Request η β κ) (acts : List (Act η β κ)) :
    List (Act η β κ) := history ++ .request request :: acts

theorem asked_append (history : List (Act η β κ)) (request : Request η β κ) (acts more : List (Act η β κ)) :
    asked history request (acts ++ more) = asked history request acts ++ more := by
  simp only [asked, List.append_assoc, List.cons_append]

/-- A request is made, and the code that made it gets control back with an answer. -/
def Gets (p : Processor η β κ) (request : Request η β κ) (acts : List (Act η β κ))
    (answer : Except Error Answer) : Prop :=
  Back p.calls (p.serve request).1 (p.serve request).2 acts answer

/-- A text has been asked for after a history, and the parser gives back a result, from which a tree is
built or not. -/
structure Reads (p : Processor η β κ) (history : List (Act η β κ)) (request : Request η β κ)
    (purpose : Purpose κ) (inner : List (Act η β κ)) (result : Except Error Cst)
    (built : Except Error Tree) : Prop where
  calls : (p.after (asked history request inner)).calls = .parser purpose :: (p.after history).calls
  built_eq : result.bind (Tree.ofCst (p.after (asked history request inner)).model) = built

/-- A text of which no tree can be built is refused by all entry points alike. -/
structure Refused (p : Processor η β κ) (history : List (Act η β κ)) (text : String) (callback : κ)
    (acts acts' : List (Act η β κ)) (answer answer' : Except Error Answer) (inner : List (Act η β κ))
    (result : Except Error Cst) (error : Error) : Prop where
  parsed : p.Reads history (.parse text (some callback)) (.parse callback) inner result (.error error)
  processed : p.Reads history (.process text) .process inner result (.error error)
  /-- Control is back when the parser is done. -/
  acts_eq : acts = inner ++ [.request (.parsed result)]
  acts_eq' : acts' = acts
  answers : answer = .error error ∧ answer' = .error error
  /-- No run is opened, and no plugin is started. -/
  silent : ∀ run, (p.after (asked history (.parse text (some callback)) inner)).events run
    (.request (.parsed result)) = []
  /-- The processor is left as if the text had only been built. -/
  left : p.after (asked history (.parse text (some callback)) acts) =
    p.after (asked history (.build text) acts)
  left' : p.after (asked history (.process text) acts) = p.after (asked history (.build text) acts)
  /-- A callback that is not given to the processor otherwise is never called. -/
  never : ∀ later run value, (∀ act ∈ history ++ acts ++ later, act.given ≠ some callback) →
    (callback, value) ∉ p.reports run (asked history (.parse text (some callback)) (acts ++ later))

/-- A text of which a tree is built is run through the plugins by all entry points alike. -/
structure Ran (p : Processor η β κ) (history : List (Act η β κ)) (text : String) (callback : κ)
    (acts : List (Act η β κ)) (answer answer' : Except Error Answer) (inner : List (Act η β κ))
    (result : Except Error Cst) (tree : Tree) (run : Nat) : Prop where
  parsed : p.Reads history (.parse text (some callback)) (.parse callback) inner result (.ok tree)
  processed : p.Reads history (.process text) .process inner result (.ok tree)
  run_eq : (p.after (asked history (.parse text (some callback)) inner)).dispatches.size = run
  answer_eq : answer = .ok .done
  /-- What the callback has been told is what the code that processes the text gets; if it has been told
  nothing, that code gets the name of the plugin that the run waits for. -/
  answer_eq' : (∃ value, p.reports run (asked history (.parse text (some callback)) acts) =
      [(callback, value)] ∧ answer' = value.map .tree) ∨
    ∃ dispatch plugin,
      (p.after (asked history (.parse text (some callback)) acts)).dispatches[run]? = some dispatch ∧
      p.Waits (asked history (.parse text (some callback)) acts) run dispatch.run plugin ∧
      p.reports run (asked history (.parse text (some callback)) acts) = [] ∧
      answer' = .error (.suspended plugin.name)

/-- What becomes of a text that is parsed for a callback and that is processed, in the same state and with
the same code in control. -/
inductive Agrees (p : Processor η β κ) (history : List (Act η β κ)) (text : String) (callback : κ)
    (acts acts' : List (Act η β κ)) (answer answer' : Except Error Answer) : Prop where
  | refused (inner : List (Act η β κ)) (result : Except Error Cst) (error : Error)
      (refused : p.Refused history text callback acts acts' answer answer' inner result error)
  | ran (inner : List (Act η β κ)) (result : Except Error Cst) (tree : Tree) (run : Nat)
      (ran : p.Ran history text callback acts answer answer' inner result tree run)

/-- The entry points of a processor after a history. -/
structure EntryPoints (p : Processor η β κ) (history : List (Act η β κ)) : Prop where
  /-- Without a callback nothing is parsed and nothing is run. -/
  parse_none : ∀ text, (p.after history).Refuses (.parse text none) (.invalidCallback "parse")
  run_none : ∀ tree, (p.after history).Refuses (.run tree none) (.invalidCallback "run")
  /-- Whoever asked for a text gets the error of the parser or the builder at once. -/
  refuse : ∀ purpose calls result error, (p.after history).calls = .parser purpose :: calls →
    result.bind (Tree.ofCst (p.after history).model) = .error error →
      (p.after history).serve (.parsed result) = ((p.after history).under calls, .reply (.error error))
  agree : ∀ text callback acts acts' answer answer',
    (p.after history).Gets (.parse text (some callback)) acts answer →
    (p.after history).Gets (.process text) acts' answer' →
    Throughout Parses ((p.after history).act (.request (.parse text (some callback)))) acts →
    Alike ((p.after history).act (.request (.parse text (some callback)))) (.parser text) acts
      ((p.after history).act (.request (.process text))) (.parser text) acts' →
    p.Agrees history text callback acts acts' answer answer'
  /-- An error that a callback is told is one of a plugin of its run, in the step that it has failed in. -/
  errors : ∀ run callback error, (callback, .error error) ∈ p.reports run history →
    ∃ step plugin, (snapshot (p.story run history))[step]? = some plugin ∧
      verdict (p.story run history) step plugin = some (.fail error)

section

variable {model : Model} {store : Store} {attachments : Attachments η β} {p : Processor η β κ}
variable {history acts acts' inner later later' : List (Act η β κ)} {text : String} {callback : κ}
variable {answer answer' : Except Error Answer} {result : Except Error Cst}

/-- A callback that has been called is known. -/
theorem knows_of_reported {run : Nat} {value : Except Error Ref}
    (called : (callback, value) ∈ (fresh model store attachments).reports run acts) :
    ((fresh model store attachments : Processor η β κ).after acts).Knows callback := by
  rcases (consistent_after model store attachments acts).listener_of_reported called with
    ⟨dispatch, there, listener, _⟩
  refine Or.inl ⟨run, ?_⟩
  rw [Processor.listener, there, ← listener]
  rfl

/-- The parser is done with a text in two histories that begin with a request for it. -/
abbrev ReadBoth (p : Processor η β κ) (callback : κ) :=
  Read (p.under (.parser (.parse callback) :: p.calls)) [] p.calls (.parse callback) .process

theorem after_parse (p : Processor η β κ) (history inner : List (Act η β κ)) (text : String) (callback : κ) :
    Processor.after ((p.after history).under (.parser (.parse callback) :: (p.after history).calls)) inner =
      p.after (asked history (.parse text (some callback)) inner) := by
  rw [asked, after_append]
  rfl

/-- The state in which the parser is done with a text, whatever the text is parsed for. -/
theorem after_asked (request : Request η β κ) {purpose : Purpose κ}
    (read : (p.after history).ReadBoth callback acts acts' answer answer' inner result later later')
    (reads : (p.after history).serve request = (p.after history).read text purpose) :
    p.after (asked history request inner) =
      (p.after (asked history (.parse text (some callback)) inner)).under
        (.parser purpose :: (p.after history).calls) := by
  have steady := read.steady (.parser purpose)
  rw [asked, asked, after_append, after_append]
  refine Eq.trans ?_ steady
  exact congrArg (fun served => Processor.after served.1 inner) reads

theorem reads_of_read (request : Request η β κ) {purpose : Purpose κ}
    (read : (p.after history).ReadBoth callback acts acts' answer answer' inner result later later')
    (reads : (p.after history).serve request = (p.after history).read text purpose) {built : Except Error Tree}
    (built_eq : result.bind (Tree.ofCst (p.after (asked history (.parse text (some callback)) inner)).model) =
      built) :
    p.Reads history request purpose inner result built := by
  constructor
  · rw [after_asked request read reads]
    rfl
  · rw [after_asked request read reads]
    exact built_eq

/-- A request that is answered by a reply and leaves the runs alone is an event of none of them. -/
theorem events_of_reply {request : Request η β κ} {q : Processor η β κ} {answer : Except Error Answer}
    (served : p.serve request = q.reply answer) (dispatches : q.dispatches = p.dispatches)
    (unheard : ∀ run, p.heard request run = []) (run : Nat) : p.events run (.request request) = [] := by
  rw [events, unheard, served, reply, settles_of_eq (outcome_of_dispatches (by rw [dispatches]))]
  rfl

/-- What is left of a request for a text of which no tree can be built. -/
theorem after_refused (request : Request η β κ) {purpose : Purpose κ} {error : Error}
    (read : (p.after history).ReadBoth callback acts acts' answer answer' inner result later later')
    (failed : result.bind (Tree.ofCst (p.after (asked history (.parse text (some callback)) inner)).model) =
      .error error)
    (reads : (p.after history).serve request = (p.after history).read text purpose) :
    p.after (asked history request (inner ++ [.request (.parsed result)])) =
      (p.after (asked history (.parse text (some callback)) inner)).under (p.after history).calls := by
  rw [asked_append, after_append, after_asked request read reads]
  have served := serve_parsed (p := (p.after (asked history (.parse text (some callback)) inner)).under
    (.parser purpose :: (p.after history).calls)) rfl result
  exact congrArg Prod.fst (served.trans (build_of_error failed (p.after history).calls purpose))

/-- An error of the parser or the builder is the answer of all entry points. -/
theorem refused_of_error {error : Error}
    (read : (p.after history).ReadBoth callback acts acts' answer answer' inner result later later')
    (start : p = fresh model store attachments)
    (failed : result.bind (Tree.ofCst (p.after (asked history (.parse text (some callback)) inner)).model) =
      .error error) :
    p.Refused history text callback acts acts' answer answer' inner result error := by
  have parsed := reads_of_read (.parse text (some callback)) read rfl failed
  have processed := reads_of_read (.process text) read rfl failed
  have left := after_refused (.parse text (some callback)) read failed rfl
  have left' := after_refused (.process text) read failed rfl
  have built := after_refused (.build text) read failed rfl
  have parser_eq := p.after_parse history inner text callback
  rcases read with ⟨rfl, rfl, _, _, back, back', _⟩
  rw [parser_eq, build_of_error failed] at back back'
  cases back with
  | inside away _ => exact absurd rfl (away _ rfl)
  | here _ =>
      cases back' with
      | inside away _ => exact absurd rfl (away _ rfl)
      | here _ =>
          refine ⟨parsed, processed, rfl, rfl, ⟨rfl, rfl⟩, ?_, left.trans built.symm,
            left'.trans built.symm, ?_⟩
          · have served := serve_parsed parsed.calls result
            rw [build_of_error failed] at served
            refine events_of_reply served rfl (heard_of_opens_none ?_ (fun _ _ => by simp) fun _ => by simp)
            simp only [opens, parsed.calls, failed]
          · intro more run value fresh called
            -- The processor is the one that has been asked for the text without the callback.
            have same : p.after (asked history (.parse text (some callback))
                (inner ++ [.request (.parsed result)] ++ more)) =
                  p.after (asked history (.build text) (inner ++ [.request (.parsed result)]) ++ more) := by
              rw [asked_append, after_append, after_append, left, built]
            subst start
            have knows := knows_of_reported called
            rw [same] at knows
            rcases knows_after knows with (⟨_, listener⟩ | impossible) | ⟨act, member, given⟩
            · cases listener
            · cases impossible
            · refine fresh act ?_ given
              simp only [asked, List.mem_append, List.mem_cons] at member ⊢
              rcases member with (before | rfl | inside) | after
              · exact Or.inl (Or.inl before)
              · cases given
              · exact Or.inl (Or.inr inside)
              · exact Or.inr after

/-- The runs over a text come to the same with the callback and without it. -/
theorem result_eq_of_read {tree : Tree}
    (read : (p.after history).ReadBoth callback acts acts' answer answer' inner result later later')
    (start : p = fresh model store attachments)
    (built : result.bind (Tree.ofCst (p.after (asked history (.parse text (some callback)) inner)).model) =
      .ok tree) :
    ∃ dispatch dispatch',
      (p.after (asked history (.parse text (some callback)) acts)).dispatches[
        (p.after (asked history (.parse text (some callback)) inner)).dispatches.size]? = some dispatch ∧
      (p.after (asked history (.process text) acts')).dispatches[
        (p.after (asked history (.parse text (some callback)) inner)).dispatches.size]? = some dispatch' ∧
      dispatch'.run.result = dispatch.run.result := by
  have consistent : ∀ acts : List (Act η β κ), ∃ stories reports, Consistent (p.after acts) stories reports :=
    fun acts => start ▸ ⟨_, _, consistent_after model store attachments acts⟩
  have reporting : ∀ acts : List (Act η β κ), (p.after acts).Reporting := fun acts =>
    start ▸ Reporting.after (fun run origin member => by cases member)
      (consistent_fresh model store attachments) acts
  have parsed := reads_of_read (.parse text (some callback)) read rfl built
  have processed := reads_of_read (.process text) read rfl built
  have processor_eq : p.after (asked history (.process text) inner) =
      (p.after (asked history (.parse text (some callback)) inner)).under
        (.parser .process :: (p.after history).calls) := after_asked (.process text) read rfl
  have parser_eq := p.after_parse history inner text callback
  rcases read with ⟨rfl, rfl, _, _, back, back', alike⟩
  rw [parser_eq] at back back' alike
  have served := serve_parsed parsed.calls result
  have served' : (p.after (asked history (.process text) inner)).serve (.parsed result) =
      ((p.after (asked history (.parse text (some callback)) inner)).under (p.after history).calls).build
        .process result :=
    (serve_parsed processed.calls result).trans (by rw [processor_eq]; rfl)
  have beside : Beside (p.after (asked history (.parse text (some callback)) inner)).dispatches.size
      (p.after history).calls
      ((p.after (asked history (.parse text (some callback)) inner)).serve (.parsed result)).1
      ((p.after (asked history (.parse text (some callback)) inner)).serve (.parsed result)).2
      ((p.after (asked history (.process text) inner)).serve (.parsed result)).1
      ((p.after (asked history (.process text) inner)).serve (.parsed result)).2 := by
    have opened := build_of_ok (.parse callback) built rfl (p.after history).calls
    have opened' := build_of_ok .process built rfl (p.after history).calls
    rw [served, served', opened, opened']
    exact beside_dispatch (((p.after (asked history (.parse text (some callback)) inner)).under
      (p.after history).calls).planted tree) _ callback
  rw [← served] at back alike
  rw [← served'] at back' alike
  rcases consistent (asked history (.parse text (some callback)) inner) with ⟨_, _, parser⟩
  rcases consistent (asked history (.process text) inner) with ⟨_, _, processor⟩
  have same := beside.result_eq (parser.act (.request (.parsed result)))
    (processor.act (.request (.parsed result))) ((reporting _).act parser (.request (.parsed result))) back
    back' alike
  rw [asked_append, asked_append, after_append, after_append]
  exact same

/-- A run over a text is answered with its result, or its callback is told. -/
theorem ran_of_ok {tree : Tree}
    (read : (p.after history).ReadBoth callback acts acts' answer answer' inner result later later')
    (start : p = fresh model store attachments)
    (built : result.bind (Tree.ofCst (p.after (asked history (.parse text (some callback)) inner)).model) =
      .ok tree) :
    p.Ran history text callback acts answer answer' inner result tree
      (p.after (asked history (.parse text (some callback)) inner)).dispatches.size := by
  have parsed := reads_of_read (.parse text (some callback)) read rfl built
  have processed := reads_of_read (.process text) read rfl built
  have processor_eq : p.after (asked history (.process text) inner) =
      (p.after (asked history (.parse text (some callback)) inner)).under
        (.parser .process :: (p.after history).calls) := after_asked (.process text) read rfl
  rcases result_eq_of_read read start built with ⟨dispatch, dispatch', there, there', result_eq⟩
  have parser_eq := p.after_parse history inner text callback
  rcases read with ⟨rfl, rfl, _, _, back, back', _⟩
  rw [parser_eq] at back back'
  have back_process : Back (p.after history).calls
      (((p.after (asked history (.process text) inner)).under (p.after history).calls).build .process result).1
      (((p.after (asked history (.process text) inner)).under (p.after history).calls).build .process result).2
      later' answer' := by
    rw [processor_eq]
    exact back'
  subst start
  rcases come_of_parsed model store attachments rfl parsed.calls parsed.built_eq rfl back with
    ⟨told, inside, listener, answer_eq, come⟩
  rcases come_of_parsed model store attachments rfl processed.calls processed.built_eq rfl back_process with
    ⟨given, inside', listener', answer_eq', _⟩
  rw [← after_append, ← asked_append] at inside inside'
  rw [← asked_append] at come
  rw [processor_eq] at inside'
  cases there.symm.trans inside
  cases there'.symm.trans inside'
  rcases dispatch with ⟨run, _⟩
  rcases dispatch' with ⟨run', _⟩
  cases listener
  cases listener'
  refine ⟨parsed, processed, rfl, answer_eq, ?_⟩
  have answered : answer' = run.result.map .tree := answer_eq'.trans (congrArg (Except.map Answer.tree) result_eq)
  cases come with
  | settled value _ _ reported _ given_eq =>
      exact Or.inl ⟨value, reported, answered.trans (congrArg (Except.map Answer.tree) given_eq)⟩
  | waiting plugin waits _ reported _ given_eq =>
      exact Or.inr ⟨_, plugin, there, waits, reported, answered.trans (congrArg (Except.map Answer.tree) given_eq)⟩

/-- A text is treated alike by the entry points for it. -/
theorem agrees_of_alike (start : p = fresh model store attachments)
    (gets : (p.after history).Gets (.parse text (some callback)) acts answer)
    (gets' : (p.after history).Gets (.process text) acts' answer')
    (parses : Throughout Parses ((p.after history).act (.request (.parse text (some callback)))) acts)
    (alike : Alike ((p.after history).act (.request (.parse text (some callback)))) (.parser text) acts
      ((p.after history).act (.request (.process text))) (.parser text) acts') :
    p.Agrees history text callback acts acts' answer answer' := by
  have top : ((p.after history).under (.parser (.parse callback) :: (p.after history).calls)).calls =
      [] ++ .parser (.parse callback) :: (p.after history).calls := rfl
  rcases Back.read gets top parses gets' alike with ⟨inner, result, later, later', read⟩
  cases built : result.bind (Tree.ofCst
    (p.after (asked history (.parse text (some callback)) inner)).model) with
  | error error => exact .refused inner result error (refused_of_error read start built)
  | ok tree => exact .ran inner result tree _ (ran_of_ok read start built)

end

/-- After every history, the entry points of a processor agree. -/
theorem entryPoints_after (model : Model) (store : Store) (attachments : Attachments η β)
    (history : List (Act η β κ)) : EntryPoints (fresh model store attachments) history := by
  constructor
  case parse_none => exact fun text => refuses_of_served rfl
  case run_none => exact fun tree => refuses_of_served rfl
  case refuse =>
    intro purpose calls result error top failed
    exact (serve_parsed top result).trans (build_of_error failed calls purpose)
  case agree =>
    intro text callback acts acts' answer answer' gets gets' parses alike
    exact agrees_of_alike rfl gets gets' parses alike
  case errors =>
    intro run callback error called
    have consistent := consistent_after model store attachments history
    rcases consistent.listener_of_reported called with ⟨dispatch, there, _, member⟩
    rcases consistent.accords run dispatch there with ⟨plugins, tree, later, _, accords⟩
    rw [accords.results_eq, Option.mem_toList] at member
    rcases accords.verdict_of_error member with ⟨plugin, here, failed⟩
    rw [consistent.snapshot_eq there]
    exact ⟨_, plugin, here, failed⟩

/-! ### A plugin that waits for nobody -/

def rooted : Processor Unit Unit Unit := fresh ⟨[⟨"RootNode", .parent⟩]⟩ Store.empty (.empty .empty)

/-- The parser gives back a root without children. -/
def rootParsed : Act Unit Unit Unit := .request (.parsed (.ok (.parent "RootNode" [])))

def returnsOk : Act Unit Unit Unit := .request (.returned (.ok ()))

/-- The callback is told the tree that the code that processes the text gets. -/
theorem entryPoints_after_prompt :
    rooted.Agrees [.request (.attach prompt)] "" () [rootParsed, returnsOk, returnsOk]
        [rootParsed, returnsOk] (.ok .done) (.ok (.tree 0)) ∧
      rooted.reports 0 (asked [.request (.attach prompt)] (.parse "" (some ()))
        [rootParsed, returnsOk, returnsOk]) = [((), .ok 0)] := by
  have parser : ∀ answer, (.parser "" : Response Unit Unit Unit) ≠ .reply answer :=
    fun _ same => by cases same
  have turn : ∀ answer, (.turn prompt 0 none : Response Unit Unit Unit) ≠ .reply answer :=
    fun _ same => by cases same
  have report : ∀ answer, (.report () (.ok 0) : Response Unit Unit Unit) ≠ .reply answer :=
    fun _ same => by cases same
  refine ⟨(entryPoints_after _ _ _ [.request (.attach prompt)]).agree "" () _ _ _ _ ?_ ?_ ?_ ?_, rfl⟩
  · refine .inside (fun answer same => absurd same (parser answer)) ?_
    refine .inside (fun answer same => absurd same (turn answer)) ?_
    refine .inside (fun answer same => absurd same (report answer)) ?_
    exact .here rfl
  · refine .inside (fun answer same => absurd same (parser answer)) ?_
    refine .inside (fun answer same => absurd same (turn answer)) ?_
    exact .here rfl
  · refine ⟨fun _ _ _ _ same => ?_, fun _ calls _ top => ?_, fun _ calls _ top => ?_, trivial⟩
    · cases same
    · cases top
    · cases top
  · refine .act (.act (.apart ?_))
    exact fun same => report _ same

end Processor
end Prose
