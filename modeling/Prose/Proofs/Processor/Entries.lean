import Prose.Proofs.Plugin.Entries
import Prose.Proofs.Processor.Attaching

namespace Prose
namespace Processor

/-!
# References that fail

A reference to a plugin that the catalog does not make is refused in every state that a processor can be
in.  The catalog is asked before anything is written, and a name that has been resolved is one for which
it made a plugin, so a refused request leaves the processor as it was.

A configuration is applied by asking for one entry after the other until one fails.  Between a request and
its answer any code may act, as hooks are arbitrary code: `Back` says when control is back with the code
that asked, by the calls in progress.  As long as the hook of a plugin runs, its call stays below all
others, and control comes back when it returns.  So an entry that fails was refused, or its plugin has
been registered and its hook has returned the error.
-/

open Attachments (Hooked)

variable {η β κ : Type} {p : Processor η β κ} {entry : Entry} {entries : List Entry}
  {acts : List (Act η β κ)} {error : Error}

/-! ## Requests that are refused -/

/-- A request is answered with an error.  It changes nothing and starts no hook. -/
structure Refuses (p : Processor η β κ) (request : Request η β κ) (error : Error) : Prop where
  served : p.serve request = (p, .reply (.error error))
  hook : p.hooked (.request request) = none

theorem refuses_of_served {request : Request η β κ}
    (served : p.serve request = (p, .reply (.error error))) : p.Refuses request error where
  served := served
  hook := by rw [hooked, served]; rfl

theorem known_attach {plugin : Plugin η β} (known : p.attachments.Known) :
    (p.attach plugin).1.attachments.Known := by
  rw [Attachments.Known, (attach_eq p plugin).1]
  exact known

/-- Only resolving a name writes a name, and it writes one for which the catalog made a plugin. -/
theorem known_act (known : p.attachments.Known) (act : Act η β κ) : (p.act act).attachments.Known := by
  cases act with
  | edit store => exact known
  | define definition => exact known
  | request request =>
      cases asked : asksForPlugin request with
      | false =>
          rw [Processor.act, (attachments_serve_of_other p asked).1]
          exact known
      | true =>
          cases request with
          | attach plugin => exact known_attach known
          | attachNamed name =>
              rw [Processor.act, serve, attachNamed]
              cases resolved : p.attachments.resolve name with
              | error error => exact known
              | ok pair =>
                  have later := known.resolve resolved
                  dsimp only
                  split
                  · exact known_attach later
                  · exact later
          | attachNew name options =>
              rw [Processor.act, serve, attachNew, Attachments.create]
              cases created : p.attachments.catalog.create name options with
              | error error => exact known
              | ok definition =>
                  dsimp only [Except.map]
                  exact known_attach known
          | _ => cases asked

theorem known_after (known : p.attachments.Known) (acts : List (Act η β κ)) :
    (p.after acts).attachments.Known := by
  induction acts generalizing p with
  | nil => exact known
  | cons act rest inductionHypothesis => exact inductionHypothesis (known_act known act)

/-- A name for which the catalog makes nothing is refused. -/
theorem refuses_attachNamed (known : p.attachments.Known) {name : String}
    (failed : p.attachments.catalog.createDefault name = .error error) :
    p.Refuses (.attachNamed name) error :=
  refuses_of_served (by rw [serve, attachNamed, known.resolve_error failed]; rfl)

/-- Options that a factory does not accept are refused. -/
theorem refuses_attachNew {name : String} {options : Json.Fields}
    (failed : p.attachments.catalog.create name options = .error error) :
    p.Refuses (.attachNew name options) error :=
  refuses_of_served (by rw [serve, attachNew, Attachments.create, failed]; rfl)

theorem refuses_entry (known : p.attachments.Known)
    (failed : entry.madeBy p.attachments.catalog = .error error) : p.Refuses entry.request error := by
  rw [Entry.madeBy] at failed
  rw [Entry.request]
  cases options : entry.options with
  | some options =>
      rw [options] at failed
      exact refuses_attachNew failed
  | none =>
      rw [options] at failed
      exact refuses_attachNamed known failed

/-! ## Calls in progress -/

/-- A response that lasts until somebody makes a request. -/
def responds (p : Processor η β κ) (last : Response η β κ) : Act η β κ → Response η β κ
  | .request request => (p.serve request).2
  | _ => last

/-- Control is back with the code that made a request, with an answer: the calls in progress are those
below that code again.  Until then other code acts. -/
inductive Back (below : List (Call κ)) :
    Processor η β κ → Response η β κ → List (Act η β κ) → Except Error Answer → Prop where
  | here {p : Processor η β κ} {answer : Except Error Answer} (calls : p.calls = below) :
      Back below p (.reply answer) [] answer
  | inside {p : Processor η β κ} {response : Response η β κ} {act : Act η β κ}
      {acts : List (Act η β κ)} {answer : Except Error Answer}
      (away : ∀ answer, response = .reply answer → p.calls ≠ below)
      (rest : Back below (p.act act) (p.responds response act) acts answer) :
      Back below p response (act :: acts) answer

/-- The request for the plugin of an entry is made and answered, and this is all that happens. -/
inductive Uses (p : Processor η β κ) (entry : Entry) : List (Act η β κ) → Except Error Answer → Prop where
  | intro {acts : List (Act η β κ)} {answer : Except Error Answer}
      (back : Back p.calls (p.serve entry.request).1 (p.serve entry.request).2 acts answer) :
      Uses p entry (.request entry.request :: acts) answer

/-- A configuration is applied: its entries are asked for in order, up to the first that fails. -/
inductive Applies :
    Processor η β κ → List Entry → List (Act η β κ) → Except Error Unit → Prop where
  | done {p : Processor η β κ} : Applies p [] [] (.ok ())
  | next {p : Processor η β κ} {entry : Entry} {entries : List Entry} {first acts : List (Act η β κ)}
      {answer : Answer} {result : Except Error Unit} (used : p.Uses entry first (.ok answer))
      (rest : Applies (p.after first) entries acts result) :
      Applies p (entry :: entries) (first ++ acts) result
  | failed {p : Processor η β κ} {entry : Entry} {entries : List Entry} {acts : List (Act η β κ)}
      {error : Error} (used : p.Uses entry acts (.error error)) :
      Applies p (entry :: entries) acts (.error error)

section

variable {below : List (Call κ)} {run : Nat} {origin : Origin}

theorem suffix_perform {effect : Effect η β Ref} (same : p.calls = below) :
    below <:+ (p.perform run origin effect).1.calls := by
  rcases p.perform_cases run origin effect with
    ⟨_, _, _, _, performed⟩ | ⟨_, _, _, _, performed⟩ | ⟨_, _, _, performed⟩
  · rw [performed, ← same]
    exact List.suffix_cons _ _
  · rw [performed, ← same]
    exact List.suffix_cons _ _
  · rw [performed, ← same]
    exact List.suffix_refl _

theorem suffix_drive {move : Run η β Ref → Run η β Ref × Effect η β Ref} (same : p.calls = below) :
    below <:+ (p.drive run origin move).1.calls := by
  cases there : p.dispatches[run]? with
  | none =>
      rw [drive, there, ← same]
      exact List.suffix_refl _
  | some dispatch =>
      rw [drive_eq there]
      exact suffix_perform same

theorem suffix_dispatch {tree : Ref} {listener : Listener κ} (same : p.calls = below) :
    below <:+ (p.dispatch tree listener).1.calls := by
  rw [dispatch]
  exact suffix_drive same

theorem suffix_build {purpose : Purpose κ} {result : Except Error Cst} (same : p.calls = below) :
    below <:+ (p.build purpose result).1.calls := by
  unfold build
  split
  · exact same ▸ List.suffix_refl _
  · cases purpose with
    | build => exact same ▸ List.suffix_refl _
    | parse callback => exact suffix_dispatch same
    | process => exact suffix_dispatch same

end

/-- What is done with a plugin that is to be attached. -/
theorem attach_cases (p : Processor η β κ) (plugin : Plugin η β) :
    (∃ q, p.attach plugin = (q, .reply (.ok .done)) ∧ q.calls = p.calls) ∨
      (plugin.hasHook = true ∧ p.attachments.has plugin.id = false ∧
        p.attach plugin =
          ({ p with attachments := p.attachments.register plugin, calls := .hook :: p.calls },
            .hook plugin)) := by
  unfold attach
  cases present : p.attachments.has plugin.id with
  | true => exact Or.inl ⟨p, rfl, rfl⟩
  | false =>
      cases hook : plugin.hasHook with
      | true => exact Or.inr ⟨rfl, rfl, rfl⟩
      | false => exact Or.inl ⟨_, rfl, rfl⟩

theorem suffix_attach {below : List (Call κ)} {plugin : Plugin η β} (same : p.calls = below) :
    below <:+ (p.attach plugin).1.calls := by
  rcases attach_cases p plugin with ⟨q, attached, kept⟩ | ⟨_, _, attached⟩
  · rw [attached]
    exact kept.trans same ▸ List.suffix_refl q.calls
  · rw [attached, ← same]
    exact List.suffix_cons _ _

/-- Only code that returns takes a call away, and it is its own. -/
theorem suffix_serve (p : Processor η β κ) (request : Request η β κ) :
    p.calls <:+ (p.serve request).1.calls ∨
      ∃ call calls, p.calls = call :: calls ∧ calls <:+ (p.serve request).1.calls ∧
        ((∃ result, request = .returned result) ∨ ∃ purpose, call = .parser purpose) := by
  cases request with
  | build text => exact Or.inl (List.suffix_cons _ _)
  | process text => exact Or.inl (List.suffix_cons _ _)
  | parse text callback =>
      cases callback with
      | none => exact Or.inl (List.suffix_refl _)
      | some callback => exact Or.inl (List.suffix_cons _ _)
  | run tree callback =>
      cases callback with
      | none => exact Or.inl (List.suffix_refl _)
      | some callback => exact Or.inl (suffix_dispatch rfl)
  | processTree tree => exact Or.inl (suffix_dispatch rfl)
  | drop continuation => exact Or.inl (List.suffix_refl _)
  | signal continuation signal =>
      rw [serve, call]
      split
      · exact Or.inl (suffix_drive rfl)
      · exact Or.inl (List.suffix_refl _)
  | attach plugin => exact Or.inl (suffix_attach rfl)
  | attachNamed name =>
      rw [serve, attachNamed]
      split
      · exact Or.inl (List.suffix_refl _)
      · dsimp only
        split
        · exact Or.inl (suffix_attach rfl)
        · exact Or.inl (List.suffix_refl _)
  | attachNew name options =>
      rw [serve, attachNew]
      split
      · exact Or.inl (List.suffix_refl _)
      · exact Or.inl (suffix_attach rfl)
  | parsed result =>
      rw [serve]
      split
      · rename_i purpose calls top
        exact Or.inr ⟨_, calls, top, suffix_build rfl, Or.inr ⟨purpose, rfl⟩⟩
      · exact Or.inl (List.suffix_refl _)
  | returned result =>
      rw [serve, leave]
      split
      · exact Or.inl (List.suffix_refl _)
      · rename_i call calls top
        refine Or.inr ⟨call, calls, top, ?_, Or.inl ⟨result, rfl⟩⟩
        cases call with
        | parser purpose => exact List.suffix_refl _
        | hook => exact List.suffix_refl _
        | turn run step origin => exact suffix_drive rfl
        | report run origin =>
            rcases rest_eq { p with calls := calls } run origin with ⟨answer, rested⟩
            simp only [rested]
            exact List.suffix_refl _

/-! ## Hooks return -/

/-- The call of a hook stays in progress until the hook returns. -/
theorem hook_act {below : List (Call κ)} (running : .hook :: below <:+ p.calls) (act : Act η β κ) :
    .hook :: below <:+ (p.act act).calls ∨
      ∃ result, act = .request (.returned result) ∧ p.calls = .hook :: below := by
  cases act with
  | edit store => exact Or.inl running
  | define definition => exact Or.inl running
  | request request =>
      rcases suffix_serve p request with kept | ⟨call, calls, top, kept, own⟩
      · exact Or.inl (running.trans kept)
      · rw [top] at running
        rcases List.suffix_cons_iff.mp running with whole | inner
        · cases whole
          rcases own with ⟨result, rfl⟩ | ⟨purpose, impossible⟩
          · exact Or.inr ⟨result, rfl, top⟩
          · cases impossible
        · exact Or.inl (inner.trans kept)

theorem serve_returned_hook {below : List (Call κ)} (top : p.calls = .hook :: below)
    (result : Except Error Unit) :
    p.serve (.returned result) = ({ p with calls := below }, .reply (result.map fun _ => .done)) := by
  rw [serve, leave, top]
  rfl

/-- Control comes back from a hook when it returns, with what it returns. -/
theorem Back.of_hook {below : List (Call κ)} {response : Response η β κ} {answer : Except Error Answer}
    (back : Back below p response acts answer) (running : .hook :: below <:+ p.calls) :
    ∃ inner result, acts = inner ++ [.request (.returned result)] ∧
      answer = result.map (fun _ => .done) ∧ (p.after inner).calls = .hook :: below := by
  induction back with
  | here calls =>
      rw [calls] at running
      have longer := running.length_le
      rw [List.length_cons] at longer
      omega
  | @inside p response act acts answer away rest inductionHypothesis =>
      rcases hook_act running act with still | ⟨result, rfl, top⟩
      · rcases inductionHypothesis still with ⟨inner, result, rfl, answered, calls⟩
        exact ⟨act :: inner, result, rfl, answered, calls⟩
      · have served := serve_returned_hook top result
        rw [responds, Processor.act, served] at rest
        cases rest with
        | here calls => exact ⟨[], result, rfl, rfl, top⟩
        | inside away rest => exact absurd rfl (away _ rfl)

/-! ## Control comes back once -/

/-- When control comes back, and with what, is determined by what happens. -/
theorem Back.unique {below : List (Call κ)} {response : Response η β κ}
    {answer answer' : Except Error Answer} {acts' rest rest' : List (Act η β κ)} (back : Back below p response acts answer)
    (back' : Back below p response acts' answer') (same : acts ++ rest = acts' ++ rest') :
    acts = acts' ∧ answer = answer' := by
  induction back generalizing acts' with
  | here calls =>
      cases back' with
      | here calls' => exact ⟨rfl, rfl⟩
      | inside away further => exact absurd calls (away _ rfl)
  | inside away further inductionHypothesis =>
      cases back' with
      | here calls => exact absurd calls (away _ rfl)
      | inside away' further' =>
          rcases List.cons_eq_cons.mp same with ⟨rfl, others⟩
          rcases inductionHypothesis further' others with ⟨rfl, rfl⟩
          exact ⟨rfl, rfl⟩

theorem Uses.unique {answer answer' : Except Error Answer} {acts' rest rest' : List (Act η β κ)}
    (used : p.Uses entry acts answer) (used' : p.Uses entry acts' answer')
    (same : acts ++ rest = acts' ++ rest') : acts = acts' ∧ answer = answer' := by
  rcases used with ⟨back⟩
  rcases used' with ⟨back'⟩
  rcases back.unique back' (List.cons_eq_cons.mp same).2 with ⟨rfl, rfl⟩
  exact ⟨rfl, rfl⟩

/-! ## One entry -/

/-- To attach a plugin is done at once, or a plugin is registered and its hook starts. -/
inductive Begins (p : Processor η β κ) : Processor η β κ × Response η β κ → Prop where
  | done {q : Processor η β κ} (calls : q.calls = p.calls) : Begins p (q, .reply (.ok .done))
  | hook {q : Processor η β κ} {plugin : Plugin η β} (calls : q.calls = .hook :: p.calls)
      (hook : plugin.hasHook = true) (new : p.attachments.has plugin.id = false)
      (registry : q.attachments.registry.plugins = p.attachments.registry.plugins ++ [plugin]) :
      Begins p (q, .hook plugin)

theorem begins_attach {attachments : Attachments η β} (plugin : Plugin η β)
    (same : attachments.registry = p.attachments.registry) :
    p.Begins (attach { p with attachments := attachments } plugin) := by
  rcases attach_cases { p with attachments := attachments } plugin with
    ⟨q, attached, calls⟩ | ⟨hook, new, attached⟩
  · rw [attached]
    exact .done calls
  · rw [attached]
    refine .hook rfl hook ?_ ?_
    · rwa [Attachments.has, same] at new
    · rw [Attachments.plugins_register new, same]

/-- The request for an entry is refused, or a plugin is attached. -/
theorem serve_entry_cases (p : Processor η β κ) (entry : Entry) :
    (∃ error, entry.madeBy p.attachments.catalog = .error error ∧
        p.serve entry.request = (p, .reply (.error error))) ∨
      p.Begins (p.serve entry.request) := by
  rw [Entry.madeBy, Entry.request]
  cases entry.options with
  | some options =>
      simp only [serve, attachNew, Attachments.create]
      cases created : p.attachments.catalog.create entry.name options with
      | error error => exact Or.inl ⟨error, rfl, rfl⟩
      | ok definition => exact Or.inr (begins_attach _ rfl)
  | none =>
      simp only [serve, attachNamed]
      cases resolved : p.attachments.resolve entry.name with
      | error error =>
          exact Or.inl ⟨error, Attachments.createDefault_of_resolve_error resolved, rfl⟩
      | ok pair =>
          dsimp only
          cases pair.1.plugin? pair.2 with
          | none => exact Or.inr (.done rfl)
          | some plugin => exact Or.inr (begins_attach plugin (Attachments.registry_resolve resolved))

/-- How an entry fails: it is refused without a trace, or its plugin has been registered and the hook of
that plugin, whose call is the innermost one at the end, returns the error. -/
inductive Fails (p : Processor η β κ) (entry : Entry) (error : Error) : List (Act η β κ) → Prop where
  | refused (unmade : entry.madeBy p.attachments.catalog = .error error)
      (unchanged : p.act (.request entry.request) = p) : Fails p entry error [.request entry.request]
  | hook {plugin : Plugin η β} {inner : List (Act η β κ)}
      (started : p.hooked (.request entry.request) = some plugin)
      (hooked : Hooked plugin p.attachments
        (p.after (.request entry.request :: (inner ++ [.request (.returned (.error error))]))).attachments)
      (returns : (p.after (.request entry.request :: inner)).calls = .hook :: p.calls) :
      Fails p entry error (.request entry.request :: (inner ++ [.request (.returned (.error error))]))

theorem Uses.fails (used : p.Uses entry acts (.error error)) : p.Fails entry error acts := by
  rcases used with ⟨back⟩
  rename_i acts
  rcases serve_entry_cases p entry with ⟨other, unmade, served⟩ | begins
  · rw [served] at back
    cases back with
    | here calls => exact .refused unmade (congrArg Prod.fst served)
    | inside away rest => exact absurd rfl (away _ rfl)
  · generalize served : p.serve entry.request = pair at back begins
    cases begins with
    | done calls =>
        cases back with
        | inside away rest => exact absurd calls (away _ rfl)
    | @hook q plugin calls hook new registry =>
        rcases back.of_hook (calls ▸ List.suffix_refl _) with ⟨inner, result, rfl, answered, top⟩
        cases result with
        | ok done => cases answered
        | error other =>
            cases answered
            have acted : p.act (.request entry.request) = q := congrArg Prod.fst served
            have started : p.hooked (.request entry.request) = some plugin := by
              rw [hooked, served]
              rfl
            refine .hook started ⟨hook, new, ?_, ?_⟩ ?_
            · rw [← registry, ← acted]
              exact registry_after_grows (p.act _) _
            · exact fun name id found => lookup_after found _
            · rw [← top, ← acted]
              rfl

/-! ## Several entries -/

/-- A configuration that is applied fails at an entry: those in front of it have been attached, and
nothing happens after the answer to the request for it. -/
structure StopsAt (p : Processor η β κ) (entries : List Entry) (acts : List (Act η β κ)) (error : Error)
    (earlier : List Entry) (entry : Entry) (later : List Entry) (front back : List (Act η β κ)) : Prop where
  split : entries = earlier ++ entry :: later
  acts_eq : acts = front ++ back
  attached : p.Applies earlier front (.ok ())
  used : (p.after front).Uses entry back (.error error)
  fails : (p.after front).Fails entry error back

theorem Applies.exists_stopsAt (applies : p.Applies entries acts (.error error)) :
    ∃ earlier entry later front back, p.StopsAt entries acts error earlier entry later front back := by
  generalize result_eq : Except.error error = result at applies
  induction applies with
  | done => cases result_eq
  | @next p entry entries first acts answer result used rest inductionHypothesis =>
      rcases inductionHypothesis result_eq with ⟨earlier, other, later, front, back, stops⟩
      rw [stops.acts_eq, stops.split]
      have front_eq : p.after (first ++ front) = (p.after first).after front := after_append p first front
      refine ⟨entry :: earlier, other, later, first ++ front, back, rfl,
        (List.append_assoc _ _ _).symm, .next used stops.attached, ?_, ?_⟩
      · rw [front_eq]
        exact stops.used
      · rw [front_eq]
        exact stops.fails
  | @failed p entry entries acts error used =>
      cases result_eq
      exact ⟨[], entry, entries, [], acts, rfl, rfl, .done, used, used.fails⟩

/-- Every entry, when its turn comes, is attached. -/
def EachAttached (p : Processor η β κ) (entries : List Entry) (acts : List (Act η β κ)) : Prop :=
  ∀ earlier entry later front back, entries = earlier ++ entry :: later → acts = front ++ back →
    p.Applies earlier front (.ok ()) →
      ∃ answer first rest, back = first ++ rest ∧ (p.after front).Uses entry first (.ok answer)

theorem Applies.eachAttached (applies : p.Applies entries acts (.ok ())) : p.EachAttached entries acts := by
  intro earlier entry later front back split acts_eq attached
  generalize result_eq : Except.ok () = result at attached
  induction attached generalizing entries acts with
  | done =>
      subst split acts_eq
      cases applies with
      | next used rest => exact ⟨_, _, _, rfl, used⟩
  | @next p first earlier acts' front answer result used rest inductionHypothesis =>
      subst split
      cases applies with
      | next used' rest' =>
          rw [List.append_assoc] at acts_eq
          rcases used'.unique used acts_eq with ⟨rfl, _⟩
          have further := List.append_cancel_left acts_eq
          rcases inductionHypothesis rest' rfl further result_eq with ⟨answer, first, more, split, used⟩
          exact ⟨answer, first, more, split, by rwa [after_append]⟩
  | failed used => cases result_eq

theorem applies_ok_iff {result : Except Error Unit} (applies : p.Applies entries acts result) :
    result = .ok () ↔ p.EachAttached entries acts := by
  constructor
  · rintro rfl
    exact applies.eachAttached
  · intro each
    cases result with
    | ok done => rfl
    | error error =>
        rcases applies.exists_stopsAt with ⟨earlier, entry, later, front, back, stops⟩
        rcases each earlier entry later front back stops.split stops.acts_eq stops.attached with
          ⟨answer, first, rest, split, used⟩
        have same : first ++ rest = back ++ [] := by rw [List.append_nil, split]
        cases (used.unique stops.used same).2

/-- An entry that is refused ends a configuration at once. -/
theorem Refuses.ends (refuses : p.Refuses entry.request error) (later : List Entry) :
    p.Applies (entry :: later) [.request entry.request] (.error error) := by
  refine .failed ⟨?_⟩
  rw [refuses.served]
  exact .here rfl

/-! ## Every state -/

/-- The error for a name that is not listed in a catalog. -/
def unlisted (name : String) : Error :=
  .invalidPlugin ("`" ++ name ++ "` does not name a known plugin")

theorem madeBy_of_unlisted {catalog : Catalog η β} (absent : catalog.contains entry.name = false) :
    entry.madeBy catalog = .error (unlisted entry.name) := by
  have missing : catalog.find? entry.name = none := by
    rwa [Catalog.contains, Option.isSome_eq_false_iff, Option.isNone_iff_eq_none] at absent
  rw [Entry.madeBy]
  cases entry.options with
  | some options =>
      simp only [Catalog.create, missing]
      rfl
  | none =>
      simp only [Catalog.createDefault, Catalog.create, missing]
      rfl

/-- What comes of references to the plugins of a catalog. -/
structure Strict (catalog : Catalog η β) (p : Processor η β κ) : Prop where
  /-- A name that is not listed is refused. -/
  absent : ∀ entry : Entry, catalog.contains entry.name = false →
    p.Refuses entry.request (unlisted entry.name)
  /-- So is a name whose factory fails without options. -/
  named : ∀ name error, catalog.createDefault name = .error error → p.Refuses (.attachNamed name) error
  /-- So is an entry whose factory fails. -/
  unmade : ∀ (entry : Entry) (error : Error), entry.madeBy catalog = .error error →
    p.Refuses entry.request error
  /-- Such an entry ends a configuration at once. -/
  ends : ∀ (entry : Entry) (error : Error) (later : List Entry), entry.madeBy catalog = .error error →
    p.Applies (entry :: later) [.request entry.request] (.error error)
  /-- A configuration is applied if every entry is attached. -/
  ok_iff : ∀ entries acts result, p.Applies entries acts result →
    (result = .ok () ↔ p.EachAttached entries acts)
  /-- Otherwise it ends with the first entry that fails. -/
  stops : ∀ entries acts error, p.Applies entries acts (.error error) →
    ∃ earlier entry later front back, p.StopsAt entries acts error earlier entry later front back

/-- In every state references to plugins that there are not leave no trace, and a configuration ends with
the first entry that fails.  The same holds of the walk over an agenda, where hooks are lists of needs. -/
theorem strict_after (model : Model) (store : Store) (catalog : Catalog η β) (acts : List (Act η β κ))
    (stock : Catalog (List Stock.Need) β) (earlier : List Entry) :
    Strict catalog ((fresh model store (.empty catalog)).after acts) ∧
      Attachments.Strict model ((Attachments.empty stock).attachAll model earlier).1 := by
  refine ⟨?_, Attachments.strict_attachAll model stock earlier⟩
  have known := known_after (p := (fresh model store (.empty catalog) : Processor η β κ))
    (Attachments.known_empty catalog) acts
  have same := catalog_after (fresh model store (.empty catalog) : Processor η β κ) acts
  generalize (fresh model store (.empty catalog) : Processor η β κ).after acts = p at known same
  have same : p.attachments.catalog = catalog := same
  subst same
  constructor
  · intro entry absent
    exact refuses_entry known (madeBy_of_unlisted absent)
  · intro name error failed
    exact refuses_attachNamed known failed
  · intro entry error failed
    exact refuses_entry known failed
  · intro entry error later failed
    exact (refuses_entry known failed).ends later
  · intro entries acts result applies
    exact applies_ok_iff applies
  · intro entries acts error applies
    exact applies.exists_stopsAt

end Processor
end Prose
