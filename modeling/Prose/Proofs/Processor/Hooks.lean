import Mathlib.Logic.Function.Iterate
import Prose.Plugin.Entry
import Prose.Processor.Basic
import Prose.Proofs.Plugin.Search

namespace Prose
namespace Processor

/-!
# Hooks that attach plugins

The hook of a plugin is code that makes requests of its own, so hooks run inside each other.  Here a hook
is a list of needs.  It asks for one after the other, returns the first error that it gets, and succeeds
at the end of its list.  A processor and the hooks in progress make a machine, which goes on as long as
a hook has something to do.

Every call that attaches plugins ends, whatever the hooks ask for.  It leaves what a search through the
graph of dependencies comes to.
-/

open Attachments (Given Attached Met Brings need_cases nested_induction)
open Stock (Need)

variable {β κ : Type}

/-- What the code of a hook does about a need. -/
def ask (p : Processor (List Need) β κ) (need : Need) :
    Processor (List Need) β κ × Response (List Need) β κ :=
  match need with
  | .plugin id =>
    match p.attachments.plugin? id with
    | some plugin => p.serve (.attach plugin)
    | none => p.reply (.ok .done)
  | .named name => p.serve (.attachNamed name)
  | .nodeType asker name =>
    if p.model.contains name then p.reply (.ok .done)
    else p.reply (.error (.invalidPlugin (asker ++ " needs a model with `" ++ name ++ "`")))

/-- A processor with hooks in progress: who is in control, and what each of these hooks still has to ask
for, the innermost first. -/
structure Hooking (β κ : Type) where
  processor : Processor (List Need) β κ
  response : Response (List Need) β κ
  agendas : List (List Need)

namespace Hooking

/-- A request has been served. -/
def served (pair : Processor (List Need) β κ × Response (List Need) β κ)
    (agendas : List (List Need)) : Hooking β κ :=
  ⟨pair.1, pair.2, agendas⟩

/-- The innermost hook asks for the next thing that it needs, or returns. -/
def goOn (p : Processor (List Need) β κ) (agenda : List Need) (below : List (List Need)) :
    Hooking β κ :=
  match agenda with
  | [] => served (p.serve (.returned (.ok ()))) below
  | need :: rest => served (p.ask need) (rest :: below)

/-- What happens next, if a hook is in control. -/
def step (h : Hooking β κ) : Hooking β κ :=
  match h.response, h.agendas with
  | .hook plugin, below => goOn h.processor (plugin.hook.getD []) below
  | .reply (.ok _), agenda :: below => goOn h.processor agenda below
  | .reply (.error error), _ :: below => served (h.processor.serve (.returned (.error error))) below
  | _, _ => h

/-- After finitely many steps the code that had been waiting has its answer. -/
def Finishes (h : Hooking β κ) (q : Processor (List Need) β κ) (result : Except Error Unit)
    (below : List (List Need)) : Prop :=
  ∃ n, step^[n] h = ⟨q, .reply (result.map fun _ => .done), below⟩

variable {p q : Processor (List Need) β κ} {model : Model} {a b : Attachments (List Need) β}
  {need : Need} {agenda : List Need} {agendas below : List (List Need)} {plugin : Plugin (List Need) β}
  {calls : List (Call κ)} {result : Except Error Unit}

theorem Finishes.of_steps {h h' : Hooking β κ} (finishes : Finishes h' q result below) {n : Nat}
    (steps : step^[n] h = h') : Finishes h q result below := by
  rcases finishes with ⟨m, rest⟩
  exact ⟨m + n, by rw [Function.iterate_add_apply, steps, rest]⟩

/-! ## One need -/

theorem ask_eq (p : Processor (List Need) β κ) (need : Need) :
    p.ask need =
      match p.attachments.target p.model need with
      | .error error => p.reply (.error error)
      | .ok (b, none) => { p with attachments := b }.reply (.ok .done)
      | .ok (b, some id) =>
        match b.plugin? id with
        | some plugin => { p with attachments := b }.attach plugin
        | none => { p with attachments := b }.reply (.ok .done) := by
  cases need with
  | plugin id => rfl
  | named name =>
      rw [ask, serve, attachNamed, Attachments.target]
      cases p.attachments.resolve name with
      | error error => rfl
      | ok pair =>
          rcases pair with ⟨b, id⟩
          simp only [Except.map]
          cases b.plugin? id with
          | none => rfl
          | some plugin => rfl
  | nodeType asker name =>
      rw [ask, Attachments.target]
      split <;> rfl

theorem ask_of_error {error : Error} (failed : p.attachments.target p.model need = .error error) :
    p.ask need = p.reply (.error error) := by
  rw [ask_eq, failed]

theorem ask_of_met (met : Met p.model p.attachments need b) :
    p.ask need = { p with attachments := b }.reply (.ok .done) := by
  rw [ask_eq]
  cases met with
  | nothing found => rw [found]
  | absent found absent => simp only [found, absent]
  | attached found made attached => simp only [found, made, attach, attached, if_true]

theorem ask_of_brings (brings : Brings p.model p.attachments need b plugin) :
    p.ask need =
      if plugin.hasHook then
        ({ p with attachments := b.register plugin, calls := .hook :: p.calls }, .hook plugin)
      else { p with attachments := b.register plugin }.reply (.ok .done) := by
  rcases brings with ⟨found, made, new⟩
  rw [ask_eq]
  simp only [found, made, attach, new, Bool.false_eq_true, if_false]

/-- A new plugin is attached and its hook runs to its end. -/
theorem finishes_of_brings (brings : Brings p.model p.attachments need b plugin)
    (below : List (List Need))
    (inner : Finishes
      (goOn { p with attachments := b.register plugin, calls := .hook :: p.calls }
        (plugin.hook.getD []) below)
      { p with attachments := ((b.register plugin).satisfy p.model (plugin.hook.getD [])).1 }
      ((b.register plugin).satisfy p.model (plugin.hook.getD [])).2 below) :
    Finishes (served (p.ask need) below)
      { p with attachments := ((b.register plugin).satisfy p.model (plugin.hook.getD [])).1 }
      ((b.register plugin).satisfy p.model (plugin.hook.getD [])).2 below := by
  rw [ask_of_brings brings]
  cases hook : plugin.hook with
  | some agenda =>
      have has : plugin.hasHook = true := by rw [Definition.hasHook, hook]; rfl
      rw [if_pos has, ← hook]
      exact inner.of_steps (n := 1) rfl
  | none =>
      have lacks : ¬plugin.hasHook = true := by rw [Definition.hasHook, hook]; exact Bool.false_ne_true
      rw [if_neg lacks]
      simp only [Option.getD_none, Attachments.satisfy_nil]
      exact ⟨0, rfl⟩

/-! ## One hook -/

theorem goOn_nil (calls_eq : p.calls = .hook :: calls) (below : List (List Need)) :
    goOn p [] below = ⟨{ p with calls := calls }, .reply (.ok .done), below⟩ := by
  rw [goOn, serve, leave, calls_eq]
  rfl

theorem returned_error {error : Error} (calls_eq : p.calls = .hook :: calls)
    (below : List (List Need)) :
    served (p.serve (.returned (.error error))) below =
      ⟨{ p with calls := calls }, .reply (.error error), below⟩ := by
  rw [serve, leave, calls_eq]
  rfl

/-- A hook comes to its end, with all that is attached for its needs. -/
theorem finishes_goOn (a : Attachments (List Need) β) (agenda : List Need)
    {p : Processor (List Need) β κ} (attachments_eq : p.attachments = a) (model_eq : p.model = model)
    (calls_eq : p.calls = .hook :: calls) (below : List (List Need)) :
    Finishes (goOn p agenda below)
      { p with attachments := (a.satisfy model agenda).1, calls := calls }
      (a.satisfy model agenda).2 below := by
  induction a, agenda using nested_induction model generalizing p calls below with
  | nil a =>
      subst attachments_eq
      rw [goOn_nil calls_eq, Attachments.satisfy_nil]
      exact ⟨0, rfl⟩
  | failed a need rest error failure =>
      subst attachments_eq model_eq
      rw [Attachments.satisfy_of_error failure, goOn, ask_of_error failure]
      exact ⟨1, returned_error calls_eq below⟩
  | met a need rest b met inductionHypothesis =>
      subst attachments_eq model_eq
      have further := inductionHypothesis (p := { p with attachments := b }) rfl rfl calls_eq below
      rw [met.satisfy_eq, goOn, ask_of_met met]
      exact further.of_steps (n := 1) rfl
  | brings a need rest b plugin brings inner further =>
      subst attachments_eq model_eq
      have here := finishes_of_brings brings (rest :: below)
        (inner (p := { p with attachments := b.register plugin, calls := .hook :: p.calls })
          rfl rfl rfl (rest :: below))
      rw [brings.satisfy_eq, goOn]
      rcases met : (b.register plugin).satisfy p.model (plugin.hook.getD []) with ⟨c, result⟩
      rw [met] at here further
      rcases here with ⟨n, steps⟩
      cases result with
      | error error =>
          have last : Finishes ⟨{ p with attachments := c }, .reply (.error error), rest :: below⟩
              { p with attachments := c, calls := calls } (.error error) below :=
            ⟨1, returned_error (p := { p with attachments := c }) calls_eq below⟩
          exact last.of_steps steps
      | ok done =>
          have onward := further (p := { p with attachments := c }) rfl rfl calls_eq below
          exact (onward.of_steps (n := 1) rfl).of_steps steps

/-! ## One call -/

/-- A need comes to its end, with all that is attached for it. -/
theorem finishes_ask (p : Processor (List Need) β κ) (need : Need) (below : List (List Need)) :
    Finishes (served (p.ask need) below)
      { p with attachments := (p.attachments.satisfy p.model [need]).1 }
      (p.attachments.satisfy p.model [need]).2 below := by
  rcases need_cases p.model p.attachments need with ⟨error, failure⟩ | ⟨b, met⟩ | ⟨b, plugin, brings⟩
  · rw [Attachments.satisfy_of_error failure, ask_of_error failure]
    exact ⟨0, rfl⟩
  · rw [met.satisfy_eq, Attachments.satisfy_nil, ask_of_met met]
    exact ⟨0, rfl⟩
  · have here := finishes_of_brings brings below (finishes_goOn (b.register plugin) (plugin.hook.getD [])
      (p := { p with attachments := b.register plugin, calls := .hook :: p.calls }) rfl rfl rfl below)
    rw [brings.satisfy_eq]
    rcases met : (b.register plugin).satisfy p.model (plugin.hook.getD []) with ⟨c, result⟩
    rw [met] at here
    cases result with
    | error error => exact here
    | ok done =>
        simp only [Attachments.satisfy_nil]
        exact here

end Hooking

/-- A call that attaches plugins: for a handle, a name or an entry. -/
inductive Use (β : Type) where
  | handle (plugin : Plugin (List Need) β)
  | named (name : String)
  | entry (reference : Entry)

namespace Use

def request : Use β → Request (List Need) β κ
  | .handle plugin => .attach plugin
  | .named name => .attachNamed name
  | .entry reference =>
    match reference.options with
    | some options => .attachNew reference.name options
    | none => .attachNamed reference.name

/-- What is asked for, and the attachments with the plugin that is made for an entry with options. -/
def need (a : Attachments (List Need) β) : Use β → Except Error (Attachments (List Need) β × Need)
  | .handle plugin => .ok (a, .plugin plugin.id)
  | .named name => .ok (a, .named name)
  | .entry reference =>
    match reference.options with
    | some options => (a.create reference.name options).map fun (b, plugin) => (b, .plugin plugin.id)
    | none => .ok (a, .named reference.name)

/-- A handle is that of a plugin of the family. -/
def Made (a : Attachments (List Need) β) (use : Use β) : Prop :=
  ∀ plugin, use = .handle plugin → a.plugin? plugin.id = some plugin

variable {p : Processor (List Need) β κ} {a : Attachments (List Need) β} {use : Use β} {need : Need}

theorem ask_of_made {plugin : Plugin (List Need) β}
    (made : p.attachments.plugin? plugin.id = some plugin) :
    p.ask (.plugin plugin.id) = p.attach plugin := by
  rw [ask, made]
  rfl

theorem serve_of_refused {error : Error} (refused : use.need p.attachments = .error error) :
    p.serve use.request = p.reply (.error error) := by
  cases use with
  | handle plugin => cases refused
  | named name => cases refused
  | entry reference =>
      cases options : reference.options with
      | none =>
          simp only [Use.need, options] at refused
          cases refused
      | some fields =>
          cases created : p.attachments.create reference.name fields with
          | ok pair =>
              simp only [Use.need, options, created] at refused
              cases refused
          | error failure =>
              simp only [Use.need, options, created] at refused
              cases refused
              simp only [request, options, serve, attachNew, created]

/-- What is asked for is a need of the attachments, whose registered plugins are those from before. -/
theorem serve_of_need (given : Given p.attachments) (made : use.Made p.attachments)
    (asked : use.need p.attachments = .ok (a, need)) :
    p.serve use.request = { p with attachments := a }.ask need ∧ Given a ∧ a.AllMade [need] ∧
      a.registry = p.attachments.registry := by
  cases use with
  | handle plugin =>
      cases asked
      refine ⟨?_, given, ?_, rfl⟩
      · rw [ask_of_made (made plugin rfl)]
        rfl
      · intro id member
        cases List.mem_singleton.mp member
        exact Attachments.lt_of_plugin? (made plugin rfl)
  | named name =>
      cases asked
      exact ⟨rfl, given, Attachments.allMade_named name, rfl⟩
  | entry reference =>
      cases options : reference.options with
      | none =>
          simp only [Use.need, options] at asked
          cases asked
          refine ⟨?_, given, Attachments.allMade_named reference.name, rfl⟩
          rw [request, options, ask]
      | some fields =>
          cases created : p.attachments.catalog.create reference.name fields with
          | error failure =>
              simp only [Use.need, options, Attachments.create, created] at asked
              cases asked
          | ok definition =>
              simp only [Use.need, options, Attachments.create, created] at asked
              cases asked
              have made := Attachments.plugin?_make p.attachments definition p.attachments.made.size
              rw [if_pos rfl] at made
              refine ⟨?_, given.make created, ?_, rfl⟩
              · rw [ask_of_made (p := { p with attachments := (p.attachments.make definition).1 }) made]
                simp only [request, options, serve, attachNew, Attachments.create, created]
                rfl
              · intro id member
                cases List.mem_singleton.mp member
                exact Attachments.lt_of_plugin? made

end Use

/-! ## All calls -/

/-- What a finished call has come to. -/
inductive Used (p : Processor (List Need) β κ) (use : Use β) :
    Processor (List Need) β κ → Except Error Unit → Prop where
  | refused {error : Error} (refused : use.need p.attachments = .error error) :
      Used p use p (.error error)
  | attached {a b : Attachments (List Need) β} {need : Need} {order : List Attachments.Vertex}
      {result : Except Error Unit} (asked : use.need p.attachments = .ok (a, need))
      (same : a.registry = p.attachments.registry)
      (attached : Attached p.model a b [need] order result) :
      Used p use { p with attachments := b } result

/-- Every call that attaches plugins comes to its end, in a hook or not, and whatever the hooks ask
for. -/
theorem use_finishes {p : Processor (List Need) β κ} (given : Given p.attachments) {use : Use β}
    (made : use.Made p.attachments) (below : List (List Need)) :
    ∃ q result, Hooking.Finishes (Hooking.served (p.serve use.request) below) q result below ∧
      Used p use q result := by
  cases asked : use.need p.attachments with
  | error error =>
      rw [Use.serve_of_refused asked]
      exact ⟨p, .error error, ⟨0, rfl⟩, .refused asked⟩
  | ok pair =>
      rcases pair with ⟨a, need⟩
      rcases Use.serve_of_need given made asked with ⟨served, given, made, same⟩
      rcases Attachments.attached_satisfy p.model given made with ⟨order, attached⟩
      rw [served]
      exact ⟨_, _, Hooking.finishes_ask { p with attachments := a } need below,
        .attached asked same attached⟩

/-- A plugin that asks for the name `x` and for itself. -/
def selfish : Plugin (List Need) Unit := ⟨⟨"a", .sync, some [.named "x", .plugin 0], ()⟩, 0⟩

/-- A processor with a family whose dependencies run in circles: `x` and `y` ask for each other, and `x`
for the plugin that asks for it. -/
def circular : Processor (List Need) Unit Unit where
  model := .empty
  store := .empty
  attachments :=
    { catalog := ⟨[
        ⟨"x", "", fun _ => .ok ⟨"x", .sync, some [.named "y", .plugin 0], ()⟩⟩,
        ⟨"y", "", fun _ => .ok ⟨"y", .sync, some [.named "x", .plugin 1], ()⟩⟩]⟩
      made := #[selfish.toDefinition, ⟨"b", .sync, none, ()⟩]
      registry := .empty
      named := [] }
  dispatches := #[]
  calls := []
  held := []

theorem use_finishes_circular :
    Given circular.attachments ∧ (Use.handle selfish).Made circular.attachments ∧
      ∃ q result, Hooking.Finishes
          (Hooking.served (circular.serve (Use.handle selfish).request) []) q result [] ∧
        Used circular (.handle selfish) q result := by
  have given : Given circular.attachments := by
    refine Attachments.given_fresh ?_ ?_
    · simp [selfish]
    · simp
  have made : (Use.handle selfish).Made circular.attachments := by
    rintro plugin same
    cases same
    rfl
  exact ⟨given, made, use_finishes given made []⟩

example : (Hooking.step^[20] (Hooking.served (circular.serve
    (Use.handle selfish).request) [])).processor.attachments.names = ["a", "x", "y", "b"] := by
  decide

end Processor
end Prose
