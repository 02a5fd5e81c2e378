import Mathlib.Data.List.Nodup
import Prose.Proofs.Processor.Accord

namespace Prose

/-!
# What requests attach

A request attaches one plugin or none, and it starts the hook of the plugin that it attaches and no other.
So whatever is asked for, in whatever order and by whomever, also while hooks run and after they fail, the
registry grows at its end only, and the hooks that have been started are those of the registered plugins.
A name is resolved to a plugin that is registered by the same request, so to ask for it again changes
nothing.
-/

/-- The plugin whose hook a response puts in control. -/
def Response.hook? {η β κ : Type} : Response η β κ → Option (Plugin η β)
  | .hook plugin => some plugin
  | _ => none

namespace Attachments

variable {η β : Type} {a b : Attachments η β} {plugin : Plugin η β} {hook : Option (Plugin η β)}
  {hooks : List (Plugin η β)} {name : String} {id : Nat}

/-! ## One request -/

/-- What a request makes of the attachments `a`, if it makes `b` of them and starts a hook or none.  At
most one plugin is added, which is new, and its hook is the one that is started.  At most one name is
resolved, to a plugin that is then attached. -/
structure Attaches (a b : Attachments η β) (hook : Option (Plugin η β)) : Prop where
  catalog_eq : b.catalog = a.catalog
  size_le : a.made.size ≤ b.made.size
  added : ∃ new : Option (Plugin η β),
    b.registry.plugins = a.registry.plugins ++ new.toList ∧
      hook = new.filter (fun plugin => plugin.hasHook) ∧ ∀ plugin ∈ new, a.has plugin.id = false
  named : b.named = a.named ∨ ∃ name id,
    b.named = (name, id) :: a.named ∧ a.named.lookup name = none ∧ id < b.made.size ∧ b.has id = true

/-- Attachments with the same registry and the same names have had nothing attached to them. -/
theorem attaches_nothing (catalog_eq : b.catalog = a.catalog) (size_le : a.made.size ≤ b.made.size)
    (registry_eq : b.registry = a.registry) (named_eq : b.named = a.named) : Attaches a b none where
  catalog_eq := catalog_eq
  size_le := size_le
  added := ⟨none, by rw [registry_eq]; exact (List.append_nil _).symm, rfl, nofun⟩
  named := Or.inl named_eq

theorem has_register_self (a : Attachments η β) (plugin : Plugin η β) :
    (a.register plugin).has plugin.id = true := by
  simp [register, has, Registry.has_push]

/-- A plugin that is registered adds itself, unless it was registered before. -/
theorem added_register (registry_eq : b.registry = a.registry) (plugin : Plugin η β) :
    ∃ new : Option (Plugin η β),
      (b.register plugin).registry.plugins = a.registry.plugins ++ new.toList ∧
        (if b.has plugin.id = true then none else [plugin].find? fun plugin => plugin.hasHook) =
          new.filter (fun plugin => plugin.hasHook) ∧
        ∀ plugin ∈ new, a.has plugin.id = false := by
  have same : b.has plugin.id = a.has plugin.id := by rw [has, has, registry_eq]
  cases present : a.has plugin.id with
  | true =>
      have contained : b.registry.contains plugin = true := same.trans present
      refine ⟨none, ?_, if_pos (same.trans present), ?_⟩
      · rw [register, Registry.push, if_pos contained, registry_eq]
        exact (List.append_nil _).symm
      · intro other member
        cases member
  | false =>
      have absent : b.registry.contains plugin = false := same.trans present
      refine ⟨some plugin, ?_, ?_, ?_⟩
      · rw [register, Registry.push, if_neg (by rw [absent]; exact Bool.false_ne_true), registry_eq]
        rfl
      · rw [if_neg (by rw [same, present]; exact Bool.false_ne_true), List.find?_singleton]
        rfl
      · rintro other ⟨⟩
        exact present

/-! ## Any number of requests -/

/-- What holds of attachments for which some hooks have been started. -/
structure Enrolled (a : Attachments η β) (hooks : List (Plugin η β)) : Prop where
  distinct : (a.registry.plugins.map fun plugin => plugin.id).Nodup
  hooks_eq : hooks = a.registry.plugins.filter fun plugin => plugin.hasHook
  named : ∀ name id, a.named.lookup name = some id → id < a.made.size ∧ a.has id = true

theorem enrolled_empty (catalog : Catalog η β) : Enrolled (.empty catalog) [] where
  distinct := List.nodup_nil
  hooks_eq := rfl
  named _ _ found := by cases found

theorem has_eq_true : a.has id = true ↔ id ∈ a.registry.plugins.map fun plugin => plugin.id := by
  simp [has, Registry.has]

theorem has_of_grows (grows : a.registry.plugins <+: b.registry.plugins) (present : a.has id = true) :
    b.has id = true :=
  has_eq_true.mpr ((grows.map _).subset (has_eq_true.mp present))

theorem Attaches.registry_grows (attaches : Attaches a b hook) :
    a.registry.plugins <+: b.registry.plugins := by
  rcases attaches.added with ⟨new, registry, _⟩
  exact ⟨new.toList, registry.symm⟩

/-- A name that has been resolved is not resolved again. -/
theorem Attaches.lookup_eq (attaches : Attaches a b hook) (found : a.named.lookup name = some id) :
    b.named.lookup name = some id := by
  rcases attaches.named with same | ⟨other, number, extended, unknown, _⟩
  · rw [same, found]
  · have different : name ≠ other := by
      rintro rfl
      rw [unknown] at found
      cases found
    rw [extended, List.lookup_cons, beq_eq_false_iff_ne.mpr different]
    exact found

/-- A request keeps what holds of the attachments. -/
theorem Enrolled.step (enrolled : Enrolled a hooks) (attaches : Attaches a b hook) :
    Enrolled b (hooks ++ hook.toList) := by
  rcases attaches.added with ⟨new, registry, hook_eq, fresh⟩
  constructor
  · rw [registry, List.map_append, List.nodup_append]
    refine ⟨enrolled.distinct, ?_, ?_⟩
    · cases new with
      | none => exact List.nodup_nil
      | some plugin => exact List.nodup_singleton _
    · intro id old other member same
      rcases List.mem_map.mp member with ⟨plugin, inside, rfl⟩
      have absent := fresh plugin (Option.mem_toList.mp inside)
      rw [has_eq_true.mpr (same ▸ old)] at absent
      cases absent
  · rw [registry, List.filter_append, ← enrolled.hooks_eq, hook_eq]
    cases new with
    | none => rfl
    | some plugin => cases hooked : plugin.hasHook <;> simp [Option.filter, hooked]
  · intro name id found
    have old : a.named.lookup name = some id → id < b.made.size ∧ b.has id = true := by
      intro known
      rcases enrolled.named name id known with ⟨bound, present⟩
      exact ⟨Nat.lt_of_lt_of_le bound attaches.size_le, has_of_grows attaches.registry_grows present⟩
    rcases attaches.named with same | ⟨other, number, extended, _, bound, present⟩
    · exact old (same ▸ found)
    · rw [extended, List.lookup_cons] at found
      split at found
      · cases found
        exact ⟨bound, present⟩
      · exact old found

end Attachments

namespace Processor

open Attachments (Attaches Enrolled attaches_nothing added_register enrolled_empty)

variable {η β κ : Type}

/-! ## What each request attaches -/

/-- Attaching a plugin registers it, and starts its hook if that is new. -/
theorem attach_eq (p : Processor η β κ) (plugin : Plugin η β) :
    (p.attach plugin).1.attachments = p.attachments.register plugin ∧
      (p.attach plugin).2.hook? =
        if p.attachments.has plugin.id = true then none
        else [plugin].find? fun plugin => plugin.hasHook := by
  unfold attach
  split
  · rename_i present
    have contained : p.attachments.registry.contains plugin = true := present
    rw [reply, Attachments.register, Registry.push, if_pos contained]
    exact ⟨rfl, rfl⟩
  · cases hooked : plugin.hasHook <;> simp [hooked, reply, Response.hook?]

/-- Driving a run attaches nothing. -/
theorem attachments_drive (p : Processor η β κ) (run : Nat) (origin : Origin)
    (move : Run η β Ref → Run η β Ref × Effect η β Ref) :
    (p.drive run origin move).1.attachments = p.attachments ∧
      (p.drive run origin move).2.hook? = none := by
  unfold drive
  split
  · exact ⟨rfl, rfl⟩
  · rename_i dispatch there
    rcases perform_cases { p with
        dispatches := p.dispatches.setIfInBounds run { dispatch with run := (move dispatch.run).1 } }
        run origin (move dispatch.run).2 with
      ⟨_, _, _, _, performed⟩ | ⟨_, _, _, _, performed⟩ | ⟨_, _, _, performed⟩
    · dsimp only
      rw [performed]
      exact ⟨rfl, rfl⟩
    · dsimp only
      rw [performed]
      exact ⟨rfl, rfl⟩
    · dsimp only
      rw [performed]
      exact ⟨rfl, rfl⟩

/-- The return of code in control attaches nothing. -/
theorem attachments_leave (p : Processor η β κ) (result : Except Error Unit) :
    (p.leave result).1.attachments = p.attachments ∧ (p.leave result).2.hook? = none := by
  unfold leave
  split
  · exact ⟨rfl, rfl⟩
  · rename_i call calls top
    cases call with
    | parser purpose => exact ⟨rfl, rfl⟩
    | hook => exact ⟨rfl, rfl⟩
    | turn run step origin => exact attachments_drive _ run origin _
    | report run origin =>
        rcases rest_eq { p with calls := calls } run origin with ⟨answer, rested⟩
        simp only [rested]
        exact ⟨rfl, rfl⟩

/-- Building the tree of a text attaches nothing. -/
theorem attachments_build (p : Processor η β κ) (purpose : Purpose κ) (result : Except Error Cst) :
    (p.build purpose result).1.attachments = p.attachments ∧ (p.build purpose result).2.hook? = none := by
  unfold build
  split
  · exact ⟨rfl, rfl⟩
  · cases purpose with
    | build => exact ⟨rfl, rfl⟩
    | parse callback => exact attachments_drive _ _ _ _
    | process => exact attachments_drive _ _ _ _

/-- A name that has not been resolved is resolved to a plugin made for it. -/
theorem attaches_new_name {p : Processor η β κ} {name : String} {definition : Definition η β}
    (unknown : p.attachments.named.lookup name = none)
    (created : p.attachments.catalog.createDefault name = .ok definition) :
    Attaches p.attachments (p.attachNamed name).1.attachments (p.attachNamed name).2.hook? ∧
      (p.attachNamed name).1.attachments.named.lookup name = some p.attachments.made.size := by
  let named : Attachments η β :=
    { (p.attachments.make definition).1 with
      named := (name, p.attachments.made.size) :: p.attachments.named }
  let plugin : Plugin η β := ⟨definition, p.attachments.made.size⟩
  have resolved : p.attachments.resolve name = .ok (named, p.attachments.made.size) := by
    rw [Attachments.resolve, unknown, created]
    rfl
  have made : named.plugin? p.attachments.made.size = some plugin := by
    rw [Attachments.plugin?]
    simp only [named, Attachments.make, Array.getElem?_push_size]
    rfl
  have attached : p.attachNamed name = attach { p with attachments := named } plugin := by
    unfold attachNamed
    rw [resolved]
    simp only [made]
  have size : p.attachments.made.size < named.made.size := by
    simp only [named, Attachments.make, Array.size_push]
    exact Nat.lt_succ_self _
  rw [attached]
  rcases attach_eq { p with attachments := named } plugin with ⟨registered, hook⟩
  rw [registered, hook]
  refine ⟨⟨rfl, Nat.le_of_lt size, added_register rfl plugin, ?_⟩, ?_⟩
  · exact Or.inr ⟨name, _, rfl, unknown, size, Attachments.has_register_self named plugin⟩
  · exact List.lookup_cons_self

/-- What a request for the plugin of a name attaches. -/
theorem attaches_named (p : Processor η β κ) (name : String) :
    Attaches p.attachments (p.attachNamed name).1.attachments (p.attachNamed name).2.hook? := by
  cases known : p.attachments.named.lookup name with
  | some id =>
      have resolved : p.attachments.resolve name = .ok (p.attachments, id) := by
        rw [Attachments.resolve, known]
      unfold attachNamed
      rw [resolved]
      dsimp only
      split
      · rename_i plugin made
        rcases attach_eq p plugin with ⟨registered, hook⟩
        rw [registered, hook]
        exact ⟨rfl, Nat.le_refl _, added_register rfl plugin, Or.inl rfl⟩
      · exact attaches_nothing rfl (Nat.le_refl _) rfl rfl
  | none =>
      cases created : p.attachments.catalog.createDefault name with
      | ok definition => exact (attaches_new_name known created).1
      | error error =>
          unfold attachNamed
          rw [Attachments.resolve, known, created]
          exact attaches_nothing rfl (Nat.le_refl _) rfl rfl

/-- What a request for a new plugin attaches. -/
theorem attaches_new (p : Processor η β κ) (name : String) (options : Json.Fields) :
    Attaches p.attachments (p.attachNew name options).1.attachments
      (p.attachNew name options).2.hook? := by
  cases created : p.attachments.catalog.create name options with
  | error error =>
      unfold attachNew Attachments.create
      rw [created]
      exact attaches_nothing rfl (Nat.le_refl _) rfl rfl
  | ok definition =>
      let made : Attachments η β := (p.attachments.make definition).1
      let plugin : Plugin η β := ⟨definition, p.attachments.made.size⟩
      have attached : p.attachNew name options = attach { p with attachments := made } plugin := by
        unfold attachNew Attachments.create
        rw [created]
        rfl
      have size : p.attachments.made.size ≤ made.made.size := by
        simp only [made, Attachments.make, Array.size_push]
        exact Nat.le_succ _
      rcases attach_eq { p with attachments := made } plugin with ⟨registered, hook⟩
      rw [attached, registered, hook]
      exact ⟨rfl, size, added_register rfl plugin, Or.inl rfl⟩

/-- Whether a request asks for a plugin to be attached. -/
def asksForPlugin : Request η β κ → Bool
  | .attach _ | .attachNamed _ | .attachNew .. => true
  | _ => false

/-- A request that does not ask for a plugin attaches nothing. -/
theorem attachments_serve_of_other (p : Processor η β κ) {request : Request η β κ}
    (other : asksForPlugin request = false) :
    (p.serve request).1.attachments = p.attachments ∧ (p.serve request).2.hook? = none := by
  cases request with
  | build text => exact ⟨rfl, rfl⟩
  | process text => exact ⟨rfl, rfl⟩
  | parse text callback => cases callback <;> exact ⟨rfl, rfl⟩
  | run tree callback =>
      cases callback with
      | none => exact ⟨rfl, rfl⟩
      | some callback => exact attachments_drive _ _ _ _
  | processTree tree => exact attachments_drive _ _ _ _
  | drop continuation => exact ⟨rfl, rfl⟩
  | signal continuation signal =>
      simp only [serve, call]
      split
      · exact attachments_drive _ _ _ _
      · exact ⟨rfl, rfl⟩
  | parsed result =>
      simp only [serve]
      split
      · exact attachments_build _ _ _
      · exact ⟨rfl, rfl⟩
  | returned result => exact attachments_leave p result
  | attach plugin => cases other
  | attachNamed name => cases other
  | attachNew name options => cases other

/-- What serving a request attaches. -/
theorem attaches_serve (p : Processor η β κ) (request : Request η β κ) :
    Attaches p.attachments (p.serve request).1.attachments (p.serve request).2.hook? := by
  cases asked : asksForPlugin request with
  | false =>
      rcases attachments_serve_of_other p asked with ⟨same, none⟩
      rw [same, none]
      exact attaches_nothing rfl (Nat.le_refl _) rfl rfl
  | true =>
      cases request with
      | attachNamed name => exact attaches_named p name
      | attachNew name options => exact attaches_new p name options
      | attach plugin =>
          rcases attach_eq p plugin with ⟨registered, hook⟩
          simp only [serve]
          rw [registered, hook]
          exact ⟨rfl, Nat.le_refl _, added_register rfl plugin, Or.inl rfl⟩
      | _ => cases asked

/-! ## What a history attaches -/

/-- The plugin whose hook an act starts. -/
def hooked (p : Processor η β κ) : Act η β κ → Option (Plugin η β)
  | .request request => (p.serve request).2.hook?
  | _ => none

/-- The plugins whose hooks a history starts, in order. -/
def hooks (p : Processor η β κ) : List (Act η β κ) → List (Plugin η β)
  | [] => []
  | act :: rest => (p.hooked act).toList ++ (p.act act).hooks rest

theorem after_append (p : Processor η β κ) (acts more : List (Act η β κ)) :
    p.after (acts ++ more) = (p.after acts).after more := List.foldl_append

theorem attaches_act (p : Processor η β κ) (act : Act η β κ) :
    Attaches p.attachments (p.act act).attachments (p.hooked act) := by
  cases act with
  | request request => exact attaches_serve p request
  | edit store => exact attaches_nothing rfl (Nat.le_refl _) rfl rfl
  | define definition =>
      refine attaches_nothing rfl ?_ rfl rfl
      simp only [Processor.act, Attachments.make, Array.size_push]
      exact Nat.le_succ _

theorem enrolled_after {p : Processor η β κ} {hooks : List (Plugin η β)}
    (enrolled : Enrolled p.attachments hooks) (acts : List (Act η β κ)) :
    Enrolled (p.after acts).attachments (hooks ++ p.hooks acts) := by
  induction acts generalizing p hooks with
  | nil =>
      rw [Processor.hooks, List.append_nil]
      exact enrolled
  | cons act rest inductionHypothesis =>
      rw [Processor.hooks, ← List.append_assoc]
      exact inductionHypothesis (enrolled.step (p.attaches_act act))

theorem catalog_after (p : Processor η β κ) (acts : List (Act η β κ)) :
    (p.after acts).attachments.catalog = p.attachments.catalog := by
  induction acts generalizing p with
  | nil => rfl
  | cons act rest inductionHypothesis =>
      exact (inductionHypothesis (p.act act)).trans (p.attaches_act act).catalog_eq

theorem registry_after_grows (p : Processor η β κ) (acts : List (Act η β κ)) :
    p.attachments.registry.plugins <+: (p.after acts).attachments.registry.plugins := by
  induction acts generalizing p with
  | nil => exact List.prefix_refl _
  | cons act rest inductionHypothesis =>
      exact (p.attaches_act act).registry_grows.trans (inductionHypothesis (p.act act))

theorem lookup_after {p : Processor η β κ} {name : String} {id : Nat}
    (found : p.attachments.named.lookup name = some id) (acts : List (Act η β κ)) :
    (p.after acts).attachments.named.lookup name = some id := by
  induction acts generalizing p with
  | nil => exact found
  | cons act rest inductionHypothesis =>
      exact inductionHypothesis ((p.attaches_act act).lookup_eq found)

/-- A name that has been asked for has been resolved, if the catalog makes a plugin for it. -/
theorem resolved_after {p : Processor η β κ} {name : String} {definition : Definition η β}
    (created : p.attachments.catalog.createDefault name = .ok definition) {acts : List (Act η β κ)}
    (asked : .request (.attachNamed name) ∈ acts) :
    ∃ id, (p.after acts).attachments.named.lookup name = some id := by
  rcases List.append_of_mem asked with ⟨before, later, rfl⟩
  have created' : (p.after before).attachments.catalog.createDefault name = .ok definition := by
    rw [catalog_after, created]
  have found : ∃ id,
      ((p.after before).act (.request (.attachNamed name))).attachments.named.lookup name = some id := by
    cases known : (p.after before).attachments.named.lookup name with
    | some id => exact ⟨id, ((p.after before).attaches_act _).lookup_eq known⟩
    | none => exact ⟨_, (attaches_new_name known created').2⟩
  rcases found with ⟨id, found⟩
  rw [after_append]
  exact ⟨id, lookup_after found later⟩

/-- A name that has been resolved is asked for without any effect. -/
theorem attachNamed_again {p : Processor η β κ} {hooks : List (Plugin η β)} {name : String} {id : Nat}
    (enrolled : Enrolled p.attachments hooks) (found : p.attachments.named.lookup name = some id) :
    p.serve (.attachNamed name) = (p, .reply (.ok .done)) := by
  rcases enrolled.named name id found with ⟨bound, present⟩
  have resolved : p.attachments.resolve name = .ok (p.attachments, id) := by
    rw [Attachments.resolve, found]
  have made : p.attachments.plugin? id = some ⟨p.attachments.made[id], id⟩ := by
    rw [Attachments.plugin?, Array.getElem?_eq_getElem bound]
    rfl
  simp only [serve, attachNamed, resolved, made, attach]
  rw [if_pos present]
  rfl

/-! ## Attaching is steady -/

/-- What holds of the plugins of a processor after a history: which ones are registered, which hooks have
been started, and which names stand for plugins. -/
structure Steady (p : Processor η β κ) (acts : List (Act η β κ)) : Prop where
  distinct : ((p.after acts).attachments.registry.plugins.map fun plugin => plugin.id).Nodup
  /-- Nothing is removed, moved or replaced later on. -/
  kept : ∀ more, (p.after acts).attachments.registry.plugins <+:
    (p.after (acts ++ more)).attachments.registry.plugins
  /-- The hooks that have been started are those of the registered plugins, in the same order. -/
  hooks_eq : p.hooks acts =
    (p.after acts).attachments.registry.plugins.filter fun plugin => plugin.hasHook
  once : ∀ plugin ∈ (p.after acts).attachments.registry.plugins, plugin.hasHook = true →
    ((p.hooks acts).map fun plugin => plugin.id).count plugin.id = 1
  never : ∀ id, (p.after acts).attachments.has id = false →
    ((p.hooks acts).map fun plugin => plugin.id).count id = 0
  named : ∀ name id, (p.after acts).attachments.named.lookup name = some id →
    (p.after acts).attachments.has id = true
  /-- A name that has been asked for by anybody is resolved, unless the catalog makes no plugin for it. -/
  resolved : ∀ name definition, .request (.attachNamed name) ∈ acts →
    p.attachments.catalog.createDefault name = .ok definition →
      ∃ id, (p.after acts).attachments.named.lookup name = some id
  again : ∀ name id, (p.after acts).attachments.named.lookup name = some id →
    (p.after acts).serve (.attachNamed name) = (p.after acts, .reply (.ok .done))

/-- After every history of a processor that starts with nothing attached, its plugins are as they should
be. -/
theorem steady_after (model : Model) (store : Store) (catalog : Catalog η β) (acts : List (Act η β κ)) :
    Steady (fresh model store (.empty catalog)) acts := by
  have enrolled := enrolled_after (p := (fresh model store (.empty catalog) : Processor η β κ))
    (enrolled_empty catalog) acts
  rw [List.nil_append] at enrolled
  generalize (fresh model store (.empty catalog) : Processor η β κ) = p at enrolled
  have started : ((p.hooks acts).map fun plugin => plugin.id).Nodup := by
    rw [enrolled.hooks_eq]
    exact enrolled.distinct.sublist (List.filter_sublist.map _)
  constructor
  case distinct => exact enrolled.distinct
  case hooks_eq => exact enrolled.hooks_eq
  case named => exact fun name id found => (enrolled.named name id found).2
  case resolved => exact fun name definition asked created => resolved_after created asked
  case again => exact fun name id found => attachNamed_again enrolled found
  case kept =>
    intro more
    rw [after_append]
    exact registry_after_grows _ more
  case once =>
    intro plugin member hooked
    refine List.count_eq_one_of_mem started (List.mem_map_of_mem ?_)
    rw [enrolled.hooks_eq]
    exact List.mem_filter.mpr ⟨member, hooked⟩
  case never =>
    intro id absent
    rw [List.count_eq_zero, enrolled.hooks_eq]
    intro member
    rcases List.mem_map.mp member with ⟨plugin, inside, rfl⟩
    have present := Attachments.has_eq_true.mpr (List.mem_map_of_mem (List.mem_filter.mp inside).1)
    rw [present] at absent
    cases absent

end Processor
end Prose
