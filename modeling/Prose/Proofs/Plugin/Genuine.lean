import Prose.Plugin.Attachments

namespace Prose
namespace Attachments

/-!
# Genuine plugins

A number belongs to one plugin for good, since what has been made stays.  So it is enough to know that
registered plugins have been made to tell them by their numbers, and that a name stands for a plugin that
the catalog has made for it to tell what that plugin does.
-/

variable {η β : Type} {a b : Attachments η β} {plugin : Plugin η β} {name : String} {id : Nat}

/-! ## What has been made -/

theorem plugin?_of_lt (bound : id < a.made.size) : a.plugin? id = some ⟨a.made[id], id⟩ := by
  rw [plugin?, Array.getElem?_eq_getElem bound]
  rfl

theorem lt_of_plugin? (made : a.plugin? id = some plugin) : id < a.made.size := by
  have bound := lt_size_of_plugin? made
  exact bound.2 ▸ bound.1

theorem plugin?_make (a : Attachments η β) (definition : Definition η β) (id : Nat) :
    (a.make definition).1.plugin? id =
      if id = a.made.size then some ⟨definition, id⟩ else a.plugin? id := by
  rw [plugin?, make, Array.getElem?_push]
  split <;> rfl

/-- What has been made stays. -/
theorem plugin?_make_of_some (made : a.plugin? id = some plugin) (definition : Definition η β) :
    (a.make definition).1.plugin? id = some plugin := by
  rw [plugin?_make, if_neg (Nat.ne_of_lt (lt_of_plugin? made)), made]

theorem eq_of_plugin?_make {definition : Definition η β}
    (made : (a.make definition).1.plugin? id = some plugin) :
    plugin = ⟨definition, a.made.size⟩ ∨ a.plugin? id = some plugin := by
  rw [plugin?_make] at made
  split at made
  · rename_i last
    rw [last] at made
    exact Or.inl (Option.some.inj made).symm
  · exact Or.inr made

/-! ## What is registered and resolved -/

/-- What is registered has been made, and what a name stands for has been made for it by the catalog. -/
structure Genuine (a : Attachments η β) : Prop where
  registered : ∀ plugin ∈ a.registry.plugins, a.plugin? plugin.id = some plugin
  named : ∀ name id, a.named.lookup name = some id →
    ∃ plugin, a.plugin? id = some plugin ∧ a.catalog.createDefault name = .ok plugin.toDefinition

theorem genuine_empty (catalog : Catalog η β) : (empty catalog).Genuine where
  registered _ member := by cases member
  named _ _ found := by cases found

theorem Genuine.make (genuine : a.Genuine) (definition : Definition η β) :
    (a.make definition).1.Genuine where
  registered plugin member := plugin?_make_of_some (genuine.registered plugin member) definition
  named name id found := by
    rcases genuine.named name id found with ⟨plugin, made, created⟩
    exact ⟨plugin, plugin?_make_of_some made definition, created⟩

/-- A plugin that has been made may be registered. -/
theorem Genuine.register (genuine : a.Genuine) (made : a.plugin? plugin.id = some plugin) :
    (a.register plugin).Genuine where
  named := genuine.named
  registered other member := by
    rw [Attachments.register, Registry.push] at member
    split at member
    · exact genuine.registered other member
    · rcases List.mem_append.mp member with old | new
      · exact genuine.registered other old
      · cases List.mem_singleton.mp new
        exact made

/-- A name is resolved to a plugin that the catalog has made for it. -/
theorem Genuine.resolve (genuine : a.Genuine) (resolved : a.resolve name = .ok (b, id)) :
    b.Genuine ∧ ∃ plugin, b.plugin? id = some plugin ∧
      a.catalog.createDefault name = .ok plugin.toDefinition := by
  rw [Attachments.resolve] at resolved
  cases known : a.named.lookup name with
  | some number =>
      rw [known] at resolved
      cases resolved
      exact ⟨genuine, genuine.named name id known⟩
  | none =>
      cases created : a.catalog.createDefault name with
      | error error =>
          rw [known, created] at resolved
          cases resolved
      | ok definition =>
          rw [known, created] at resolved
          cases resolved
          have here : (a.make definition).1.plugin? a.made.size = some ⟨definition, a.made.size⟩ :=
            (plugin?_make a definition a.made.size).trans (if_pos rfl)
          refine ⟨⟨(genuine.make definition).registered, fun other number found => ?_⟩,
            ⟨definition, a.made.size⟩, here, rfl⟩
          rw [List.lookup_cons] at found
          split at found
          · rename_i same
            cases found
            exact ⟨⟨definition, a.made.size⟩, here, by rw [eq_of_beq same]; exact created⟩
          · exact (genuine.make definition).named other number found

/-- A name for which the catalog makes a plugin is resolved. -/
theorem exists_resolve {definition : Definition η β}
    (created : a.catalog.createDefault name = .ok definition) :
    ∃ b id, a.resolve name = .ok (b, id) := by
  cases known : a.named.lookup name with
  | some id => exact ⟨a, id, by rw [Attachments.resolve, known]⟩
  | none => exact ⟨_, _, by rw [Attachments.resolve, known, created]⟩

end Attachments
end Prose
