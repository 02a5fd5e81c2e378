import Prose.Plugin.Basic

namespace Prose

/-!
# Registries

A registry lists plugins in the order in which they were attached.  No plugin is listed twice, and none
is ever taken out.
-/

/-- The attached plugins, the first one in front. -/
structure Registry (η β : Type) where
  plugins : List (Plugin η β)

namespace Registry

variable {η β : Type}

def empty : Registry η β := ⟨[]⟩

def has (registry : Registry η β) (id : Nat) : Bool := registry.plugins.any fun p => p.id == id

def contains (registry : Registry η β) (plugin : Plugin η β) : Bool := registry.has plugin.id

/-- Put a plugin at the end, unless it is attached already. -/
def push (registry : Registry η β) (plugin : Plugin η β) : Registry η β :=
  if registry.contains plugin then registry else ⟨registry.plugins ++ [plugin]⟩

def names (registry : Registry η β) : List String := registry.plugins.map fun p => p.name

def describe (registry : Registry η β) : String :=
  Text.described "PluginRegistry"
    [("plugins", Text.listed (registry.plugins.map fun p => p.describe))]

theorem has_push (registry : Registry η β) (plugin : Plugin η β) (id : Nat) :
    (registry.push plugin).has id = (registry.has id || plugin.id == id) := by
  unfold push
  split
  · rename_i present
    rw [Bool.eq_iff_iff, Bool.or_eq_true]
    constructor
    · exact Or.inl
    · rintro (old | same)
      · exact old
      · rw [← eq_of_beq same]
        exact present
  · simp [has, List.any_append]

end Registry
end Prose
