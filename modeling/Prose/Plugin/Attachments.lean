import Prose.Model
import Prose.Plugin.Catalog
import Prose.Plugin.Registry
import Prose.Plugin.Stock

namespace Prose

/-!
# Attaching plugins

The plugins made so far, those attached, and which of them stands for a name.  A name is resolved once:
the plugin made for it then is used ever after.

Attaching a plugin registers it and then runs its hook.  A plugin stays registered if its hook fails,
and a hook never runs twice.  Where hooks are lists of needs, attaching is one walk over an agenda:
the needs of a plugin come before those that were waiting, and the first failure ends the walk.
-/

/-- The plugins of a processor. -/
structure Attachments (η β : Type) where
  catalog : Catalog η β
  /-- All plugins made, each at the place of its number. -/
  made : Array (Definition η β)
  registry : Registry η β
  /-- The number of the plugin that a resolved name stands for. -/
  named : List (String × Nat)

namespace Attachments

variable {η β : Type}

def empty (catalog : Catalog η β) : Attachments η β := ⟨catalog, #[], Registry.empty, []⟩

def plugin? (a : Attachments η β) (id : Nat) : Option (Plugin η β) :=
  a.made[id]?.map fun definition => ⟨definition, id⟩

def make (a : Attachments η β) (definition : Definition η β) : Attachments η β × Plugin η β :=
  ({ a with made := a.made.push definition }, ⟨definition, a.made.size⟩)

def create (a : Attachments η β) (name : String) (options : Json.Fields) :
    Except Error (Attachments η β × Plugin η β) :=
  (a.catalog.create name options).map a.make

/-- The plugin that a name stands for.  It is made when the name is first resolved. -/
def resolve (a : Attachments η β) (name : String) : Except Error (Attachments η β × Nat) :=
  match a.named.lookup name with
  | some id => .ok (a, id)
  | none =>
    match a.catalog.createDefault name with
    | .error error => .error error
    | .ok definition =>
      let (a, plugin) := a.make definition
      .ok ({ a with named := (name, plugin.id) :: a.named }, plugin.id)

def register (a : Attachments η β) (plugin : Plugin η β) : Attachments η β :=
  { a with registry := a.registry.push plugin }

def has (a : Attachments η β) (id : Nat) : Bool := a.registry.has id

def names (a : Attachments η β) : List String := a.registry.names

/-! ## What is left to attach -/

/-- How many names of the catalog have not been resolved. -/
def unresolved (a : Attachments η β) : Nat :=
  a.catalog.entries.countP fun entry => (a.named.lookup entry.name).isNone

/-- How many of the plugins made are not attached. -/
def unattached (a : Attachments η β) : Nat :=
  (List.range a.made.size).countP fun id => !a.has id

/-- A bound on how often something can still be resolved or attached.  A name that is resolved makes a
plugin that may be attached later, so it counts twice. -/
def pending (a : Attachments η β) : Nat := 2 * a.unresolved + a.unattached

/-- A weaker test that one more member passes is passed more often. -/
theorem countP_lt_countP {α : Type} {p q : α → Bool} {l : List α} (x : α) (member : x ∈ l)
    (weaker : ∀ y, p y = true → q y = true) (no : p x = false) (yes : q x = true) :
    l.countP p < l.countP q := by
  induction l with
  | nil => simp at member
  | cons y rest ih =>
    have all : rest.countP p ≤ rest.countP q := List.countP_mono_left fun z _ => weaker z
    rw [List.countP_cons, List.countP_cons]
    rcases List.mem_cons.mp member with rfl | inside
    · simp only [no, yes, Bool.false_eq_true, if_false, if_true]
      omega
    · have := ih inside
      have here : (if p y = true then 1 else 0) ≤ if q y = true then 1 else 0 := by
        by_cases h : p y = true
        · simp [h, weaker y h]
        · simp [h]
      omega

theorem unattached_register_lt {a : Attachments η β} {plugin : Plugin η β}
    (made : plugin.id < a.made.size) (new : a.has plugin.id = false) :
    (a.register plugin).unattached < a.unattached := by
  refine countP_lt_countP plugin.id (List.mem_range.mpr made) ?_ ?_ ?_
  · intro id
    simp only [register, has, Registry.has_push, Bool.not_or, Bool.and_eq_true]
    exact And.left
  · simp [register, has, Registry.has_push]
  · simp [new]

theorem pending_register_lt {a : Attachments η β} {plugin : Plugin η β}
    (made : plugin.id < a.made.size) (new : a.has plugin.id = false) :
    (a.register plugin).pending < a.pending := by
  have := unattached_register_lt made new
  simp only [pending]
  have same : (a.register plugin).unresolved = a.unresolved := rfl
  omega

theorem lt_size_of_plugin? {a : Attachments η β} {id : Nat} {plugin : Plugin η β}
    (found : a.plugin? id = some plugin) : plugin.id < a.made.size ∧ plugin.id = id := by
  simp only [plugin?, Option.map_eq_some_iff] at found
  obtain ⟨definition, there, rfl⟩ := found
  exact ⟨(Array.getElem?_eq_some_iff.mp there).1, rfl⟩

theorem unattached_make_le (a : Attachments η β) (definition : Definition η β) :
    (a.make definition).1.unattached ≤ a.unattached + 1 := by
  simp only [unattached, make, Array.size_push, List.range_succ, List.countP_append, has]
  have : List.countP (fun id => !a.registry.has id) [a.made.size] ≤ 1 :=
    List.countP_le_length
  omega

theorem pending_resolve_le {a b : Attachments η β} {name : String} {id : Nat}
    (resolved : a.resolve name = .ok (b, id)) : b.pending ≤ a.pending := by
  unfold resolve at resolved
  split at resolved
  · injection resolved with pair
    injection pair with same
    exact same ▸ Nat.le_refl _
  · rename_i unknown
    split at resolved
    · contradiction
    · rename_i definition created
      injection resolved with pair
      injection pair with same
      rw [← same]
      have entry : ∃ entry ∈ a.catalog.entries, entry.name = name := by
        unfold Catalog.createDefault Catalog.create at created
        split at created
        · rename_i entry found
          exact ⟨entry, List.mem_of_find?_eq_some found, by
            simpa using List.find?_some found⟩
        · contradiction
      obtain ⟨entry, member, named⟩ := entry
      have fewer : ({ (a.make definition).1 with
            named := (name, (a.make definition).2.id) :: a.named } : Attachments η β).unresolved <
          a.unresolved := by
        refine countP_lt_countP entry member ?_ ?_ ?_
        · intro other
          simp only [List.lookup_cons]
          split
          · simp
          · exact fun left => left
        · simp [named]
        · simp [named, unknown]
      have more := unattached_make_le a definition
      simp only [pending]
      have same : ({ (a.make definition).1 with
            named := (name, (a.make definition).2.id) :: a.named } : Attachments η β).unattached =
          (a.make definition).1.unattached := rfl
      simp only [make] at *
      omega

/-! ## Hooks that are lists of needs -/

open Stock (Need)

/-- What a need asks for: a plugin to attach, or nothing once it is met.  A name is resolved. -/
def target (model : Model) (a : Attachments (List Need) β) :
    Need → Except Error (Attachments (List Need) β × Option Nat)
  | .plugin id => .ok (a, some id)
  | .named name => (a.resolve name).map fun (a, id) => (a, some id)
  | .nodeType asker name =>
    if model.contains name then .ok (a, none)
    else .error (.invalidPlugin (asker ++ " needs a model with `" ++ name ++ "`"))

theorem pending_target_le {model : Model} {a b : Attachments (List Need) β} {need : Need}
    {id : Option Nat} (found : a.target model need = .ok (b, id)) : b.pending ≤ a.pending := by
  cases need with
  | plugin id =>
    injection found with pair
    injection pair with same
    exact same ▸ Nat.le_refl _
  | named name =>
    simp only [target] at found
    cases resolved : a.resolve name with
    | error error => rw [resolved] at found; contradiction
    | ok pair =>
      rw [resolved] at found
      injection found with pair'
      injection pair' with same
      rw [← same]
      exact pending_resolve_le (b := pair.1) resolved
  | nodeType asker name =>
    simp only [target] at found
    split at found
    · injection found with pair
      injection pair with same
      exact same ▸ Nat.le_refl _
    · contradiction

/-- Meet the needs of an agenda from its front.  A plugin that is not yet attached is registered, and
its own needs are met next.  At a failure what has been attached stays. -/
def satisfy (model : Model) (a : Attachments (List Need) β) (agenda : List Need) :
    Attachments (List Need) β × Except Error Unit :=
  match agenda with
  | [] => (a, .ok ())
  | need :: rest =>
    match found : a.target model need with
    | .error error => (a, .error error)
    | .ok (b, none) =>
      have := pending_target_le found
      satisfy model b rest
    | .ok (b, some id) =>
      have := pending_target_le found
      match made : b.plugin? id with
      | none => satisfy model b rest
      | some plugin =>
        if attached : b.has plugin.id = true then satisfy model b rest
        else
          have := pending_register_lt (lt_size_of_plugin? made).1 (Bool.eq_false_iff.mpr attached)
          satisfy model (b.register plugin) (plugin.hook.getD [] ++ rest)
termination_by (a.pending, agenda.length)
decreasing_by
  all_goals
    rw [Prod.lex_def]
    simp only [List.length_cons]
    omega

def attach (model : Model) (a : Attachments (List Need) β) (id : Nat) :
    Attachments (List Need) β × Except Error Unit :=
  a.satisfy model [.plugin id]

def attachNamed (model : Model) (a : Attachments (List Need) β) (name : String) :
    Attachments (List Need) β × Except Error Unit :=
  a.satisfy model [.named name]

/-- Attach a new plugin, made by name with options. -/
def attachNew (model : Model) (a : Attachments (List Need) β) (name : String)
    (options : Json.Fields) : Attachments (List Need) β × Except Error Unit :=
  match a.create name options with
  | .error error => (a, .error error)
  | .ok (b, plugin) => b.attach model plugin.id

end Attachments
end Prose
