import Prose.Proofs.Plugin.Genuine
import Prose.Proofs.Plugin.Preorder

namespace Prose
namespace Attachments

/-!
# Dependencies

The needs of hooks make a graph of plugins: each plugin leads to those that its hook asks for, in this
order.  A name that has been resolved leads to the plugin that it stands for, and one that has not been
resolved is a vertex of its own, for the plugin that the catalog will make.  So the graph is known before
anything is attached, whatever numbers the plugins get that are still to be made.

A search through this graph may fail at a need.  What it has come upon by then is the front of the order
that it would have come to without the failure.
-/

open Stock (Need)

variable {β : Type}

/-- A plugin in the graph of dependencies: one that has been made, or the one that a name will stand
for. -/
inductive Vertex where
  | made (id : Nat)
  | named (name : String)
deriving DecidableEq

/-! ## The graph -/

/-- The vertex that a need leads to, if it asks for a plugin. -/
def lead (model : Model) (a : Attachments (List Need) β) : Need → Except Error (Option Vertex)
  | .plugin id => .ok (some (.made id))
  | .named name =>
    match a.named.lookup name with
    | some id => .ok (some (.made id))
    | none => (a.catalog.createDefault name).map fun _ => some (.named name)
  | .nodeType asker name =>
    if model.contains name then .ok none
    else .error (.invalidPlugin (asker ++ " needs a model with `" ++ name ++ "`"))

/-- The needs of the plugin at a vertex. -/
def needs (a : Attachments (List Need) β) : Vertex → List Need
  | .made id => ((a.plugin? id).bind fun plugin => plugin.hook).getD []
  | .named name => ((a.catalog.createDefault name).toOption.bind fun definition => definition.hook).getD []

/-- The vertices that some needs lead to.  Those that fail lead nowhere. -/
def leads (model : Model) (a : Attachments (List Need) β) (agenda : List Need) : List Vertex :=
  agenda.filterMap fun need => (a.lead model need).toOption.join

/-- The vertices that the needs of the plugin at a vertex lead to. -/
def edges (model : Model) (a : Attachments (List Need) β) (vertex : Vertex) : List Vertex :=
  a.leads model (a.needs vertex)

def registered (a : Attachments (List Need) β) : List Vertex :=
  a.registry.plugins.map fun plugin => .made plugin.id

/-- A search through the graph from the needs of an agenda, where some vertices have been seen.  It ends
with the agenda or at the first failure. -/
inductive Visits (model : Model) (a : Attachments (List Need) β) :
    List Vertex → List Need → List Vertex → Except Error Unit → Prop where
  | nil (seen : List Vertex) : Visits model a seen [] seen (.ok ())
  | failed {seen rest} {need : Need} {error : Error} (lead : a.lead model need = .error error) :
      Visits model a seen (need :: rest) seen (.error error)
  | met {seen rest out result} {need : Need} (lead : a.lead model need = .ok none)
      (further : Visits model a seen rest out result) : Visits model a seen (need :: rest) out result
  | known {seen rest out result vertex} {need : Need} (lead : a.lead model need = .ok (some vertex))
      (known : vertex ∈ seen) (further : Visits model a seen rest out result) :
      Visits model a seen (need :: rest) out result
  | new {seen rest mid out result vertex} {need : Need} (lead : a.lead model need = .ok (some vertex))
      (new : vertex ∉ seen) (inner : Visits model a (seen ++ [vertex]) (a.needs vertex) mid (.ok ()))
      (further : Visits model a mid rest out result) : Visits model a seen (need :: rest) out result
  | failedInside {seen rest mid vertex} {need : Need} {error : Error}
      (lead : a.lead model need = .ok (some vertex)) (new : vertex ∉ seen)
      (inner : Visits model a (seen ++ [vertex]) (a.needs vertex) mid (.error error)) :
      Visits model a seen (need :: rest) mid (.error error)

/-! ## Families of plugins -/

/-- All plugins that some needs ask for by number have been made. -/
def AllMade (a : Attachments (List Need) β) (agenda : List Need) : Prop :=
  ∀ id, .plugin id ∈ agenda → id < a.made.size

theorem allMade_named {a : Attachments (List Need) β} (name : String) : a.AllMade [.named name] := by
  intro id member
  cases List.mem_singleton.mp member

/-- The family of plugins is given: what is registered, resolved or asked for by number has been made, by
the catalog or before. -/
structure Given (a : Attachments (List Need) β) : Prop where
  distinct : (a.registry.plugins.map fun plugin => plugin.id).Nodup
  registered : ∀ plugin ∈ a.registry.plugins, a.plugin? plugin.id = some plugin
  named : ∀ name id, a.named.lookup name = some id → id < a.made.size
  hooks : ∀ id plugin, a.plugin? id = some plugin → a.AllMade (plugin.hook.getD [])
  created : ∀ name options definition, a.catalog.create name options = .ok definition →
    a.AllMade (definition.hook.getD [])

variable {model : Model} {a c d : Attachments (List Need) β} {seen out : List Vertex}
  {agenda : List Need} {need : Need} {vertex other : Vertex} {plugin : Plugin (List Need) β}
  {result : Except Error Unit}

def vertices (a : Attachments (List Need) β) : List Vertex :=
  (List.range a.made.size).map .made ++ a.catalog.entries.map fun entry => .named entry.name

theorem made_mem_vertices {id : Nat} (bound : id < a.made.size) : .made id ∈ a.vertices :=
  List.mem_append_left _ (List.mem_map_of_mem (List.mem_range.mpr bound))

theorem named_mem_vertices {name : String} {definition : Definition (List Need) β}
    (created : a.catalog.createDefault name = .ok definition) : .named name ∈ a.vertices := by
  unfold Catalog.createDefault Catalog.create at created
  split at created
  · rename_i entry found
    have matched := List.find?_some found
    have same : entry.name = name := of_decide_eq_true matched
    refine List.mem_append_right _ (List.mem_map.mpr ⟨entry, List.mem_of_find?_eq_some found, ?_⟩)
    rw [same]
  · cases created

theorem mem_leads : vertex ∈ a.leads model agenda ↔
    ∃ need ∈ agenda, a.lead model need = .ok (some vertex) := by
  rw [leads, List.mem_filterMap]
  refine exists_congr fun need => and_congr_right fun _ => ?_
  cases a.lead model need with
  | error error => exact iff_of_false nofun nofun
  | ok target => cases target <;> simp [Except.toOption]

theorem Given.mem_vertices (given : Given a) (made : a.AllMade agenda)
    (member : vertex ∈ a.leads model agenda) : vertex ∈ a.vertices := by
  rcases mem_leads.mp member with ⟨need, inside, lead⟩
  cases need with
  | plugin id =>
      cases lead
      exact made_mem_vertices (made id inside)
  | nodeType asker name =>
      rw [Attachments.lead] at lead
      split at lead <;> cases lead
  | named name =>
      rw [Attachments.lead] at lead
      split at lead
      · rename_i id found
        cases lead
        exact made_mem_vertices (given.named name id found)
      · cases created : a.catalog.createDefault name with
        | error error => rw [created] at lead; cases lead
        | ok definition =>
            rw [created] at lead
            cases lead
            exact named_mem_vertices created

theorem Given.needs_made (given : Given a) (vertex : Vertex) : a.AllMade (a.needs vertex) := by
  intro id member
  cases vertex with
  | made number =>
      cases there : a.plugin? number with
      | none => rw [needs, there] at member; cases member
      | some plugin =>
          rw [needs, there] at member
          exact given.hooks number plugin there id member
  | named name =>
      cases created : a.catalog.createDefault name with
      | error error => rw [needs, created] at member; cases member
      | ok definition =>
          rw [needs, created] at member
          exact given.created name [] definition created id member

/-- A family is given before any of it is attached. -/
theorem given_fresh {catalog : Catalog (List Need) β} {made : Array (Definition (List Need) β)}
    (hooks : ∀ definition ∈ made, ∀ id, .plugin id ∈ definition.hook.getD [] → id < made.size)
    (created : ∀ entry ∈ catalog.entries, ∀ options definition, entry.factory options = .ok definition →
      ∀ id, .plugin id ∈ definition.hook.getD [] → id < made.size) :
    Given ⟨catalog, made, .empty, []⟩ := by
  constructor
  case distinct => exact List.nodup_nil
  case registered => exact nofun
  case named => exact nofun
  case hooks =>
    intro id plugin there
    rcases Option.map_eq_some_iff.mp there with ⟨definition, found, rfl⟩
    exact hooks definition (Array.mem_of_getElem? found)
  case created =>
    intro name options definition found
    simp only [Catalog.create, Catalog.find?] at found
    split at found
    · rename_i entry first
      exact created entry (List.mem_of_find?_eq_some first) options definition found
    · cases found

/-- The family stays given when the catalog makes another plugin. -/
theorem Given.make (given : Given a) {name : String} {options : Json.Fields}
    {definition : Definition (List Need) β} (created : a.catalog.create name options = .ok definition) :
    Given (a.make definition).1 := by
  have grows : a.made.size ≤ (a.make definition).1.made.size := by
    rw [Attachments.make, Array.size_push]
    exact Nat.le_succ _
  have wider : ∀ {agenda}, a.AllMade agenda → (a.make definition).1.AllMade agenda :=
    fun made id member => Nat.lt_of_lt_of_le (made id member) grows
  constructor
  case distinct => exact given.distinct
  case registered =>
    exact fun plugin member => plugin?_make_of_some (given.registered plugin member) definition
  case named => exact fun name id found => Nat.lt_of_lt_of_le (given.named name id found) grows
  case hooks =>
    intro id plugin made
    rcases eq_of_plugin?_make made with rfl | old
    · exact wider (given.created name options definition created)
    · exact wider (given.hooks id plugin old)
  case created =>
    exact fun name options definition created => wider (given.created name options definition created)

/-- A search through the graph of a family comes to its end. -/
theorem Given.exists_preorder (given : Given a) (model : Model) (made : a.AllMade agenda)
    (seen : List Vertex) : ∃ out, Preorder (a.edges model) seen (a.leads model agenda) out :=
  Preorder.exists_of_finite
    (fun vertex _ edge => given.mem_vertices (given.needs_made vertex) edge) seen _
    fun _ member => given.mem_vertices made member

/-! ## Searches that may fail -/

theorem AllMade.tail (made : a.AllMade (need :: agenda)) : a.AllMade agenda :=
  fun id member => made id (List.mem_cons_of_mem _ member)

theorem leads_cons_of_none (lead : (a.lead model need).toOption.join = none) (agenda : List Need) :
    a.leads model (need :: agenda) = a.leads model agenda := by
  rw [leads, leads, List.filterMap_cons, lead]

theorem leads_cons_of_some (lead : a.lead model need = .ok (some vertex)) (agenda : List Need) :
    a.leads model (need :: agenda) = vertex :: a.leads model agenda := by
  rw [leads, leads, List.filterMap_cons, lead]
  rfl

/-- A search that may fail comes upon the vertices in depth-first order, and upon all of them unless it
fails. -/
theorem Visits.preorder (given : Given a) (made : a.AllMade agenda)
    (visits : Visits model a seen agenda out result) :
    ∃ more, Preorder (a.edges model) seen (a.leads model agenda) (out ++ more) ∧
      (result = .ok () → more = []) := by
  -- What is left at a failure is searched as if there had been none.
  have onward : ∀ {seen : List Vertex} {agenda : List Need}, a.AllMade agenda →
      ∃ more, Preorder (a.edges model) seen (a.leads model agenda) (seen ++ more) := by
    intro seen agenda made
    rcases given.exists_preorder model made seen with ⟨out, order⟩
    rcases order.seen_grows with ⟨more, rfl⟩
    exact ⟨more, order⟩
  induction visits with
  | nil seen => exact ⟨[], by rw [List.append_nil]; exact .nil seen, fun _ => rfl⟩
  | failed lead =>
      rcases onward made.tail with ⟨more, order⟩
      rw [leads_cons_of_none (by rw [lead]; rfl)]
      exact ⟨more, order, nofun⟩
  | met lead _ inductionHypothesis =>
      rw [leads_cons_of_none (by rw [lead]; rfl)]
      exact inductionHypothesis made.tail
  | known lead known _ inductionHypothesis =>
      rcases inductionHypothesis made.tail with ⟨more, order, all⟩
      rw [leads_cons_of_some lead]
      exact ⟨more, .known known order, all⟩
  | new lead new _ _ inner further =>
      rcases inner (given.needs_made _) with ⟨none, before, all⟩
      rw [all rfl, List.append_nil] at before
      rcases further made.tail with ⟨more, order, all⟩
      rw [leads_cons_of_some lead]
      exact ⟨more, .new new before order, all⟩
  | failedInside lead new _ inner =>
      rcases inner (given.needs_made _) with ⟨first, before, _⟩
      rcases onward made.tail with ⟨second, order⟩
      rw [leads_cons_of_some lead]
      refine ⟨first ++ second, ?_, nofun⟩
      rw [← List.append_assoc]
      exact .new new before order

end Attachments
end Prose
