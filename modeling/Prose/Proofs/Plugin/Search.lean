import Mathlib.Data.List.Forall2
import Prose.Proofs.Plugin.Dependencies
import Prose.Proofs.Plugin.Satisfy

namespace Prose
namespace Attachments

/-!
# Attaching is a search

To meet the needs of an agenda is to search through the graph of dependencies, depth first.  The graph is
that of the attachments before the search: while it goes on, plugins are made for names, and the list of
registered plugins tells which vertices have been seen.
-/

open Stock (Need)

variable {β : Type} {model : Model} {a b c d : Attachments (List Need) β} {seen out order : List Vertex}
  {agenda : List Need} {need : Need} {vertex other : Vertex} {plugin : Plugin (List Need) β}
  {result : Except Error Unit}

/-! ## The plugins at the vertices -/

/-- The plugin at a vertex of the graph of `a`, once the attachments are `c`. -/
inductive StandsFor (a c : Attachments (List Need) β) : Vertex → Plugin (List Need) β → Prop where
  | made {id : Nat} {plugin : Plugin (List Need) β} (made : a.plugin? id = some plugin) :
      StandsFor a c (.made id) plugin
  | named {name : String} {plugin : Plugin (List Need) β} (unknown : a.named.lookup name = none)
      (created : a.catalog.createDefault name = .ok plugin.toDefinition)
      (found : c.named.lookup name = some plugin.id) : StandsFor a c (.named name) plugin

theorem StandsFor.needs_eq (stands : StandsFor a c vertex plugin) :
    a.needs vertex = plugin.hook.getD [] := by
  cases stands with
  | made made => rw [needs, made]; rfl
  | named unknown created found => rw [needs, created]; rfl

theorem StandsFor.mono (named : ∀ name id, c.named.lookup name = some id →
    d.named.lookup name = some id) (stands : StandsFor a c vertex plugin) :
    StandsFor a d vertex plugin := by
  cases stands with
  | made made => exact .made made
  | named unknown created found => exact .named unknown created (named _ _ found)

/-- The attachments `c` have come of `a` by attaching the plugins at some vertices.  What had been made
stays, and names that had not been resolved stand for new plugins, each name for another one. -/
structure Tracks (a c : Attachments (List Need) β) (seen : List Vertex) : Prop where
  catalog_eq : c.catalog = a.catalog
  size_le : a.made.size ≤ c.made.size
  made : ∀ id plugin, a.plugin? id = some plugin → c.plugin? id = some plugin
  kept : ∀ name id, a.named.lookup name = some id → c.named.lookup name = some id
  new : ∀ name id, a.named.lookup name = none → c.named.lookup name = some id →
    a.made.size ≤ id ∧ ∃ plugin, c.plugin? id = some plugin ∧
      a.catalog.createDefault name = .ok plugin.toDefinition
  injective : ∀ name other id, a.named.lookup name = none → a.named.lookup other = none →
    c.named.lookup name = some id → c.named.lookup other = some id → name = other
  hooks : ∀ id plugin, c.plugin? id = some plugin → a.AllMade (plugin.hook.getD [])
  grows : a.registry.plugins <+: c.registry.plugins
  registry : List.Forall₂ (StandsFor a c) seen c.registry.plugins

theorem Given.tracks (given : Given a) : Tracks a a a.registered where
  catalog_eq := rfl
  size_le := Nat.le_refl _
  made _ _ there := there
  kept _ _ found := found
  new name id unknown found := by rw [unknown] at found; cases found
  injective name _ id unknown _ found := by rw [unknown] at found; cases found
  hooks := given.hooks
  grows := List.prefix_refl _
  registry := by
    rw [Attachments.registered, List.forall₂_map_left_iff, List.forall₂_same]
    exact fun plugin member => .made (given.registered plugin member)

theorem Tracks.eq_of_id_eq (tracks : Tracks a c seen) {first second : Plugin (List Need) β}
    (left : StandsFor a c vertex first) (right : StandsFor a c other second)
    (same : first.id = second.id) : vertex = other := by
  have apart : ∀ {name : String} {id : Nat} {old new : Plugin (List Need) β},
      a.plugin? id = some old → a.named.lookup name = none → c.named.lookup name = some new.id →
      old.id ≠ new.id := by
    intro name id old new made unknown found same
    have bound := (lt_size_of_plugin? made).1
    have least := (tracks.new name new.id unknown found).1
    omega
  cases left with
  | made made =>
      cases right with
      | made made' => rw [← (lt_size_of_plugin? made).2, ← (lt_size_of_plugin? made').2, same]
      | named unknown created found => exact absurd same (apart made unknown found)
  | named unknown created found =>
      cases right with
      | made made => exact absurd same.symm (apart made unknown found)
      | named unknown' created' found' =>
          rw [tracks.injective _ _ _ unknown unknown' found (same ▸ found')]

theorem StandsFor.id_eq {first second : Plugin (List Need) β} (left : StandsFor a c vertex first)
    (right : StandsFor a c vertex second) : first.id = second.id := by
  cases left with
  | made made =>
      cases right with
      | made made' => rw [(lt_size_of_plugin? made).2, (lt_size_of_plugin? made').2]
  | named unknown created found =>
      cases right with
      | named unknown' created' found' =>
          rw [found] at found'
          exact Option.some.inj found'

theorem exists_stands_of_seen {plugins : List (Plugin (List Need) β)}
    (stands : List.Forall₂ (StandsFor a c) seen plugins) (member : vertex ∈ seen) :
    ∃ plugin ∈ plugins, StandsFor a c vertex plugin := by
  induction stands with
  | nil => cases member
  | cons first rest inductionHypothesis =>
      rcases List.mem_cons.mp member with rfl | further
      · exact ⟨_, List.mem_cons_self, first⟩
      · rcases inductionHypothesis further with ⟨plugin, inside, stands⟩
        exact ⟨plugin, List.mem_cons_of_mem _ inside, stands⟩

theorem exists_stands_of_registered {plugins : List (Plugin (List Need) β)}
    (stands : List.Forall₂ (StandsFor a c) seen plugins) (member : plugin ∈ plugins) :
    ∃ vertex ∈ seen, StandsFor a c vertex plugin := by
  induction stands with
  | nil => cases member
  | cons first rest inductionHypothesis =>
      rcases List.mem_cons.mp member with rfl | further
      · exact ⟨_, List.mem_cons_self, first⟩
      · rcases inductionHypothesis further with ⟨vertex, inside, stands⟩
        exact ⟨vertex, List.mem_cons_of_mem _ inside, stands⟩

/-- The vertices seen are those of the attached plugins. -/
theorem Tracks.mem_seen_iff (tracks : Tracks a c seen) (stands : StandsFor a c vertex plugin) :
    vertex ∈ seen ↔ c.has plugin.id = true := by
  have has : c.has plugin.id = true ↔ ∃ other ∈ c.registry.plugins, other.id = plugin.id := by
    simp [Attachments.has, Registry.has]
  rw [has]
  constructor
  · intro member
    rcases exists_stands_of_seen tracks.registry member with ⟨other, inside, stands'⟩
    exact ⟨other, inside, stands'.id_eq stands⟩
  · rintro ⟨other, inside, same⟩
    rcases exists_stands_of_registered tracks.registry inside with ⟨vertex', member, stands'⟩
    rw [← tracks.eq_of_id_eq stands' stands same]
    exact member

/-! ## Meeting needs is a search -/

/-- A plugin that is new is attached behind the others. -/
theorem Tracks.register (tracks : Tracks a c seen) (stands : StandsFor a c vertex plugin)
    (new : c.has plugin.id = false) : Tracks a (c.register plugin) (seen ++ [vertex]) := by
  have absent : c.registry.contains plugin = false := new
  have plugins : (c.register plugin).registry.plugins = c.registry.plugins ++ [plugin] := by
    rw [Attachments.register, Registry.push, if_neg (by rw [absent]; exact Bool.false_ne_true)]
  have same : ∀ {vertex plugin'}, StandsFor a c vertex plugin' →
      StandsFor a (c.register plugin) vertex plugin' := StandsFor.mono fun _ _ found => found
  exact {
    tracks with
    grows := plugins ▸ tracks.grows.trans (List.prefix_append _ _)
    registry := by
      rw [plugins]
      exact List.rel_append (tracks.registry.imp fun _ _ => same) (.cons (same stands) .nil) }

/-- The attachments with a plugin made for a name that has not been resolved. -/
def naming (c : Attachments (List Need) β) (name : String) (definition : Definition (List Need) β) :
    Attachments (List Need) β :=
  { (c.make definition).1 with named := (name, c.made.size) :: c.named }

theorem plugin?_naming (c : Attachments (List Need) β) (name : String)
    (definition : Definition (List Need) β) :
    (c.naming name definition).plugin? c.made.size = some ⟨definition, c.made.size⟩ :=
  (plugin?_make c definition c.made.size).trans (if_pos rfl)

theorem lookup_naming {name other : String} {definition : Definition (List Need) β} {id : Nat}
    (found : (c.naming name definition).named.lookup other = some id) :
    (other = name ∧ id = c.made.size) ∨ c.named.lookup other = some id := by
  rw [naming, List.lookup_cons] at found
  split at found
  · rename_i same
    exact Or.inl ⟨eq_of_beq same, (Option.some.inj found).symm⟩
  · exact Or.inr found

theorem lookup_naming_of_known {name other : String} {id : Nat} (unknown : c.named.lookup name = none)
    (found : c.named.lookup other = some id) (definition : Definition (List Need) β) :
    (c.naming name definition).named.lookup other = some id := by
  have different : other ≠ name := by
    rintro rfl
    rw [unknown] at found
    cases found
  rw [naming, List.lookup_cons, beq_eq_false_iff_ne.mpr different]
  exact found

theorem Tracks.lt_size {name : String} {id : Nat} (tracks : Tracks a c seen)
    (unknown : a.named.lookup name = none) (found : c.named.lookup name = some id) :
    id < c.made.size := by
  rcases (tracks.new name id unknown found).2 with ⟨plugin, there, _⟩
  exact lt_of_plugin? there

/-- Resolving a name for the first time attaches nothing. -/
theorem Tracks.naming {name : String} {definition : Definition (List Need) β} (given : Given a)
    (tracks : Tracks a c seen) (unknown : c.named.lookup name = none)
    (created : a.catalog.createDefault name = .ok definition) :
    Tracks a (c.naming name definition) seen := by
  have kept : ∀ other id, c.named.lookup other = some id →
      (c.naming name definition).named.lookup other = some id := fun other id found =>
    lookup_naming_of_known unknown found definition
  constructor
  case catalog_eq => exact tracks.catalog_eq
  case size_le =>
    have le := tracks.size_le
    simp only [Attachments.naming, make, Array.size_push]
    omega
  case made => exact fun id plugin there => plugin?_make_of_some (tracks.made id plugin there) definition
  case kept => exact fun other id found => kept other id (tracks.kept other id found)
  case grows => exact tracks.grows
  case registry => exact tracks.registry.imp fun _ _ => StandsFor.mono kept
  case hooks =>
    intro id plugin there
    rcases eq_of_plugin?_make there with rfl | old
    · exact given.created name [] definition created
    · exact tracks.hooks id plugin old
  case new =>
    intro other id missing found
    rcases lookup_naming found with ⟨rfl, rfl⟩ | found
    · exact ⟨tracks.size_le, _, plugin?_naming c other definition, created⟩
    · rcases tracks.new other id missing found with ⟨least, plugin, there, created⟩
      exact ⟨least, plugin, plugin?_make_of_some there definition, created⟩
  case injective =>
    intro first second id missing missing' found found'
    rcases lookup_naming found with ⟨rfl, rfl⟩ | old
    · rcases lookup_naming found' with ⟨rfl, _⟩ | old'
      · rfl
      · exact absurd (tracks.lt_size missing' old') (Nat.lt_irrefl _)
    · rcases lookup_naming found' with ⟨rfl, rfl⟩ | old'
      · exact absurd (tracks.lt_size missing old) (Nat.lt_irrefl _)
      · exact tracks.injective first second id missing missing' old old'

theorem target_of_known {name : String} {id : Nat} (model : Model)
    (known : c.named.lookup name = some id) : c.target model (.named name) = .ok (c, some id) := by
  rw [target, resolve, known]
  rfl

theorem target_of_new {name : String} {definition : Definition (List Need) β} (model : Model)
    (unknown : c.named.lookup name = none) (created : c.catalog.createDefault name = .ok definition) :
    c.target model (.named name) = .ok (c.naming name definition, some c.made.size) := by
  rw [target, resolve, unknown, created]
  rfl

theorem target_of_refused {name : String} {error : Error} (model : Model)
    (unknown : c.named.lookup name = none) (refused : c.catalog.createDefault name = .error error) :
    c.target model (.named name) = .error error := by
  rw [target, resolve, unknown, refused]
  rfl

/-- Where a need leads in the graph, and which plugin it asks for. -/
inductive Agrees (model : Model) (a c : Attachments (List Need) β) (seen : List Vertex) (need : Need) :
    Except Error (Attachments (List Need) β × Option Nat) → Prop where
  | failed {error : Error} (lead : a.lead model need = .error error) :
      Agrees model a c seen need (.error error)
  | met (lead : a.lead model need = .ok none) : Agrees model a c seen need (.ok (c, none))
  | found {d : Attachments (List Need) β} {vertex : Vertex} {plugin : Plugin (List Need) β}
      (lead : a.lead model need = .ok (some vertex)) (tracks : Tracks a d seen)
      (made : d.plugin? plugin.id = some plugin) (stands : StandsFor a d vertex plugin) :
      Agrees model a c seen need (.ok (d, some plugin.id))

theorem Tracks.agrees (model : Model) (given : Given a) (tracks : Tracks a c seen)
    (made : a.AllMade (need :: agenda)) : Agrees model a c seen need (c.target model need) := by
  have old : ∀ id, id < a.made.size → a.lead model need = .ok (some (.made id)) →
      Agrees model a c seen need (.ok (c, some id)) := by
    intro id bound lead
    have there := plugin?_of_lt bound
    exact .found lead tracks (tracks.made id _ there) (.made there)
  cases need with
  | plugin id => exact old id (made id List.mem_cons_self) rfl
  | nodeType asker name =>
      by_cases known : model.contains name = true
      · rw [target, if_pos known]
        exact .met (if_pos known)
      · rw [target, if_neg known]
        exact .failed (if_neg known)
  | named name =>
      cases resolved : a.named.lookup name with
      | some id =>
          rw [target_of_known model (tracks.kept name id resolved)]
          exact old id (given.named name id resolved) (by rw [lead, resolved])
      | none =>
          have lead : a.lead model (.named name) =
              (a.catalog.createDefault name).map fun _ => some (.named name) := by rw [lead, resolved]
          cases known : c.named.lookup name with
          | some id =>
              rcases tracks.new name id resolved known with ⟨_, plugin, there, created⟩
              have same := (lt_size_of_plugin? there).2
              rw [created] at lead
              rw [target_of_known model known, ← same]
              exact .found lead tracks (same ▸ there) (.named resolved created (same ▸ known))
          | none =>
              cases created : a.catalog.createDefault name with
              | error error =>
                  rw [created] at lead
                  rw [target_of_refused model known (tracks.catalog_eq ▸ created)]
                  exact .failed lead
              | ok definition =>
                  have stands : StandsFor a (c.naming name definition) (.named name)
                      ⟨definition, c.made.size⟩ := .named resolved created List.lookup_cons_self
                  rw [created] at lead
                  rw [target_of_new model known (tracks.catalog_eq ▸ created)]
                  exact .found lead (tracks.naming given known created)
                    (plugin?_naming c name definition) stands

/-- To meet the needs of an agenda is to search through the graph of dependencies. -/
theorem visits_satisfy (model : Model) (given : Given a) (tracks : Tracks a c seen)
    (made : a.AllMade agenda) :
    ∃ out, Visits model a seen agenda out (c.satisfy model agenda).2 ∧
      Tracks a (c.satisfy model agenda).1 out := by
  induction c, agenda using nested_induction model generalizing seen with
  | nil c =>
      rw [satisfy_nil]
      exact ⟨seen, .nil seen, tracks⟩
  | failed c need rest error failure =>
      have agrees := tracks.agrees model given made
      rw [failure] at agrees
      rw [satisfy_of_error failure]
      cases agrees with
      | failed lead => exact ⟨seen, .failed lead, tracks⟩
  | met c need rest b met inductionHypothesis =>
      have agrees := tracks.agrees model given made
      rw [met.satisfy_eq]
      cases met with
      | nothing found =>
          rw [found] at agrees
          cases agrees with
          | met lead =>
              rcases inductionHypothesis tracks made.tail with ⟨out, visits, tracks'⟩
              exact ⟨out, .met lead visits, tracks'⟩
      | absent found absent =>
          rw [found] at agrees
          cases agrees with
          | found lead tracks' there stands => rw [there] at absent; cases absent
      | attached found there attached =>
          rw [found] at agrees
          cases agrees with
          | found lead tracks' there' stands =>
              rw [there'] at there
              cases there
              rcases inductionHypothesis tracks' made.tail with ⟨out, visits, tracks''⟩
              exact ⟨out, .known lead ((tracks'.mem_seen_iff stands).mpr attached) visits, tracks''⟩
  | brings c need rest b plugin brings inner further =>
      have agrees := tracks.agrees model given made
      rw [brings.satisfy_eq]
      rcases brings with ⟨found, there, new⟩
      rw [found] at agrees
      cases agrees with
      | @found _ vertex _ lead tracks' there' stands =>
          rw [there'] at there
          cases there
          have unseen : vertex ∉ seen := by
            rw [tracks'.mem_seen_iff stands, new]
            exact Bool.false_ne_true
          have inside := given.needs_made vertex
          rw [stands.needs_eq] at inside
          rcases inner (tracks'.register stands new) inside with ⟨mid, visits, tracked⟩
          rcases met : (b.register plugin).satisfy model (plugin.hook.getD []) with ⟨d, result⟩
          rw [met] at visits tracked further
          rw [← stands.needs_eq] at visits
          cases result with
          | error error => exact ⟨mid, .failedInside lead unseen visits, tracked⟩
          | ok done =>
              rcases further tracked made.tail with ⟨out, visits', tracked'⟩
              exact ⟨out, .new lead unseen visits visits', tracked'⟩

/-! ## What an agenda attaches -/

theorem Tracks.plugin?_eq (tracks : Tracks a c seen) (stands : StandsFor a c vertex plugin) :
    c.plugin? plugin.id = some plugin := by
  cases stands with
  | made made =>
      rw [(lt_size_of_plugin? made).2]
      exact tracks.made _ plugin made
  | named unknown created found =>
      rcases tracks.new _ _ unknown found with ⟨_, ⟨definition, id⟩, there, created'⟩
      have same : id = plugin.id := (lt_size_of_plugin? there).2
      rw [created] at created'
      cases created'
      rw [there, same]

/-- Different vertices have different plugins. -/
theorem Tracks.distinct (tracks : Tracks a c seen) (once : seen.Nodup) :
    (c.registry.plugins.map fun plugin => plugin.id).Nodup := by
  have apart : ∀ {vertices plugins}, List.Forall₂ (StandsFor a c) vertices plugins → vertices.Nodup →
      (plugins.map fun plugin => plugin.id).Nodup := by
    intro vertices plugins stands once
    induction stands with
    | nil => exact List.nodup_nil
    | @cons vertex plugin vertices plugins first rest inductionHypothesis =>
        rw [List.nodup_cons] at once
        rw [List.map_cons, List.nodup_cons]
        refine ⟨?_, inductionHypothesis once.2⟩
        intro member
        rcases List.mem_map.mp member with ⟨other, inside, same⟩
        rcases exists_stands_of_registered rest inside with ⟨further, member, stands⟩
        exact once.1 (tracks.eq_of_id_eq first stands same.symm ▸ member)
  exact apart tracks.registry once

/-- The family stays given. -/
theorem Tracks.given (given : Given a) (tracks : Tracks a c seen) (once : seen.Nodup) : Given c := by
  have wider : ∀ {agenda}, a.AllMade agenda → c.AllMade agenda := fun made id member =>
    Nat.lt_of_lt_of_le (made id member) tracks.size_le
  constructor
  case distinct => exact tracks.distinct once
  case registered =>
    intro plugin member
    rcases exists_stands_of_registered tracks.registry member with ⟨vertex, _, stands⟩
    exact tracks.plugin?_eq stands
  case named =>
    intro name id found
    cases known : a.named.lookup name with
    | some old =>
        have same := found.symm.trans (tracks.kept name old known)
        cases same
        exact Nat.lt_of_lt_of_le (given.named name id known) tracks.size_le
    | none => exact tracks.lt_size known found
  case hooks => exact fun id plugin there => wider (tracks.hooks id plugin there)
  case created =>
    intro name options definition created
    rw [tracks.catalog_eq] at created
    exact wider (given.created name options definition created)

/-- From `a` to `b`, the plugins at the vertices of `order` have been attached for the needs of an agenda:
the vertices that are reached past the registered plugins, each once and in depth-first order, up to the
first failure.  Without a failure these are all vertices reached. -/
structure Attached (model : Model) (a b : Attachments (List Need) β) (agenda : List Need)
    (order : List Vertex) (result : Except Error Unit) : Prop where
  registry : ∃ new, b.registry.plugins = a.registry.plugins ++ new ∧
    List.Forall₂ (StandsFor a b) order new
  distinct : (b.registry.plugins.map fun plugin => plugin.id).Nodup
  visits : Visits model a a.registered agenda (a.registered ++ order) result
  depthFirst : ∃ more, Preorder (a.edges model) a.registered (a.leads model agenda)
    (a.registered ++ order ++ more) ∧ (result = .ok () → more = [])
  reached : ∀ vertex ∈ order, Reaches (a.edges model) a.registered (a.leads model agenda) vertex
  all : result = .ok () → ∀ vertex,
    Reaches (a.edges model) a.registered (a.leads model agenda) vertex → vertex ∈ order
  given : Given b

theorem Given.nodup_registered (given : Given a) : a.registered.Nodup := by
  have once := given.distinct.map (f := Vertex.made) fun _ _ same => Vertex.made.inj same
  rw [List.map_map] at once
  exact once

theorem Visits.seen_grows (visits : Visits model a seen agenda out result) : seen <+: out := by
  induction visits with
  | nil seen => exact List.prefix_refl seen
  | failed _ => exact List.prefix_refl _
  | met _ _ inductionHypothesis => exact inductionHypothesis
  | known _ _ _ inductionHypothesis => exact inductionHypothesis
  | new _ _ _ _ inner further => exact ((List.prefix_append _ _).trans inner).trans further
  | failedInside _ _ _ inner => exact (List.prefix_append _ _).trans inner

/-- An agenda attaches the plugins that it leads to. -/
theorem attached_satisfy (model : Model) (given : Given a) (made : a.AllMade agenda) :
    ∃ order, Attached model a (a.satisfy model agenda).1 agenda order (a.satisfy model agenda).2 := by
  rcases visits_satisfy model given given.tracks made with ⟨out, visits, tracks⟩
  rcases visits.seen_grows with ⟨order, rfl⟩
  rcases visits.preorder given made with ⟨more, depthFirst, all⟩
  have once := depthFirst.nodup given.nodup_registered
  have seen := (List.nodup_append.mp once).1
  have fresh : ∀ vertex ∈ order, vertex ∉ a.registered := fun vertex member old =>
    (List.nodup_append.mp seen).2.2 vertex old vertex member rfl
  refine ⟨order, ?_⟩
  constructor
  case registry =>
    rcases tracks.grows with ⟨new, plugins⟩
    have behind := List.forall₂_drop a.registered.length tracks.registry
    have length : a.registered.length = a.registry.plugins.length := List.length_map _
    rw [List.drop_left, length, ← plugins, List.drop_left] at behind
    exact ⟨new, plugins.symm, behind⟩
  case distinct => exact tracks.distinct seen
  case visits => exact visits
  case depthFirst => exact ⟨more, depthFirst, all⟩
  case reached =>
    intro vertex member
    have inside := List.mem_append_left more (List.mem_append_right a.registered member)
    exact (depthFirst.reaches_of_mem inside).resolve_left (fresh vertex member)
  case all =>
    intro done vertex reaches
    rw [all done, List.append_nil] at depthFirst
    have inside := depthFirst.mem_iff.mpr (Or.inr reaches)
    exact (List.mem_append.mp inside).resolve_left reaches.not_mem
  case given => exact tracks.given given seen

end Attachments
end Prose
