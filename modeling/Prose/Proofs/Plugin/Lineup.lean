import Prose.Proofs.Plugin.Satisfy

namespace Prose

/-!
# The line-up that entries ask for

Which plugins some entries attach, and in which order, can be said without numbers and hooks.  A name
brings its plugin once, and options bring a new plugin each time.  Statistics bring positions with them,
under their name, if nobody has asked for that name before.  Which patterns there are, and what they
match, is left to a reader of patterns.
-/

namespace Stock

open Attachments (satisfy_nil satisfy_of_error satisfy_of_met satisfy_of_attached satisfy_of_new)

/-! ## The catalog -/

/-- The definitions of stock plugins.  What is redacted is what a pattern matches. -/
inductive IsStock (patterns : Patterns) : String → Stocked → Prop where
  | position : IsStock patterns "position" (plain "position" .position)
  | stats : IsStock patterns "stats" stats
  | redact {pattern : String} {isMatch : String → Bool} (read : patterns pattern = .ok isMatch)
      (mask : Char) : IsStock patterns "redact"
        ⟨"redact", .sync, some [.nodeType "redact" Kind.word], .redact isMatch mask⟩
  | uppercase : IsStock patterns "uppercase" (plain "uppercase" .uppercase)
  | lowercase : IsStock patterns "lowercase" (plain "lowercase" .lowercase)

theorem exists_of_bind {α γ : Type} {first : Except Error α} {second : α → Except Error γ} {result : γ}
    (done : first >>= second = .ok result) :
    ∃ value, first = .ok value ∧ second value = .ok result := by
  cases first with
  | error error => cases done
  | ok value => exact ⟨value, rfl, done⟩

theorem ok_of_mapError {ε α : Type} {first : Except ε α} {tell : ε → Error} {value : α}
    (done : first.mapError tell = .ok value) : first = .ok value := by
  cases first with
  | error error => cases done
  | ok value => cases done; rfl

def Transform.name : Transform → String
  | .position => "position"
  | .stats => "stats"
  | .redact _ _ => "redact"
  | .uppercase => "uppercase"
  | .lowercase => "lowercase"

/-- A stock plugin is sync, and its name is that of its transform. -/
theorem IsStock.sync_name {patterns : Patterns} {name : String} {definition : Stocked}
    (stock : IsStock patterns name definition) :
    definition.isAsync = false ∧ definition.name = definition.transform.name := by
  cases stock <;> exact ⟨rfl, rfl⟩

theorem IsStock.exists_pattern {patterns : Patterns} {name : String} {definition : Stocked}
    (stock : IsStock patterns name definition) {isMatch : String → Bool} {mask : Char}
    (redacts : definition.transform = .redact isMatch mask) :
    ∃ pattern, patterns pattern = .ok isMatch := by
  cases stock with
  | redact read mask =>
      cases redacts
      exact ⟨_, read⟩
  | _ => cases redacts

variable {patterns : Patterns}

theorem redact_ok {options : Json.Fields} {definition : Stocked}
    (made : redact patterns options = .ok definition) : IsStock patterns "redact" definition := by
  unfold redact at made
  rcases exists_of_bind made with ⟨text, _, made⟩
  dsimp only at made
  rcases exists_of_bind made with ⟨isMatch, read, made⟩
  rcases exists_of_bind made with ⟨given, _, made⟩
  split at made
  · rcases exists_of_bind made with ⟨mask, _, made⟩
    cases made
    exact .redact (ok_of_mapError read) mask
  · cases made
    exact .redact (ok_of_mapError read) defaultMask

theorem catalog_entries (patterns : Patterns) :
    (catalog patterns).entries =
      [⟨"lowercase", "lower-case every word", fun _ => .ok (plain "lowercase" .lowercase)⟩,
        ⟨"position", "annotate nodes with byte offsets", fun _ => .ok (plain "position" .position)⟩,
        ⟨"redact", "mask words matching a pattern", redact patterns⟩,
        ⟨"stats", "count words, sentences and paragraphs", fun _ => .ok stats⟩,
        ⟨"uppercase", "upper-case every word", fun _ => .ok (plain "uppercase" .uppercase)⟩] := by
  simp only [catalog, summaries, factory?, Catalog.register, Catalog.place, Catalog.empty, List.foldl,
    String.reduceLT, String.reduceEq, reduceIte]

theorem createDefault_position (patterns : Patterns) :
    (catalog patterns).createDefault "position" = .ok (plain "position" .position) := by
  rw [Catalog.createDefault, Catalog.create, Catalog.find?, catalog_entries]
  rfl

/-- What the catalog makes under a name is the stock plugin of that name. -/
theorem create_ok {name : String} {options : Json.Fields} {definition : Stocked}
    (created : (catalog patterns).create name options = .ok definition) :
    IsStock patterns name definition := by
  unfold Catalog.create at created
  split at created
  · rename_i entry found
    have matched := List.find?_some found
    have same : entry.name = name := of_decide_eq_true matched
    have member : entry ∈ (catalog patterns).entries := List.mem_of_find?_eq_some found
    rw [catalog_entries] at member
    simp only [List.mem_cons, List.not_mem_nil, or_false] at member
    rw [← same]
    rcases member with rfl | rfl | rfl | rfl | rfl
    · cases created
      exact .lowercase
    · cases created
      exact .position
    · exact redact_ok created
    · cases created
      exact .stats
    · cases created
      exact .uppercase
  · cases created

/-! ## Line-ups -/

/-- The plugins that have been attached, in order, and the names that stand for one of them. -/
structure Lineup where
  definitions : List Stocked
  names : List String

namespace Lineup

def empty : Lineup := ⟨[], []⟩

def add (lineup : Lineup) (definition : Stocked) : Lineup :=
  { lineup with definitions := lineup.definitions ++ [definition] }

def addAs (lineup : Lineup) (name : String) (definition : Stocked) : Lineup :=
  ⟨lineup.definitions ++ [definition], name :: lineup.names⟩

/-- Add what a plugin needs: statistics need positions. -/
def meet (lineup : Lineup) (definition : Stocked) : Lineup :=
  if definition.name = "stats" ∧ "position" ∉ lineup.names then
    lineup.addAs "position" (plain "position" .position)
  else lineup

/-- Add what an entry asks for. -/
def enter (patterns : Patterns) (lineup : Lineup) (entry : Entry) : Except Error Lineup :=
  match entry.options with
  | some options =>
    ((catalog patterns).create entry.name options).map fun definition =>
      (lineup.add definition).meet definition
  | none =>
    if entry.name ∈ lineup.names then .ok lineup
    else
      ((catalog patterns).createDefault entry.name).map fun definition =>
        (lineup.addAs entry.name definition).meet definition

def enterAll (patterns : Patterns) (lineup : Lineup) : List Entry → Except Error Lineup
  | [] => .ok lineup
  | entry :: rest =>
    match lineup.enter patterns entry with
    | .ok lineup => lineup.enterAll patterns rest
    | .error error => .error error

end Lineup

/-! ## Attachments of a line-up -/

variable {a b : Attachments (List Need) Transform} {lineup : Lineup} {name : String}
  {definition : Stocked}

/-- The attachments hold the plugins of a line-up, which are stock plugins.  All plugins made are
attached, and the names that stand for one of them are those of the line-up. -/
structure Holds (patterns : Patterns) (a : Attachments (List Need) Transform) (lineup : Lineup) :
    Prop where
  catalog : a.catalog = Stock.catalog patterns
  stock : ∀ definition ∈ lineup.definitions, ∃ name, IsStock patterns name definition
  definitions : a.registry.plugins.map (fun plugin => plugin.toDefinition) = lineup.definitions
  attached : ∀ id, a.has id = true ↔ id < a.made.size
  named : ∀ name id, a.named.lookup name = some id → id < a.made.size
  names : ∀ name, a.named.lookup name = none ↔ name ∉ lineup.names

theorem holds_empty (patterns : Patterns) :
    Holds patterns (Attachments.empty (Stock.catalog patterns)) Lineup.empty where
  catalog := rfl
  stock := nofun
  definitions := rfl
  attached id := iff_of_false nofun (Nat.not_lt_zero id)
  named _ _ found := by cases found
  names name := iff_of_true rfl List.not_mem_nil

theorem Holds.exists_stock (holds : Holds patterns a lineup) : ∀ plugin ∈ a.registry.plugins,
    ∃ name, IsStock patterns name plugin.toDefinition := by
  intro plugin member
  refine holds.stock plugin.toDefinition ?_
  rw [← holds.definitions]
  exact List.mem_map_of_mem member

/-- All attached plugins are sync, and their names are those of their transforms. -/
theorem Holds.sync_name (holds : Holds patterns a lineup) : ∀ plugin ∈ a.registry.plugins,
    plugin.isAsync = false ∧ plugin.name = plugin.transform.name := by
  intro plugin member
  rcases holds.exists_stock plugin member with ⟨name, stock⟩
  exact stock.sync_name

/-- What is redacted is what some pattern matches. -/
theorem Holds.exists_pattern (holds : Holds patterns a lineup) {isMatch : String → Bool} {mask : Char}
    (member : Transform.redact isMatch mask ∈ a.registry.plugins.map fun plugin => plugin.transform) :
    ∃ pattern, patterns pattern = .ok isMatch := by
  rcases List.mem_map.mp member with ⟨plugin, inside, redacts⟩
  rcases holds.exists_stock plugin inside with ⟨name, stock⟩
  exact stock.exists_pattern redacts

theorem Holds.stock_concat (holds : Holds patterns a lineup) (stock : IsStock patterns name definition) :
    ∀ other ∈ lineup.definitions ++ [definition], ∃ name, IsStock patterns name other := by
  intro other member
  rcases List.mem_append.mp member with old | new
  · exact holds.stock other old
  · rw [List.mem_singleton.mp new]
    exact ⟨name, stock⟩

/-- A plugin that has just been made is known by its number and not attached. -/
theorem Holds.make (holds : Holds patterns a lineup) (made : b.made = a.made.push definition)
    (registry : b.registry = a.registry) :
    b.plugin? a.made.size = some ⟨definition, a.made.size⟩ ∧ b.has a.made.size = false := by
  constructor
  · rw [Attachments.plugin?, made, Array.getElem?_push_size]
    rfl
  · rw [Attachments.has, registry, Bool.eq_false_iff]
    exact fun attached => Nat.lt_irrefl _ ((holds.attached _).mp attached)

/-- Once it is registered, the plugins are those of the line-up with it. -/
theorem Holds.register (holds : Holds patterns a lineup) (made : b.made = a.made.push definition)
    (registry : b.registry = a.registry) :
    (b.register ⟨definition, a.made.size⟩).registry.plugins.map (fun plugin => plugin.toDefinition) =
        lineup.definitions ++ [definition] ∧
      ∀ id, (b.register ⟨definition, a.made.size⟩).has id = true ↔
        id < (b.register ⟨definition, a.made.size⟩).made.size := by
  have new : b.registry.contains ⟨definition, a.made.size⟩ = false := (holds.make made registry).2
  constructor
  · rw [Attachments.register, Registry.push, if_neg (by rw [new]; exact Bool.false_ne_true), registry,
      List.map_append, holds.definitions]
    rfl
  · intro id
    have size : (b.register ⟨definition, a.made.size⟩).made.size = a.made.size + 1 := by
      rw [Attachments.register, made, Array.size_push]
    have earlier : b.registry.has id = true ↔ id < a.made.size := registry ▸ holds.attached id
    rw [size, Attachments.has, Attachments.register, Registry.has_push, Bool.or_eq_true, earlier,
      beq_iff_eq]
    change id < a.made.size ∨ a.made.size = id ↔ id < a.made.size + 1
    omega

theorem Holds.add (holds : Holds patterns a lineup) (stock : IsStock patterns name definition) :
    Holds patterns ((a.make definition).1.register ⟨definition, a.made.size⟩) (lineup.add definition) where
  catalog := holds.catalog
  stock := holds.stock_concat stock
  definitions := (holds.register (b := (a.make definition).1) rfl rfl).1
  attached := (holds.register (b := (a.make definition).1) rfl rfl).2
  named name id found := by
    have earlier := holds.named name id found
    rw [Attachments.register, Attachments.make, Array.size_push]
    omega
  names := holds.names

/-- The attachments with a plugin made for a name. -/
def naming (a : Attachments (List Need) Transform) (name : String) (definition : Stocked) :
    Attachments (List Need) Transform :=
  { (a.make definition).1 with named := (name, a.made.size) :: a.named }

theorem Holds.addAs (holds : Holds patterns a lineup) (stock : IsStock patterns name definition) :
    Holds patterns ((naming a name definition).register ⟨definition, a.made.size⟩)
      (lineup.addAs name definition) where
  catalog := holds.catalog
  stock := holds.stock_concat stock
  definitions := (holds.register (b := naming a name definition) rfl rfl).1
  attached := (holds.register (b := naming a name definition) rfl rfl).2
  named other id found := by
    have size : ((naming a name definition).register ⟨definition, a.made.size⟩).made.size =
        a.made.size + 1 := Array.size_push _
    have found : ((name, a.made.size) :: a.named).lookup other = some id := found
    rw [size]
    rw [List.lookup_cons] at found
    split at found
    · cases found
      exact Nat.lt_succ_self _
    · exact Nat.lt_succ_of_lt (holds.named other id found)
  names other := by
    have lookup : ((naming a name definition).register ⟨definition, a.made.size⟩).named.lookup other =
        ((name, a.made.size) :: a.named).lookup other := rfl
    rw [lookup, List.lookup_cons, Lineup.addAs, List.mem_cons, not_or]
    by_cases same : other = name
    · simp [same]
    · have test : (other == name) = false := beq_eq_false_iff_ne.mpr same
      rw [test, holds.names]
      exact (and_iff_right same).symm

/-! ## Needs of stock plugins -/

/-- A name that stands for a plugin changes nothing. -/
theorem Holds.satisfy_known (holds : Holds patterns a lineup) (known : name ∈ lineup.names) (model : Model)
    (rest : List Need) : a.satisfy model (.named name :: rest) = a.satisfy model rest := by
  cases found : a.named.lookup name with
  | none => exact absurd known ((holds.names name).mp found)
  | some id =>
      have bound := holds.named name id found
      have target : a.target model (.named name) = .ok (a, some id) := by
        rw [Attachments.target, Attachments.resolve, found]
        rfl
      have made : a.plugin? id = some ⟨a.made[id], id⟩ := by
        rw [Attachments.plugin?, Array.getElem?_eq_getElem bound]
        rfl
      exact satisfy_of_attached target made ((holds.attached id).mpr bound) rest

/-- A name that stands for none brings the plugin that the catalog makes, and its needs. -/
theorem Holds.satisfy_new (holds : Holds patterns a lineup) (new : name ∉ lineup.names)
    (created : (Stock.catalog patterns).createDefault name = .ok definition) (model : Model)
    (rest : List Need) :
    ∃ b, Holds patterns b (lineup.addAs name definition) ∧
      a.satisfy model (.named name :: rest) = b.satisfy model (definition.hook.getD [] ++ rest) := by
  have target : a.target model (.named name) = .ok (naming a name definition, some a.made.size) := by
    rw [Attachments.target, Attachments.resolve, (holds.names name).mpr new, holds.catalog, created]
    rfl
  have made := holds.make (b := naming a name definition) rfl rfl
  exact ⟨_, holds.addAs (create_ok created), satisfy_of_new target made.1 made.2 rest⟩

theorem Holds.satisfy_error (holds : Holds patterns a lineup) (new : name ∉ lineup.names) {error : Error}
    (refused : (Stock.catalog patterns).createDefault name = .error error) (model : Model)
    (rest : List Need) :
    a.satisfy model (.named name :: rest) = (a, .error error) := by
  refine satisfy_of_error ?_ rest
  rw [Attachments.target, Attachments.resolve, (holds.names name).mpr new, holds.catalog, refused]
  rfl

/-- The needs of a stock plugin are met. -/
theorem Holds.satisfy_hook (holds : Holds patterns a lineup) (stock : IsStock patterns name definition) :
    ∃ b, a.satisfy Model.standard (definition.hook.getD [] ++ []) = (b, .ok ()) ∧
      Holds patterns b (lineup.meet definition) := by
  cases stock with
  | position => exact ⟨a, satisfy_nil _ a, holds⟩
  | uppercase => exact ⟨a, satisfy_nil _ a, holds⟩
  | lowercase => exact ⟨a, satisfy_nil _ a, holds⟩
  | redact read mask =>
      have met : a.target Model.standard (.nodeType "redact" Kind.word) = .ok (a, none) := rfl
      exact ⟨a, (satisfy_of_met met []).trans (satisfy_nil _ a), holds⟩
  | stats =>
      by_cases known : "position" ∈ lineup.names
      · have same : lineup.meet stats = lineup := if_neg fun both => both.2 known
        rw [same]
        exact ⟨a, (holds.satisfy_known known _ []).trans (satisfy_nil _ a), holds⟩
      · have more : lineup.meet stats = lineup.addAs "position" (plain "position" .position) :=
          if_pos ⟨rfl, known⟩
        rcases holds.satisfy_new known (createDefault_position patterns) Model.standard [] with
          ⟨b, holds', satisfied⟩
        rw [more]
        exact ⟨b, satisfied.trans (satisfy_nil _ b), holds'⟩

/-! ## Entries -/

/-- A plugin of its own is attached exactly if the catalog makes it. -/
theorem Holds.attachNew (holds : Holds patterns a lineup) (name : String) (options : Json.Fields) :
    ∃ b, a.attachNew Model.standard name options =
        (b, ((Stock.catalog patterns).create name options).map fun _ => ()) ∧
      ∀ definition, (Stock.catalog patterns).create name options = .ok definition →
        Holds patterns b ((lineup.add definition).meet definition) := by
  unfold Attachments.attachNew Attachments.create
  rw [holds.catalog]
  cases created : (Stock.catalog patterns).create name options with
  | error error => exact ⟨a, rfl, nofun⟩
  | ok definition =>
      -- The number of the new plugin is one that nothing else has, so it is not attached yet.
      have made := holds.make (b := (a.make definition).1) rfl rfl
      have stock := create_ok created
      rcases (holds.add stock).satisfy_hook stock with ⟨b, satisfied, holds'⟩
      refine ⟨b, (satisfy_of_new rfl made.1 made.2 []).trans satisfied, ?_⟩
      rintro other ⟨⟩
      exact holds'

/-- A name that stands for no plugin is attached exactly if the catalog makes one for it. -/
theorem Holds.attachNamed (holds : Holds patterns a lineup) (new : name ∉ lineup.names) :
    ∃ b, a.attachNamed Model.standard name =
        (b, ((Stock.catalog patterns).createDefault name).map fun _ => ()) ∧
      ∀ definition, (Stock.catalog patterns).createDefault name = .ok definition →
        Holds patterns b ((lineup.addAs name definition).meet definition) := by
  unfold Attachments.attachNamed
  cases created : (Stock.catalog patterns).createDefault name with
  | error error => exact ⟨a, holds.satisfy_error new created _ [], nofun⟩
  | ok definition =>
      rcases holds.satisfy_new new created Model.standard [] with ⟨b, holds', attached⟩
      rcases holds'.satisfy_hook (create_ok created) with ⟨c, satisfied, holds''⟩
      refine ⟨c, attached.trans satisfied, ?_⟩
      rintro other ⟨⟩
      exact holds''

/-- What holds of a plugin that is made holds of the line-up that it is added to. -/
theorem holds_of_map {attached : Attachments (List Need) Transform × Except Error Unit}
    {made : Except Error Stocked} {extend : Stocked → Lineup}
    (each : ∃ b, attached = (b, made.map fun _ => ()) ∧
      ∀ definition, made = .ok definition → Holds patterns b (extend definition)) :
    ∃ b, attached = (b, (made.map extend).map fun _ => ()) ∧
      ∀ extended, made.map extend = .ok extended → Holds patterns b extended := by
  rcases each with ⟨b, same, holds⟩
  cases made with
  | error error => exact ⟨b, same, nofun⟩
  | ok definition =>
      refine ⟨b, same, ?_⟩
      rintro extended ⟨⟩
      exact holds definition rfl

/-- An entry is attached exactly if the line-up can be extended by it, and the attachments then hold what
the line-up does. -/
theorem Holds.attachEntry (holds : Holds patterns a lineup) (entry : Entry) :
    ∃ b, a.attachEntry Model.standard entry = (b, (lineup.enter patterns entry).map fun _ => ()) ∧
      ∀ extended, lineup.enter patterns entry = .ok extended → Holds patterns b extended := by
  unfold Attachments.attachEntry Lineup.enter
  cases entry.options with
  | some options => exact holds_of_map (holds.attachNew entry.name options)
  | none =>
      dsimp only
      by_cases known : entry.name ∈ lineup.names
      · rw [if_pos known]
        refine ⟨a, (holds.satisfy_known known _ []).trans (satisfy_nil _ a), ?_⟩
        rintro extended ⟨⟩
        exact holds
      · rw [if_neg known]
        exact holds_of_map (holds.attachNamed known)

theorem Holds.attachAll (holds : Holds patterns a lineup) (entries : List Entry) :
    ∃ b, a.attachAll Model.standard entries = (b, (lineup.enterAll patterns entries).map fun _ => ()) ∧
      ∀ extended, lineup.enterAll patterns entries = .ok extended → Holds patterns b extended := by
  induction entries generalizing a lineup with
  | nil =>
      refine ⟨a, rfl, ?_⟩
      rintro extended ⟨⟩
      exact holds
  | cons entry rest inductionHypothesis =>
      rcases holds.attachEntry entry with ⟨b, attached, holds'⟩
      rw [Attachments.attachAll, attached, Lineup.enterAll]
      cases entered : lineup.enter patterns entry with
      | error error => exact ⟨b, rfl, nofun⟩
      | ok extended => exact inductionHypothesis (holds' extended entered)

/-- A name runs once, options run again, and statistics bring positions behind them. -/
example :
    ((Lineup.empty.enterAll (fun _ => .error none)
      [.bare "stats", .bare "lowercase", .bare "position", .configured "lowercase" (some [])]).map
        fun lineup => lineup.definitions.map fun definition => definition.name) =
      .ok ["stats", "position", "lowercase", "lowercase"] := rfl

end Stock
end Prose
