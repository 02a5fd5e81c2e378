import Prose.Plugin.Entry
import Prose.Proofs.Plugin.Satisfy

namespace Prose

/-!
# Entries that fail

An entry fails before anything is changed, if the catalog makes no plugin for it, or after its plugin has
been registered, in the hook of that plugin.  So a reference to a plugin that there is not leaves no
trace.  What a hook has attached stays.

Several entries are attached up to the first that fails.  Those behind it are not looked at.
-/

/-- What a catalog makes for an entry. -/
def Entry.madeBy {η β : Type} (entry : Entry) (catalog : Catalog η β) : Except Error (Definition η β) :=
  match entry.options with
  | some options => catalog.create entry.name options
  | none => catalog.createDefault entry.name

namespace Attachments

variable {η β : Type}

/-- The catalog makes a plugin for every name that has been resolved. -/
def Known (a : Attachments η β) : Prop :=
  ∀ name id, a.named.lookup name = some id → ∃ definition, a.catalog.createDefault name = .ok definition

/-- What has been registered stays in front, and a resolved name keeps its plugin.  Other names are only
resolved if the catalog makes a plugin for them. -/
structure Extends (a b : Attachments η β) : Prop where
  catalog : b.catalog = a.catalog
  registry : a.registry.plugins <+: b.registry.plugins
  named : ∀ name id, a.named.lookup name = some id → b.named.lookup name = some id
  known : a.Known → b.Known

/-- A plugin has been registered behind all others and its hook has run. -/
structure Hooked (plugin : Plugin η β) (a b : Attachments η β) : Prop where
  hook : plugin.hasHook = true
  new : a.has plugin.id = false
  registry : a.registry.plugins ++ [plugin] <+: b.registry.plugins
  named : ∀ name id, a.named.lookup name = some id → b.named.lookup name = some id

section

variable {a b c : Attachments η β} {plugin : Plugin η β} {name : String} {id : Nat}

theorem Extends.refl (a : Attachments η β) : Extends a a :=
  ⟨rfl, List.prefix_refl _, fun _ _ found => found, id⟩

theorem Extends.trans (first : Extends a b) (second : Extends b c) : Extends a c where
  catalog := second.catalog.trans first.catalog
  registry := first.registry.trans second.registry
  named name id found := second.named name id (first.named name id found)
  known := second.known ∘ first.known

theorem plugins_register (new : a.has plugin.id = false) :
    (a.register plugin).registry.plugins = a.registry.plugins ++ [plugin] := by
  have absent : ¬ a.registry.contains plugin = true := by
    rw [Registry.contains]
    exact ne_true_of_eq_false new
  rw [register, Registry.push, if_neg absent]

theorem extends_register (new : a.has plugin.id = false) : Extends a (a.register plugin) where
  catalog := rfl
  registry := by
    rw [plugins_register new]
    exact List.prefix_append _ _
  named _ _ found := found
  known := id

/-- To resolve a name registers nothing. -/
theorem registry_resolve (resolved : a.resolve name = .ok (b, id)) : b.registry = a.registry := by
  unfold resolve at resolved
  split at resolved
  · cases resolved
    rfl
  · split at resolved
    · cases resolved
    · cases resolved
      rfl

theorem known_empty (catalog : Catalog η β) : (empty catalog).Known := by
  intro name id found
  cases found

theorem Known.resolve (known : a.Known) (resolved : a.resolve name = .ok (b, id)) : b.Known := by
  unfold Attachments.resolve at resolved
  split at resolved
  · cases resolved
    exact known
  · split at resolved
    · cases resolved
    · rename_i definition created
      cases resolved
      intro other number found
      rw [List.lookup_cons] at found
      split at found
      · rename_i same
        exact ⟨definition, by rw [eq_of_beq same]; exact created⟩
      · exact known other number found

/-- A name for which the catalog makes nothing is not resolved. -/
theorem Known.resolve_error {error : Error} (known : a.Known)
    (failed : a.catalog.createDefault name = .error error) : a.resolve name = .error error := by
  have unknown : a.named.lookup name = none := by
    cases found : a.named.lookup name with
    | none => rfl
    | some id =>
        rcases known name id found with ⟨definition, created⟩
        rw [failed] at created
        cases created
  rw [Attachments.resolve, unknown, failed]

/-- To resolve a name does not touch other names. -/
theorem extends_resolve (resolved : a.resolve name = .ok (b, id)) : Extends a b where
  catalog := by
    unfold resolve at resolved
    split at resolved
    · cases resolved
      rfl
    · split at resolved
      · cases resolved
      · cases resolved
        rfl
  registry := registry_resolve resolved ▸ List.prefix_refl _
  named other number found := by
    unfold resolve at resolved
    split at resolved
    · cases resolved
      exact found
    · rename_i unknown
      split at resolved
      · cases resolved
      · cases resolved
        have different : other ≠ name := by
          rintro rfl
          rw [unknown] at found
          cases found
        rw [List.lookup_cons, beq_eq_false_iff_ne.mpr different]
        exact found
  known known := known.resolve resolved

/-- A name that is not resolved is one for which the catalog makes nothing. -/
theorem createDefault_of_resolve_error {error : Error} (failed : a.resolve name = .error error) :
    a.catalog.createDefault name = .error error := by
  unfold resolve at failed
  split at failed
  · cases failed
  · split at failed
    · rename_i created
      cases failed
      exact created
    · cases failed

/-- What a hook leaves, if the attachments have grown since its plugin was registered. -/
theorem hooked_of_extends (hook : plugin.hasHook = true) (resolved : Extends a b)
    (same : b.registry = a.registry) (new : b.has plugin.id = false)
    (grown : Extends (b.register plugin) c) : Hooked plugin a c where
  hook := hook
  new := by rwa [has, same] at new
  registry := by
    have registered := grown.registry
    rwa [plugins_register new, same] at registered
  named name id found := grown.named name id (resolved.named name id found)

end

/-! ## Hooks that are lists of needs -/

open Stock (Need)

variable {model : Model} {a b : Attachments (List Need) β} {entry : Entry} {entries : List Entry}
  {error : Error}

theorem extends_target {need : Need} {id : Option Nat} (found : a.target model need = .ok (b, id)) :
    Extends a b := by
  cases need with
  | plugin id =>
      cases found
      exact .refl a
  | named name =>
      rw [target] at found
      cases resolved : a.resolve name with
      | error error => rw [resolved] at found; cases found
      | ok pair =>
          rw [resolved] at found
          cases found
          exact extends_resolve resolved
  | nodeType asker name =>
      rw [target] at found
      split at found
      · cases found
        exact .refl a
      · cases found

/-- Whatever an agenda asks for, the attachments only grow. -/
theorem extends_satisfy (model : Model) (a : Attachments (List Need) β) (agenda : List Need) :
    Extends a (a.satisfy model agenda).1 := by
  induction a, agenda using satisfy.induct model with
  | case1 a =>
      rw [satisfy_nil]
      exact .refl a
  | case2 a need rest error failed =>
      rw [satisfy_of_error failed]
      exact .refl a
  | case3 a need rest b found _ inductionHypothesis =>
      rw [satisfy_of_met found]
      exact (extends_target found).trans inductionHypothesis
  | case4 a need rest b id found _ absent inductionHypothesis =>
      rw [satisfy_of_absent found absent]
      exact (extends_target found).trans inductionHypothesis
  | case5 a need rest b id found _ plugin made attached inductionHypothesis =>
      rw [satisfy_of_attached found made attached]
      exact (extends_target found).trans inductionHypothesis
  | case6 a need rest b id found _ plugin made new _ inductionHypothesis =>
      have absent : b.has plugin.id = false := Bool.eq_false_iff.mpr new
      rw [satisfy_of_new found made absent]
      exact (extends_target found).trans ((extends_register absent).trans inductionHypothesis)

/-- An agenda of one plugin fails in the hook of that plugin. -/
theorem hooked_of_satisfy {need : Need} {id : Nat} (found : a.target model need = .ok (b, some id))
    (same : b.registry = a.registry) (failed : (a.satisfy model [need]).2 = .error error) :
    ∃ plugin, Hooked plugin a (a.satisfy model [need]).1 := by
  cases made : b.plugin? id with
  | none =>
      rw [satisfy_of_absent found made, satisfy_nil] at failed
      cases failed
  | some plugin =>
      cases attached : b.has plugin.id with
      | true =>
          rw [satisfy_of_attached found made attached, satisfy_nil] at failed
          cases failed
      | false =>
          rw [satisfy_of_new found made attached, List.append_nil] at failed ⊢
          have hook : plugin.hasHook = true := by
            cases hook : plugin.hook with
            | some needs => rw [Definition.hasHook, hook]; rfl
            | none =>
                rw [hook, Option.getD_none, satisfy_nil] at failed
                cases failed
          exact ⟨plugin, hooked_of_extends hook (extends_target found) same attached
            (extends_satisfy model _ _)⟩

theorem attachEntry_of_options {options : Json.Fields} (given : entry.options = some options) :
    a.attachEntry model entry = a.attachNew model entry.name options := by
  rw [attachEntry, given]

theorem attachEntry_of_bare (bare : entry.options = none) :
    a.attachEntry model entry = a.satisfy model [.named entry.name] := by
  rw [attachEntry, bare]
  rfl

theorem attachNew_of_error {name : String} {options : Json.Fields}
    (refused : a.catalog.create name options = .error error) :
    a.attachNew model name options = (a, .error error) := by
  rw [attachNew, create, refused]
  rfl

theorem attachNew_of_ok {name : String} {options : Json.Fields} {definition : Definition (List Need) β}
    (created : a.catalog.create name options = .ok definition) :
    a.attachNew model name options = (a.make definition).1.satisfy model [.plugin a.made.size] := by
  rw [attachNew, create, created]
  rfl

/-- An entry fails without a trace, or in the hook of its plugin. -/
theorem attachEntry_error (failed : (a.attachEntry model entry).2 = .error error) :
    (entry.madeBy a.catalog = .error error ∧ a.attachEntry model entry = (a, .error error)) ∨
      ∃ plugin, Hooked plugin a (a.attachEntry model entry).1 := by
  rw [Entry.madeBy]
  cases given : entry.options with
  | some options =>
      rw [attachEntry_of_options given] at failed ⊢
      cases created : a.catalog.create entry.name options with
      | error other =>
          rw [attachNew_of_error created] at failed ⊢
          cases failed
          exact Or.inl ⟨created, rfl⟩
      | ok definition =>
          rw [attachNew_of_ok created] at failed ⊢
          rcases hooked_of_satisfy rfl rfl failed with ⟨plugin, hooked⟩
          exact Or.inr ⟨plugin, hooked.hook, hooked.new, hooked.registry, hooked.named⟩
  | none =>
      rw [attachEntry_of_bare given] at failed ⊢
      cases resolved : a.resolve entry.name with
      | error other =>
          have refused : a.target model (.named entry.name) = .error other := by
            rw [target, resolved]
            rfl
          rw [satisfy_of_error refused] at failed ⊢
          cases failed
          exact Or.inl ⟨createDefault_of_resolve_error resolved, rfl⟩
      | ok pair =>
          have found : a.target model (.named entry.name) = .ok (pair.1, some pair.2) := by
            rw [target, resolved]
            rfl
          exact Or.inr (hooked_of_satisfy found (registry_resolve resolved) failed)

/-- An entry for which the catalog makes no plugin is refused. -/
theorem Known.attachEntry_error (known : a.Known) (unmade : entry.madeBy a.catalog = .error error) :
    a.attachEntry model entry = (a, .error error) := by
  rw [Entry.madeBy] at unmade
  cases given : entry.options with
  | some options =>
      rw [given] at unmade
      rw [attachEntry_of_options given, attachNew_of_error unmade]
  | none =>
      rw [given] at unmade
      have refused : a.target model (.named entry.name) = .error error := by
        rw [target, known.resolve_error unmade]
        rfl
      rw [attachEntry_of_bare given, satisfy_of_error refused]

theorem extends_attachEntry (model : Model) (a : Attachments (List Need) β) (entry : Entry) :
    Extends a (a.attachEntry model entry).1 := by
  cases given : entry.options with
  | none =>
      rw [attachEntry_of_bare given]
      exact extends_satisfy model a _
  | some options =>
      rw [attachEntry_of_options given]
      cases created : a.catalog.create entry.name options with
      | error error =>
          rw [attachNew_of_error created]
          exact .refl a
      | ok definition =>
          have made : Extends a (a.make definition).1 :=
            ⟨rfl, List.prefix_refl _, fun _ _ found => found, id⟩
          rw [attachNew_of_ok created]
          exact made.trans (extends_satisfy model _ _)

/-! ## Several entries -/

section

variable {rest : List Entry}

theorem attachAll_cons_ok (used : a.attachEntry model entry = (b, .ok ())) :
    a.attachAll model (entry :: rest) = b.attachAll model rest := by
  rw [attachAll, used]

theorem attachAll_cons_error (used : a.attachEntry model entry = (b, .error error)) :
    a.attachAll model (entry :: rest) = (b, .error error) := by
  rw [attachAll, used]

theorem extends_attachAll (model : Model) (a : Attachments (List Need) β) (entries : List Entry) :
    Extends a (a.attachAll model entries).1 := by
  induction entries generalizing a with
  | nil => exact .refl a
  | cons entry rest inductionHypothesis =>
      have first := extends_attachEntry model a entry
      rcases used : a.attachEntry model entry with ⟨b, error | ⟨⟩⟩
      · rw [attachAll_cons_error used]
        rwa [used] at first
      · rw [attachAll_cons_ok used]
        rw [used] at first
        exact first.trans (inductionHypothesis b)

end

/-- If all entries are attached, so is each of them in its turn. -/
theorem attached_of_attachAll {earlier later : List Entry}
    (done : (a.attachAll model (earlier ++ entry :: later)).2 = .ok ()) :
    ((a.attachAll model earlier).1.attachEntry model entry).2 = .ok () := by
  induction earlier generalizing a with
  | nil =>
      rw [List.nil_append] at done
      rcases used : a.attachEntry model entry with ⟨b, error | ⟨⟩⟩
      · rw [attachAll_cons_error used] at done
        cases done
      · rw [attachAll, used]
  | cons first rest inductionHypothesis =>
      rw [List.cons_append] at done
      rcases used : a.attachEntry model first with ⟨b, error | ⟨⟩⟩
      · rw [attachAll_cons_error used] at done
        cases done
      · rw [attachAll_cons_ok used] at done ⊢
        exact inductionHypothesis done

/-- The first entry that fails: those in front of it are attached, and with it all ends. -/
structure FailsAt (model : Model) (a : Attachments (List Need) β) (entries : List Entry) (error : Error)
    (earlier : List Entry) (entry : Entry) (later : List Entry) : Prop where
  split : entries = earlier ++ entry :: later
  attached : (a.attachAll model earlier).2 = .ok ()
  ends : a.attachAll model entries = (a.attachAll model earlier).1.attachEntry model entry
  failed : ((a.attachAll model earlier).1.attachEntry model entry).2 = .error error

theorem exists_failsAt (failed : (a.attachAll model entries).2 = .error error) :
    ∃ earlier entry later, FailsAt model a entries error earlier entry later := by
  induction entries generalizing a with
  | nil => cases failed
  | cons entry rest inductionHypothesis =>
      rcases used : a.attachEntry model entry with ⟨b, other | ⟨⟩⟩
      · rw [attachAll_cons_error used] at failed
        cases failed
        exact ⟨[], entry, rest, rfl, rfl, (attachAll_cons_error used).trans used.symm,
          congrArg Prod.snd used⟩
      · rw [attachAll_cons_ok used] at failed
        rcases inductionHypothesis failed with ⟨earlier, other, later, fails⟩
        refine ⟨entry :: earlier, other, later, congrArg (entry :: ·) fails.split, ?_, ?_, ?_⟩
        · rw [attachAll_cons_ok used, fails.attached]
        · rw [attachAll_cons_ok used, attachAll_cons_ok used, fails.ends]
        · rw [attachAll_cons_ok used, fails.failed]

/-- What comes of several entries. -/
structure Stops (model : Model) (a : Attachments (List Need) β) (entries : List Entry) : Prop where
  ok_iff : (a.attachAll model entries).2 = .ok () ↔
    ∀ earlier entry later, entries = earlier ++ entry :: later →
      ((a.attachAll model earlier).1.attachEntry model entry).2 = .ok ()
  /-- The first entry that fails ends it.  It leaves no trace, or its plugin has been registered and its
  hook has failed. -/
  error : ∀ error, (a.attachAll model entries).2 = .error error →
    ∃ earlier entry later, FailsAt model a entries error earlier entry later ∧
      ((entry.madeBy a.catalog = .error error ∧
          (a.attachAll model entries).1 = (a.attachAll model earlier).1) ∨
        ∃ plugin, Hooked plugin (a.attachAll model earlier).1 (a.attachAll model entries).1)

theorem stops_attachAll (model : Model) (a : Attachments (List Need) β) (entries : List Entry) :
    Stops model a entries where
  ok_iff := by
    constructor
    · rintro done earlier entry later rfl
      exact attached_of_attachAll done
    · intro each
      cases result : (a.attachAll model entries).2 with
      | ok done => rfl
      | error error =>
          rcases exists_failsAt result with ⟨earlier, entry, later, fails⟩
          have attached := each earlier entry later fails.split
          rw [fails.failed] at attached
          cases attached
  error error failed := by
    rcases exists_failsAt failed with ⟨earlier, entry, later, fails⟩
    refine ⟨earlier, entry, later, fails, ?_⟩
    rcases attachEntry_error fails.failed with ⟨refused, same⟩ | ⟨plugin, hooked⟩
    · rw [(extends_attachAll model a earlier).catalog] at refused
      rw [fails.ends, same]
      exact Or.inl ⟨refused, rfl⟩
    · rw [fails.ends]
      exact Or.inr ⟨plugin, hooked⟩

/-- Entries for which the catalog makes no plugin are refused, and several entries end with the first that
fails. -/
structure Strict (model : Model) (a : Attachments (List Need) β) : Prop where
  refuses : ∀ entry error, entry.madeBy a.catalog = .error error →
    a.attachEntry model entry = (a, .error error)
  stops : ∀ entries, Stops model a entries

theorem strict_attachAll (model : Model) (catalog : Catalog (List Need) β) (earlier : List Entry) :
    Strict model ((empty catalog).attachAll model earlier).1 where
  refuses _ _ unmade :=
    ((extends_attachAll model _ earlier).known (known_empty catalog)).attachEntry_error unmade
  stops := stops_attachAll model _

end Attachments
end Prose
