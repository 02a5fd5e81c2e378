import Prose.Pattern.Read
import Prose.Proofs.Pipeline.Trees
import Prose.Proofs.Plugin.Genuine
import Prose.Proofs.Processor.Attaching
import Prose.Proofs.Processor.Held
import Prose.Proofs.Processor.Resting
import Prose.Proofs.Processor.Sequence
import Prose.Proofs.Tree.Overwrite

namespace Prose
namespace Processor

open Story Run
open Attachments (Genuine)
open Store (Below)

/-!
# Counts and offsets

The hook of the statistics attaches the positions, so that a run never has the one without the other.
But plugins run in the order of their attachment and on the tree that the run has come to.  If the
positions were attached first, a continuation between the two may put another tree in the place of the
one that has got positions, and then the counts are delivered on a tree without them.

`Offset` says of a run that has delivered a tree when the tree has got counts and when it has got a
position.  `Conforms` is what this needs to know of the code in control: what the hook of the statistics
asks for, and how the two plugins edit the tree that they are given.
-/

variable {η β κ : Type}

/-! ## Code that is known -/

/-- All acts of a history are in order, each on the processor that it finds and with the acts behind it. -/
def Throughout (good : Processor η β κ → Act η β κ → List (Act η β κ) → Prop) :
    Processor η β κ → List (Act η β κ) → Prop
  | _, [] => True
  | p, act :: rest => good p act rest ∧ Throughout good (p.act act) rest

/-- A request for a plugin to be attached is for one that has been made. -/
def Fair (p : Processor η β κ) : Request η β κ → Prop
  | .attach plugin => p.attachments.plugin? plugin.id = some plugin
  | _ => True

/-- The code in control goes on with an edit: it changes the tree below a reference, which can be read. -/
def Annotates (change : Tree → Tree) (store : Store) (ref : Ref) (next : Act η β κ) : Prop :=
  (∃ tree, store.tree? ref = some tree) ∧ next = .edit (store.transform ref change)

/-- What a response makes the code that it puts in control do next, if that is the code of one of two
plugins. -/
def Obliges (stats position : Definition η β) (store : Store) (response : Response η β κ)
    (next : Act η β κ) : Prop :=
  match response with
  | .hook plugin => plugin.toDefinition = stats → next = .request (.attachNamed "position")
  | .turn plugin tree _ =>
    (plugin.toDefinition = stats → Annotates Tree.withStats store tree next) ∧
      (plugin.toDefinition = position → Annotates Tree.withPositions store tree next)
  | _ => True

/-- An act is in order: plugins are not attached before they are made, and the code of the statistics and
of the positions does what it has to do. -/
def Conforms (stats position : Definition η β) (p : Processor η β κ) (act : Act η β κ)
    (rest : List (Act η β κ)) : Prop :=
  match act with
  | .request request =>
    p.Fair request ∧ ∀ next ∈ rest.head?,
      Obliges stats position (p.serve request).1.store (p.serve request).2 next
  | _ => True

/-! ## What plugins do to their trees -/

/-- The start of a plugin that goes on with an edit, and the stores before and after the edit. -/
structure Work (η β : Type) extends Start η β Ref where
  before : Store
  after : Store

/-- The store that a history begins with putting in place. -/
def edited : List (Act η β κ) → Option Store
  | .edit store :: _ => some store
  | _ => none

/-- The edits with which the plugins of a run begin their turns. -/
def works (p : Processor η β κ) (run : Nat) : List (Act η β κ) → List (Work η β)
  | [] => []
  | act :: rest =>
    ((edited rest).toList.flatMap fun store =>
      (starts (p.events run act)).map fun start => ⟨start, (p.act act).store, store⟩) ++
      (p.act act).works run rest

/-- A node has got counts in a run: it was given to the statistics, which left them there. -/
def Counted (stats : Definition η β) (p : Processor η β κ) (acts : List (Act η β κ)) (run : Nat)
    (ref : Ref) : Prop :=
  ∃ work ∈ p.works run acts, work.plugin.toDefinition = stats ∧ work.tree = ref ∧
    (work.after.annotation? ref "stats").isSome

/-- A node has got a position in a run: it was in the tree that was given to the positions, which left one
there. -/
def Placed (position : Definition η β) (p : Processor η β κ) (acts : List (Act η β κ)) (run : Nat)
    (ref : Ref) : Prop :=
  ∃ work ∈ p.works run acts, work.plugin.toDefinition = position ∧
    Below work.before.links work.tree ref ∧ (work.after.annotation? ref "position").isSome

/-- What becomes of a tree that a run of some plugins has delivered. -/
structure Offset (stats position : Definition η β) (p : Processor η β κ) (acts : List (Act η β κ))
    (run : Nat) (plugins : List (Plugin η β)) (ref : Ref) : Prop where
  /-- The positions are among the plugins if the statistics are. -/
  paired : ∀ plugin ∈ plugins, plugin.toDefinition = stats →
    ∃ other ∈ plugins, other.toDefinition = position
  /-- Every plugin has been started once, in order. -/
  starts_eq : (starts (p.story run acts)).map (fun start => (start.plugin, start.step)) =
    plugins.zipIdx
  /-- The tree has got counts exactly if it was given to the statistics. -/
  counted_iff : Counted stats p acts run ref ↔
    ∃ start ∈ starts (p.story run acts), start.plugin.toDefinition = stats ∧ start.tree = ref
  /-- It has got a position exactly if it was in a tree that was given to the positions. -/
  placed_iff : Placed position p acts run ref ↔
    ∃ work ∈ p.works run acts, work.plugin.toDefinition = position ∧
      Below work.before.links work.tree ref
  /-- If it was given to the statistics, and no continuation has replaced the tree between them and the
  positions, it has got a position. -/
  carried : ∀ first ∈ starts (p.story run acts), ∀ second ∈ starts (p.story run acts),
    first.plugin.toDefinition = stats → first.tree = ref → second.plugin.toDefinition = position →
      Unreplaced (verdict (p.story run acts)) plugins (min first.step second.step)
        (max first.step second.step) →
      Placed position p acts run ref

/-! ## Histories and their parts -/

theorem Throughout.of_split {good : Processor η β κ → Act η β κ → List (Act η β κ) → Prop}
    {p : Processor η β κ} {earlier rest : List (Act η β κ)} {act : Act η β κ}
    (all : Throughout good p (earlier ++ act :: rest)) : good (p.after earlier) act rest := by
  induction earlier generalizing p with
  | nil => exact all.1
  | cons first earlier inductionHypothesis => exact inductionHypothesis all.2

/-- A hook is started by one of the acts. -/
theorem exists_act_of_mem_hooks {p : Processor η β κ} {acts : List (Act η β κ)} {plugin : Plugin η β}
    (member : plugin ∈ p.hooks acts) :
    ∃ earlier act later, acts = earlier ++ act :: later ∧
      (p.after earlier).hooked act = some plugin := by
  induction acts generalizing p with
  | nil => cases member
  | cons act rest inductionHypothesis =>
      rcases List.mem_append.mp member with now | later
      · exact ⟨[], act, rest, rfl, Option.mem_toList.mp now⟩
      · rcases inductionHypothesis later with ⟨earlier, other, later, split, there⟩
        exact ⟨act :: earlier, other, later, congrArg (act :: ·) split, there⟩

/-- A plugin that is started is put in control by the response. -/
theorem turn_of_start {p : Processor η β κ} {request : Request η β κ} {run : Nat}
    {start : Start η β Ref} (member : start ∈ starts (p.events run (.request request))) :
    ∃ continuation, (p.serve request).2 = .turn start.plugin start.tree continuation := by
  have shown := shown_of_started (mem_of_mem_starts member)
  unfold Processor.shown at shown
  split at shown
  · rename_i plugin tree continuation _ _ _ _ response _
    split at shown
    · cases List.mem_singleton.mp shown
      exact ⟨continuation, response⟩
    · cases shown
  · cases shown

/-! ## What is attached -/

section

variable {p : Processor η β κ}

theorem genuine_attach (genuine : p.attachments.Genuine) {plugin : Plugin η β}
    (made : p.attachments.plugin? plugin.id = some plugin) :
    (p.attach plugin).1.attachments.Genuine := by
  rw [(attach_eq p plugin).1]
  exact genuine.register made

/-- What the plugin of a name is attached as. -/
theorem attachNamed_eq {name : String} {attachments : Attachments η β} {id : Nat} {plugin : Plugin η β}
    (resolved : p.attachments.resolve name = .ok (attachments, id))
    (made : attachments.plugin? id = some plugin) :
    p.attachNamed name = attach { p with attachments := attachments } plugin := by
  unfold attachNamed
  rw [resolved]
  simp only [made]

/-- A request keeps plugins genuine, if it is fair. -/
theorem genuine_serve (genuine : p.attachments.Genuine) {request : Request η β κ}
    (fair : p.Fair request) : (p.serve request).1.attachments.Genuine := by
  cases asked : asksForPlugin request with
  | false =>
      rw [(attachments_serve_of_other p asked).1]
      exact genuine
  | true =>
      cases request with
      | attach plugin => exact genuine_attach genuine fair
      | attachNamed name =>
          cases resolved : p.attachments.resolve name with
          | error error =>
              simp only [serve, attachNamed, resolved]
              exact genuine
          | ok found =>
              rcases genuine.resolve resolved with ⟨later, plugin, made, _⟩
              rw [serve, attachNamed_eq resolved made]
              exact genuine_attach later ((Attachments.lt_size_of_plugin? made).2 ▸ made)
      | attachNew name options =>
          cases created : p.attachments.catalog.create name options with
          | error error =>
              simp only [serve, attachNew, Attachments.create, created]
              exact genuine
          | ok definition =>
              simp only [serve, attachNew, Attachments.create, created]
              refine genuine_attach (genuine.make definition) ?_
              exact (Attachments.plugin?_make _ _ _).trans (if_pos rfl)
      | _ => cases asked

/-- The plugin that the catalog makes for a name is registered when the name is asked for. -/
theorem registered_of_attachNamed (genuine : p.attachments.Genuine) {name : String}
    {definition : Definition η β} (created : p.attachments.catalog.createDefault name = .ok definition) :
    ∃ plugin ∈ (p.attachNamed name).1.attachments.registry.plugins,
      plugin.toDefinition = definition := by
  rcases Attachments.exists_resolve created with ⟨attachments, id, resolved⟩
  rcases genuine.resolve resolved with ⟨later, plugin, made, created'⟩
  have own : attachments.plugin? plugin.id = some plugin :=
    (Attachments.lt_size_of_plugin? made).2 ▸ made
  rw [attachNamed_eq resolved made, (attach_eq _ plugin).1]
  have present := Attachments.has_register_self attachments plugin
  rcases List.mem_map.mp (Attachments.has_eq_true.mp present) with ⟨other, member, same⟩
  refine ⟨other, member, ?_⟩
  have other_eq := (later.register own).registered other member
  rw [same] at other_eq
  cases own.symm.trans other_eq
  rw [created] at created'
  cases created'
  rfl

end

variable {stats position : Definition η β}

/-- Plugins stay genuine as long as the acts are in order. -/
theorem genuine_after {p : Processor η β κ} (genuine : p.attachments.Genuine)
    {earlier rest : List (Act η β κ)}
    (conforms : Throughout (Conforms stats position) p (earlier ++ rest)) :
    (p.after earlier).attachments.Genuine := by
  induction earlier generalizing p with
  | nil => exact genuine
  | cons act earlier inductionHypothesis =>
      refine inductionHypothesis ?_ conforms.2
      cases act with
      | request request => exact genuine_serve genuine conforms.1.1
      | edit store => exact genuine
      | define definition => exact genuine.make definition

/-- The hook of the statistics is followed by a request for the positions. -/
theorem next_of_hooked {p : Processor η β κ} {act : Act η β κ} {rest : List (Act η β κ)}
    {plugin : Plugin η β} (conforms : Conforms stats position p act rest)
    (hook : p.hooked act = some plugin) (counts : plugin.toDefinition = stats) :
    ∀ next ∈ rest.head?, next = .request (.attachNamed "position") := by
  intro next member
  cases act with
  | edit store => cases hook
  | define definition => cases hook
  | request request =>
      have obliged := conforms.2 next member
      have started : (p.serve request).2.hook? = some plugin := hook
      cases response : (p.serve request).2 with
      | hook other =>
          rw [response] at obliged started
          cases started
          exact obliged counts
      | reply answer => rw [response] at started; cases started
      | parser text => rw [response] at started; cases started
      | turn other tree continuation => rw [response] at started; cases started
      | report callback result => rw [response] at started; cases started

/-- The positions stay registered after they have been asked for by their name. -/
theorem registered_after_attachNamed {p : Processor η β κ} (genuine : p.attachments.Genuine)
    (supplied : p.attachments.catalog.createDefault "position" = .ok position)
    (between : List (Act η β κ)) :
    ∃ plugin ∈ (p.after (.request (.attachNamed "position") :: between)).attachments.registry.plugins,
      plugin.toDefinition = position := by
  rcases registered_of_attachNamed genuine supplied with ⟨plugin, there, places⟩
  exact ⟨plugin, (registry_after_grows _ between).subset there, places⟩

/-- A run that has the statistics has the positions. -/
theorem paired_of_opened {p : Processor η β κ} (enrolled : Attachments.Enrolled p.attachments [])
    (genuine : p.attachments.Genuine)
    (supplied : p.attachments.catalog.createDefault "position" = .ok position)
    (hooked : stats.hasHook = true) {acts : List (Act η β κ)} {run : Nat}
    {plugins : List (Plugin η β)} {tree : Ref}
    (conforms : Throughout (Conforms stats position) p acts)
    (opened : .opened plugins tree ∈ p.story run acts) {plugin : Plugin η β}
    (member : plugin ∈ plugins) (counts : plugin.toDefinition = stats) :
    ∃ other ∈ plugins, other.toDefinition = position := by
  rcases exists_act_of_mem_story opened with ⟨earlier, act, later, rfl, event⟩
  rw [(opened_of_mem_events event).2] at member ⊢
  have started : plugin ∈ p.hooks earlier := by
    have enrolled' := enrolled_after enrolled earlier
    rw [List.nil_append] at enrolled'
    rw [enrolled'.hooks_eq]
    exact List.mem_filter.mpr ⟨member, by rw [← hooked, ← counts]⟩
  rcases exists_act_of_mem_hooks started with ⟨before, hook, between, rfl, hook_eq⟩
  rw [List.append_assoc, List.cons_append] at conforms
  have next := next_of_hooked conforms.of_split hook_eq counts
  cases between with
  | nil =>
      have same : act = .request (.attachNamed "position") := next act rfl
      rw [same] at event
      -- A request for a plugin does not open a run.
      cases heard_of_opened event
  | cons first between =>
      have same : first = .request (.attachNamed "position") := next first rfl
      subst same
      rw [List.append_cons] at conforms
      rw [List.append_cons, after_append]
      refine registered_after_attachNamed (genuine_after genuine conforms) ?_ between
      rw [catalog_after, supplied]

/-! ## What is done to the trees of a run -/

theorem start_of_work {p : Processor η β κ} {run : Nat} {acts : List (Act η β κ)} {work : Work η β}
    (member : work ∈ p.works run acts) : work.toStart ∈ starts (p.story run acts) := by
  induction acts generalizing p with
  | nil => cases member
  | cons act rest inductionHypothesis =>
      rw [story, starts_append]
      rcases List.mem_append.mp member with now | later
      · rcases List.mem_flatMap.mp now with ⟨store, _, there⟩
        rcases List.mem_map.mp there with ⟨start, begun, rfl⟩
        exact List.mem_append_left _ begun
      · exact List.mem_append_right _ (inductionHypothesis later)

/-- The tree of a plugin can be read, and its edit is a change of that tree. -/
def Work.Changes (work : Work η β) (change : Tree → Tree) : Prop :=
  (∃ tree, work.before.tree? work.tree = some tree) ∧
    work.after = work.before.transform work.tree change

/-- The next act after a start of one of the two plugins is its edit. -/
theorem annotates_of_start {p : Processor η β κ} {act next : Act η β κ} {rest : List (Act η β κ)}
    {run : Nat} {start : Start η β Ref} (conforms : Conforms stats position p act rest)
    (begun : start ∈ starts (p.events run act)) (follows : next ∈ rest.head?) :
    (start.plugin.toDefinition = stats →
      Annotates Tree.withStats (p.act act).store start.tree next) ∧
    (start.plugin.toDefinition = position →
      Annotates Tree.withPositions (p.act act).store start.tree next) := by
  cases act with
  | edit store => cases begun
  | define definition => cases begun
  | request request =>
      rcases turn_of_start begun with ⟨continuation, response⟩
      have obliged := conforms.2 next follows
      rw [response] at obliged
      exact obliged

theorem changes_of_work {p : Processor η β κ} {run : Nat} {acts : List (Act η β κ)} {work : Work η β}
    (conforms : Throughout (Conforms stats position) p acts) (member : work ∈ p.works run acts) :
    (work.plugin.toDefinition = stats → work.Changes Tree.withStats) ∧
      (work.plugin.toDefinition = position → work.Changes Tree.withPositions) := by
  induction acts generalizing p with
  | nil => cases member
  | cons act rest inductionHypothesis =>
      rcases List.mem_append.mp member with now | later
      · rcases List.mem_flatMap.mp now with ⟨store, edits, there⟩
        rcases List.mem_map.mp there with ⟨start, begun, rfl⟩
        cases rest with
        | nil => cases edits
        | cons next rest =>
            have obliged := annotates_of_start conforms.1 begun rfl
            cases next with
            | request request => cases edits
            | define definition => cases edits
            | edit other =>
                cases List.mem_singleton.mp edits
                exact ⟨fun counts => ⟨(obliged.1 counts).1, Act.edit.inj (obliged.1 counts).2⟩,
                  fun places => ⟨(obliged.2 places).1, Act.edit.inj (obliged.2 places).2⟩⟩
      · exact inductionHypothesis conforms.2 later

/-- A plugin is started by nothing but the effect of a start. -/
theorem eq_start_of_mem_events {effect : Effect η β Ref} {start : Start η β Ref}
    (member : .started start.step start.plugin start.tree ∈ effect.events) :
    effect = .start start.step start.plugin start.tree := by
  cases effect with
  | start step plugin tree => cases List.mem_singleton.mp member; rfl
  | settle result => cases List.mem_singleton.mp member
  | rest => cases member

/-- A run has no result when a plugin of it is started. -/
theorem Consistent.outcome_of_start {p : Processor η β κ} {stories : Nat → List (Event η β Ref)}
    {reports : Nat → List (κ × Except Error Ref)} (consistent : Consistent p stories reports)
    {act : Act η β κ} {run : Nat} {start : Start η β Ref} (begun : start ∈ starts (p.events run act)) :
    (p.act act).outcome run = none := by
  cases act with
  | edit store => cases begun
  | define definition => cases begun
  | request request =>
      cases consistent.serve request with
      | quiet _ _ calm =>
          rcases turn_of_start begun with ⟨continuation, response⟩
          rw [response] at calm
          cases calm
      | @moved moving dispatch heard moved move accords _ _ =>
          have member := mem_of_mem_starts begun
          rw [events, move.events_eq] at member
          split at member
          · rename_i same
            subst same
            have heard_eq : p.heard request moving = heard := by rw [move.heard_eq, if_pos rfl]
            rcases List.mem_append.mp member with told | done
            · exact absurd (heard_eq ▸ told) (started_notMem_heard p request)
            · rcases accords with ⟨plugins, tree, later, _, accords⟩
              rw [eq_start_of_mem_events done, Effect.events] at accords
              -- Nothing happens to the run after the start, and before it there is no result.
              have due := accords.told.orderly (stories moving ++ heard) _ []
                (by rw [List.append_assoc])
              have none := accords.results_eq
              rw [← List.append_assoc, results_append, due.1] at none
              change ((p.serve request).1.dispatches[moving]?.bind _) = _
              rw [move.there, Option.bind_some]
              exact Option.toList_eq_nil_iff.mp none.symm
          · cases member

/-- Each plugin that is known has begun its turn with its edit, if the run has a result. -/
theorem exists_work {p : Processor η β κ} {stories : Nat → List (Event η β Ref)}
    {reports : Nat → List (κ × Except Error Ref)} (consistent : Consistent p stories reports)
    {acts : List (Act η β κ)} (conforms : Throughout (Conforms stats position) p acts) {run : Nat}
    {result : Except Error Ref} (settled : (p.after acts).outcome run = some result)
    {start : Start η β Ref} (begun : start ∈ starts (p.story run acts))
    (known : start.plugin.toDefinition = stats ∨ start.plugin.toDefinition = position) :
    ∃ work ∈ p.works run acts, work.toStart = start := by
  induction acts generalizing p stories reports with
  | nil => cases begun
  | cons act rest inductionHypothesis =>
      rw [story, starts_append] at begun
      rcases List.mem_append.mp begun with now | later
      · cases rest with
        | nil =>
            have unsettled : (p.after [act]).outcome run = none := consistent.outcome_of_start now
            rw [unsettled] at settled
            cases settled
        | cons next rest =>
            have obliged := annotates_of_start conforms.1 now rfl
            have edits : ∃ store, next = .edit store := by
              rcases known with counts | places
              · exact ⟨_, (obliged.1 counts).2⟩
              · exact ⟨_, (obliged.2 places).2⟩
            rcases edits with ⟨store, rfl⟩
            refine ⟨⟨start, (p.act act).store, store⟩, List.mem_append_left _ ?_, rfl⟩
            exact List.mem_flatMap.mpr ⟨store, List.mem_singleton_self _, List.mem_map_of_mem now⟩
      · rcases inductionHypothesis (consistent.act act) conforms.2 settled later with
          ⟨work, there, same⟩
        exact ⟨work, List.mem_append_right _ there, same⟩

theorem Work.Changes.counted {work : Work η β} (changes : work.Changes Tree.withStats) :
    (work.after.annotation? work.tree "stats").isSome := by
  rcases changes with ⟨⟨tree, read⟩, same⟩
  rw [same, Store.annotation?_transform_withStats read]
  rfl

theorem Work.Changes.placed {work : Work η β} (changes : work.Changes Tree.withPositions) {ref : Ref}
    (below : Below work.before.links work.tree ref) :
    (work.after.annotation? ref "position").isSome := by
  rcases changes with ⟨⟨tree, read⟩, same⟩
  rw [same]
  exact Store.annotation?_transform_withPositions read below

/-! ## Delivered trees -/

/-- What becomes of a tree that a run has delivered. -/
theorem offset_after {model : Model} {store : Store} {catalog : Catalog η β}
    (supplied : catalog.createDefault "position" = .ok position) (hooked : stats.hasHook = true)
    {acts : List (Act η β κ)} {run : Nat} {plugins : List (Plugin η β)} {tree ref : Ref}
    {rest : List (Event η β Ref)}
    (conforms : Throughout (Conforms stats position) (fresh model store (.empty catalog)) acts)
    (opened : (fresh model store (.empty catalog)).story run acts = .opened plugins tree :: rest)
    (delivered : ((fresh model store (.empty catalog)).after acts).outcome run = some (.ok ref)) :
    Offset stats position (fresh model store (.empty catalog)) acts run plugins ref := by
  have consistent : Consistent (fresh model store (.empty catalog) : Processor η β κ) (fun _ => [])
      fun _ => [] := consistent_fresh model store (.empty catalog)
  rcases (consistent_after model store (.empty catalog) acts).of_opened opened with
    ⟨dispatch, there, accords⟩
  have outcome : dispatch.run.outcome = some (.ok ref) := by
    rw [Processor.outcome, there, Option.bind_some] at delivered
    exact delivered
  rcases accords.passed_of_ok outcome with ⟨step, passed, last⟩
  have placed : ∀ second ∈ starts ((fresh model store (.empty catalog)).story run acts),
      second.plugin.toDefinition = position → second.tree = ref →
        Placed position (fresh model store (.empty catalog)) acts run ref := by
    intro second member places same
    rcases exists_work consistent conforms delivered member (.inr places) with ⟨work, inside, rfl⟩
    have below : Below work.before.links work.tree ref := same ▸ .here work.tree
    exact ⟨work, inside, places, below, ((changes_of_work conforms inside).2 places).placed below⟩
  constructor
  case paired =>
    exact fun plugin member counts => paired_of_opened (Attachments.enrolled_empty catalog)
      (Attachments.genuine_empty catalog) supplied hooked conforms (opened ▸ List.mem_cons_self)
      member counts
  case starts_eq =>
    rw [passed.starts_eq, List.take_of_length_le (List.getElem?_eq_none_iff.mp last)]
  case counted_iff =>
    constructor
    · rintro ⟨work, inside, counts, same, _⟩
      exact ⟨work.toStart, start_of_work inside, counts, same⟩
    · rintro ⟨start, member, counts, same⟩
      rcases exists_work consistent conforms delivered member (.inl counts) with ⟨work, inside, rfl⟩
      exact ⟨work, inside, counts, same, same ▸ ((changes_of_work conforms inside).1 counts).counted⟩
  case placed_iff =>
    constructor
    · rintro ⟨work, inside, places, below, _⟩
      exact ⟨work, inside, places, below⟩
    · rintro ⟨work, inside, places, below⟩
      exact ⟨work, inside, places, below, ((changes_of_work conforms inside).2 places).placed below⟩
  case carried =>
    intro first first_mem second second_mem counts same places kept
    refine placed second second_mem places ?_
    rw [← same]
    rcases Nat.le_total first.step second.step with le | le
    · rw [Nat.min_eq_left le, Nat.max_eq_right le] at kept
      exact (passed.tree_eq_tree first_mem second_mem le kept).symm
    · rw [Nat.min_eq_right le, Nat.max_eq_left le] at kept
      exact passed.tree_eq_tree second_mem first_mem le kept

/-! ### A replaced tree -/

/-- The plugin of the positions, as the stock catalog makes it. -/
def positions : Stock.Stocked := Stock.plain "position" .position

def swap : Stock.Stocked := ⟨"swap", .async, none, .uppercase⟩

def hollow : Node Ref := ⟨⟨Kind.root, .parent⟩, .children [], []⟩

def documents : Store := ⟨#[hollow, hollow]⟩

def stocked : Processor (List Stock.Need) Stock.Transform Unit :=
  fresh Model.empty documents (.empty (Stock.catalog Pattern.reader))

/-- The positions, an async plugin and the statistics are attached.  The hook of the statistics is about to
return. -/
def attachAround : List (Act (List Stock.Need) Stock.Transform Unit) :=
  [.request (.attachNamed "position"), .define swap, .request (.attach ⟨swap, 1⟩),
    .request (.attachNamed "stats"), .request (.attachNamed "position")]

def placedFirst : Store := documents.transform 0 Tree.withPositions

/-- A run over the first document, in which the async plugin puts the second one in its place. -/
def replaceBetween : List (Act (List Stock.Need) Stock.Transform Unit) :=
  attachAround ++ [.request (.returned (.ok ())), .request (.run 0 (some ())), .edit placedFirst,
    .request (.returned (.ok ())), .request (.signal ⟨0, 1⟩ (.replace 1)),
    .request (.returned (.ok ())), .edit (placedFirst.transform 1 Tree.withStats),
    .request (.returned (.ok ()))]

theorem conforms_replaceBetween :
    Throughout (Conforms Stock.stats positions) stocked replaceBetween := by
  have other : ∀ definition definition' : Stock.Stocked, definition.name ≠ definition'.name →
      definition = definition' → False := fun _ _ names same => names (congrArg Definition.name same)
  refine ⟨⟨trivial, ?_⟩, trivial, ⟨rfl, ?_⟩, ⟨trivial, ?_⟩, ⟨trivial, ?_⟩, ⟨trivial, ?_⟩,
    ⟨trivial, ?_⟩, trivial, ⟨trivial, ?_⟩, ⟨trivial, ?_⟩, ⟨trivial, ?_⟩, trivial, ⟨trivial, ?_⟩, trivial⟩
  · rintro next ⟨⟩
    trivial
  · rintro next ⟨⟩
    trivial
  · rintro next ⟨⟩
    exact fun _ => rfl
  · rintro next ⟨⟩
    trivial
  · rintro next ⟨⟩
    trivial
  · rintro next ⟨⟩
    exact ⟨fun same => (other _ _ (by decide) same).elim, fun _ => ⟨⟨_, rfl⟩, rfl⟩⟩
  · rintro next ⟨⟩
    exact ⟨fun same => (other _ _ (by decide) same).elim, fun same => (other _ _ (by decide) same).elim⟩
  · rintro next ⟨⟩
    trivial
  · rintro next ⟨⟩
    exact ⟨fun _ => ⟨⟨_, rfl⟩, rfl⟩, fun same => (other _ _ (by decide) same).elim⟩
  · rintro next ⟨⟩

/-- The second document is delivered. -/
theorem offset_after_replaceBetween :
    Offset Stock.stats positions stocked replaceBetween 0
      [⟨positions, 0⟩, ⟨swap, 1⟩, ⟨Stock.stats, 2⟩] 1 :=
  offset_after rfl rfl conforms_replaceBetween rfl rfl

/-- The statistics have been attached without an error, and the document that is delivered has got counts
from them, but no position. -/
theorem counted_not_placed_replaceBetween :
    Throughout (Conforms Stock.stats positions) stocked replaceBetween ∧
      ((stocked.after attachAround).serve (.returned (.ok ()))).2 = .reply (.ok .done) ∧
      (stocked.after replaceBetween).outcome 0 = some (.ok 1) ∧
      Counted Stock.stats stocked replaceBetween 0 1 ∧
      ¬ Placed positions stocked replaceBetween 0 1 := by
  have works_eq : stocked.works 0 replaceBetween =
      [⟨⟨0, ⟨positions, 0⟩, 0⟩, documents, placedFirst⟩,
        ⟨⟨2, ⟨Stock.stats, 2⟩, 1⟩, placedFirst, placedFirst.transform 1 Tree.withStats⟩] := rfl
  refine ⟨conforms_replaceBetween, rfl, rfl, ?_, ?_⟩
  · rw [Counted, works_eq]
    exact ⟨_, List.mem_cons_of_mem _ List.mem_cons_self, rfl, rfl, rfl⟩
  · rw [Placed, works_eq]
    rintro ⟨work, member, places, below, _⟩
    rcases List.mem_cons.mp member with rfl | later
    · -- The first document has no children, so the second one is not below it.
      cases below with
      | child linked inside =>
          cases linked
          cases inside
    · cases List.mem_singleton.mp later
      exact absurd (congrArg Definition.name places) (by decide)

end Processor
end Prose
