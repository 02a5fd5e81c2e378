import Prose.Proofs.Trace.Replay
import Prose.Proofs.Tree.Plain
import Prose.Proofs.Workbench.Process
import Prose.Proofs.Workbench.Stages

namespace Prose

/-!
# What a trace notes as unchanged

Outlines are as good as trees, over the standard types and if no annotation holds a fraction: no two
trees have the same outline, with or without the line feed at its end.  A trace compares outlines, and
so it notes a step as unchanged just when the plugin has left the tree as it was, and not merely one that
looks like it.
-/

namespace Workbench

/-- Every plugin takes a trace from one stage to the next. -/
theorem exists_stage {plugins : List (Plugin (List Stock.Need) Stock.Transform)} {tree : Tree}
    {found : List (String × Tree)} (staged : stages tree plugins = .ok found) {label : String} {i : Nat}
    {plugin : Plugin (List Stock.Need) Stock.Transform} {before : String × Tree}
    (taken : plugins[i]? = some plugin) (first : ((label, tree) :: found)[i]? = some before) :
    ∃ after, found[i]? = some after ∧ transform [plugin] before.2 = .ok after.2 := by
  induction plugins generalizing tree found label i with
  | nil => cases taken
  | cons head rest inductionHypothesis =>
      cases made : transform [head] tree with
      | error error =>
          rw [stages_cons_of_error made] at staged
          cases staged
      | ok next =>
          rw [stages_cons_of_ok made] at staged
          cases others : stages next rest with
          | error error =>
              rw [others] at staged
              cases staged
          | ok more =>
              rw [others] at staged
              cases staged
              cases i with
              | zero =>
                  cases taken
                  cases first
                  exact ⟨(plugin.name, next), rfl, made⟩
              | succ i =>
                  rw [List.getElem?_cons_succ] at taken first
                  rw [List.getElem?_cons_succ]
                  exact inductionHypothesis others taken first

/-- What a single plugin makes of a tree, if it makes anything of it, its transform makes of it. -/
theorem apply_of_transform {plugin : Plugin (List Stock.Need) Stock.Transform} {tree next : Tree}
    (made : transform [plugin] tree = .ok next) : next = plugin.transform.apply tree := by
  rw [transform_eq_follow] at made
  cases stepped : (conduct plugin tree ()).2.step plugin () with
  | ok state =>
      rw [Run.follow_cons_of_ok stepped] at made
      cases made
      rfl
  | error error =>
      rw [Run.follow_cons_of_error stepped] at made
      cases made

/-- The stages of a text are plain trees. -/
theorem plain_stages {plugins : List (Plugin (List Stock.Need) Stock.Transform)} {tree : Tree}
    {found : List (String × Tree)} (plain : tree.Plain) (staged : stages tree plugins = .ok found) :
    ∀ stage ∈ found, stage.2.Plain := by
  induction plugins generalizing tree found with
  | nil =>
      cases staged
      exact nofun
  | cons plugin rest inductionHypothesis =>
      cases made : transform [plugin] tree with
      | error error =>
          rw [stages_cons_of_error made] at staged
          cases staged
      | ok next =>
          rw [stages_cons_of_ok made] at staged
          have after : next.Plain := apply_of_transform made ▸ plain.apply plugin.transform
          cases others : stages next rest with
          | error error =>
              rw [others] at staged
              cases staged
          | ok more =>
              rw [others] at staged
              cases staged
              exact List.forall_mem_cons.mpr ⟨after, inductionHypothesis after others⟩

theorem plain_build {bench : Workbench} (standard : bench.model = .standard) {text : String}
    {tree : Tree} (built : bench.build text = .ok tree) : tree.Plain := by
  rw [build, standard] at built
  exact Tree.plain_ofCst _ built (data_parse text)

end Workbench

namespace Trace

variable {a b : Tree}

/-- Trees are equal if their outlines have the same lines. -/
theorem tree_eq_of_linesOf (plainA : a.Plain) (plainB : b.Plain)
    (same : linesOf a.outline = linesOf b.outline) : a = b := by
  have lines : ∀ {tree : Tree}, tree.Plain → linesOf tree.outline = tree.outlineLines 0 := by
    intro tree plain
    have closed : ∀ line ∈ tree.outlineLines 0, '\n' ∉ line.toList := fun line member =>
      (solid_outlineLines plain.known line member).1
    exact linesOf_unlines closed
  rw [lines plainA, lines plainB] at same
  exact Tree.outlineLines_inj plainA.known plainB.known plainA.whole plainB.whole same

theorem outline_inj (plainA : a.Plain) (plainB : b.Plain) : a.outline = b.outline ↔ a = b :=
  ⟨fun same => tree_eq_of_linesOf plainA plainB (congrArg linesOf same), congrArg Tree.outline⟩

theorem trimEnd_outline_inj (plainA : a.Plain) (plainB : b.Plain) :
    trimEnd a.outline = trimEnd b.outline ↔ a = b := by
  constructor
  · intro same
    have lines := congrArg Change.split same
    rw [outline_eq, outline_eq, split_trimEnd (outlineLines_ne_nil a) (solid_outlineLines plainA.known),
      split_trimEnd (outlineLines_ne_nil b) (solid_outlineLines plainB.known)] at lines
    exact Tree.outlineLines_inj plainA.known plainB.known plainA.whole plainB.whole lines
  · intro same
    rw [same]

/-- A step is noted as unchanged just when its tree is the one before. -/
theorem getElem?_bodies_unchanged {steps : List (String × Tree)} (plain : ∀ step ∈ steps, step.2.Plain)
    {i : Nat} {before after : String × Tree} (first : steps[i]? = some before)
    (second : steps[i + 1]? = some after) :
    (bodies none (steps.map Workbench.shown))[i + 1]? = some unchanged ↔ after.2 = before.2 := by
  have made : Outlined (steps.map Workbench.shown) := by
    intro step member
    rcases List.mem_map.mp member with ⟨stage, inside, rfl⟩
    exact ⟨stage.2, (plain stage inside).known, rfl⟩
  have shown : ∀ {j : Nat} {stage : String × Tree}, steps[j]? = some stage →
      (steps.map Workbench.shown)[j]? = some (Workbench.shown stage) := by
    intro j stage found
    rw [List.getElem?_map, found, Option.map_some]
  have shows := (shows_step made (List.mem_of_getElem? (shown first))
    (List.mem_of_getElem? (shown second))).1
  rw [getElem?_bodies none (shown first) (shown second), Option.some.injEq]
  constructor
  · intro note
    cases shows with
    | unchanged same text =>
        exact tree_eq_of_linesOf (plain after (List.mem_of_getElem? second))
          (plain before (List.mem_of_getElem? first)) same
    | changed different text old new => exact absurd note text
  · intro same
    cases shows with
    | unchanged same text => exact text
    | changed different text old new =>
        exact absurd (congrArg (fun tree => linesOf (Tree.outline tree)) same) different

/-- The outline determines the tree, and so does the outline without its last line feed.  Hence a trace
notes a step as unchanged just when its tree is the one before; when the trees are stages of a text, that
is just when the plugin has left the tree as it was. -/
theorem outline_determines_tree :
    (∀ a b : Tree, a.Plain → b.Plain →
      (a.outline = b.outline ↔ a = b) ∧ (trimEnd a.outline = trimEnd b.outline ↔ a = b)) ∧
    (∀ steps : List (String × Tree), (∀ step ∈ steps, step.2.Plain) →
      ∀ (i : Nat) (before after : String × Tree), steps[i]? = some before →
        steps[i + 1]? = some after →
          ((bodies none (steps.map Workbench.shown))[i + 1]? = some unchanged ↔
            after.2 = before.2)) ∧
    (∀ (bench : Workbench) (document : CommandLine.Document) (tree : Tree)
      (stages : List (String × Tree)), bench.model = .standard →
        bench.build document.text = .ok tree → Workbench.stages tree bench.plugins = .ok stages →
          let steps := ("parse", tree) :: stages
          CommandLine.trace bench document =
              .ok (framed 0 ((steps.map Prod.fst).zip (bodies none (steps.map Workbench.shown)))) ∧
            ∀ (i : Nat) (plugin : Plugin (List Stock.Need) Stock.Transform) (before : String × Tree),
              bench.plugins[i]? = some plugin → steps[i]? = some before →
                ((bodies none (steps.map Workbench.shown))[i + 1]? = some unchanged ↔
                  Workbench.transform [plugin] before.2 = .ok before.2)) := by
  refine ⟨fun a b plainA plainB => ⟨outline_inj plainA plainB, trimEnd_outline_inj plainA plainB⟩,
    fun steps plain i before after => getElem?_bodies_unchanged plain, ?_⟩
  intro bench document tree stages standard built staged steps
  refine ⟨?_, fun i plugin before taken first => ?_⟩
  · have labels : (steps.map Workbench.shown).map Step.label = steps.map Prod.fst := List.map_map
    rw [Workbench.trace_eq, Workbench.steps_of_ok built, staged, ← labels, ← write_eq_framed]
    rfl
  have parsed := Workbench.plain_build standard built
  have plain : ∀ step ∈ steps, step.2.Plain :=
    List.forall_mem_cons.mpr ⟨parsed, Workbench.plain_stages parsed staged⟩
  rcases Workbench.exists_stage staged taken first with ⟨after, second, made⟩
  rw [getElem?_bodies_unchanged plain first (by rw [List.getElem?_cons_succ]; exact second), made,
    Except.ok.injEq]

/-- A word with a note, and a word whose text goes on as that note is shown, have different outlines.  A
quoted word on two lines is given positions twice: the first time its tree changes, the second time it does
not. -/
theorem outline_determines_tree_quoted :
    let leaf (type text : String) : Tree := .leaf ⟨type, .text⟩ [] text
    let document (trees : List Tree) : Tree := .branch ⟨Kind.root, .parent⟩ []
      [.branch ⟨Kind.paragraph, .parent⟩ [] [.branch ⟨Kind.sentence, .parent⟩ [] trees]]
    let noted : Tree := document [.leaf ⟨Kind.word, .text⟩ [("note", .string "\"\\ \x7b")] "it"]
    let spelled : Tree := document [leaf Kind.word "it\" \x7b\"note\":\"\\\"\\\\ \x7b\"\x7d"]
    let position : Stock.Stocked := Stock.plain "position" .position
    let bench : Workbench := ⟨.standard,
      ⟨Stock.catalog Pattern.reader, #[position, position], ⟨[⟨position, 0⟩, ⟨position, 1⟩]⟩, []⟩⟩
    let built : Tree := document [leaf Kind.word "Say", leaf Kind.whiteSpace "\n",
      leaf Kind.punctuation "\"", leaf Kind.word "no", leaf Kind.punctuation "\""]
    let steps : List (String × Tree) :=
      [("parse", built), ("position", built.withPositions), ("position", built.withPositions)]
    noted.Plain ∧ spelled.Plain ∧
      noted.outline ≠ spelled.outline ∧ trimEnd noted.outline ≠ trimEnd spelled.outline ∧
    bench.build "Say\n\"no\"" = .ok built ∧ Workbench.stages built bench.plugins = .ok (steps.drop 1) ∧
      (∀ step ∈ steps, step.2.Plain) ∧
      (bodies none (steps.map Workbench.shown))[1]? ≠ some unchanged ∧
      (bodies none (steps.map Workbench.shown))[2]? = some unchanged := by
  intro leaf document noted spelled position bench built steps
  have plain_document : ∀ {trees : List Tree}, (∀ tree ∈ trees, tree.Plain) → (document trees).Plain :=
    fun each => Tree.plain_branch.mpr ⟨⟨rfl, List.forall_mem_nil _⟩, List.forall_mem_singleton.mpr
      (Tree.plain_branch.mpr ⟨⟨rfl, List.forall_mem_nil _⟩, List.forall_mem_singleton.mpr
        (Tree.plain_branch.mpr ⟨⟨rfl, List.forall_mem_nil _⟩, each⟩)⟩)⟩
  have plainNoted : noted.Plain := plain_document <| List.forall_mem_singleton.mpr <|
    Tree.plain_leaf.mpr ⟨rfl, List.forall_mem_singleton.mpr (.string _)⟩
  have plainSpelled : spelled.Plain := plain_document <| List.forall_mem_singleton.mpr <|
    Tree.plain_leaf.mpr ⟨rfl, List.forall_mem_nil _⟩
  have apart : noted ≠ spelled := fun same => absurd (congrArg Tree.text same) (by decide)
  have outlines := outline_determines_tree.1 noted spelled plainNoted plainSpelled
  have parsed : bench.build "Say\n\"no\"" = .ok built := rfl
  have staged : Workbench.stages built bench.plugins = .ok (steps.drop 1) := rfl
  have start : built.Plain := Workbench.plain_build rfl parsed
  have after : built.withPositions.Plain := start.positionFrom 0
  have plain : ∀ step ∈ steps, step.2.Plain := by
    simp only [steps, List.forall_mem_cons, List.not_mem_nil, false_imp_iff, implies_true, and_true]
    exact ⟨start, after, after⟩
  have changed : built.withPositions ≠ built := fun same =>
    List.cons_ne_nil _ _ (congrArg Tree.data same)
  refine ⟨plainNoted, plainSpelled, mt outlines.1.mp apart, mt outlines.2.mp apart, parsed, staged, plain,
    ?_, ?_⟩
  · exact fun note => changed ((outline_determines_tree.2.1 steps plain 0 _ _ rfl rfl).mp note)
  · have traced := outline_determines_tree.2.2 bench ⟨"<stdin>", "Say\n\"no\""⟩ built _ rfl parsed staged
    exact (traced.2 1 ⟨position, 1⟩ _ rfl rfl).mpr rfl

end Trace
end Prose
