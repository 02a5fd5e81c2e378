import Prose.CommandLine.Outcome
import Prose.Proofs.Pipeline.Steps

namespace Prose
namespace Workbench

/-!
# Stages of a text

A trace takes the tree of a text through one plugin after the other, each in a run of its own, and shows
the tree after each of them.  Processing takes it through all plugins in one run.  Both come to the same:
the last stage shows the tree that processing gives, and if there is none, both fail alike.
-/

/-- The step of a trace that shows a tree under a label. -/
def shown (stage : String × Tree) : Trace.Step := ⟨stage.1, stage.2.outline⟩

/-- The steps that a trace of a text shows. -/
def steps (bench : Workbench) (text : String) : Except Error (List Trace.Step) :=
  match bench.build text with
  | .error error => .error error
  | .ok tree => (stages tree bench.plugins).map fun stages => (("parse", tree) :: stages).map shown

/-! ## Transforms -/

/-- What plugins make of a tree is what they come to one after the other. -/
theorem transform_eq_follow (plugins : List (Plugin (List Stock.Need) Stock.Transform)) (tree : Tree) :
    transform plugins tree =
      (Run.follow conduct plugins tree ()).2.map fun _ => (Run.follow conduct plugins tree ()).1 := by
  rw [transform, Run.collect_eq]

/-- The plugins behind the first one are given the tree that it makes in a run of its own. -/
theorem transform_cons (plugin : Plugin (List Stock.Need) Stock.Transform)
    (rest : List (Plugin (List Stock.Need) Stock.Transform)) (tree : Tree) :
    transform (plugin :: rest) tree = transform [plugin] tree >>= transform rest := by
  rw [transform_eq_follow, transform_eq_follow]
  cases stepped : (conduct plugin tree ()).2.step plugin () with
  | ok next =>
      rw [Run.follow_cons_of_ok stepped, Run.follow_cons_of_ok stepped]
      exact (transform_eq_follow rest _).symm
  | error error =>
      rw [Run.follow_cons_of_error stepped, Run.follow_cons_of_error stepped]
      rfl

/-! ## Stages -/

section

variable {plugin : Plugin (List Stock.Need) Stock.Transform} {tree : Tree}

theorem stages_cons_of_ok {next : Tree} (made : transform [plugin] tree = .ok next)
    (rest : List (Plugin (List Stock.Need) Stock.Transform)) :
    stages tree (plugin :: rest) =
      (stages next rest).map fun more => (plugin.name, next) :: more := by
  rw [stages, made]
  change (stages next rest >>= fun more => .ok ((plugin.name, next) :: more)) = _
  cases stages next rest <;> rfl

theorem stages_cons_of_error {error : Error} (failed : transform [plugin] tree = .error error)
    (rest : List (Plugin (List Stock.Need) Stock.Transform)) :
    stages tree (plugin :: rest) = .error error := by
  rw [stages, failed]
  rfl

end

/-- The last stage has the tree that the plugins make in one run. -/
theorem stages_last (label : String) (plugins : List (Plugin (List Stock.Need) Stock.Transform))
    (tree : Tree) :
    (stages tree plugins).map (fun stages => ((label, tree) :: stages).getLast?.map Prod.snd) =
      (transform plugins tree).map some := by
  induction plugins generalizing label tree with
  | nil => rfl
  | cons plugin rest inductionHypothesis =>
      rw [transform_cons plugin rest tree]
      cases made : transform [plugin] tree with
      | error error =>
          rw [stages_cons_of_error made]
          rfl
      | ok next =>
          rw [stages_cons_of_ok made]
          change _ = (transform rest next).map some
          rw [← inductionHypothesis plugin.name next]
          cases stages next rest with
          | error error => rfl
          | ok more =>
              have last : ((label, tree) :: (plugin.name, next) :: more).getLast? =
                  ((plugin.name, next) :: more).getLast? := List.getLast?_cons_cons
              exact congrArg (fun last => Except.ok (last.map Prod.snd)) last

/-- There is one stage for each plugin. -/
theorem stages_labels {plugins : List (Plugin (List Stock.Need) Stock.Transform)} {tree : Tree}
    {found : List (String × Tree)} (staged : stages tree plugins = .ok found) :
    found.map Prod.fst = plugins.map fun plugin => plugin.name := by
  induction plugins generalizing tree found with
  | nil =>
      cases staged
      rfl
  | cons plugin rest inductionHypothesis =>
      cases made : transform [plugin] tree with
      | error error =>
          rw [stages_cons_of_error made] at staged
          cases staged
      | ok next =>
          rw [stages_cons_of_ok made] at staged
          cases others : stages next rest with
          | error error =>
              rw [others] at staged
              cases staged
          | ok more =>
              rw [others] at staged
              cases staged
              rw [List.map_cons, List.map_cons, inductionHypothesis others]

/-! ## Traces -/

/-- A trace goes the way of processing. -/
structure Stepwise (bench : Workbench) (document : CommandLine.Document) : Prop where
  /-- The trace shows its steps. -/
  shown : CommandLine.trace bench document = (bench.steps document.text).map Trace.render
  /-- There is a step for the tree of the text and one for each plugin. -/
  labels : ∀ steps, bench.steps document.text = .ok steps →
    steps.map Trace.Step.label = "parse" :: bench.names
  /-- The last step has the outline of the tree that processing gives, and if there is none, both fail
  alike. -/
  last : (bench.steps document.text).map (fun steps => steps.getLast?.map Trace.Step.outline) =
    (bench.process document.text).map fun tree => some tree.outline

theorem steps_of_ok {bench : Workbench} {text : String} {tree : Tree}
    (built : bench.build text = .ok tree) :
    bench.steps text =
      (stages tree bench.plugins).map fun stages => (("parse", tree) :: stages).map shown := by
  rw [steps, built]

theorem steps_of_error {bench : Workbench} {text : String} {error : Error}
    (failed : bench.build text = .error error) : bench.steps text = .error error := by
  rw [steps, failed]

theorem trace_eq (bench : Workbench) (document : CommandLine.Document) :
    CommandLine.trace bench document = (bench.steps document.text).map Trace.render := by
  rw [CommandLine.trace]
  cases built : bench.build document.text with
  | error error =>
      rw [steps_of_error built]
      rfl
  | ok tree =>
      rw [steps_of_ok built]
      change (stages tree bench.plugins >>= fun stages =>
        .ok (Trace.render ((("parse", tree) :: stages).map shown))) = _
      cases stages tree bench.plugins <;> rfl

theorem steps_labels {bench : Workbench} {text : String} {found : List Trace.Step}
    (traced : bench.steps text = .ok found) :
    found.map Trace.Step.label = "parse" :: bench.names := by
  cases built : bench.build text with
  | error error =>
      rw [steps_of_error built] at traced
      cases traced
  | ok tree =>
      rw [steps_of_ok built] at traced
      cases staged : stages tree bench.plugins with
      | error error =>
          rw [staged] at traced
          cases traced
      | ok more =>
          rw [staged] at traced
          cases traced
          have same : Trace.Step.label ∘ shown = Prod.fst := rfl
          rw [List.map_map, same, List.map_cons, stages_labels staged]
          rfl

theorem steps_last (bench : Workbench) (text : String) :
    (bench.steps text).map (fun steps => steps.getLast?.map Trace.Step.outline) =
      (bench.process text).map fun tree => some tree.outline := by
  rw [process]
  cases built : bench.build text with
  | error error =>
      rw [steps_of_error built]
      rfl
  | ok tree =>
      have outlines : ∀ list : List (String × Tree),
          (list.map shown).getLast?.map Trace.Step.outline =
            (list.getLast?.map Prod.snd).map Tree.outline := by
        intro list
        rw [List.getLast?_map, Option.map_map, Option.map_map]
        rfl
      have last := congrArg (Except.map fun last => last.map Tree.outline)
        (stages_last "parse" bench.plugins tree)
      rw [steps_of_ok built]
      calc ((stages tree bench.plugins).map fun stages => (("parse", tree) :: stages).map shown).map _
          = ((stages tree bench.plugins).map fun stages =>
              (("parse", tree) :: stages).getLast?.map Prod.snd).map fun last =>
                last.map Tree.outline := by
            cases stages tree bench.plugins with
            | error error => rfl
            | ok more => exact congrArg Except.ok (outlines _)
        _ = ((transform bench.plugins tree).map some).map fun last => last.map Tree.outline := last
        _ = (transform bench.plugins tree).map fun tree => some tree.outline := by
            cases transform bench.plugins tree <;> rfl

/-- A trace and processing come to the same, as plugins that run one by one come to what they come to in
one run. -/
theorem process_stepwise {η β ν σ : Type} (conduct : Run.Conduct η β ν σ) (plugins : List (Plugin η β))
    (state : σ) (tree : ν) (bench : Workbench) (document : CommandLine.Document) :
    Run.OneByOne conduct plugins state tree ∧ Stepwise bench document := by
  refine ⟨Run.oneByOne conduct plugins state tree, ?_⟩
  exact {
    shown := trace_eq bench document
    labels := fun _ traced => steps_labels traced
    last := steps_last bench document.text }

end Workbench
end Prose
