import Prose.Proofs.English.Order
import Prose.Proofs.Pipeline.Plain
import Prose.Proofs.Plugin.Lineup
import Prose.Proofs.Plugin.Transforms
import Prose.Workbench

namespace Prose

/-!
# What processing a text gives

A workbench builds the tree of a text and takes it through its plugins.  They are stock plugins and so
plain, and the run over them is the composition of their transforms.  What stands at each place of the
result is known from the node of the built tree and from the transforms.
-/

namespace Workbench

open Stock (Need Transform Stocked Lineup Patterns)

def transforms (bench : Workbench) : List Transform := bench.plugins.map fun plugin => plugin.transform

/-- Plugins that are all sync make the tree that their transforms make. -/
theorem transform_eq {plugins : List (Plugin (List Need) Transform)}
    (sync : ∀ plugin ∈ plugins, plugin.isAsync = false) (tree : Tree) :
    transform plugins tree =
      .ok (Transform.applyAll (plugins.map fun plugin => plugin.transform) tree) := by
  have plain : ∀ plugin ∈ plugins, Run.Plain conduct plugin :=
    fun plugin member => ⟨sync plugin member, fun _ _ => rfl⟩
  rw [transform, Run.collect_plain plain, Run.leave, Transform.applyAll, List.foldl_map]
  rfl

/-- No node of the syntax tree of a text carries data. -/
theorem data_parse (text : String) : ∀ node ∈ (English.parse text).subtrees, node.data = none := by
  intro node member
  rcases English.part_of_mem member with rfl | part
  · rfl
  · cases part <;> rfl

/-- Entries are attached to a fresh workbench exactly if they make a line-up, and it then holds the
plugins of that line-up. -/
theorem attachAll_eq (patterns : Patterns) (entries : List Entry) :
    ∃ attachments,
      (fresh patterns).attachAll entries =
          (⟨Model.standard, attachments⟩, (Lineup.empty.enterAll patterns entries).map fun _ => ()) ∧
        ∀ lineup, Lineup.empty.enterAll patterns entries = .ok lineup →
          Stock.Holds patterns attachments lineup := by
  rcases (Stock.holds_empty patterns).attachAll entries with ⟨attachments, attached, holds⟩
  refine ⟨attachments, ?_, holds⟩
  rw [attachAll, fresh, attached]

/-- What a workbench makes of a text once some entries have been attached to it. -/
structure Processes (patterns : Patterns) (bench : Workbench) (entries : List Entry) (text : String)
    (built result : Tree) : Prop where
  lineup : ∃ lineup, Lineup.empty.enterAll patterns entries = .ok lineup ∧
    bench.plugins.map (fun plugin => plugin.toDefinition) = lineup.definitions
  names : bench.names = bench.transforms.map Transform.name
  /-- Redactions match what the reader says of a pattern. -/
  patterns : ∀ isMatch mask, .redact isMatch mask ∈ bench.transforms →
    ∃ pattern, patterns pattern = .ok isMatch
  build : bench.build text = .ok built
  process : bench.process text = .ok result
  composed : result = Transform.applyAll bench.transforms built
  made : ∀ place, Option.Rel (Stock.Made bench.transforms place) (built.at? place) (result.at? place)

/-- If all entries can be attached, every text is processed: its tree is built and taken through the
transforms of the plugins attached, and at each place stands what they make of the node there. -/
theorem process_attached {patterns : Patterns} {entries : List Entry} {bench : Workbench}
    (attached : (fresh patterns).attachAll entries = (bench, .ok ())) (text : String) :
    ∃ built result, Processes patterns bench entries text built result := by
  rcases attachAll_eq patterns entries with ⟨attachments, pair, holds⟩
  rw [pair] at attached
  cases entered : Lineup.empty.enterAll patterns entries with
  | error error => rw [entered] at attached; cases attached
  | ok lineup =>
      rw [entered] at attached
      cases attached
      have holds := holds lineup entered
      rcases English.document_builds (English.Token.scan text) with ⟨built, build⟩
      have bare : ∀ place node, built.at? place = some node → node.data = [] :=
        fun place node found => Tree.data_of_ofCst build (data_parse text) found
      have done : transform attachments.registry.plugins built =
          .ok (Transform.applyAll (attachments.registry.plugins.map fun plugin => plugin.transform)
            built) :=
        transform_eq (fun plugin member => (holds.sync_name plugin member).1) built
      refine ⟨built, _, ⟨lineup, entered, holds.definitions⟩, ?_,
        fun isMatch mask member => holds.exists_pattern member, build, ?_, rfl,
        Stock.made_applyAll _ bare⟩
      · rw [names, Attachments.names, Registry.names, transforms, List.map_map]
        exact List.map_congr_left fun plugin member => (holds.sync_name plugin member).2
      · have built' : Workbench.build ⟨Model.standard, attachments⟩ text = .ok built := build
        rw [process, built']
        exact done

/-- Statistics bring positions, a name that comes again changes nothing, and options count again.  The word
that is masked is spelled as it was when its turn came. -/
theorem process_attached_repeated :
    let entries : List Entry :=
      [.bare "stats", .configured "redact" (some [("pattern", .string "^a"), ("mask", .string "#")]),
        .bare "lowercase", .bare "position", .configured "lowercase" (some [])]
    ∃ bench built result,
      (fresh Pattern.reader).attachAll entries = (bench, .ok ()) ∧
        Processes Pattern.reader bench entries "An apple." built result ∧
        bench.names = ["stats", "position", "redact", "lowercase", "lowercase"] ∧
        result.text = "an #####." := by
  intro entries
  rcases attachAll_eq Pattern.reader entries with ⟨attachments, attached, _⟩
  rcases process_attached attached "An apple." with ⟨built, result, processes⟩
  refine ⟨_, built, result, attached, processes, ?_⟩
  rcases processes.lineup with ⟨lineup, entered, definitions⟩
  have transforms : transforms ⟨Model.standard, attachments⟩ =
      lineup.definitions.map fun definition => definition.transform := by
    rw [← definitions, Workbench.transforms, List.map_map]
    rfl
  have computed : (do
      let lineup ← Lineup.empty.enterAll Pattern.reader entries
      let transforms := lineup.definitions.map fun definition => definition.transform
      let built ← (fresh Pattern.reader).build "An apple."
      return (transforms.map Transform.name, (Transform.applyAll transforms built).text)) =
        Except.ok (["stats", "position", "redact", "lowercase", "lowercase"], "an #####.") := by
    decide +kernel
  have build : (fresh Pattern.reader).build "An apple." = .ok built := processes.build
  rw [entered, build] at computed
  rw [processes.names, processes.composed, transforms]
  exact Prod.ext_iff.mp (Except.ok.inj computed)

end Workbench
end Prose
