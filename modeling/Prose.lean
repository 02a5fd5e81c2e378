import Prose.Cst.Read
import Prose.Processor.Basic
import Prose.English.Document
import Prose.Pattern.Read
import Prose.Tree.Build
import Prose.Tree.Counts
import Prose.Tree.Outline
import Prose.Tree.Position
import Prose.Tree.Words
import Prose.Binding
import Prose.CommandLine.Arguments
import Prose.CommandLine.Outcome
import Prose.Error.Record
import Prose.Main
import Prose.Script.Command
import Prose.Script.Perform
import Prose.Script.Play
import Prose.Script.Read
import Prose.Proofs.Tree.Admission
import Prose.Proofs.Pipeline.Stage
import Prose.Proofs.Pipeline.Moves
import Prose.Proofs.Processor.History
import Prose.Proofs.Processor.Accord
import Prose.Proofs.Processor.InFlight
import Prose.Proofs.Processor.Attaching
import Prose.Proofs.Pipeline.Sequence
import Prose.Proofs.Pipeline.Trees
import Prose.Proofs.Processor.Sequence
import Prose.Proofs.English.Peg
import Prose.Proofs.English.Runs
import Prose.Proofs.English.Grammar
import Prose.Proofs.Tree.Text
import Prose.Proofs.English.Lossless
import Prose.Proofs.Tree.Shape
import Prose.Proofs.Tree.Edits
import Prose.Proofs.Tree.Leaves
import Prose.Proofs.Tree.RoundTrip
import Prose.Proofs.Tree.Positions
import Prose.Proofs.English.Sections
import Prose.Proofs.English.Order
import Prose.Proofs.English.Sentences
import Prose.Proofs.English.Grouping
import Prose.Proofs.English.Form
import Prose.Proofs.English.Paragraphs
import Prose.Proofs.Json.Fields
import Prose.Proofs.Cst.RoundTrip
import Prose.Proofs.Pipeline.Plain
import Prose.Proofs.Plugin.Transforms
import Prose.Proofs.Plugin.Lineup
import Prose.Proofs.Processor.Hooks
import Prose.Proofs.Workbench.Process
import Prose.Proofs.Plugin.Dependencies
import Prose.Proofs.Workbench.Stages
import Prose.Proofs.Processor.Held
import Prose.Proofs.Processor.Resting
import Prose.Proofs.English.Alone
import Prose.Proofs.English.Stretches
import Prose.Proofs.English.Counts
import Prose.Proofs.Binding.Links
import Prose.Proofs.English.Segmentation
import Prose.Proofs.Plugin.Genuine
import Prose.Proofs.Tree.Overwrite
import Prose.Proofs.Processor.Offsets
import Prose.Proofs.Tree.Stored
import Prose.Proofs.Tree.Typed
import Prose.Proofs.Tree.Rewriting
import Prose.Proofs.Plugin.Redaction
import Prose.Proofs.Tree.Skeleton
import Prose.Proofs.Plugin.Running
import Prose.Proofs.Plugin.Order
import Prose.Proofs.Plugin.Entries
import Prose.Proofs.Tree.Refusal
import Prose.Proofs.Processor.Entries
import Prose.Proofs.Processor.Openings
import Prose.Proofs.Processor.Depth
import Prose.Proofs.Processor.Listeners
import Prose.Proofs.Processor.Alike
import Prose.Proofs.Processor.Callbacks
import Prose.Proofs.Processor.EntryPoints
import Prose.Proofs.Json.Stops
import Prose.Proofs.Cst.Stops
import Prose.Proofs.Cst.Places
import Prose.Proofs.Cst.Lines
import Prose.Proofs.Cst.Spans
import Prose.Proofs.Text.Quoted
import Prose.Proofs.Json.Compact
import Prose.Proofs.Tree.Outline
import Prose.Proofs.Tree.Plain
import Prose.Proofs.Trace.Changes
import Prose.Proofs.Trace.Lines
import Prose.Proofs.Trace.Replay
import Prose.Proofs.Trace.Unchanged
