import TaskGraph.Config.Option
import TaskGraph.Workflow.Report
import TaskGraph.Compiler.Compile
import TaskGraph.Compiler.Collect
import TaskGraph.Definition
import TaskGraph.Schema.Compiled
import TaskGraph.Schema.File
import TaskGraph.Artifact
import TaskGraph.CommandLine.Run
import TaskGraph.Main
import TaskGraph.Proofs.FieldWrites
import TaskGraph.Proofs.StoredValues
import TaskGraph.Proofs.OptionReading
import TaskGraph.Proofs.Upstreams
import TaskGraph.Proofs.Inheritance
import TaskGraph.Proofs.Site
import TaskGraph.Proofs.Layout
import TaskGraph.Proofs.WalkOutcome
import TaskGraph.Proofs.LayoutOrder
import TaskGraph.Proofs.Acceptance
import TaskGraph.Proofs.TaskTree
import TaskGraph.Proofs.Dependencies
import TaskGraph.Proofs.TaskOptions
import TaskGraph.Proofs.Lowering
import TaskGraph.Proofs.Checks
import TaskGraph.Proofs.Refusals
import TaskGraph.Proofs.InternalErrors
import TaskGraph.Proofs.WalkCalls
import TaskGraph.Proofs.DistinctMembers
import TaskGraph.Proofs.SchemaKeywords
import TaskGraph.Proofs.Findings
import TaskGraph.Proofs.ArtifactShape
import TaskGraph.Proofs.ArtifactSchema
import TaskGraph.Proofs.ParentBounds
import TaskGraph.Proofs.HereditaryValues
import TaskGraph.Proofs.WritableValues
import TaskGraph.Proofs.ScannerFaults
import TaskGraph.Proofs.ReaderFaults
import TaskGraph.Proofs.NodeFaults
import TaskGraph.Proofs.LoadErrors
import TaskGraph.Proofs.JsonText
import TaskGraph.Proofs.JsonDocument
import TaskGraph.Proofs.PlainDocuments
import TaskGraph.Proofs.PlainSites
import TaskGraph.Proofs.RenderedWorkflow
import TaskGraph.Proofs.PlainWords
import TaskGraph.Proofs.BlockTokens
import TaskGraph.Proofs.TextualNodes
import TaskGraph.Proofs.OutlineNodes
import TaskGraph.Proofs.Margins
import TaskGraph.Proofs.SubtaskText
import TaskGraph.Proofs.Counterparts
import TaskGraph.Proofs.Rearrangement
import TaskGraph.Proofs.LocalEdits
import TaskGraph.Proofs.JsonGrammar
import TaskGraph.Proofs.FloatText
import TaskGraph.Proofs.WrittenJson
import TaskGraph.Proofs.PlainForms
import TaskGraph.Proofs.ValueFloats
import TaskGraph.Proofs.RenderedJson
import TaskGraph.Proofs.OneForm
import TaskGraph.Proofs.MetadataForms
import TaskGraph.Proofs.FileWrites
import TaskGraph.Proofs.BuiltLists
import TaskGraph.Proofs.ViolationOrder
import TaskGraph.Proofs.Overlays
import TaskGraph.Proofs.MarkupClosing
import TaskGraph.Proofs.Announcements
import TaskGraph.Proofs.Invocations
import TaskGraph.Proofs.ExitCodes
import TaskGraph.Proofs.ConfigChanges
import TaskGraph.Proofs.BuiltConfigs
import TaskGraph.Proofs.TextTrees
import TaskGraph.Proofs.CompilationLog
import TaskGraph.Proofs.Placement
import TaskGraph.Proofs.ClosedContexts
import TaskGraph.Proofs.CollectedNodes
import TaskGraph.Proofs.MovedWalks
import TaskGraph.Proofs.Appending
