import Playbook.Calendar
import Playbook.Catalogue
import Playbook.Command.Basic
import Playbook.Command.Extraction
import Playbook.Command.Splitting
import Playbook.Comparison
import Playbook.Console
import Playbook.Context
import Playbook.Conversation
import Playbook.Desk
import Playbook.Disk
import Playbook.Filter
import Playbook.Glob
import Playbook.History
import Playbook.Main
import Playbook.Notice
import Playbook.Number.Binary64
import Playbook.Number.Bits
import Playbook.Number.Unsigned
import Playbook.Parameters
import Playbook.Path
import Playbook.Pattern.Automaton
import Playbook.Pattern.Fault
import Playbook.Pattern.Matching
import Playbook.Pattern.Meaning
import Playbook.Pattern.Property
import Playbook.Pattern.Reading
import Playbook.Pattern.Syntax
import Playbook.Pattern.Weight
import Playbook.Pattern.Written
import Playbook.Program.Arguments
import Playbook.Program.EnvironmentFile
import Playbook.Program.Execution
import Playbook.Program.Report
import Playbook.Program.Task
import Playbook.Prompt
import Playbook.Proofs.Catalogue
import Playbook.Proofs.Command.CommentLines
import Playbook.Proofs.Command.ControlBlocks
import Playbook.Proofs.Command.Feeding
import Playbook.Proofs.Command.FencedBlocks
import Playbook.Proofs.Command.KeptWords
import Playbook.Proofs.Command.Likeness
import Playbook.Proofs.Command.Rows
import Playbook.Proofs.Command.TrailingBlanks
import Playbook.Proofs.Comparison
import Playbook.Proofs.Console
import Playbook.Proofs.Context
import Playbook.Proofs.Disk
import Playbook.Proofs.Glob
import Playbook.Proofs.History
import Playbook.Proofs.Path
import Playbook.Proofs.Run.AuditTrail
import Playbook.Proofs.Run.Calling
import Playbook.Proofs.Run.Commands
import Playbook.Proofs.Run.Confinement
import Playbook.Proofs.Run.Constants
import Playbook.Proofs.Run.Counters
import Playbook.Proofs.Run.Deeds
import Playbook.Proofs.Run.Handover
import Playbook.Proofs.Run.Journey
import Playbook.Proofs.Run.Keeping
import Playbook.Proofs.Run.Leading
import Playbook.Proofs.Run.LoopGuard
import Playbook.Proofs.Run.MissingHandlers
import Playbook.Proofs.Run.Nesting
import Playbook.Proofs.Run.Residue
import Playbook.Proofs.Run.Routes
import Playbook.Proofs.Run.Turn
import Playbook.Proofs.Run.Verdict
import Playbook.Proofs.Session.Capturing
import Playbook.Proofs.Session.FramedOutput
import Playbook.Proofs.Session.Isolation
import Playbook.Proofs.Session.Leaking
import Playbook.Proofs.Session.LifeCycle
import Playbook.Proofs.Session.Streams
import Playbook.Proofs.Session.UnfinishedLines
import Playbook.Proofs.Session.Words
import Playbook.Proofs.Shell.Delivery
import Playbook.Proofs.Table
import Playbook.Proofs.Template
import Playbook.Proofs.Text.Lines
import Playbook.Proofs.Text.Occurrence
import Playbook.Proofs.Text.Respacing
import Playbook.Proofs.Text.Slices
import Playbook.Proofs.Text.SolidLines
import Playbook.Proofs.Text.Trimming
import Playbook.Proofs.Text.Utf8
import Playbook.Proofs.Text.Words
import Playbook.Proofs.Workflow.Acceptance
import Playbook.Proofs.Workflow.ArrowCuts
import Playbook.Proofs.Workflow.Brackets
import Playbook.Proofs.Workflow.Building
import Playbook.Proofs.Workflow.Chains
import Playbook.Proofs.Workflow.ClosingBracket
import Playbook.Proofs.Workflow.Completeness
import Playbook.Proofs.Workflow.DocumentLines
import Playbook.Proofs.Workflow.DocumentScan
import Playbook.Proofs.Workflow.EdgeLines
import Playbook.Proofs.Workflow.FirstFault
import Playbook.Proofs.Workflow.FlowchartEntries
import Playbook.Proofs.Workflow.GraphLines
import Playbook.Proofs.Workflow.LastWins
import Playbook.Proofs.Workflow.NodeLines
import Playbook.Proofs.Workflow.ParamsLine
import Playbook.Proofs.Workflow.Peeling
import Playbook.Proofs.Workflow.PromptBlocks
import Playbook.Proofs.Workflow.PromptSections
import Playbook.Proofs.Workflow.PromptWeights
import Playbook.Proofs.Workflow.Rereading
import Playbook.Proofs.Workflow.RoundTrip
import Playbook.Proofs.Workflow.Scanning
import Playbook.Proofs.Workflow.Script
import Playbook.Proofs.Workflow.Segments
import Playbook.Proofs.Workflow.ShapeReading
import Playbook.Proofs.Workflow.Shapes
import Playbook.Proofs.Workflow.Snapshots
import Playbook.Proofs.Workflow.StrayDeclarations
import Playbook.Proofs.Workflow.WellFormed
import Playbook.Proofs.Workflow.WrittenShapes
import Playbook.Rehearsal
import Playbook.Run.Basic
import Playbook.Run.Visit
import Playbook.Run.Walk
import Playbook.Session.Basic
import Playbook.Session.LocalShell
import Playbook.Session.RemoteShell
import Playbook.Settings
import Playbook.Shell.Arithmetic
import Playbook.Shell.Builtins
import Playbook.Shell.Condition
import Playbook.Shell.Expansion
import Playbook.Shell.Expression
import Playbook.Shell.Files
import Playbook.Shell.Host
import Playbook.Shell.Layout
import Playbook.Shell.Machine
import Playbook.Shell.Printing
import Playbook.Shell.Programs
import Playbook.Shell.Reading
import Playbook.Shell.Redirection
import Playbook.Shell.Running
import Playbook.Shell.Sending
import Playbook.Shell.Syntax
import Playbook.Shell.Tool.Basic
import Playbook.Shell.Tool.Columns
import Playbook.Shell.Tool.Comparing
import Playbook.Shell.Tool.Difference
import Playbook.Shell.Tool.Digests
import Playbook.Shell.Tool.Dumping
import Playbook.Shell.Tool.Editing
import Playbook.Shell.Tool.Files
import Playbook.Shell.Tool.Finding
import Playbook.Shell.Tool.Lines
import Playbook.Shell.Tool.Matching
import Playbook.Shell.Tool.Moments
import Playbook.Shell.Tool.Numbers
import Playbook.Shell.Tool.Parting
import Playbook.Shell.Tool.Records
import Playbook.Shell.Tool.Records.Basic
import Playbook.Shell.Tool.Records.Reading
import Playbook.Shell.Tool.Records.Running
import Playbook.Shell.Tool.Records.State
import Playbook.Shell.Tool.Records.Store
import Playbook.Shell.Tool.Records.Token
import Playbook.Shell.Tool.Records.Value
import Playbook.Shell.Tool.Sorting
import Playbook.Shell.Tool.System
import Playbook.Shell.Wildcard
import Playbook.Snapshot
import Playbook.Table
import Playbook.Template
import Playbook.Text.Abridged
import Playbook.Text.Age
import Playbook.Text.Blank
import Playbook.Text.ByteRange
import Playbook.Text.Category
import Playbook.Text.CharSet
import Playbook.Text.Folding
import Playbook.Text.Quoted
import Playbook.Text.Script
import Playbook.Text.Segment
import Playbook.Text.Trait
import Playbook.Text.Unprintable
import Playbook.Text.Utf8
import Playbook.Text.WordChar
import Playbook.Workflow.Basic
import Playbook.Workflow.Document
import Playbook.Workflow.Flowchart
import Playbook.Workflow.Reading
import Playbook.Workflow.Writing
import Playbook.World
