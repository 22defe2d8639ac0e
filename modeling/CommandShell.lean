import CommandShell.Alias.Argument
import CommandShell.Alias.Store
import CommandShell.Bindings
import CommandShell.Builtin.Alias
import CommandShell.Builtin.Basic
import CommandShell.Builtin.ChangeDirectory
import CommandShell.Builtin.Exit
import CommandShell.Builtin.Help
import CommandShell.Builtin.Run
import CommandShell.Builtin.Variables
import CommandShell.Child.Failure
import CommandShell.Child.Outcome
import CommandShell.Child.Spawner
import CommandShell.Environment
import CommandShell.File.Home
import CommandShell.File.Path
import CommandShell.File.RawPath
import CommandShell.File.Search
import CommandShell.File.Tree
import CommandShell.Input.Feed
import CommandShell.Input.Source
import CommandShell.Input.Terminal
import CommandShell.Interrupt
import CommandShell.Invocation
import CommandShell.Line.Expansion
import CommandShell.Line.Segment
import CommandShell.Line.Word
import CommandShell.Main
import CommandShell.Options
import CommandShell.Program.Launch
import CommandShell.Program.Script
import CommandShell.Program.Signal
import CommandShell.Program.Utility
import CommandShell.Prompt
import CommandShell.Proofs.Likeness
import CommandShell.Proofs.Splitting
import CommandShell.Session.Basic
import CommandShell.Session.Evaluation
import CommandShell.Session.Journal
import CommandShell.Session.State
import CommandShell.Shell
import CommandShell.Startup
import CommandShell.System.Error
import CommandShell.Text.Alphanumeric
import CommandShell.Text.Blank
import CommandShell.Text.Fields
import CommandShell.Text.Grapheme.Class
import CommandShell.Text.Grapheme.Cluster
import CommandShell.Text.Lines
import CommandShell.Text.Ranges
import CommandShell.Text.Utf8
import CommandShell.Proofs.Composition
import CommandShell.Proofs.Decoding
import CommandShell.Proofs.Effects
import CommandShell.Proofs.EncodedLines
import CommandShell.Proofs.Reading
import CommandShell.Proofs.Sourcing
import CommandShell.Proofs.RefusedDiagnostics
import CommandShell.Proofs.Values
import CommandShell.Proofs.Histories
import CommandShell.Proofs.Courses
import CommandShell.Proofs.Assignments
import CommandShell.Proofs.Spawning
import CommandShell.Proofs.Ending
import CommandShell.Proofs.StatusRange
import CommandShell.Proofs.Exportable
import CommandShell.Proofs.Frames
import CommandShell.Proofs.Blanks
import CommandShell.Proofs.Numbering
import CommandShell.Proofs.Interruptions
import CommandShell.Proofs.Sittings
import CommandShell.Proofs.Segmentation
import CommandShell.Proofs.Scanning
import CommandShell.Proofs.StartupFailures
import CommandShell.Proofs.SingleCommands
import CommandShell.Proofs.Quotations
import CommandShell.Proofs.AliasListing
import CommandShell.Proofs.AliasUse
import CommandShell.Proofs.Moves
import CommandShell.Proofs.VariableUse
import CommandShell.Proofs.SearchOrder
import CommandShell.Proofs.Rejections
import CommandShell.Proofs.Returns
import CommandShell.Proofs.Recovery
import CommandShell.Proofs.Attribution
import CommandShell.Proofs.Skipping
import CommandShell.Proofs.OptionGrammar
import CommandShell.Proofs.BulkAliases
import CommandShell.Proofs.ExitCodes
import CommandShell.Proofs.BelowHome
import CommandShell.Proofs.WordGroups
