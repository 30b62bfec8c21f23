import LineShell.Builtin
import LineShell.Command
import LineShell.Console
import LineShell.Environment
import LineShell.Failure
import LineShell.FileSystem.Basic
import LineShell.FileSystem.Canonical
import LineShell.FileSystem.OpenFile
import LineShell.FileSystem.Standard
import LineShell.FileSystem.Walk
import LineShell.Host.Basic
import LineShell.Host.Native
import LineShell.Host.Recording
import LineShell.Host.Scripted
import LineShell.IoError
import LineShell.Kernel.Channel
import LineShell.Kernel.Machine
import LineShell.Kernel.Program
import LineShell.Kernel.Signal
import LineShell.Lookup
import LineShell.Main
import LineShell.Path
import LineShell.Planting
import LineShell.Program.Header
import LineShell.Program.Loading
import LineShell.Program.Search
import LineShell.Proofs.FileSystem.Canonical
import LineShell.Proofs.FileSystem.Joining
import LineShell.Proofs.FileSystem.Opening
import LineShell.Proofs.FileSystem.Standing
import LineShell.Proofs.FileSystem.View
import LineShell.Proofs.Host.Transcript
import LineShell.Proofs.Lookup
import LineShell.Proofs.Numeral
import LineShell.Proofs.Redirection
import LineShell.Proofs.SearchPath
import LineShell.Proofs.Separator
import LineShell.Proofs.Session.Call
import LineShell.Proofs.Session.Coupling
import LineShell.Proofs.Session.Dispatch
import LineShell.Proofs.Session.Effect
import LineShell.Proofs.Session.Environment
import LineShell.Proofs.Session.Failing
import LineShell.Proofs.Session.Frame
import LineShell.Proofs.Session.History
import LineShell.Proofs.Session.Inscription
import LineShell.Proofs.Session.Loop
import LineShell.Proofs.Session.Naming
import LineShell.Proofs.Session.Operands
import LineShell.Proofs.Session.Requests
import LineShell.Proofs.Session.Returning
import LineShell.Proofs.Session.Shortage
import LineShell.Proofs.Session.Steering
import LineShell.Proofs.Session.Stepwise
import LineShell.Proofs.Session.Trimming
import LineShell.Proofs.Session.Understanding
import LineShell.Proofs.Session.WorkingDirectory
import LineShell.Proofs.Sink
import LineShell.Proofs.Words.Concatenation
import LineShell.Proofs.Words.Grammar
import LineShell.Proofs.Words.Invariant
import LineShell.Proofs.Words.Lookahead
import LineShell.Proofs.Words.Machine
import LineShell.Proofs.Words.Rendering
import LineShell.Proofs.Words.Trimming
import LineShell.Proofs.Words.Verbatim
import LineShell.Proofs.Words.Writing
import LineShell.Redirection
import LineShell.Script.Arithmetic
import LineShell.Script.Builtin.Command
import LineShell.Script.Builtin.Directory
import LineShell.Script.Builtin.Output
import LineShell.Script.Builtin.Process
import LineShell.Script.Builtin.Variable
import LineShell.Script.Condition
import LineShell.Script.Course
import LineShell.Script.Draft
import LineShell.Script.Escape
import LineShell.Script.Expansion
import LineShell.Script.Field
import LineShell.Script.Format
import LineShell.Script.Input
import LineShell.Script.Job
import LineShell.Script.Lookup
import LineShell.Script.Message
import LineShell.Script.Operand
import LineShell.Script.Parser
import LineShell.Script.Pattern
import LineShell.Script.Redirection
import LineShell.Script.Run
import LineShell.Script.Setting
import LineShell.Script.Shell
import LineShell.Script.Syntax
import LineShell.Script.Token
import LineShell.Script.Trimming
import LineShell.Script.Variable
import LineShell.Script.Word
import LineShell.Session.Basic
import LineShell.Session.Builtin
import LineShell.Session.Loop
import LineShell.Session.Run
import LineShell.Sink
import LineShell.System
import LineShell.Text.Cluster.Bases
import LineShell.Text.Cluster.Basic
import LineShell.Text.Cluster.Kind
import LineShell.Text.Cluster.Marks
import LineShell.Text.Fields
import LineShell.Text.Floating
import LineShell.Text.Numeral
import LineShell.Text.Octets
import LineShell.Text.Ranges
import LineShell.Text.Utf8
import LineShell.Text.WhiteSpace
import LineShell.Words
