import SuiteCoverage.Account
import SuiteCoverage.Boundary
import SuiteCoverage.Child
import SuiteCoverage.Collector
import SuiteCoverage.CommandLine
import SuiteCoverage.Consecutive
import SuiteCoverage.Discovery
import SuiteCoverage.Disk.Copy
import SuiteCoverage.Disk.Node
import SuiteCoverage.Disk.Route
import SuiteCoverage.Error
import SuiteCoverage.Executable
import SuiteCoverage.Execution
import SuiteCoverage.Fault
import SuiteCoverage.Glob
import SuiteCoverage.Hits
import SuiteCoverage.Json.Reader
import SuiteCoverage.Json.Value
import SuiteCoverage.Launch
import SuiteCoverage.Line
import SuiteCoverage.Llvm.Recorder
import SuiteCoverage.Llvm.Toolchain
import SuiteCoverage.Main
import SuiteCoverage.Measurement
import SuiteCoverage.Number.Binary64
import SuiteCoverage.Number.Numeral
import SuiteCoverage.Ordered
import SuiteCoverage.Pathname
import SuiteCoverage.Pipeline
import SuiteCoverage.Program
import SuiteCoverage.Proofs.Account
import SuiteCoverage.Proofs.Boundary
import SuiteCoverage.Proofs.Discovery
import SuiteCoverage.Proofs.Disk.Route
import SuiteCoverage.Proofs.Disk.Tree
import SuiteCoverage.Proofs.Execution
import SuiteCoverage.Proofs.Hits
import SuiteCoverage.Proofs.Json
import SuiteCoverage.Proofs.Llvm.Borrowing
import SuiteCoverage.Proofs.Llvm.Profiles
import SuiteCoverage.Proofs.Llvm.Restitution
import SuiteCoverage.Proofs.Llvm.Standing
import SuiteCoverage.Proofs.Measurement
import SuiteCoverage.Proofs.Numeral
import SuiteCoverage.Proofs.Objects
import SuiteCoverage.Proofs.Ordered
import SuiteCoverage.Proofs.Outcome
import SuiteCoverage.Proofs.Pathname
import SuiteCoverage.Proofs.Percent
import SuiteCoverage.Proofs.Pipeline.Balance
import SuiteCoverage.Proofs.Pipeline.Course
import SuiteCoverage.Proofs.Pipeline.Footprint
import SuiteCoverage.Proofs.Pipeline.Order
import SuiteCoverage.Proofs.Pipeline.Phases
import SuiteCoverage.Proofs.Pipeline.Recast
import SuiteCoverage.Proofs.Report.Agreement
import SuiteCoverage.Proofs.Report.Completeness
import SuiteCoverage.Proofs.Report.Filling
import SuiteCoverage.Proofs.Report.Layout
import SuiteCoverage.Proofs.Report.Names
import SuiteCoverage.Proofs.Report.Reading
import SuiteCoverage.Proofs.Report.Source
import SuiteCoverage.Proofs.Scope
import SuiteCoverage.Proofs.Session.Alternation
import SuiteCoverage.Proofs.Session.Exactness
import SuiteCoverage.Proofs.Session.History
import SuiteCoverage.Proofs.Session.Replay
import SuiteCoverage.Proofs.Session.Rounds
import SuiteCoverage.Proofs.Session.Screening
import SuiteCoverage.Proofs.Session.Splitting
import SuiteCoverage.Proofs.Settings
import SuiteCoverage.Proofs.Trace
import SuiteCoverage.Proofs.Trace.Exactness
import SuiteCoverage.Proofs.Trace.Layout
import SuiteCoverage.Proofs.World.Environment
import SuiteCoverage.Proofs.World.Places
import SuiteCoverage.Proofs.World.Reach
import SuiteCoverage.Proofs.World.Renewal
import SuiteCoverage.Proofs.World.Walk
import SuiteCoverage.Report.Page
import SuiteCoverage.Report.Pages
import SuiteCoverage.Report.Table
import SuiteCoverage.Run
import SuiteCoverage.Scope
import SuiteCoverage.Session
import SuiteCoverage.Settings
import SuiteCoverage.Shell.Arithmetic
import SuiteCoverage.Shell.Arrangement
import SuiteCoverage.Shell.Builtin
import SuiteCoverage.Shell.Condition
import SuiteCoverage.Shell.Directory
import SuiteCoverage.Shell.Field
import SuiteCoverage.Shell.Format
import SuiteCoverage.Shell.Meaning
import SuiteCoverage.Shell.Options
import SuiteCoverage.Shell.Parameter
import SuiteCoverage.Shell.Process
import SuiteCoverage.Shell.Reader
import SuiteCoverage.Shell.Redirection
import SuiteCoverage.Shell.Run
import SuiteCoverage.Shell.Script
import SuiteCoverage.Shell.State
import SuiteCoverage.Shell.Utility
import SuiteCoverage.Stream
import SuiteCoverage.Text.Column
import SuiteCoverage.Text.Decoding
import SuiteCoverage.Text.Lines
import SuiteCoverage.Text.Printable
import SuiteCoverage.Text.Terminal
import SuiteCoverage.Trace
import SuiteCoverage.Transcript
import SuiteCoverage.Workdir
import SuiteCoverage.World.Basic
import SuiteCoverage.World.Matching
import SuiteCoverage.World.Walk
import SuiteCoverage.World.Writing
