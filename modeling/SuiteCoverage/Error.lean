import SuiteCoverage.Fault
import SuiteCoverage.Text.Decoding
import SuiteCoverage.Text.Printable
import SuiteCoverage.Trace

/-!
# What can go wrong

Three parts of a run can fail: entering the directory it works in, finding the tests, and
measuring. Each has a type of its own whose constructors are the causes. How a failure is worded
is said in one place per type, `message`.
-/

set_option autoImplicit false

namespace SuiteCoverage

/-- The failure of an operation on `path`, in words. -/
def ioMessage (path : Pathname) (fault : Fault) : String :=
  "io error at " ++ Text.quote path.spelling ++ ": " ++ fault.message

/-! ## Entering the working directory -/

/-- Why the working directory could not be entered. -/
inductive WorkdirError where
  | notFound (path : Pathname)
  | notADirectory (path : Pathname)
  | io (path : Pathname) (fault : Fault)
deriving DecidableEq, Repr

/-- The wording of a failure. -/
def WorkdirError.message : WorkdirError → String
  | notFound path => "working directory not found: " ++ path.spelling
  | notADirectory path => "working directory is not a directory: " ++ path.spelling
  | io path fault => ioMessage path fault

/-! ## Finding the tests -/

/-- Why the tests could not be found. -/
inductive DiscoveryError where
  | rootNotFound (path : Pathname)
  | pattern (pattern details : String)
  | notExecutable (path : Pathname)
  | walk (path : Pathname) (details : String)
deriving DecidableEq, Repr

/-- The wording of a failure. -/
def DiscoveryError.message : DiscoveryError → String
  | rootNotFound path => "discovery root not found: " ++ path.spelling
  | pattern text details => "invalid test pattern '" ++ text ++ "': " ++ details
  | notExecutable path => "test file is not executable: " ++ path.spelling
  | walk path details => "failed to walk " ++ Text.quote path.spelling ++ ": " ++ details

/-! ## Measuring -/

/-- What is wrong with the value of an option. -/
inductive ValueFault where
  /-- A text where a list belongs. -/
  | listExpected
  /-- A list where a text belongs. -/
  | textExpected
  | empty
  | emptyMarker
  /-- A plugin is enabled and lacks the option. -/
  | required
  | described (text : String)
deriving DecidableEq, Repr

/-- The wording of what is wrong with a value. -/
def ValueFault.message : ValueFault → String
  | listExpected => "expected a list"
  | textExpected => "expected a string"
  | empty => "must not be empty"
  | emptyMarker => "marker must not be empty"
  | required => "required when the plugin is enabled"
  | described text => text

/-- Why there are no tools to measure with. -/
inductive ToolchainFault where
  | notInstalled
  /-- There is nothing to map the counts onto. -/
  | noObjects
  | described (text : String)
deriving DecidableEq, Repr

/-- The wording of why there are no tools. -/
def ToolchainFault.message : ToolchainFault → String
  | notInstalled =>
    "llvm-profdata/llvm-cov not found. Install LLVM or run: rustup component add llvm-tools-preview"
  | noObjects => "no objects to export coverage for"
  | described text => text

/-- Why coverage data cannot be understood. -/
inductive DataFault where
  /-- A trace with a record that cannot be read. -/
  | trace (flaw : Trace.Flaw)
  /-- A data file that is not of the form prescribed. -/
  | document
  /-- A data file of a version that is not this one's. -/
  | version (found : UInt32)
  | described (text : String)
deriving DecidableEq, Repr

/-- The wording of why data cannot be understood. -/
def DataFault.message : DataFault → String
  | trace flaw => flaw.fault.label ++ ": " ++ flaw.line
  | document => "not a coverage document"
  | version found => "unsupported data file version " ++ toString found.toNat
  | described text => text

/-- Why a measurement could not be made, kept or shown. -/
inductive CoverageError where
  | unknownOption (key : String)
  | unknownPlugin (name : String)
  | invalidValue (key : String) (fault : ValueFault)
  | invalidState (expected actual : String)
  | toolchain (fault : ToolchainFault)
  /-- A tool failed; `output` is what it had to say, without blanks at its ends. -/
  | tool (name output : String)
  | data (fault : DataFault)
  | io (path : Pathname) (fault : Fault)
deriving DecidableEq, Repr

namespace CoverageError

/-- The failure of a tool that wrote the given bytes to its error stream. -/
def ofTool (name : String) (errorStream : ByteArray) : CoverageError :=
  tool name (String.ofList (Text.trim (Text.decodeLenient errorStream).toList))

/-- The wording of a failure. -/
def message : CoverageError → String
  | unknownOption key => "unknown coverage option: " ++ key
  | unknownPlugin name => "unknown coverage plugin: " ++ name
  | invalidValue key fault => "invalid value for " ++ key ++ ": " ++ fault.message
  | invalidState expected actual =>
    "coverage session is " ++ actual ++ ", expected " ++ expected
  | toolchain fault => "coverage toolchain unavailable: " ++ fault.message
  | tool name output => name ++ " failed: " ++ output
  | data fault => "malformed coverage data: " ++ fault.message
  | io path fault => ioMessage path fault

end CoverageError
end SuiteCoverage
