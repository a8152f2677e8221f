import SuiteCoverage.Pathname
import SuiteCoverage.Run
import SuiteCoverage.Text.Column
import SuiteCoverage.Text.Terminal

/-!
# The command line

The words of a command line are read from left to right. A word that starts with two hyphens
names a switch or an option, one that starts with a single hyphen and goes on is a bundle of
one-letter switches, and any other word is a positional argument or the value of the option
right before it. After a bare `--` every word is positional. A value may also stand in the same
word, behind an equals sign.

The value of an option is judged when the next switch, option or positional argument turns up,
or at the end. So of two faults it is usually the first that is reported, but a word that
nothing is known about is reported even if the value before it is bad. What concerns more than
one word (switches that exclude each other, the environment) is judged last, and asking for help
ends the reading where it stands.
-/

set_option autoImplicit false

namespace SuiteCoverage

/-- Why a command line is not carried out. -/
inductive Refusal where
  /-- Help was asked for. -/
  | help
  /-- The version was asked for. -/
  | version
  | unknownArgument
  /-- An option lacks its value, or a path is empty. -/
  | invalidValue
  /-- A switch was given a value. -/
  | tooManyValues
  /-- Something was given twice, or with what excludes it. -/
  | conflict
deriving DecidableEq, Repr

/-- What can be switched on. -/
inductive Switch where
  | verbose
  | quiet
  | failOnTestFailure
deriving DecidableEq, Repr

/-- What takes a value. -/
inductive ValueOption where
  | workingRoot
  | source
  | marker
  | testsDir
  | pattern
  | object
deriving DecidableEq, Repr

namespace ValueOption

/-- Whether the value is a path, which must not be empty. -/
def isPath : ValueOption → Bool
  | workingRoot => true
  | testsDir => true
  | object => true
  | source => false
  | marker => false
  | pattern => false

/-- Whether the option may be given more than once. -/
def isRepeatable : ValueOption → Bool
  | source => true
  | object => true
  | workingRoot => false
  | marker => false
  | testsDir => false
  | pattern => false

end ValueOption

/-- What a name on the command line means. -/
inductive Meaning where
  | switch (switch : Switch)
  | option (option : ValueOption)
  /-- A question that is answered in place of a run. -/
  | question (refusal : Refusal)

/-- What is named by the text behind two hyphens. -/
def Meaning.ofLong? (name : List Char) : Option Meaning :=
  if name = "verbose".toList then some (.switch .verbose)
  else if name = "quiet".toList then some (.switch .quiet)
  else if name = "fail-on-test-failure".toList then some (.switch .failOnTestFailure)
  else if name = "working-root".toList then some (.option .workingRoot)
  else if name = "source".toList then some (.option .source)
  else if name = "marker".toList then some (.option .marker)
  else if name = "tests-dir".toList then some (.option .testsDir)
  else if name = "pattern".toList then some (.option .pattern)
  else if name = "object".toList then some (.option .object)
  else if name = "help".toList then some (.question .help)
  else if name = "version".toList then some (.question .version)
  else none

/-- What is named by a letter behind one hyphen. -/
def Meaning.ofLetter? (c : Char) : Option Meaning :=
  if c = 'v' then some (.switch .verbose)
  else if c = 'q' then some (.switch .quiet)
  else if c = 'h' then some (.question .help)
  else if c = 'V' then some (.question .version)
  else none

/-- The form of a word. -/
inductive Word where
  /-- A bare `--`. -/
  | separator
  | long (name : List Char) (value : Option String)
  | letters (letters : List Char)
  | plain

/-- The form of a word. A single hyphen by itself is a plain word. -/
def Word.ofText (text : String) : Word :=
  match text.toList with
  | ['-', '-'] => .separator
  | '-' :: '-' :: rest =>
    let name := rest.takeWhile (· != '=')
    match rest.drop name.length with
    | [] => .long name none
    | _ :: value => .long name (some (String.ofList value))
  | '-' :: c :: rest => .letters (c :: rest)
  | _ => .plain

/-- What has been read of a command line. -/
structure Given where
  positionals : List String
  values : List (ValueOption × String)
  switches : List Switch
  /-- An option that has not been judged yet, with its value if that has been read. -/
  pending : Option (ValueOption × Option String)
  /-- Whether a bare `--` has been read. -/
  separated : Bool

namespace Given

/-- Nothing read yet. -/
def start : Given := ⟨[], [], [], none, false⟩

/-- Takes in the value of an option. -/
def accept (given : Given) (option : ValueOption) (value : String) : Except Refusal Given :=
  if !option.isRepeatable && given.values.any (·.1 == option) then .error .conflict
  else if option.isPath && value.isEmpty then .error .invalidValue
  else .ok { given with values := given.values ++ [(option, value)] }

/-- Judges the option that is still pending. -/
def settle (given : Given) : Except Refusal Given :=
  match given.pending with
  | none => .ok given
  | some (_, none) => .error .invalidValue
  | some (option, some value) => { given with pending := none }.accept option value

/-- Switches something on. -/
def switchOn (given : Given) (switch : Switch) : Except Refusal Given := do
  let given ← given.settle
  if given.switches.contains switch then .error .conflict
  else .ok { given with switches := given.switches ++ [switch] }

/-- Takes in a positional argument; there are two at most. -/
def addPositional (given : Given) (text : String) : Except Refusal Given :=
  if 2 ≤ given.positionals.length then .error .unknownArgument
  else given.settle.map fun given => { given with positionals := given.positionals ++ [text] }

/-- Reads a bundle of one-letter switches. -/
def addLetters (given : Given) : List Char → Except Refusal Given
  | [] => .ok given
  | c :: rest =>
    match Meaning.ofLetter? c with
    | some (.switch switch) =>
      match given.switchOn switch with
      | .ok next => next.addLetters rest
      | .error refusal => .error refusal
    | some (.question refusal) => given.settle.bind fun _ => .error refusal
    | _ => .error .unknownArgument

/-- Reads a word with two hyphens in front. -/
def addLong (given : Given) (name : List Char) (value : Option String) : Except Refusal Given :=
  match Meaning.ofLong? name, value with
  | none, _ => .error .unknownArgument
  | some (.option option), some value => given.settle.bind fun given => given.accept option value
  | some (.option option), none =>
      given.settle.map fun given => { given with pending := some (option, none) }
  | some _, some _ => .error .tooManyValues
  | some (.switch switch), none => given.switchOn switch
  | some (.question refusal), none => given.settle.bind fun _ => .error refusal

/-- Reads one more word. -/
def step (given : Given) (text : String) : Except Refusal Given :=
  if given.separated then given.addPositional text
  else
    match Word.ofText text with
    | .separator => .ok { given with separated := true }
    | .long name value => given.addLong name value
    | .letters letters => given.addLetters letters
    | .plain =>
      match given.pending with
      | some (option, none) => .ok { given with pending := some (option, some text) }
      | _ => given.addPositional text

/-- Reads words up to the first that is refused. -/
def readAll (given : Given) : List String → Except Refusal Given
  | [] => .ok given
  | text :: rest =>
    match given.step text with
    | .ok next => next.readAll rest
    | .error refusal => .error refusal

/-- The values given for an option, in order. -/
def valuesOf (given : Given) (option : ValueOption) : List String :=
  (given.values.filter (·.1 == option)).map (·.2)

end Given

/-- The arguments of a run. -/
structure Arguments where
  configuration : Option String
  reportMode : Option String
  workingRoot : Option String
  sources : List String
  marker : String
  testsDir : Option String
  pattern : String
  objects : List String
  verbose : Bool
  quiet : Bool
  failOnTestFailure : Bool

namespace Arguments

/-- The module that is measured unless another is named. -/
def defaultSource : String := "libcellml"

/-- The marker of the boundary unless another is given. -/
def defaultMarker : String := "# libCellML generated wrapper code starts here."

/-- The environment variable that stands in for the working root. -/
def workingRootVariable : String := "COVERAGE_WORKING_ROOT"

/-- The working root: what the command line says, or else the environment, where an empty value
    is refused like an empty path on the command line. -/
def resolveRoot (given : Given) (fromEnvironment : Option String) :
    Except Refusal (Option String) :=
  match (given.valuesOf .workingRoot).head?, fromEnvironment with
  | some root, _ => .ok (some root)
  | none, none => .ok none
  | none, some root => if root.isEmpty then .error .invalidValue else .ok (some root)

/-- The arguments that a command line gives, read to its end. -/
def ofGiven (given : Given) (fromEnvironment : Option String) : Except Refusal Arguments := do
  let given ← given.settle
  let root ← resolveRoot given fromEnvironment
  if given.switches.contains .verbose && given.switches.contains .quiet then .error .conflict
  else
    .ok {
      configuration := given.positionals[0]?
      reportMode := given.positionals[1]?
      workingRoot := root
      sources :=
        match given.valuesOf .source with
        | [] => [defaultSource]
        | sources => sources
      marker := (given.valuesOf .marker).headD defaultMarker
      testsDir := (given.valuesOf .testsDir).head?
      pattern := (given.valuesOf .pattern).headD TestCase.usualPattern
      objects := given.valuesOf .object
      verbose := given.switches.contains .verbose
      quiet := given.switches.contains .quiet
      failOnTestFailure := given.switches.contains .failOnTestFailure }

/-- Reads a command line. `fromEnvironment` is the working root that the environment names. -/
def read (words : List String) (fromEnvironment : Option String) : Except Refusal Arguments := do
  let given ← Given.start.readAll words
  ofGiven given fromEnvironment

end Arguments

/-- The form of the report. -/
inductive ReportMode where
  /-- Pages in a directory. -/
  | pages
  /-- A table on standard output. -/
  | table
deriving DecidableEq, Repr

/-- The form of report that a word asks for: `html` asks for pages, and every other word for a
    table. -/
def ReportMode.ofText (text : String) : ReportMode :=
  if text = "html" then .pages else .table

/-- How a run is to be made. -/
structure RunOptions where
  configuration : String
  reportMode : ReportMode
  workingRoot : Pathname
  sources : List String
  marker : String
  testsDir : Option Pathname
  pattern : String
  objects : List Pathname
  verbosity : Verbosity
  exitPolicy : ExitPolicy
deriving DecidableEq, Repr

namespace RunOptions

/-- The working root where none is named. -/
def defaultRoot : Pathname := ⟨"."⟩

/-- The run that arguments ask for. -/
def ofArguments (given : Arguments) : RunOptions where
  configuration := given.configuration.getD ""
  reportMode := ReportMode.ofText (given.reportMode.getD "")
  workingRoot := (given.workingRoot.map Pathname.mk).getD defaultRoot
  sources := given.sources
  marker := given.marker
  testsDir := given.testsDir.map Pathname.mk
  pattern := given.pattern
  objects := given.objects.map Pathname.mk
  verbosity := Verbosity.ofSwitches given.verbose given.quiet
  exitPolicy := if given.failOnTestFailure then .failOnFailure else .ignoreFailures

end RunOptions

/-! ## Answers to questions -/

/-- The name under which the program speaks of itself. -/
def programName : String := "coverage_runner"

/-- The text of the version. -/
def versionText : String := programName ++ " 0.1.0\n"

/-- What is said about a command line that is not carried out and that asks no question. -/
def Refusal.complaint (refusal : Refusal) : String :=
  "error: " ++ (match refusal with
    | .help => "no run asked for"
    | .version => "no run asked for"
    | .unknownArgument => "unexpected argument found"
    | .invalidValue => "a value is required or must not be empty"
    | .tooManyValues => "unexpected value for a switch"
    | .conflict => "an argument cannot be used with another one, or more than once")
    ++ "\n\nUsage: " ++ programName ++ " [OPTIONS] [CONFIGURATION] [REPORT_MODE]\n\n"
    ++ "For more information, try '--help'.\n"

/-- The column in which options are explained. -/
def helpColumn : Nat := 30

/-- The help text, which shows what the environment names as working root. The name of an option
    is set off for a terminal, so a sequence that the environment leaves open ends before it. -/
def helpText (interruption : Text.Interruption) (fromEnvironment : Option String) : String :=
  "Run the test suite under coverage and report on the library under test\n\n" ++
  "Usage: " ++ programName ++ " [OPTIONS] [CONFIGURATION] [REPORT_MODE]\n\n" ++
  "Arguments:\n" ++
  "  [CONFIGURATION]  Build configuration whose output directory the tests run in\n" ++
  "  [REPORT_MODE]    \"html\" writes coverage_html_report/; anything else prints a summary\n\n" ++
  "Options:\n" ++
  "      --working-root <PATH>   Directory holding one subdirectory per build configuration " ++
    Text.withoutControl interruption (Text.hang helpColumn
      ("[env: " ++ Arguments.workingRootVariable ++ "=" ++ fromEnvironment.getD "" ++ "]") ++
    "\n      ") ++
  "--source <MODULE>       Module to measure (repeatable) " ++
    "[default: " ++ Arguments.defaultSource ++ "]\n" ++
  "      --marker <MARKER>       Lines from the one containing this text onwards are not " ++
    "measured [default: \"" ++ Arguments.defaultMarker ++ "\"]\n" ++
  "      --tests-dir <PATH>      Where to look for tests (defaults to the directory the runner " ++
    "starts in)\n" ++
  "      --pattern <PATTERN>     File name pattern identifying test executables " ++
    "[default: " ++ TestCase.usualPattern ++ "]\n" ++
  "      --object <PATH>         Extra instrumented object (e.g. the shared library under test)\n" ++
  "  -v, --verbose               Print one line per test\n" ++
  "  -q, --quiet                 Print only the test summary\n" ++
  "      --fail-on-test-failure  Exit with status 1 when any test fails or errors\n" ++
  "  -h, --help                  Print help\n" ++
  "  -V, --version               Print version\n"

end SuiteCoverage
