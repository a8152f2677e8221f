import SuiteCoverage.Shell.Records.Running

/-!
# Records of files

The utility that goes through the records of files with a program. The program is an argument or
stands in files; arguments that look like assignments are carried out when their turn comes.
-/

set_option autoImplicit false

namespace SuiteCoverage
namespace Shell
namespace Utility

open Effect Records

/-- What the options of `awk` ask for. -/
structure RecordChoice where
  /-- The files in which the program stands. -/
  files : List String
  separator : Option String
  assignments : List String
  arguments : List String

/-- What is wrong with the options of `awk`. -/
inductive RecordFlaw where
  | lacksArgument (option : String)
  | unknown (option : String)

/-- What is wrong with the options of `awk`, in words. -/
def RecordFlaw.message : RecordFlaw → String
  | lacksArgument option => "option " ++ option ++ " lacks argument"
  | unknown option => "not an option: " ++ option

/-- Reads the options of `awk`. -/
def readRecordOptions : Nat → RecordChoice → List String → Except RecordFlaw RecordChoice
  | 0, choice, _ => .ok choice
  | _, choice, [] => .ok choice
  | fuel + 1, choice, argument :: rest =>
    let withValue (use : String → RecordChoice) : Except RecordFlaw RecordChoice :=
      if 2 < argument.length then readRecordOptions fuel (use (argument.drop 2).toString) rest
      else
        match rest with
        | value :: rest => readRecordOptions fuel (use value) rest
        | [] => .error (.lacksArgument argument)
    match argument.toList with
    | ['-', '-'] => .ok { choice with arguments := rest }
    | '-' :: 'f' :: _ => withValue fun value => { choice with files := choice.files ++ [value] }
    | '-' :: 'F' :: _ => withValue fun value => { choice with separator := some value }
    | '-' :: 'v' :: _ =>
      withValue fun value => { choice with assignments := choice.assignments ++ [value] }
    | '-' :: 'W' :: _ => withValue fun _ => choice
    | ['-', '-', 'p', 'o', 's', 'i', 'x'] => readRecordOptions fuel choice rest
    | '-' :: _ :: _ => .error (.unknown argument)
    | _ => .ok { choice with arguments := argument :: rest }

/-- A part of a program: the file that it is from, and its text. -/
structure ProgramPart where
  file : Option String
  text : String

/-- The place of a line of a program, as it is told. -/
def placeOfLine : List ProgramPart → Nat → String
  | [], line => "line " ++ toString line
  | part :: rest, line =>
    let count := ((part.text.toList.filter (· == '\n')).length) +
      if part.text.isEmpty || part.text.endsWith "\n" then 0 else 1
    if count < line && !rest.isEmpty then placeOfLine rest (line - count)
    else
      match part.file with
      | some name => name ++ ": line " ++ toString line
      | none => "line " ++ toString line

/-- Says what is wrong with a program. -/
def blameProgram (parts : List ProgramPart) (flaws : List (Nat × Records.Flaw)) : Effect Unit := do
  flaws.forM fun (line, flaw) => do
    let place := placeOfLine parts line
    let place := match flaw with
      | .badCharacter _ => (place.splitOn "line ").foldl (· ++ ·) ""
      | _ => place
    blame (place ++ ": " ++ flaw.message)
  setStatus 2

/-- The part of a program that a file is. -/
def programPart (name : String) : Effect ProgramPart := do
  match ← wholeText name with
  | .ok text => return ⟨some name, text⟩
  | .error fault =>
    blame ("cannot open \"" ++ name ++ "\" (" ++ fault.reason ++ ")")
    throw (.exit 2)

/-- The whole text of a program. -/
def wholeProgram (parts : List ProgramPart) : String :=
  String.join (parts.map fun part =>
    if part.text.isEmpty || part.text.endsWith "\n" || part.file.isNone then part.text
    else part.text ++ "\n")

/-- What the variables that mean something hold at first. -/
def firstValues : List (Nat × Value) :=
  [(Known.recordCount, .number 0.0), (Known.fileRecordCount, .number 0.0),
    (Known.fieldSeparator, .text " "), (Known.outputFieldSeparator, .text " "),
    (Known.outputRecordSeparator, .text "\n"), (Known.recordSeparator, .text "\n"),
    (Known.fileName, .text ""), (Known.indexSeparator, .text "\x1c"),
    (Known.matchStart, .number 0.0), (Known.matchLength, .number (-1.0)),
    (Known.conversionFormat, .text "%.6g"), (Known.outputFormat, .text "%.6g")]

/-- The machine in which a program starts. -/
def startMachine (launcher : Launcher) (s : State) (program : Records.Program)
    (arguments : List String) : Machine :=
  let environment := (Effect.environment s).foldl
    (fun t entry => t.put (.text (ofText entry.1)) (.input (ofText entry.2))) Table.empty
  let given := ((s.self :: arguments).zipIdx).foldl
    (fun t entry => t.put (.number entry.2) (.input entry.1)) Table.empty
  let blank := Array.replicate program.names.length (Slot.value .nothing)
  let valued := firstValues.foldl (fun slots entry => slots.set! entry.1 (.value entry.2)) blank
  let shared := ((valued.set! Known.environment (.table 0)).set! Known.arguments (.table 1)).set!
    Known.argumentCount (.value (.number (ofWhole (arguments.length + 1))))
  { program
    launcher
    shared
    own := #[]
    tables := #[environment, given]
    record := ""
    isStale := false
    fields := #[]
    isSplit := true
    separator := " "
    inSpan := Array.replicate program.spans false
    main := none
    argument := 1
    hasFile := false
    isInputOver := false
    sources := []
    sinks := []
    patterns := []
    seed := s.process + 1
    formerSeed := .number (ofWhole s.process)
    status := 0 }

/-- Goes through records with a program. -/
def runProgram (launcher : Launcher) (choice : RecordChoice) (parts : List ProgramPart)
    (arguments : List String) : Effect Unit := do
  let wrong := choice.assignments.find? fun text => (Run.assignment? text).isNone
  match wrong with
  | some text =>
    blame ("improper assignment: -v " ++ text)
    setStatus 2
  | none =>
    match Records.Program.ofText (wholeProgram parts) with
    | .error flaws => blameProgram parts flaws
    | .ok program =>
      let machine := startMachine launcher (← state) program arguments
      let run : Records.Run Unit := do
        choice.separator.forM fun text =>
          Run.hold Known.fieldSeparator
            (.text (String.ofList (Wording.unescaped (text.length + 1) text.toList)))
        choice.assignments.forM fun text =>
          (Run.assignment? text).forM fun entry => Run.assignShared entry.1 entry.2
        Run.setRecord ""
        Run.program
      let (_, machine) ← run.run machine
      setStatus machine.status

/-- Goes through the records of files with a program. -/
def awk (launcher : Launcher) (arguments : List String) : Effect Unit := do
  match readRecordOptions (arguments.length + 1) ⟨[], none, [], []⟩ arguments with
  | .error flaw =>
    blame flaw.message
    setStatus 2
  | .ok choice =>
    if choice.files.isEmpty then
      match choice.arguments with
      | [] => say "Usage: mawk [Options] [Program] [file ...]\n"
      | text :: rest => runProgram launcher choice [⟨none, text⟩] rest
    else runProgram launcher choice (← choice.files.mapM programPart) choice.arguments

end Utility
end Shell
end SuiteCoverage
