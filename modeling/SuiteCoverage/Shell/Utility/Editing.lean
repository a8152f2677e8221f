import SuiteCoverage.Shell.Editing.Reading
import SuiteCoverage.Shell.Editing.Running

/-!
# The stream editor

The utility that edits texts line by line as a script says. Scripts are given as arguments or in
files; their parts make up one script.
-/

set_option autoImplicit false

namespace SuiteCoverage
namespace Shell
namespace Utility

open Effect Editing

/-- The options of `sed`. -/
def sedFlags : Flags :=
  ⟨"nErsuzibPDX".toList, "efli".toList,
    [("quiet", 'n'), ("silent", 'n'), ("expression", 'e'), ("file", 'f'), ("in-place", 'i'),
      ("line-length", 'l'), ("regexp-extended", 'E'), ("separate", 's'), ("unbuffered", 'u'),
      ("null-data", 'z'), ("posix", 'P'), ("debug", 'D'), ("sandbox", 'X'), ("binary", 'b'),
      ("zero-terminated", 'z'), ("follow-symlinks", 'F')]⟩

/-- A part of a script: where it comes from, and its text. -/
structure ScriptPart where
  file : Option String
  text : String

/-- Where a place in a script is, as it is told. -/
def placeIn : Nat → List ScriptPart → Nat → String
  | _, [], _ => "-e expression #1, char 0"
  | number, part :: rest, place =>
    if part.text.length < place && !rest.isEmpty then
      placeIn (if part.file.isNone then number + 1 else number) rest (place - part.text.length - 1)
    else
      match part.file with
      | none => "-e expression #" ++ toString number ++ ", char " ++ toString place
      | some name =>
        let before := (part.text.toList.take place).filter (· == '\n')
        "file " ++ name ++ " line " ++ toString (before.length + 1)

/-- What is told about a flaw in a script. -/
def scriptComplaint (parts : List ScriptPart) (flaw : Editing.Flaw) (place : Nat) : String :=
  match flaw with
  | .noLabel _ => flaw.message
  | .openBrace =>
    let found := placeIn 1 parts place
    (if found.startsWith "file" then found
      else (found.takeWhile (· != ',')).toString ++ ", char 0") ++ ": " ++ flaw.message
  | _ => placeIn 1 parts place ++ ": " ++ flaw.message

/-- Opens a file that commands write to. -/
def openTarget (name : String) : Effect Target := do
  let s ← state
  if name == "/dev/stderr" then
    return ⟨name, (s.channelOf 2).getD (.device .null), false⟩
  match s.world.write (pathOf name) .empty with
  | .error fault =>
    blame ("couldn't open file " ++ name ++ ": " ++ fault.reason)
    throw (.exit 4)
  | .ok world =>
    change fun s => { s with world }
    let channel ← Redirection.openAt .writing (pathOf name)
    change fun s => { s with held := channel :: s.held }
    return ⟨name, channel, false⟩

/-- Says how `sed` is to be called. -/
def blameEditing (complaint : Option String) : Effect Unit := do
  complaint.forM blame
  complain ("Usage: " ++ (← state).self
    ++ " [OPTION]... \x7bscript-only-if-no-other-script\x7d [input-file]...")
  setStatus 1

/-- The part of a script that an option gives. -/
def scriptPart (option : Char × String) : Effect (Option ScriptPart) := do
  if option.1 == 'e' then return some ⟨none, option.2⟩
  else if option.1 == 'f' then
    match ← wholeText option.2 with
    | .ok text =>
      let text := if text.endsWith "\n" then (text.dropEnd 1).toString else text
      return some ⟨some option.2, text⟩
    | .error fault =>
      blame ("couldn't open file " ++ option.2 ++ ": " ++ fault.reason)
      throw (.exit 4)
  else return none

/-- Edits files with a script. -/
def edit (launcher : Launcher) (choice : Flags.Choice) (parts : List ScriptPart)
    (files : List String) : Effect Unit := do
  let text := "\n".intercalate (parts.map (·.text))
  match Script.ofText (choice.has 'E' || choice.has 'r') text with
  | .error (flaw, place) =>
    blame (scriptComplaint parts flaw place)
    let isLate := match flaw with
      | .noLabel _ => true
      | _ => false
    setStatus (if isLate then 4 else 1)
  | .ok script =>
    let width := ((choice.value? 'l').bind count?).getD 70
    let manner : Manner :=
      { quiet := choice.has 'n' || script.isQuiet
        separate := choice.has 's' || choice.has 'i'
        inPlace := choice.value? 'i'
        ending := if choice.has 'z' then '\x00' else '\n'
        width
        isStrict := choice.has 'P'
        isSandboxed := choice.has 'X' }
    if choice.has 'u' then change fun s => { s with outbox := none }
    let targets ← (script.targets.filter (· != "/dev/stdout")).mapM openTarget
    let editor : Editor :=
      { script
        manner
        launcher
        files := orInput files
        reading := none
        number := 0
        space := ⟨"", true⟩
        held := ⟨"", true⟩
        appended := []
        replaced := false
        keeps := false
        lastPattern := none
        ranges := script.commands.map fun command =>
          if command.scope.first == some (.line 0) then RangeState.inside none else .before
        targets
        owesEnd := false
        edited := none
        sources := []
        status := 0 }
    let ((), editor) ← (Edit.run : Edit Unit) editor
    setStatus editor.status

/-- Edits texts line by line. -/
def sed (launcher : Launcher) (arguments : List String) : Effect Unit :=
  match sedFlags.read arguments with
  | .error flaw => blameEditing (some flaw.complaint)
  | .ok choice => do
    let parts := (← choice.options.mapM scriptPart).filterMap id
    let isGiven := choice.has 'e' || choice.has 'f'
    if isGiven then edit launcher choice parts choice.operands
    else
      match choice.operands with
      | [] => blameEditing none
      | text :: files => edit launcher choice [⟨none, text⟩] files

end Utility
end Shell
end SuiteCoverage
