import SuiteCoverage.Calendar
import SuiteCoverage.Shell.Utility.Basic

/-!
# Utilities for times

The utilities that show times, and that tell files when they were changed last.
-/

set_option autoImplicit false

namespace SuiteCoverage
namespace Shell
namespace Utility

open Effect

/-- The time in seconds and billionths of a second. -/
def currentTime (s : State) : Int × Nat :=
  let micros := World.startTime + (s.time : Int)
  (Int.fdiv micros Duration.second, (Int.fmod micros Duration.second).toNat * 1000)

/-- The options of `date`. -/
def dateFlags : Flags :=
  ⟨"uRIJ".toList, "dfrsIJ".toList,
    [("date", 'd'), ("file", 'f'), ("iso-8601", 'I'), ("reference", 'r'), ("rfc-email", 'R'),
      ("rfc-2822", 'R'), ("rfc-3339", 'J'), ("set", 's'), ("utc", 'u'), ("universal", 'u')]⟩

/-- The format for dates of a kind, as precise as asked for. -/
def isoFormat? (divider : String) (precision : String) : Option String :=
  let time (clock : String) : String := "%Y-%m-%d" ++ divider ++ clock ++ "%:z"
  match precision with
  | "" => some "%Y-%m-%d"
  | "date" => some "%Y-%m-%d"
  | "hours" => some (time "%H")
  | "minutes" => some (time "%H:%M")
  | "seconds" => some (time "%H:%M:%S")
  | "ns" => some (time (if divider == "T" then "%H:%M:%S,%N" else "%H:%M:%S.%N"))
  | _ => none

/-- The format that options and arguments ask for, or what is wrong with them. -/
def dateFormat (choice : Flags.Choice) : Except String String :=
  match choice.operands with
  | _ :: extra :: _ => .error ("extra operand " ++ Quoting.name extra)
  | [text] =>
    match text.toList with
    | '+' :: format => .ok (String.ofList format)
    | _ =>
      if (choice.value? 'd').isSome then
        .error ("the argument " ++ Quoting.name text ++ " lacks a leading '+';\nwhen using an option"
          ++ " to specify date(s), any non-option\nargument must be a format string beginning with"
          ++ " '+'")
      else .error ("invalid date " ++ Quoting.name text)
  | [] =>
    if choice.has 'R' then .ok "%a, %d %b %Y %H:%M:%S %z"
    else
      match choice.value? 'I', choice.value? 'J' with
      | some precision, _ =>
        (isoFormat? "T" precision).elim
          (.error ("invalid argument " ++ Quoting.name precision ++ " for '--iso-8601'")) .ok
      | none, some precision =>
        (isoFormat? " " precision).elim
          (.error ("invalid argument " ++ Quoting.name precision ++ " for '--rfc-3339'")) .ok
      | none, none => .ok "%a %b %e %H:%M:%S %Z %Y"

/-- Shows a time. -/
def date (arguments : List String) : Effect Unit :=
  withFlags 1 dateFlags arguments fun choice => do
    match dateFormat choice with
    | .error complaint =>
      if complaint.startsWith "invalid date" then
        blame complaint
        setStatus 1
      else blameCall complaint
    | .ok format =>
      let s ← state
      let now := currentTime s
      let refuse {α : Type} (complaint : String) : Effect α := do
        blame complaint
        throw (.exit 1)
      let (seconds, nanos) ← match choice.value? 'd', choice.value? 'r' with
        | some text, _ =>
          match Calendar.read? now 0 text with
          | some time => pure time
          | none => refuse ("invalid date " ++ Quoting.name text)
        | none, some file =>
          match s.world.stat (pathOf file) with
          | .ok node =>
            let micros := node.facts.changed
            pure (Int.fdiv micros Duration.second,
              (Int.fmod micros Duration.second).toNat * 1000)
          | .error fault => refuse (Quoting.nameIfNeeded file ++ ": " ++ fault.reason)
        | none, none => pure now
      let m := Calendar.Moment.ofSeconds seconds nanos
      say (m.shown 0 "UTC" format ++ "\n")
      Builtin.answer true

/-! ## When files were changed -/

/-- The options of `touch`. -/
def touchFlags : Flags :=
  ⟨"acfhm".toList, "drtT".toList,
    [("no-create", 'c'), ("no-dereference", 'h'), ("date", 'd'), ("reference", 'r'),
      ("time", 'T')]⟩

/-- The time that digits tell, two for each part of it, with the seconds behind a point. -/
def stampTime? (now : Int) (text : String) : Option Int := do
  let digits := text.toList.takeWhile Char.isDigit
  let seconds ← match text.toList.drop digits.length with
    | [] => some 0
    | '.' :: rest => if rest.length == 2 then count? (String.ofList rest) else none
    | _ => none
  let part (start count : Nat) : Nat :=
    ((String.ofList ((digits.drop start).take count)).toNat?).getD 0
  let thisYear := (Calendar.Moment.ofSeconds now 0).date.year
  let (year, rest) ←
    if digits.length == 8 then some (thisYear, 0)
    else if digits.length == 10 then
      some (((if part 0 2 < 69 then 2000 + part 0 2 else 1900 + part 0 2 : Nat) : Int), 2)
    else if digits.length == 12 then some ((part 0 4 : Int), 4)
    else none
  let date : Calendar.Date := ⟨year, part rest 2, part (rest + 2) 2⟩
  let hour := part (rest + 4) 2
  let minute := part (rest + 6) 2
  if Calendar.dateOf (Calendar.daysOf date) != date || 23 < hour || 59 < minute || 60 < seconds then
    none
  else some (Calendar.Moment.seconds ⟨date, hour, minute, seconds, 0⟩)

/-- Makes sure that files are there, and that they were changed at a time. -/
def touch (arguments : List String) : Effect Unit :=
  withFlags 1 touchFlags arguments fun choice => do
    let refuse {α : Type} (complaint : String) : Effect α := do
      blame complaint
      throw (.exit 1)
    let s ← state
    let now := currentTime s
    let reference ← match choice.value? 'r' with
      | none => pure none
      | some file =>
        match s.world.stat (pathOf file) with
        | .ok node => pure (some node.facts.changed)
        | .error fault => refuse ("failed to get attributes of " ++ Quoting.name file ++ ": "
            ++ fault.reason)
    let base := (reference.map fun micros =>
      (Int.fdiv micros Duration.second, (Int.fmod micros Duration.second).toNat * 1000)).getD now
    let told ← match choice.value? 'd', choice.value? 't' with
      | some text, _ =>
        match Calendar.read? base 0 text with
        | some (seconds, nanos) =>
          pure (some (seconds * Duration.second + (nanos / 1000 : Nat)))
        | none => refuse ("invalid date format " ++ Quoting.name text)
      | none, some text =>
        match stampTime? now.1 text with
        | some seconds => pure (some (seconds * Duration.second))
        | none => refuse ("invalid date format " ++ Quoting.name text)
      | none, none => pure reference
    if choice.operands.isEmpty then blameCall "missing file operand"
    else
      forEach (fun w argument => do
        let p := pathOf argument
        let isThere := w.pathExists p
        if choice.has 'c' && !isThere then return (w, [])
        let made ← if isThere then pure w
          else (w.append p .empty).mapError (usual "cannot touch" argument)
        if choice.has 'a' && !choice.has 'm' then return (made, [])
        let time := told.getD w.fileTime
        match made.changeFacts p fun facts => { facts with changed := time } with
        | .ok next => return (next, [])
        | .error fault =>
          if (made.stat p).toOption.any Node.isDevice then return (made, [])
          else
            let fault := if fault == .notPermitted && told.isNone then .permissionDenied else fault
            throw (usual (if told.isNone then "cannot touch" else "setting times of") argument
              fault)) choice.operands

end Utility
end Shell
end SuiteCoverage
