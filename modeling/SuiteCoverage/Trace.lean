import SuiteCoverage.Hits
import SuiteCoverage.Number.Numeral
import SuiteCoverage.Text.Lines

/-!
# Traces

A trace lists, file by file, how often lines ran. It is read line by line, blanks at the ends
of a line taken off: `SF:` opens the records of a file, `DA:` gives the number of a line and its
count (a checksum may follow), `end_of_record` closes the file, and every other line is
skipped. There may be several records for one file, one from each exported object, and several
for one line; their counts add up.

A file that is opened and has no counts is listed all the same. The first record that cannot be
read makes the whole trace unreadable.
-/

set_option autoImplicit false

namespace SuiteCoverage
namespace Trace

/-- What is wrong with a `DA:` line. -/
inductive RecordFault where
  /-- No file is open. -/
  | outsideFile
  /-- There is no second field. -/
  | malformed
  /-- The first field is not a line number. -/
  | badLine
  /-- The second field is not a count. -/
  | badCount
deriving DecidableEq, Repr

namespace RecordFault

/-- What a fault is called in messages. -/
def label : RecordFault → String
  | outsideFile => "DA record outside a file"
  | malformed => "malformed DA record"
  | badLine => "bad line number"
  | badCount => "bad hit count"

end RecordFault

/-- A line that makes a trace unreadable, and why. -/
structure Flaw where
  fault : RecordFault
  line : String
deriving DecidableEq, Repr

/-- What a line of a trace is. -/
inductive Record where
  | file (path : Pathname)
  | data (fields : List Char)
  | endOfFile
  | other

/-- What follows `start` at the front of `text`, if it is there. -/
def after? : List Char → List Char → Option (List Char)
  | [], text => some text
  | _ :: _, [] => none
  | c :: start, d :: text => if c = d then after? start text else none

/-- Tells what a line is; its blanks have been taken off. -/
def Record.ofLine (line : List Char) : Record :=
  match after? "SF:".toList line with
  | some path => .file ⟨String.ofList path⟩
  | none =>
    match after? "DA:".toList line with
    | some fields => .data fields
    | none => if line = "end_of_record".toList then .endOfFile else .other

/-- The text up to a comma, and the text behind it if there is one. -/
def splitField : List Char → List Char × Option (List Char)
  | [] => ([], none)
  | ',' :: rest => ([], some rest)
  | c :: rest =>
    let (field, more) := splitField rest
    (c :: field, more)

/-- The line number and the count in the fields of a `DA:` line. Further fields do not count. -/
def readCount (fields : List Char) : Except RecordFault (LineNumber × Nat) :=
  match splitField fields with
  | (_, none) => .error .malformed
  | (number, some rest) =>
    match Numeral.naturalBelow? UInt32.size (Text.trim number) with
    | none => .error .badLine
    | some n =>
      match Numeral.count? (Text.trim (splitField rest).1) with
      | none => .error .badCount
      | some count => .ok (UInt32.ofNat n, count)

/-- What has been read so far: the counts, and the file that is open. -/
structure Reading where
  table : HitTable
  current : Option Pathname

/-- Reads one more line. -/
def Reading.step (state : Reading) (line : List Char) : Except RecordFault Reading :=
  match Record.ofLine line with
  | .file path => .ok ⟨HitTable.add path OrderedMap.empty state.table, some path⟩
  | .data fields =>
    match state.current with
    | none => .error .outsideFile
    | some path =>
      match readCount fields with
      | .error fault => .error fault
      | .ok (n, count) =>
        let counts := LineCounts.add n count OrderedMap.empty
        .ok { state with table := HitTable.add path counts state.table }
  | .endOfFile => .ok { state with current := none }
  | .other => .ok state

/-- Reads lines from a given state on, up to the first that cannot be read. -/
def Reading.run (state : Reading) : List (List Char) → Except Flaw Reading
  | [] => .ok state
  | line :: rest =>
    match state.step (Text.trim line) with
    | .error fault => .error ⟨fault, String.ofList (Text.trim line)⟩
    | .ok next => next.run rest

/-- Nothing read yet. -/
def Reading.start : Reading := ⟨OrderedMap.empty, none⟩

/-- The counts that a trace lists, in ascending order of paths. -/
def read (content : String) : Except Flaw (List FileHits) :=
  (Reading.start.run (Text.lines content.toList)).map fun reading => HitTable.files reading.table

end Trace
end SuiteCoverage
