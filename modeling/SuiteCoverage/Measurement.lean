import SuiteCoverage.Account
import SuiteCoverage.Error
import SuiteCoverage.Json.Reader
import SuiteCoverage.Json.Value
import SuiteCoverage.Number.Numeral
import SuiteCoverage.World.Writing

/-!
# Measurements and data files

A measurement is what a session found out: the accounts of the measured files, in the order of
their paths, and the modules that were measured. It is kept in a data file, a JSON document with
a version number. A document of the right form and another version is refused with its version;
a document of any other form is just malformed.
-/

set_option autoImplicit false

namespace SuiteCoverage

/-- The accounts of everything measured. -/
structure Measurement where
  source : List String
  files : List FileAccount
deriving DecidableEq

namespace Measurement

/-- Nothing measured. -/
def empty : Measurement := ⟨[], []⟩

/-- The measurement of some files, put in the order of their paths. Files with the same path
    stay in the order they are in. -/
def ofFiles (source : List String) (files : List FileAccount) : Measurement :=
  ⟨source, files.mergeSort fun a b => (Pathname.order a.path b.path).isLE⟩

/-- All files in numbers. -/
def totals (m : Measurement) : Totals :=
  Totals.sum (m.files.map FileAccount.totals)

/-- How many lines are left out in all. -/
def excluded (m : Measurement) : Nat :=
  m.files.foldl (fun n file => n + file.excluded.size) 0

/-! ## Data files -/

/-- The version of data files. -/
def version : UInt32 := 1

/-- A set of lines as an array. -/
def linesToJson (lines : LineSet) : Json :=
  .array (lines.lines.map fun n => .ofNat n.toNat)

/-- The account of a file as a record. -/
def accountToJson (account : FileAccount) : Json :=
  .record [("path", .ofText account.path.spelling), ("statements", linesToJson account.statements),
    ("executed", linesToJson account.executed), ("excluded", linesToJson account.excluded)]

/-- A measurement as a document. -/
def toJson (m : Measurement) : Json :=
  .record [("version", .ofNat version.toNat), ("source", .array (m.source.map Json.ofText)),
    ("files", .array (m.files.map accountToJson))]

/-- A number of 32 bits, written with digits alone. -/
def word? : Json → Option UInt32
  | .number literal => ((Numeral.readDigits? 0 literal).filter (· < UInt32.size)).map UInt32.ofNat
  | _ => none

/-- A set of lines from an array of them, in any order. -/
def linesOfJson? (value : Json) : Option LineSet := do
  let items ← value.items?
  let lines ← items.mapM word?
  pure (LineSet.ofList lines)

/-- The account that a record is. -/
def accountOfJson? (value : Json) : Option FileAccount :=
  match value.fields? ["path", "statements", "executed", "excluded"] with
  | some [path, statements, executed, excluded] => do
    let path ← path.text?
    let statements ← linesOfJson? statements
    let executed ← linesOfJson? executed
    let excluded ← linesOfJson? excluded
    pure ⟨⟨path⟩, statements, executed, excluded⟩
  | _ => none

/-- The version and the measurement that a document is. -/
def ofJson? (value : Json) : Option (UInt32 × Measurement) :=
  match value.fields? ["version", "source", "files"] with
  | some [version, source, files] => do
    let version ← word? version
    let source ← (← source.items?).mapM Json.text?
    let files ← (← files.items?).mapM accountOfJson?
    pure (version, ⟨source, files⟩)
  | _ => none

/-- The text of the data file of a measurement. -/
def toText (m : Measurement) : String :=
  m.toJson.render

/-- The measurement in the text of a data file. -/
def ofText (text : String) : Except DataFault Measurement :=
  match (Json.read? text.toList).bind ofJson? with
  | none => .error .document
  | some (found, m) => if found = version then .ok m else .error (.version found)

end Measurement
end SuiteCoverage

/-!
## Keeping measurements

A measurement is written to a data file and read from it. A file that cannot be opened, or is no
text, is a fault of the system; what is wrong with its content is a fault of the data.
-/

namespace SuiteCoverage
namespace Measurement

/-- Writes a measurement to a data file. -/
def save (m : Measurement) (w : World) (p : Pathname) : Except CoverageError World :=
  (w.writeText p m.toText).mapError (.io p)

/-- Reads the measurement in a data file. -/
def load (w : World) (p : Pathname) : Except CoverageError Measurement :=
  match w.readText p with
  | .ok text => (ofText text).mapError .data
  | .error fault => .error (.io p fault)

end Measurement
end SuiteCoverage
