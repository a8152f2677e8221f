import SuiteCoverage.Measurement
import SuiteCoverage.Pathname
import SuiteCoverage.Account
import SuiteCoverage.Text.Column

/-!
# The table

The short report is a table with a row for every file: its name, how many of its lines count, how
many of them did not run, and the percentage. A heading stands above the rows and a row of totals
below them, both set off by a rule. The first column is as wide as the longest name takes bytes,
and at least as wide as the word `TOTAL`.
-/

set_option autoImplicit false

/-!
## Names in reports

A report calls a file by its path, and by its path below the directory worked in if it is there.
-/

namespace SuiteCoverage

/-- What a file is called in reports made in a given directory. -/
def displayName (directory path : Pathname) : String :=
  ((path.below? directory).getD path).spelling

end SuiteCoverage

namespace SuiteCoverage
namespace Table

/-- A row: a name and what is said about it. -/
structure Row where
  name : String
  totals : Totals
deriving DecidableEq, Repr

/-- The rows of a measurement, seen from a directory. -/
def rows (directory : Pathname) (m : Measurement) : List Row :=
  m.files.map fun file => ⟨displayName directory file.path, file.totals⟩

/-- The width of the first column. -/
def nameWidth (rows : List Row) : Nat :=
  (rows.map fun row => row.name.utf8ByteSize).foldl max "TOTAL".length

/-- A line of the table: a name at the left and three columns of six at the right. -/
def line (width : Nat) (name statements missing cover : String) : String :=
  Text.padRight width name ++ " " ++ Text.padLeft 6 statements ++ " " ++ Text.padLeft 6 missing
    ++ " " ++ Text.padLeft 6 cover

/-- The line of a row. -/
def Row.line (width : Nat) (row : Row) : String :=
  Table.line width row.name (toString row.totals.statements) (toString row.totals.missing)
    row.totals.percentText

/-- The line between heading, rows and totals, as long as the lines of a table whose names fit. -/
def rule (width : Nat) : String :=
  String.ofList (List.replicate (width + 21) '-')

/-- The lines of the table with the given rows. -/
def ofRows (rows : List Row) (total : Totals) : List String :=
  let width := nameWidth rows
  [line width "Name" "Stmts" "Miss" "Cover", rule width]
    ++ rows.map (Row.line width)
    ++ [rule width, Row.line width ⟨"TOTAL", total⟩]

/-- The lines of the report on a measurement, seen from a directory. -/
def lines (directory : Pathname) (m : Measurement) : List String :=
  if m.files.isEmpty then ["No data to report."]
  else ofRows (rows directory m) m.totals

end Table
end SuiteCoverage
