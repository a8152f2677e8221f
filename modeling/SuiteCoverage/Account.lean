import SuiteCoverage.Hits
import SuiteCoverage.Number.Binary64

/-!
# The account of a file

What a file's hit counts amount to: which of its executable lines count, which of those ran, and
which were left out. A boundary leaves out its line and everything after it, no matter how often
that ran.
-/

set_option autoImplicit false

namespace SuiteCoverage

/-- How many lines count and how many of them ran. -/
structure Totals where
  statements : Nat
  executed : Nat
deriving DecidableEq, Repr, Inhabited

namespace Totals

/-- No lines at all. -/
def zero : Totals := ⟨0, 0⟩

/-- Both taken together. -/
def add (a b : Totals) : Totals :=
  ⟨a.statements + b.statements, a.executed + b.executed⟩

/-- All of a list taken together. -/
def sum (items : List Totals) : Totals :=
  items.foldl add zero

/-- How many lines count and did not run. -/
def missing (t : Totals) : Nat :=
  t.statements - t.executed

end Totals

/-- The executable lines of one file, sorted by whether they count and ran. -/
structure FileAccount where
  path : Pathname
  /-- The lines that count. -/
  statements : LineSet
  /-- The lines that count and ran. -/
  executed : LineSet
  /-- The lines that are left out. -/
  excluded : LineSet
deriving DecidableEq

namespace FileAccount

/-- Whether a boundary, if there is one, leaves out a line. -/
def beyond (boundary : Option LineNumber) (n : LineNumber) : Bool :=
  boundary.any fun start => start ≤ n

/-- The account of a file with a boundary at the given line. -/
def ofHits (hits : FileHits) (boundary : Option LineNumber) : FileAccount where
  path := hits.path
  statements := hits.lines.linesWhere fun entry => !beyond boundary entry.1
  executed := hits.lines.linesWhere fun entry => !beyond boundary entry.1 && decide (0 < entry.2)
  excluded := hits.lines.linesWhere fun entry => beyond boundary entry.1

/-- The lines that count and did not run. -/
def missing (account : FileAccount) : LineSet :=
  account.statements.diff account.executed

/-- The account in numbers. -/
def totals (account : FileAccount) : Totals :=
  ⟨account.statements.size, account.executed.size⟩

end FileAccount
end SuiteCoverage

/-!
## Percentages

How much of what counts has run, in per cent and in double precision: the number of executed
lines times a hundred, divided by the number of lines that count. Where nothing counts nothing is
left to cover, and the percentage is one hundred.

A percentage is shown as a whole number, and it is never rounded to the extremes: what is above
zero shows at least 1%, and what is short of one hundred shows at most 99%.
-/

namespace SuiteCoverage
namespace Totals

/-- One hundred. -/
def hundred : Binary64 := Binary64.ofNat 100

/-- How much has run, in per cent. -/
def percent (t : Totals) : Binary64 :=
  if t.statements = 0 then hundred
  else Binary64.div (Binary64.mul (Binary64.ofNat t.executed) hundred) (Binary64.ofNat t.statements)

/-- The whole number that a percentage is shown as. -/
def shown (percent : Binary64) : Nat :=
  if Binary64.lt (Binary64.ofNat 0) percent && Binary64.lt percent (Binary64.ofNat 1) then 1
  else if Binary64.lt (Binary64.ofNat 99) percent && Binary64.lt percent hundred then 99
  else percent.nearest

/-- How the percentage is written in reports. -/
def percentText (t : Totals) : String :=
  toString (shown t.percent) ++ "%"

end Totals
end SuiteCoverage
