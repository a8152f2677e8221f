import SuiteCoverage.Line
import SuiteCoverage.Ordered
import SuiteCoverage.Pathname

/-!
# Hit counts

How often each line of a file ran. Counts for one line that come from different places add up:
several objects may hold code of one file, and a session may be started more than once. A line
that is counted zero times is executable but did not run, which is not the same as a line
without a count. Counts are natural numbers, which is what counters of 64 bits are as long as none
of them overflows.
-/

set_option autoImplicit false

namespace SuiteCoverage

/-- How often lines ran, in ascending order of lines. -/
abbrev LineCounts := OrderedMap LineNumber Nat compare

namespace LineCounts

/-- One more count for a line. -/
def add (n : LineNumber) (count : Nat) (counts : LineCounts) : LineCounts :=
  counts.upsert (· + ·) n count

/-- The counts of both. -/
def sum (a b : LineCounts) : LineCounts :=
  b.entries.foldl (fun counts entry => counts.add entry.1 entry.2) a

/-- The counts in a list, those for one line added up. -/
def ofList (entries : List (LineNumber × Nat)) : LineCounts :=
  entries.foldl (fun counts entry => counts.add entry.1 entry.2) OrderedMap.empty

/-- The lines whose entry satisfies `p`. -/
def linesWhere (counts : LineCounts) (p : LineNumber × Nat → Bool) : LineSet where
  lines := (counts.entries.filter p).map (·.1)
  ascending :=
    List.pairwise_map.2 ((counts.ascending.filter p).imp fun h => Std.compare_eq_lt.1 h)

theorem mem_linesWhere {counts : LineCounts} {p : LineNumber × Nat → Bool} {n : LineNumber} :
    n ∈ counts.linesWhere p ↔ ∃ count, (n, count) ∈ counts.entries ∧ p (n, count) = true := by
  simp [LineSet.mem_iff, linesWhere]

end LineCounts

/-- The counts of one file. -/
structure FileHits where
  path : Pathname
  lines : LineCounts

/-- The counts of several files, in ascending order of paths. -/
abbrev HitTable := OrderedMap Pathname LineCounts Pathname.order

namespace HitTable

/-- What is there for `path` with `lines` added; an entry for `path` even if `lines` is empty. -/
def add (path : Pathname) (lines : LineCounts) (table : HitTable) : HitTable :=
  table.upsert LineCounts.sum path lines

/-- The files of a table, in ascending order. -/
def files (table : HitTable) : List FileHits :=
  table.entries.map fun entry => ⟨entry.1, entry.2⟩

end HitTable
end SuiteCoverage
