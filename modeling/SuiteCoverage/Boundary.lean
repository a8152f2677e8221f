import SuiteCoverage.Consecutive
import SuiteCoverage.Line
import SuiteCoverage.Text.Lines

/-!
# Boundaries

Generated code at the end of a source file is not measured. It starts at a boundary: the first
line that contains a marker, anywhere in the line. That line and all after it are left out.
-/

set_option autoImplicit false

namespace SuiteCoverage

/-- The rule that leaves out everything from the first line with a marker on. -/
structure Boundary where
  marker : String
deriving DecidableEq, Repr

namespace Boundary

/-- The name under which the rule is known. -/
def name : String := "exclude_until_coverage_plugin"

/-- The number of the first line that contains the marker. -/
def start? (boundary : Boundary) (source : String) : Option LineNumber :=
  ((Text.lines source.toList).findIdx? fun line => standsIn boundary.marker.toList line).map
    fun index => UInt32.ofNat (index + 1)

/-- The earliest line at which one of several rules starts to leave lines out. -/
def earliest? (boundaries : List Boundary) (source : String) : Option LineNumber :=
  (boundaries.filterMap fun boundary => boundary.start? source).min?

end Boundary
end SuiteCoverage
