import SuiteCoverage.Error
import SuiteCoverage.Hits
import SuiteCoverage.World.Basic

/-!
# Collectors

A collector counts how often lines run, from when it begins to when it is finished. How it does
that is its own affair; a session only needs that it can begin, and that finishing it gives
counts. Its state is a `κ`.
-/

set_option autoImplicit false

namespace SuiteCoverage

/-- Something that counts how often lines run. -/
structure Collector (κ : Type) where
  /-- Begins to count; a directory is named in which it may keep what it needs. -/
  begin : Pathname → κ → World → Except CoverageError Unit × κ × World
  /-- Finishes counting, and gives the counts of the files that the objects were made from. -/
  finish : List Pathname → κ → World → Except CoverageError (List FileHits) × κ × World

end SuiteCoverage
