import SuiteCoverage.Consecutive
import SuiteCoverage.Pathname

/-!
# The scope of a measurement

Only files of the modules under test are measured. A module is named by a target. An absolute
target is a directory, and all in it is measured. A relative target is a run of steps, and a
file is measured if that run stands anywhere among the directories it is in; the file's own name
is never part of the run. A target without steps names nothing.
-/

set_option autoImplicit false

namespace SuiteCoverage

/-- The modules whose files are measured. -/
structure Scope where
  targets : List Pathname

namespace Scope

/-- The scope with the targets that are spelled so. -/
def ofTexts (texts : List String) : Scope :=
  ⟨texts.map Pathname.mk⟩

/-- Whether `path` belongs to what `target` names. -/
def reaches (target path : Pathname) : Bool :=
  if target.isAbsolute then path.startsWith target
  else !target.components.isEmpty && standsIn target.components path.components.dropLast

/-- Whether `path` is measured. -/
def covers (scope : Scope) (path : Pathname) : Bool :=
  scope.targets.any fun target => reaches target path

end Scope
end SuiteCoverage
