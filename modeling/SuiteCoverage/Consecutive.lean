/-!
# Consecutive items

A marker is looked for in a line and a module among the directories of a path. Both ask whether
the items of one list stand in another one after the other, without a gap.
-/

set_option autoImplicit false

namespace SuiteCoverage

variable {α : Type} [BEq α]

/-- Whether the items of `wanted` stand in a list one after the other. -/
def standsIn (wanted : List α) : List α → Bool
  | [] => wanted.isEmpty
  | item :: rest => wanted.isPrefixOf (item :: rest) || standsIn wanted rest

/-- `standsIn` decides the infix relation of lists. -/
theorem standsIn_iff [LawfulBEq α] {wanted items : List α} :
    standsIn wanted items = true ↔ wanted <:+: items := by
  induction items with
  | nil => simp [standsIn]
  | cons item rest ih =>
    rw [standsIn, Bool.or_eq_true, ih, List.isPrefixOf_iff_prefix, List.infix_cons_iff]

end SuiteCoverage
