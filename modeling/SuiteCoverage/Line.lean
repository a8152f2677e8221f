/-!
# Lines and sets of lines

Lines of a source file are numbered from one. Coverage is told in sets of lines, which are
listed in ascending order wherever they are shown; a set is kept as that list. That the lines
ascend is part of the type, so a set has one representation and equality is equality of sets.
-/

set_option autoImplicit false

namespace SuiteCoverage

/-- The number of a line. -/
abbrev LineNumber := UInt32

/-- A finite set of lines. -/
structure LineSet where
  lines : List LineNumber
  ascending : lines.Pairwise (· < ·)
deriving DecidableEq

namespace LineSet

instance : Membership LineNumber LineSet := ⟨fun s n => n ∈ s.lines⟩

instance (n : LineNumber) (s : LineSet) : Decidable (n ∈ s) :=
  inferInstanceAs (Decidable (n ∈ s.lines))

theorem mem_iff {n : LineNumber} {s : LineSet} : n ∈ s ↔ n ∈ s.lines := Iff.rfl

/-- The set without lines. -/
def empty : LineSet := ⟨[], .nil⟩

instance : Inhabited LineSet := ⟨empty⟩

/-- The number of lines. -/
def size (s : LineSet) : Nat := s.lines.length

/-- Puts a line where it belongs in an ascending list, unless it is there. -/
def insertLine (n : LineNumber) : List LineNumber → List LineNumber
  | [] => [n]
  | m :: rest =>
    if n < m then n :: m :: rest else if n = m then m :: rest else m :: insertLine n rest

theorem mem_insertLine {n k : LineNumber} {lines : List LineNumber} :
    k ∈ insertLine n lines ↔ k = n ∨ k ∈ lines := by
  induction lines with
  | nil => simp [insertLine]
  | cons m rest ih =>
    unfold insertLine
    split
    · simp
    · split
      · rename_i h
        subst h
        simp
      · simp only [List.mem_cons, ih]
        grind

theorem ascending_insertLine {n : LineNumber} {lines : List LineNumber}
    (h : lines.Pairwise (· < ·)) : (insertLine n lines).Pairwise (· < ·) := by
  induction lines with
  | nil => simp [insertLine]
  | cons m rest ih =>
    obtain ⟨hm, hrest⟩ := List.pairwise_cons.1 h
    unfold insertLine
    split
    · rename_i hlt
      refine List.pairwise_cons.2 ⟨fun k hk => ?_, h⟩
      rcases List.mem_cons.1 hk with rfl | hk
      · exact hlt
      · exact UInt32.lt_trans hlt (hm k hk)
    · split
      · exact h
      · rename_i hlt hne
        refine List.pairwise_cons.2 ⟨fun k hk => ?_, ih hrest⟩
        rcases mem_insertLine.1 hk with rfl | hk
        · exact UInt32.lt_of_le_of_ne (UInt32.not_lt.1 hlt) (fun he => hne he.symm)
        · exact hm k hk

/-- The set with one more line. -/
def insert (n : LineNumber) (s : LineSet) : LineSet :=
  ⟨insertLine n s.lines, ascending_insertLine s.ascending⟩

/-- The set of the lines in a list. -/
def ofList (lines : List LineNumber) : LineSet :=
  lines.foldr insert empty

/-- The lines of `s` that are not in `t`. -/
def diff (s t : LineSet) : LineSet :=
  ⟨s.lines.filter (· ∉ t), s.ascending.filter _⟩

theorem mem_insert {n k : LineNumber} {s : LineSet} : k ∈ s.insert n ↔ k = n ∨ k ∈ s :=
  mem_insertLine

@[simp] theorem not_mem_empty {n : LineNumber} : n ∉ empty := by
  simp [mem_iff, empty]

theorem mem_ofList {k : LineNumber} {lines : List LineNumber} : k ∈ ofList lines ↔ k ∈ lines := by
  induction lines with
  | nil => simp [ofList]
  | cons m rest ih =>
    rw [List.mem_cons, ← ih]
    exact mem_insert

theorem mem_diff {k : LineNumber} {s t : LineSet} : k ∈ s.diff t ↔ k ∈ s ∧ k ∉ t := by
  simp [mem_iff, diff]

end LineSet
end SuiteCoverage
