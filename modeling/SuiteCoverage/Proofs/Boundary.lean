import SuiteCoverage.Boundary

/-!
# Where a boundary starts

A boundary looks for its marker in one line after the other. The marker may as well be looked for
in the text as a whole: it has no line end in it, so it never reaches over the end of a line, and
the line that it is found in is told by the newlines in front of its first occurrence
(`findIdx?_lines`). How the lines end has no say in that, nor has anything behind the first
occurrence.
-/

set_option autoImplicit false

namespace SuiteCoverage
namespace Text

variable {marker before kept line text other : List Char} {c : Char}

/-! ## The first occurrence in a text -/

/-- `before` is what stands in front of the first occurrence of `marker` in `text`: the marker
    stands behind it, and nowhere earlier. -/
def IsBeforeFirst (marker before text : List Char) : Prop :=
  before ++ marker <+: text ∧ ∀ k < before.length, ¬ marker <+: text.drop k

instance (marker before text : List Char) : Decidable (IsBeforeFirst marker before text) :=
  inferInstanceAs (Decidable (_ ∧ _))

/-- Where the marker stands at the front, nothing is in front of it. -/
theorem isBeforeFirst_iff_of_isPrefix (h : marker <+: text) :
    IsBeforeFirst marker before text ↔ before = [] := by
  constructor
  · rintro ⟨-, hnone⟩
    cases before with
    | nil => rfl
    | cons c rest => exact absurd h (hnone 0 (Nat.succ_pos _))
  · rintro rfl
    exact ⟨h, nofun⟩

/-- Where it does not, the first occurrence is that in the rest of the text. -/
theorem isBeforeFirst_cons_iff (h : ¬ marker <+: c :: text) :
    IsBeforeFirst marker before (c :: text)
      ↔ ∃ rest, before = c :: rest ∧ IsBeforeFirst marker rest text := by
  constructor
  · rintro ⟨hstands, hnone⟩
    cases before with
    | nil => exact absurd hstands h
    | cons d rest =>
      obtain ⟨rfl, hrest⟩ := List.cons_prefix_cons.1 hstands
      exact ⟨rest, rfl, hrest, fun k hk => hnone (k + 1) (Nat.succ_lt_succ hk)⟩
  · rintro ⟨rest, rfl, hstands, hnone⟩
    refine ⟨List.cons_prefix_cons.2 ⟨rfl, hstands⟩, fun k hk => ?_⟩
    cases k with
    | zero => exact h
    | succ k => exact hnone k (Nat.lt_of_succ_lt_succ hk)

/-! ## Searching the whole text -/

/-- The number of newlines in front of the first occurrence of `marker` in a text. -/
def newlinesBefore? (marker : List Char) : List Char → Option Nat
  | [] => if marker = [] then some 0 else none
  | c :: rest =>
    if marker <+: c :: rest then some 0
    else (newlinesBefore? marker rest).map (· + if c = '\n' then 1 else 0)

theorem newlinesBefore?_of_isPrefix (h : marker <+: text) : newlinesBefore? marker text = some 0 := by
  cases text with
  | nil => rw [newlinesBefore?, if_pos (List.prefix_nil.1 h)]
  | cons c rest => rw [newlinesBefore?, if_pos h]

theorem newlinesBefore?_eq_none_iff : newlinesBefore? marker text = none ↔ ¬ marker <:+: text := by
  induction text with
  | nil => simp [newlinesBefore?]
  | cons c rest ih =>
    rw [newlinesBefore?, List.infix_cons_iff]
    by_cases h : marker <+: c :: rest
    · simp [h]
    · simp [h, ih]

theorem newlinesBefore?_of_isBeforeFirst (h : IsBeforeFirst marker before text) :
    newlinesBefore? marker text = some (before.count '\n') := by
  induction text generalizing before with
  | nil =>
    have hnone := List.append_eq_nil_iff.1 (List.prefix_nil.1 h.1)
    rw [newlinesBefore?, if_pos hnone.2, hnone.1, List.count_nil]
  | cons c rest ih =>
    by_cases hfront : marker <+: c :: rest
    · rw [newlinesBefore?_of_isPrefix hfront, (isBeforeFirst_iff_of_isPrefix hfront).1 h,
        List.count_nil]
    · obtain ⟨behind, rfl, hbehind⟩ := (isBeforeFirst_cons_iff hfront).1 h
      rw [newlinesBefore?, if_neg hfront, ih hbehind, List.count_cons, Option.map_some]
      simp only [beq_iff_eq]

/-- A text that contains the marker contains it for a first time. -/
theorem exists_isBeforeFirst (h : marker <:+: text) : ∃ before, IsBeforeFirst marker before text := by
  induction text with
  | nil => exact ⟨[], by simpa using h, nofun⟩
  | cons c rest ih =>
    by_cases hfront : marker <+: c :: rest
    · exact ⟨[], (isBeforeFirst_iff_of_isPrefix hfront).2 rfl⟩
    · obtain ⟨before, hbefore⟩ := ih ((List.infix_cons_iff.1 h).resolve_left hfront)
      exact ⟨c :: before, (isBeforeFirst_cons_iff hfront).2 ⟨before, rfl, hbefore⟩⟩

/-- What follows a part of the text in which the marker stands does not matter. -/
theorem newlinesBefore?_append (h : marker <:+: kept) (other : List Char) :
    newlinesBefore? marker (kept ++ other) = newlinesBefore? marker kept := by
  induction kept with
  | nil =>
    obtain rfl : marker = [] := by simpa using h
    rw [newlinesBefore?_of_isPrefix List.nil_prefix, newlinesBefore?_of_isPrefix List.nil_prefix]
  | cons c rest ih =>
    by_cases hfront : marker <+: c :: rest
    · rw [newlinesBefore?_of_isPrefix hfront,
        newlinesBefore?_of_isPrefix (hfront.trans (List.prefix_append _ other))]
    · have hrest := (List.infix_cons_iff.1 h).resolve_left hfront
      -- The part is longer than the marker, so it has the say in what stands at its front.
      have hwhole : ¬ marker <+: c :: (rest ++ other) := fun hwhole =>
        hfront (List.prefix_of_prefix_length_le hwhole (List.prefix_append (c :: rest) other)
          (Nat.le_succ_of_le hrest.length_le))
      rw [List.cons_append, newlinesBefore?, newlinesBefore?, if_neg hfront, if_neg hwhole, ih hrest]

/-! ## Line ends -/

/-- Texts that differ in how their lines end, at some of the ends or at all of them. -/
inductive Relined : List Char → List Char → Prop
  | nil : Relined [] []
  | same (c : Char) {a b : List Char} (h : Relined a b) : Relined (c :: a) (c :: b)
  | shortened {a b : List Char} (h : Relined a b) : Relined ('\r' :: '\n' :: a) ('\n' :: b)
  | lengthened {a b : List Char} (h : Relined a b) : Relined ('\n' :: a) ('\r' :: '\n' :: b)

theorem Relined.refl (text : List Char) : Relined text text := by
  induction text with
  | nil => exact .nil
  | cons c rest ih => exact .same c ih

theorem Relined.append_left (h : Relined text other) (kept : List Char) :
    Relined (kept ++ text) (kept ++ other) := by
  induction kept with
  | nil => exact h
  | cons c rest ih => exact .same c ih

/-- What has no `c` in it does not stand where a `c` does. -/
theorem not_prefix_cons (hne : marker ≠ []) (h : c ∉ marker) : ¬ marker <+: c :: text := by
  intro hprefix
  obtain ⟨d, rest, rfl⟩ := List.exists_cons_of_ne_nil hne
  obtain ⟨rfl, -⟩ := List.cons_prefix_cons.1 hprefix
  exact h List.mem_cons_self

theorem newlinesBefore?_newline (hne : marker ≠ []) (hnewline : '\n' ∉ marker) :
    newlinesBefore? marker ('\n' :: text) = (newlinesBefore? marker text).map (· + 1) := by
  rw [newlinesBefore?, if_neg (not_prefix_cons hne hnewline), if_pos rfl]

theorem newlinesBefore?_return (hne : marker ≠ []) (hreturn : '\r' ∉ marker) :
    newlinesBefore? marker ('\r' :: text) = newlinesBefore? marker text := by
  rw [newlinesBefore?, if_neg (not_prefix_cons hne hreturn), if_neg (by decide)]
  simp

/-- A piece without line ends stands at the front of both texts or of neither. -/
theorem Relined.prefix_iff (h : Relined text other) (hnewline : '\n' ∉ marker)
    (hreturn : '\r' ∉ marker) : marker <+: text ↔ marker <+: other := by
  induction h generalizing marker with
  | nil => exact Iff.rfl
  | same c h ih =>
    cases marker with
    | nil => exact iff_of_true List.nil_prefix List.nil_prefix
    | cons d rest =>
      rw [List.mem_cons, not_or] at hnewline hreturn
      rw [List.cons_prefix_cons, List.cons_prefix_cons, ih hnewline.2 hreturn.2]
  | shortened h ih =>
    by_cases hne : marker = []
    · exact iff_of_true (hne ▸ List.nil_prefix) (hne ▸ List.nil_prefix)
    · exact iff_of_false (not_prefix_cons hne hreturn) (not_prefix_cons hne hnewline)
  | lengthened h ih =>
    by_cases hne : marker = []
    · exact iff_of_true (hne ▸ List.nil_prefix) (hne ▸ List.nil_prefix)
    · exact iff_of_false (not_prefix_cons hne hnewline) (not_prefix_cons hne hreturn)

/-- How the lines end makes no difference to the search. -/
theorem Relined.newlinesBefore?_eq (h : Relined text other) (hne : marker ≠ [])
    (hnewline : '\n' ∉ marker) (hreturn : '\r' ∉ marker) :
    newlinesBefore? marker text = newlinesBefore? marker other := by
  induction h with
  | nil => rfl
  | same c h ih =>
    rw [newlinesBefore?, newlinesBefore?, ih]
    simp only [(h.same c).prefix_iff hnewline hreturn]
  | shortened h ih =>
    rw [newlinesBefore?_return hne hreturn, newlinesBefore?_newline hne hnewline,
      newlinesBefore?_newline hne hnewline, ih]
  | lengthened h ih =>
    rw [newlinesBefore?_return hne hreturn, newlinesBefore?_newline hne hnewline,
      newlinesBefore?_newline hne hnewline, ih]

/-! ## Searching line by line -/

/-- A piece without line ends that stands at the front of a text stands in its first line. -/
theorem prefix_line_iff {more : List (List Char)} (hnewline : '\n' ∉ marker)
    (hreturn : '\r' ∉ marker) (h : lines text = line :: more) :
    marker <+: line ↔ marker <+: text := by
  obtain ⟨tail, rfl, htail⟩ := exists_tail_of_lines h
  refine ⟨fun hline => hline.trans (List.prefix_append line tail), fun htext => ?_⟩
  obtain hline | ⟨excess, rfl⟩ := List.prefix_or_prefix_of_prefix htext (List.prefix_append line tail)
  · exact hline
  rw [List.prefix_append_right_inj] at htext
  cases excess with
  | nil => simp
  | cons c excess =>
    -- The piece would reach over the end of the line.
    obtain ⟨rest, rfl⟩ := htext
    obtain rfl | rfl := htail c rfl
    · exact absurd (List.mem_append_right line List.mem_cons_self) hnewline
    · exact absurd (List.mem_append_right line List.mem_cons_self) hreturn

/-- The first line with the marker in it has as many lines before it as there are newlines in front
    of the first occurrence of the marker. -/
theorem findIdx?_lines (hne : marker ≠ []) (hnewline : '\n' ∉ marker) (hreturn : '\r' ∉ marker)
    (text : List Char) :
    (lines text).findIdx? (standsIn marker) = newlinesBefore? marker text := by
  have hempty : standsIn marker [] = false := by simpa [standsIn] using hne
  fun_induction lines text with
  | case1 => simp [newlinesBefore?, hne]
  | case2 rest ih =>
    rw [List.findIdx?_cons, hempty, ih, newlinesBefore?_newline hne hnewline]
    rfl
  | case3 rest ih =>
    rw [List.findIdx?_cons, hempty, ih, newlinesBefore?_return hne hreturn,
      newlinesBefore?_newline hne hnewline]
    rfl
  | case4 c rest hc hbreak hnil ih =>
    obtain rfl := lines_eq_nil hnil
    by_cases hfront : marker <+: [c]
    · simp [newlinesBefore?, standsIn, hfront]
    · simp [newlinesBefore?, standsIn, hfront, hne]
  | case5 c rest hc hbreak line more hlines ih =>
    have hwhole : lines (c :: rest) = (c :: line) :: more := by
      rw [lines, hlines]
      · exact hc
      · exact hbreak
    have hfront := prefix_line_iff hnewline hreturn hwhole
    rw [hlines, List.findIdx?_cons] at ih
    rw [List.findIdx?_cons, standsIn, newlinesBefore?]
    by_cases hstands : marker <+: c :: rest
    · rw [if_pos hstands, List.isPrefixOf_iff_prefix.2 (hfront.2 hstands)]
      rfl
    · have hline : marker.isPrefixOf (c :: line) = false := by
        simpa [← List.isPrefixOf_iff_prefix] using mt hfront.1 hstands
      rw [if_neg hstands, hline, Bool.false_or, if_neg hc, ih]
      simp

end Text

namespace Boundary

variable {boundary : Boundary} {source : String}

/-- What a boundary finds in a text, told by the text as a whole. -/
theorem start?_eq (hne : boundary.marker.toList ≠ []) (hnewline : '\n' ∉ boundary.marker.toList)
    (hreturn : '\r' ∉ boundary.marker.toList) (source : String) :
    boundary.start? source
      = (Text.newlinesBefore? boundary.marker.toList source.toList).map
          fun newlines => UInt32.ofNat (newlines + 1) := by
  rw [← Text.findIdx?_lines hne hnewline hreturn]
  rfl

/-- The number of the line that a boundary finds is one more than the lines before it. -/
theorem start?_eq_some_iff (hlines : (Text.lines source.toList).length < UInt32.size)
    {number : LineNumber} :
    boundary.start? source = some number ↔
      ∃ index, (Text.lines source.toList).findIdx? (standsIn boundary.marker.toList) = some index ∧
        number.toNat = index + 1 := by
  have hnumber {index : Nat}
      (hindex : (Text.lines source.toList).findIdx? (standsIn boundary.marker.toList)
        = some index) : (UInt32.ofNat (index + 1)).toNat = index + 1 := by
    have hbound := (List.findIdx?_eq_some_iff_findIdx_eq.1 hindex).1
    exact UInt32.toNat_ofNat_of_lt' (by omega)
  rw [start?, Option.map_eq_some_iff]
  constructor
  · rintro ⟨index, hindex, rfl⟩
    exact ⟨index, hindex, hnumber hindex⟩
  · rintro ⟨index, hindex, hvalue⟩
    exact ⟨index, hindex, UInt32.toNat_inj.1 ((hnumber hindex).trans hvalue.symm)⟩

/-- Every part of a marker is found where the marker is, or earlier. -/
theorem start?_le_of_infix {shorter : Boundary}
    (hmarker : shorter.marker.toList <:+: boundary.marker.toList)
    (hlines : (Text.lines source.toList).length < UInt32.size) {number : LineNumber}
    (h : boundary.start? source = some number) :
    ∃ earlier, shorter.start? source = some earlier ∧ earlier ≤ number := by
  obtain ⟨index, hindex, hnumber⟩ := (start?_eq_some_iff hlines).1 h
  obtain ⟨hbound, hfirst⟩ := List.findIdx?_eq_some_iff_findIdx_eq.1 hindex
  let first := (Text.lines source.toList).findIdx (standsIn shorter.marker.toList)
  have hle : first ≤ index :=
    hfirst ▸ List.findIdx_le_findIdx fun line _ hline =>
      standsIn_iff.2 (hmarker.trans (standsIn_iff.1 hline))
  have hfound : (Text.lines source.toList).findIdx? (standsIn shorter.marker.toList) = some first :=
    List.findIdx?_eq_some_iff_findIdx_eq.2 ⟨by omega, rfl⟩
  have hvalue : (UInt32.ofNat (first + 1)).toNat = first + 1 :=
    UInt32.toNat_ofNat_of_lt' (by omega)
  refine ⟨UInt32.ofNat (first + 1), (start?_eq_some_iff hlines).2 ⟨first, hfound, hvalue⟩, ?_⟩
  rw [UInt32.le_iff_toNat_le, hvalue, hnumber]
  exact Nat.succ_le_succ hle

/-- Looking for a marker in one line after the other comes to the same as looking for it in the text
    as a whole. Nothing is found if the text does not contain the marker; otherwise the line is told
    by the newlines in front of the first occurrence, whatever the lines end with. So it does not
    matter what follows a part of the text that contains the marker, as the part through the line of
    the first occurrence does, nor with which of the two ends the lines end, and every part of the
    marker is found in that line or in an earlier one. -/
theorem found_as_in_whole_text (boundary : Boundary) (source : String)
    (hne : boundary.marker.toList ≠ []) (hnewline : '\n' ∉ boundary.marker.toList)
    (hreturn : '\r' ∉ boundary.marker.toList)
    (hlines : (Text.lines source.toList).length < UInt32.size) :
    (boundary.start? source = none ↔ ¬ boundary.marker.toList <:+: source.toList) ∧
    (boundary.marker.toList <:+: source.toList →
      ∃ before, Text.IsBeforeFirst boundary.marker.toList before source.toList) ∧
    (∀ before, Text.IsBeforeFirst boundary.marker.toList before source.toList →
      ∃ number, boundary.start? source = some number ∧
        number.toNat = 1 + before.count '\n') ∧
    (∀ kept rest other : String, source = kept ++ rest →
      boundary.marker.toList <:+: kept.toList →
        boundary.start? (kept ++ other) = boundary.start? source) ∧
    (∀ other : String, Text.Relined source.toList other.toList →
      boundary.start? other = boundary.start? source) ∧
    ∀ (shorter : Boundary) (number : LineNumber),
      shorter.marker.toList <:+: boundary.marker.toList → boundary.start? source = some number →
        ∃ earlier, shorter.start? source = some earlier ∧ earlier ≤ number := by
  have hstart := start?_eq hne hnewline hreturn
  refine ⟨?_, Text.exists_isBeforeFirst, fun before hbefore => ?_, ?_, fun other hother => ?_, ?_⟩
  · rw [hstart, Option.map_eq_none_iff, Text.newlinesBefore?_eq_none_iff]
  · have hfound : boundary.start? source = some (UInt32.ofNat (before.count '\n' + 1)) := by
      rw [hstart, Text.newlinesBefore?_of_isBeforeFirst hbefore, Option.map_some]
    obtain ⟨index, hindex, hnumber⟩ := (start?_eq_some_iff hlines).1 hfound
    rw [Text.findIdx?_lines hne hnewline hreturn,
      Text.newlinesBefore?_of_isBeforeFirst hbefore, Option.some.injEq] at hindex
    exact ⟨_, hfound, by omega⟩
  · rintro kept rest other rfl hkept
    rw [hstart, hstart, String.toList_append, String.toList_append,
      Text.newlinesBefore?_append hkept, Text.newlinesBefore?_append hkept]
  · rw [hstart, hstart, hother.newlinesBefore?_eq hne hnewline hreturn]
  · exact fun shorter number hmarker => start?_le_of_infix hmarker hlines

/-- A text with both kinds of line ends, in whose second line the marker stands twice. -/
def mixedText : String := "one\r\ntwo # end # end\nthree"

/-- The marker is found in the second line of the text, and in any text that starts like it, in that
    text with other line ends as well, and a part of the marker not later. -/
theorem found_as_in_whole_text_mixed :
    ("# end".toList ≠ [] ∧ '\n' ∉ "# end".toList ∧ '\r' ∉ "# end".toList ∧
      (Text.lines mixedText.toList).length < UInt32.size) ∧
    (∃ number, (⟨"# end"⟩ : Boundary).start? mixedText = some number ∧ number.toNat = 2 ∧
      (⟨"# end"⟩ : Boundary).start? ("one\r\ntwo # end" ++ "\r\n# end") = some number ∧
      (⟨"# end"⟩ : Boundary).start? "one\ntwo # end # end\r\nthree" = some number ∧
      ∃ earlier, (⟨"end"⟩ : Boundary).start? mixedText = some earlier ∧ earlier ≤ number) ∧
    (⟨"# start"⟩ : Boundary).start? mixedText = none := by
  have hplain : "# end".toList ≠ [] ∧ '\n' ∉ "# end".toList ∧ '\r' ∉ "# end".toList ∧
      (Text.lines mixedText.toList).length < UInt32.size := by decide +kernel
  obtain ⟨hne, hnewline, hreturn, hlines⟩ := hplain
  obtain ⟨-, -, hfirst, hfollowed, hrelined, hshorter⟩ :=
    found_as_in_whole_text ⟨"# end"⟩ mixedText hne hnewline hreturn hlines
  obtain ⟨number, hnumber, hvalue⟩ := hfirst "one\r\ntwo ".toList (by decide +kernel)
  have hother := found_as_in_whole_text ⟨"# start"⟩ mixedText (by decide +kernel)
    (by decide +kernel) (by decide +kernel) hlines
  refine ⟨⟨hne, hnewline, hreturn, hlines⟩, ⟨number, hnumber, ?_, ?_, ?_, ?_⟩, ?_⟩
  · rw [hvalue]
    decide +kernel
  · rw [hfollowed "one\r\ntwo # end" " # end\nthree" "\r\n# end" (by decide +kernel)
      (by decide +kernel), hnumber]
  · have hends : Text.Relined
        ("one".toList ++ '\r' :: '\n' :: ("two # end # end".toList ++ '\n' :: "three".toList))
        ("one".toList ++ '\n' :: ("two # end # end".toList ++ '\r' :: '\n' :: "three".toList)) :=
      ((Text.Relined.lengthened (.refl _)).append_left _).shortened.append_left _
    rw [hrelined "one\ntwo # end # end\r\nthree" hends, hnumber]
  · exact hshorter ⟨"end"⟩ number (by decide +kernel) hnumber
  · exact hother.1.2 (by decide +kernel)

end Boundary
end SuiteCoverage
