/-!
# The lines of a text

A line ends at a newline, or at a carriage return with a newline right after it; neither is
part of the line. What follows the last newline is a line only if it is not empty, and a
carriage return that no newline follows stays where it is.
-/

set_option autoImplicit false

namespace SuiteCoverage
namespace Text

/-- The lines of `text` in order, without their ends. -/
def lines : List Char → List (List Char)
  | [] => []
  | '\n' :: rest => [] :: lines rest
  | '\r' :: '\n' :: rest => [] :: lines rest
  | c :: rest =>
    match lines rest with
    | [] => [[c]]
    | line :: more => (c :: line) :: more

/-! ## Lines of texts put together -/

theorem lines_ne_nil {text : List Char} (h : text ≠ []) : lines text ≠ [] := by
  fun_cases lines text with
  | case1 => exact absurd rfl h
  | case2 => simp
  | case3 => simp
  | case4 => simp
  | case5 => simp

theorem lines_eq_nil {text : List Char} (h : lines text = []) : text = [] :=
  Decidable.byContradiction fun hne => lines_ne_nil hne h

/-- A character that ends no line stands at the front of the first line. -/
theorem lines_cons {c : Char} {text : List Char} (hne : text ≠ []) (hc : c ≠ '\n')
    (hreturn : c = '\r' → text.head? ≠ some '\n') :
    ∃ line more, lines text = line :: more ∧ lines (c :: text) = (c :: line) :: more := by
  obtain ⟨line, more, hlines⟩ := List.exists_cons_of_ne_nil (lines_ne_nil hne)
  refine ⟨line, more, hlines, ?_⟩
  rw [lines, hlines]
  · exact fun h => hc h
  · rintro rest rfl rfl
    exact hreturn rfl rfl

/-- A text that ends where a line ends has its lines before those of what follows. -/
theorem lines_append {a : List Char} (h : a = [] ∨ a.getLast? = some '\n') (b : List Char) :
    lines (a ++ b) = lines a ++ lines b := by
  have hend {c : Char} {rest : List Char} (h : c :: rest = [] ∨ (c :: rest).getLast? = some '\n') :
      rest = [] ∨ rest.getLast? = some '\n' := by
    cases rest with
    | nil => exact .inl rfl
    | cons d rest => exact .inr (by simpa using h)
  fun_induction lines a with
  | case1 => rfl
  | case2 rest ih => rw [List.cons_append, lines, ih (hend h), List.cons_append]
  | case3 rest ih =>
    rw [List.cons_append, List.cons_append, lines, ih (hend (.inr (by simpa using h))),
      List.cons_append]
  | case4 c rest hc hreturn hnil ih =>
    -- No lines are left, so the character is the last one and ends a line after all.
    obtain rfl := lines_eq_nil hnil
    exact absurd (by simpa using h) hc
  | case5 c rest hc hreturn line more hlines ih =>
    have hne : rest ≠ [] := by
      rintro rfl
      cases hlines
    have hmore : rest ++ b ≠ [] := by simp [hne]
    obtain ⟨first, others, hsplit, hcons⟩ := lines_cons hmore hc fun hr hn => by
      obtain ⟨d, tail, rfl⟩ := List.exists_cons_of_ne_nil hne
      exact hreturn tail hr (by simpa using hn)
    rw [ih (hend h), hlines, List.cons_append, List.cons.injEq] at hsplit
    rw [List.cons_append, hcons, ← hsplit.1, ← hsplit.2, List.cons_append]

theorem lines_of_not_mem {text : List Char} (hne : text ≠ []) (h : '\n' ∉ text) :
    lines text = [text] := by
  induction text with
  | nil => exact absurd rfl hne
  | cons c rest ih =>
    rw [List.mem_cons, not_or] at h
    by_cases hrest : rest = []
    · subst hrest
      rw [lines]
      · rfl
      · exact fun he => h.1 he.symm
      · rintro tail rfl he
        cases he
    · obtain ⟨line, more, hlines, hcons⟩ := lines_cons (c := c) hrest (Ne.symm h.1) fun _ hhead =>
        h.2 (List.mem_of_head? hhead)
      rw [ih hrest h.2, List.cons.injEq] at hlines
      rw [hcons, ← hlines.1, ← hlines.2]

/-- A line that a newline ends is itself, or itself without a carriage return at its end. -/
theorem lines_newline {text : List Char} (h : '\n' ∉ text) :
    ∃ line, lines (text ++ ['\n']) = [line] ∧ (text = line ∨ text = line ++ ['\r']) := by
  induction text with
  | nil => exact ⟨[], rfl, .inl rfl⟩
  | cons c rest ih =>
    rw [List.mem_cons, not_or] at h
    by_cases hreturn : c = '\r' ∧ rest = []
    · obtain ⟨rfl, rfl⟩ := hreturn
      exact ⟨[], rfl, .inr rfl⟩
    · obtain ⟨line, hline, htext⟩ := ih h.2
      have hmore : rest ++ ['\n'] ≠ [] := by simp
      obtain ⟨first, more, hlines, hcons⟩ := lines_cons hmore (Ne.symm h.1) fun hc hhead => by
        cases rest with
        | nil => exact hreturn ⟨hc, rfl⟩
        | cons d tail => exact h.2 (List.mem_of_head? (by simpa using hhead))
      rw [hline, List.cons.injEq] at hlines
      refine ⟨c :: line, by rw [List.cons_append, hcons, ← hlines.1, ← hlines.2], ?_⟩
      rcases htext with rfl | rfl
      · exact .inl rfl
      · exact .inr rfl

/-! ## Texts with something between them -/

theorem mem_of_mem_intercalate {α : Type} {separator : List α} {body : List (List α)} {c : α}
    (h : c ∈ List.intercalate separator body) : c ∈ separator ∨ ∃ piece ∈ body, c ∈ piece := by
  induction body with
  | nil => cases h
  | cons piece rest ih =>
    cases rest with
    | nil =>
      have hc : c ∈ piece := by simpa [List.intercalate] using h
      exact .inr ⟨piece, List.mem_cons_self, hc⟩
    | cons next more =>
      rw [List.intercalate_cons_cons, List.mem_append, List.mem_append] at h
      rcases h with (hc | hc) | hrest
      · exact .inr ⟨piece, List.mem_cons_self, hc⟩
      · exact .inl hc
      · exact (ih hrest).imp_right fun ⟨other, hother, hc⟩ =>
          ⟨other, List.mem_cons_of_mem _ hother, hc⟩

/-! ## Lines in a text -/

section

variable {text line : List Char}

theorem newline_not_mem_of_mem_lines (h : line ∈ lines text) : '\n' ∉ line := by
  fun_induction lines text generalizing line with
  | case1 => cases h
  | case2 rest ih =>
    rcases List.mem_cons.1 h with rfl | hrest
    · simp
    · exact ih hrest
  | case3 rest ih =>
    rcases List.mem_cons.1 h with rfl | hrest
    · simp
    · exact ih hrest
  | case4 c rest hc hreturn hnil ih =>
    rw [List.mem_singleton.1 h, List.mem_singleton]
    exact fun hnewline => hc hnewline.symm
  | case5 c rest hc hreturn first more hlines ih =>
    rw [hlines] at ih
    rcases List.mem_cons.1 h with rfl | hmore
    · rw [List.mem_cons, not_or]
      exact ⟨fun hnewline => hc hnewline.symm, ih List.mem_cons_self⟩
    · exact ih (List.mem_cons_of_mem _ hmore)

/-- A text starts with its first line, and goes on behind it with a line end or not at all. -/
theorem exists_tail_of_lines {more : List (List Char)} (h : lines text = line :: more) :
    ∃ tail, text = line ++ tail ∧ ∀ c ∈ tail.head?, c = '\n' ∨ c = '\r' := by
  fun_induction lines text generalizing line more with
  | case1 => cases h
  | case2 rest ih =>
    cases h
    exact ⟨'\n' :: rest, rfl, by simp⟩
  | case3 rest ih =>
    cases h
    exact ⟨'\r' :: '\n' :: rest, rfl, by simp⟩
  | case4 c rest hc hreturn hnil ih =>
    cases h
    obtain rfl := lines_eq_nil hnil
    exact ⟨[], rfl, nofun⟩
  | case5 c rest hc hreturn first others hlines ih =>
    cases h
    obtain ⟨tail, rfl, htail⟩ := ih hlines
    exact ⟨tail, rfl, htail⟩

theorem prefix_of_lines {more : List (List Char)} (h : lines text = line :: more) :
    line <+: text := by
  obtain ⟨tail, rfl, -⟩ := exists_tail_of_lines h
  exact List.prefix_append line tail

theorem infix_of_mem_lines (h : line ∈ lines text) : line <:+: text := by
  fun_induction lines text generalizing line with
  | case1 => cases h
  | case2 rest ih =>
    rcases List.mem_cons.1 h with rfl | hrest
    · exact List.nil_infix
    · exact List.infix_cons (ih hrest)
  | case3 rest ih =>
    rcases List.mem_cons.1 h with rfl | hrest
    · exact List.nil_infix
    · exact List.infix_cons (List.infix_cons (ih hrest))
  | case4 c rest hc hreturn hnil ih =>
    rw [List.mem_singleton.1 h]
    exact (List.prefix_append [c] rest).isInfix
  | case5 c rest hc hreturn first more hlines ih =>
    rw [hlines] at ih
    rcases List.mem_cons.1 h with rfl | hmore
    · exact (List.cons_prefix_cons.2 ⟨rfl, prefix_of_lines hlines⟩).isInfix
    · exact List.infix_cons (ih (List.mem_cons_of_mem _ hmore))

/-- A line that does not end in a carriage return is a line of a text that goes on behind it. -/
theorem lines_line (hline : '\n' ∉ line) (hlast : line.getLast? ≠ some '\r') (rest : List Char) :
    lines (line ++ '\n' :: rest) = line :: lines rest := by
  have hwhole : (line ++ ['\n']).getLast? = some '\n' := List.getLast?_concat
  obtain ⟨kept, hkept, rfl | rfl⟩ := lines_newline hline
  · rw [List.append_cons, lines_append (.inr hwhole), hkept]
    rfl
  · exact absurd List.getLast?_concat hlast

end

/-!
## White space, and text without it at its ends

Traces, tool messages and command output are read with the blanks at their ends taken off. A
blank is a character with the Unicode property `White_Space`: twenty-five code points, among
them the line ends, the next-line control and the ideographic space, but neither the
zero-width space nor the information separators.
-/

/-- Whether `c` is white space. -/
def isBlank (c : Char) : Bool :=
  let n := c.toNat
  (9 ≤ n && n ≤ 13) || n == 0x20 || n == 0x85 || n == 0xA0 || n == 0x1680
    || (0x2000 ≤ n && n ≤ 0x200A) || n == 0x2028 || n == 0x2029 || n == 0x202F
    || n == 0x205F || n == 0x3000

/-- `text` from its first character that is no blank on. -/
def trimStart (text : List Char) : List Char :=
  text.dropWhile isBlank

/-- `text` up to its last character that is no blank. -/
def trimEnd : List Char → List Char
  | [] => []
  | c :: rest =>
    match trimEnd rest with
    | [] => if isBlank c then [] else [c]
    | kept => c :: kept

/-- `text` without the blanks at either end. -/
def trim (text : List Char) : List Char :=
  trimEnd (trimStart text)

/-- The first run of characters that are no blanks, if there is one. -/
def firstWord? (text : List Char) : Option (List Char) :=
  match (trimStart text).takeWhile (!isBlank ·) with
  | [] => none
  | word => some word

/-! ## What trimming leaves -/

@[simp] theorem trimEnd_nil : trimEnd [] = [] := rfl

theorem trimEnd_append_of_all_blank {text blanks : List Char} (h : ∀ c ∈ blanks, isBlank c) :
    trimEnd (text ++ blanks) = trimEnd text := by
  induction text with
  | nil =>
    induction blanks with
    | nil => rfl
    | cons c rest ih =>
      have ht : trimEnd rest = [] := ih (fun d hd => h d (List.mem_cons_of_mem _ hd))
      simp [trimEnd, ht, h c (by simp)]
  | cons c rest ih => simp [trimEnd, ih]

theorem trimEnd_concat {text : List Char} {c : Char} (h : isBlank c = false) :
    trimEnd (text ++ [c]) = text ++ [c] := by
  induction text with
  | nil => simp [trimEnd, h]
  | cons d rest ih =>
    simp only [List.cons_append, trimEnd, ih]
    split
    · rename_i heq
      simp at heq
    · rfl

end Text
end SuiteCoverage
