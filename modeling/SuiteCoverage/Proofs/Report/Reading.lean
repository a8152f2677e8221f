import SuiteCoverage.Proofs.Report.Names
import SuiteCoverage.Report.Page

/-!
# What a page shows

A reader of pages that knows nothing of how they are made. It goes through the characters of a
page, and keeps the first heading and the texts in the cells of the first table, row by row. What
stands in a tag is not shown, and what stands outside of headings and cells is passed over.

What is put into a page as text cannot open a tag (`not_mem_encode`), and so it cannot make a row,
end a cell or take the place of the heading, whatever a file is called. `heading_frame` says what
heading a page has, and `read_line` what a line of the index adds to the table.
-/

set_option autoImplicit false

namespace SuiteCoverage
namespace Page

/-! ## The reader -/

/-- What has been read of a page. -/
structure Reading where
  heading : Option (List Char)
  /-- The rows that are complete. -/
  rows : List (List (List Char))
  /-- The cells of the row that is not. -/
  row : List (List Char)
  /-- The text so far of a heading or a cell that is open. -/
  cell : Option (List Char)
  /-- The text so far of a tag that is open. -/
  tag : Option (List Char)
  /-- Whether the table has ended. -/
  ended : Bool

namespace Reading

/-- Nothing read. -/
def start : Reading := ⟨none, [], [], none, none, false⟩

/-- What a tag does, of which only the name counts. -/
def close (r : Reading) (tag : List Char) : Reading :=
  match tag.takeWhile (· ≠ ' ') with
  | ['h', '1'] | ['t', 'h'] | ['t', 'd'] => { r with cell := some [] }
  | ['/', 'h', '1'] => { r with heading := r.heading.or r.cell, cell := none }
  | ['/', 't', 'h'] | ['/', 't', 'd'] =>
    { r with row := r.row ++ [r.cell.getD []], cell := none }
  | ['/', 't', 'r'] => { r with rows := r.rows ++ [r.row], row := [] }
  | ['/', 't', 'a', 'b', 'l', 'e'] => { r with ended := true }
  | _ => r

/-- Reads a character. -/
def step (r : Reading) (c : Char) : Reading :=
  if r.ended then r
  else
    match r.tag with
    | some tag =>
      if c = '>' then { r with tag := none }.close tag else { r with tag := some (tag ++ [c]) }
    | none =>
      if c = '<' then { r with tag := some [] } else { r with cell := r.cell.map (· ++ [c]) }

/-- Reads a text. -/
def read (r : Reading) (text : String) : Reading :=
  text.toList.foldl step r

end Reading

/-- The heading of a page. -/
def headingOf (page : String) : Option String :=
  (Reading.start.read page).heading.map String.ofList

/-- The table in a page, row by row. -/
def tableOf (page : String) : List (List String) :=
  (Reading.start.read page).rows.map fun row => row.map String.ofList

namespace Reading

variable {r : Reading} {text : String} {heading cell : Option (List Char)}
  {rows : List (List (List Char))} {row : List (List Char)}

/-! ## Reading a text -/

theorem read_append (r : Reading) (first second : String) :
    r.read (first ++ second) = (r.read first).read second := by
  simp [read]

/-- A text in quotes stands for the list of its characters. -/
theorem read_ofList (r : Reading) (characters : List Char) :
    r.read (String.ofList characters) = characters.foldl step r := by
  rw [read, String.toList_ofList]

/-- Nothing is read behind the table. -/
theorem read_of_ended (h : r.ended = true) (text : String) : r.read text = r := by
  unfold read
  induction text.toList with
  | nil => rfl
  | cons c rest ih =>
    have hstep : r.step c = r := by simp [step, h]
    rw [List.foldl_cons, hstep, ih]

/-- Outside of tags, a text that does not open one is shown as it is. -/
theorem read_text (htext : '<' ∉ text.toList) :
    read ⟨heading, rows, row, cell, none, false⟩ text
      = ⟨heading, rows, row, cell.map (· ++ text.toList), none, false⟩ := by
  unfold read
  generalize text.toList = characters at htext ⊢
  induction characters generalizing cell with
  | nil => cases cell <;> simp
  | cons c rest ih =>
    rw [List.mem_cons, not_or] at htext
    obtain ⟨hc, hrest⟩ := htext
    have hstep : step ⟨heading, rows, row, cell, none, false⟩ c
        = ⟨heading, rows, row, cell.map (· ++ [c]), none, false⟩ := by
      simp [step, Ne.symm hc]
    rw [List.foldl_cons, hstep, ih hrest]
    simp [Function.comp_def]

/-- Inside a tag, a text that does not close it belongs to it. -/
theorem read_inside {tag : List Char} (htext : '>' ∉ text.toList) :
    read ⟨heading, rows, row, cell, some tag, false⟩ text
      = ⟨heading, rows, row, cell, some (tag ++ text.toList), false⟩ := by
  unfold read
  generalize text.toList = characters at htext ⊢
  induction characters generalizing tag with
  | nil => simp
  | cons c rest ih =>
    rw [List.mem_cons, not_or] at htext
    obtain ⟨hc, hrest⟩ := htext
    have hstep : step ⟨heading, rows, row, cell, some tag, false⟩ c
        = ⟨heading, rows, row, cell, some (tag ++ [c]), false⟩ := by
      simp [step, Ne.symm hc]
    rw [List.foldl_cons, hstep, ih hrest]
    simp

theorem heading_close {shown : List Char} (h : r.heading = some shown) (tag : List Char) :
    (r.close tag).heading = some shown := by
  fun_cases close r tag <;> simp [h]

/-- The first heading stays. -/
theorem heading_read {shown : List Char} (h : r.heading = some shown) (text : String) :
    (r.read text).heading = some shown := by
  unfold read
  induction text.toList generalizing r with
  | nil => exact h
  | cons c rest ih =>
    refine ih ?_
    unfold step
    split
    · exact h
    split
    · split
      · exact heading_close (r := { r with tag := none }) h _
      · exact h
    · split <;> exact h

/-- A reading outside of all tags, headings and cells. -/
def outside (heading : Option (List Char)) (rows : List (List (List Char)))
    (row : List (List Char)) : Reading :=
  ⟨heading, rows, row, none, none, false⟩

/-- A reading in a heading or a cell of which some text has been read. -/
def within (heading : Option (List Char)) (rows : List (List (List Char)))
    (row : List (List Char)) (shown : List Char) : Reading :=
  ⟨heading, rows, row, some shown, none, false⟩

theorem read_text_outside (htext : '<' ∉ text.toList) :
    (outside heading rows row).read text = outside heading rows row :=
  read_text htext

theorem read_text_within {shown : List Char} (htext : '<' ∉ text.toList) :
    (within heading rows row shown).read text = within heading rows row (shown ++ text.toList) :=
  read_text htext

end Reading

/-- What is shown of a file or of everything besides its name. -/
def figures (totals : Totals) (excluded : Nat) : List String :=
  [toString totals.statements, toString totals.missing, toString excluded, totals.percentText]

/-! ## Texts that open no tag -/

/-- A character is written without the ends of a tag. -/
theorem not_mem_encodeChar {special : Char} (hspecial : special = '<' ∨ special = '>') (c : Char) :
    special ∉ Entity.encodeChar c := by
  intro hmem
  unfold Entity.encodeChar at hmem
  split at hmem
  · rcases hspecial with rfl | rfl <;> exact absurd hmem (by decide)
  split at hmem
  · rcases hspecial with rfl | rfl <;> exact absurd hmem (by decide)
  split at hmem
  · rcases hspecial with rfl | rfl <;> exact absurd hmem (by decide)
  · rename_i hopen hclose
    obtain rfl := List.mem_singleton.1 hmem
    exact hspecial.elim hopen hclose

theorem not_mem_encode (text : String) : '<' ∉ (encode text).toList := by
  rw [encode, String.toList_ofList, Entity.encode, List.mem_flatMap]
  rintro ⟨c, -, hc⟩
  exact not_mem_encodeChar (.inl rfl) c hc

theorem not_mem_encodeQuoted (text : String) : '>' ∉ (encodeQuoted text).toList := by
  rw [encodeQuoted, String.toList_ofList, Entity.encodeQuoted, List.mem_flatMap]
  rintro ⟨c, -, hc⟩
  split at hc
  · exact absurd hc (by decide)
  · exact not_mem_encodeChar (.inr rfl) c hc

theorem not_mem_toString (n : Nat) : '<' ∉ (toString n).toList := by
  rw [Numeral.toList_toString]
  exact Numeral.not_mem_toDigits (by decide) n

theorem not_mem_percentText (t : Totals) : '<' ∉ t.percentText.toList := by
  rw [Totals.percentText, String.toList_append, List.mem_append, not_or]
  exact ⟨not_mem_toString _, by decide⟩

theorem not_mem_ofList {c : Char} {characters : List Char} (h : c ∉ characters) :
    c ∉ (String.ofList characters).toList := by
  rwa [String.toList_ofList]

/-- No rule of the style sheet opens a tag. -/
theorem not_mem_style : '<' ∉ style.toList := by
  have hrules : ∀ rule ∈ styleRules,
      '<' ∉ rule.1.toList ∧ ∀ part ∈ rule.2, '<' ∉ part.toList := by
    simp only [styleRules, List.forall_mem_cons, List.not_mem_nil, false_imp_iff, implies_true,
      and_true]
    and_intros <;> exact not_mem_ofList (by decide)
  intro hmem
  rw [style, String.toList_append, List.mem_append, String.toList_join, List.mem_flatMap] at hmem
  rcases hmem with hbreak | ⟨_, hrule, hmem⟩
  · revert hbreak
    decide
  obtain ⟨rule, hmember, rfl⟩ := List.mem_map.1 hrule
  obtain ⟨hname, hparts⟩ := hrules rule hmember
  simp only [styleRule, String.toList_append, List.mem_append, String.toList_join,
    List.mem_flatMap] at hmem
  rcases hmem with ((hmem | hopen) | ⟨_, hpart, hmem⟩) | hclose
  · exact hname hmem
  · revert hopen
    decide
  · obtain ⟨part, hmember, rfl⟩ := List.mem_map.1 hpart
    rw [String.toList_append, List.mem_append] at hmem
    rcases hmem with hmem | hend
    · exact hparts part hmember hmem
    · revert hend
      decide
  · revert hclose
    decide

namespace Reading

variable {heading : Option (List Char)} {rows : List (List (List Char))} {row : List (List Char)}

/-! ## Reading headings and cells -/

theorem read_cells (totals : Totals) (excluded : Nat) :
    (outside heading rows row).read (cells totals excluded)
      = outside heading rows (row ++ (figures totals excluded).map String.toList) := by
  have hopen : (outside heading rows row).read "<td>" = within heading rows row [] :=
    (read_ofList _ _).trans (by simp [outside, within, step, close])
  have hnext (row : List (List Char)) (shown : List Char) :
      (within heading rows row shown).read "</td><td>"
        = within heading rows (row ++ [shown]) [] :=
    (read_ofList _ _).trans (by simp [within, step, close])
  have hclose (row : List (List Char)) (shown : List Char) :
      (within heading rows row shown).read "</td>" = outside heading rows (row ++ [shown]) :=
    (read_ofList _ _).trans (by simp [outside, within, step, close])
  unfold cells
  simp only [read_append, hopen, hnext, hclose, read_text_within (not_mem_toString _),
    read_text_within (not_mem_percentText _)]
  simp [figures]

/-- A line of the index is a row with the name of a file and its figures. -/
theorem read_line (line : Row) :
    (outside heading rows []).read line.line
      = outside heading
          (rows ++ [(encode line.name :: figures line.totals line.excluded).map String.toList])
          [] := by
  have hopen : (outside heading rows []).read "<tr><td class=\"name\"><a href=\""
      = ⟨heading, rows, [], some [], some ['a', ' ', 'h', 'r', 'e', 'f', '=', '"'], false⟩ :=
    (read_ofList _ _).trans (by simp [outside, step, close])
  -- Of the tag of a link only the name counts, and that ends before the name of the page.
  have hlink (tail : List Char) :
      read ⟨heading, rows, [], some [], some ('a' :: ' ' :: tail), false⟩ "\">"
        = within heading rows [] [] :=
    (read_ofList _ _).trans (by simp [within, step, close])
  have hname (shown : List Char) :
      (within heading rows [] shown).read "</a></td>" = outside heading rows [shown] :=
    (read_ofList _ _).trans (by simp [outside, within, step, close])
  have hend (row : List (List Char)) :
      (outside heading rows row).read "</tr>\n" = outside heading (rows ++ [row]) [] :=
    (read_ofList _ _).trans (by simp [outside, step, close])
  unfold Row.line
  simp only [read_append, hopen, read_inside (not_mem_encodeQuoted _), List.cons_append, hlink,
    hname, read_text_within (not_mem_encode _), read_cells, hend]
  simp

theorem read_lines (lines : List Row) :
    (outside heading rows []).read (String.join (lines.map Row.line))
      = outside heading
          (rows ++ lines.map fun line =>
            (encode line.name :: figures line.totals line.excluded).map String.toList) [] := by
  induction lines generalizing rows with
  | nil =>
    rw [List.map_nil, List.map_nil, List.append_nil]
    rfl
  | cons line rest ih =>
    rw [List.map_cons, String.join_cons, read_append, read_line line, ih]
    simp

/-! ## Whole pages -/

/-- What stands in a page behind its body. -/
def ending (footer : String) : String :=
  "    <p class=\"footer\">" ++ footer ++ "</p>\n</body>\n</html>\n"

/-- A page is read up to its heading, then its body, and then the rest. -/
theorem read_frame {title text : String} (htitle : '<' ∉ title.toList) (htext : '<' ∉ text.toList)
    (body footer : String) :
    start.read (frame title text body footer)
      = ((outside (some text.toList) [] []).read body).read (ending footer) := by
  have hhead : start.read
      "<!DOCTYPE html>\n<html>\n<head>\n    <meta charset=\"UTF-8\">\n    <title>"
        = outside none [] [] :=
    (read_ofList _ _).trans (by simp [start, outside, step, close])
  have hstyle : (outside none [] []).read "</title>\n    <style>" = outside none [] [] :=
    (read_ofList _ _).trans (by simp [outside, step, close])
  have hbody : (outside none [] []).read "</style>\n</head>\n<body>\n    <h1>"
      = within none [] [] [] :=
    (read_ofList _ _).trans (by simp [outside, within, step, close])
  have hheading (shown : List Char) :
      (within none [] [] shown).read "</h1>\n" = outside (some shown) [] [] :=
    (read_ofList _ _).trans (by simp [outside, within, step, close])
  unfold frame ending
  simp only [read_append, hhead, hstyle, hbody, hheading, read_text_outside htitle,
    read_text_outside not_mem_style, read_text_within htext, List.nil_append]

end Reading

theorem headingOf_frame {title text : String} (htitle : '<' ∉ title.toList)
    (htext : '<' ∉ text.toList) (body footer : String) :
    headingOf (frame title text body footer) = some text := by
  have hkept : (((Reading.outside (some text.toList) [] []).read body).read
      (Reading.ending footer)).heading = some text.toList :=
    Reading.heading_read (Reading.heading_read rfl body) _
  rw [headingOf, Reading.read_frame htitle htext, hkept, Option.map_some, String.ofList_toList]

theorem not_mem_report (t : Totals) : '<' ∉ ("Coverage report: " ++ t.percentText).toList := by
  rw [String.toList_append, List.mem_append, not_or]
  exact ⟨by decide, not_mem_percentText t⟩

theorem headingOf_index (m : Measurement) (lines : List Row) (today : String) :
    headingOf (index m lines today) = some ("Coverage report: " ++ m.totals.percentText) :=
  headingOf_frame (by decide) (not_mem_report m.totals) _ _

/-- The table in an index has a row for every file, and one for everything. -/
theorem tableOf_index (m : Measurement) (lines : List Row) (today : String) :
    tableOf (index m lines today)
      = [["Module", "statements", "missing", "excluded", "coverage"]]
        ++ lines.map (fun line => encode line.name :: figures line.totals line.excluded)
        ++ ["Total" :: figures m.totals m.excluded] := by
  have htitle : '<' ∉ "Coverage report".toList := by decide
  have htext := not_mem_report m.totals
  have hmodule (heading : Option (List Char)) : (Reading.outside heading [] []).read
      "    <table class=\"index\">\n        <thead>\n            <tr><th class=\"name\">Module</th>"
        = Reading.outside heading [] ["Module".toList] :=
    (Reading.read_ofList _ _).trans (by simp [Reading.outside, Reading.step, Reading.close])
  have hcolumns (heading : Option (List Char)) (row : List (List Char)) :
      (Reading.outside heading [] row).read
        "<th>statements</th><th>missing</th><th>excluded</th><th>coverage</th></tr>\n"
        = Reading.outside heading
            [row ++ ["statements", "missing", "excluded", "coverage"].map String.toList] [] :=
    (Reading.read_ofList _ _).trans (by simp [Reading.outside, Reading.step, Reading.close])
  have hbody (heading : Option (List Char)) (rows : List (List (List Char))) :
      (Reading.outside heading rows []).read "        </thead>\n        <tbody>\n"
        = Reading.outside heading rows [] :=
    (Reading.read_ofList _ _).trans (by simp [Reading.outside, Reading.step, Reading.close])
  have hfoot (heading : Option (List Char)) (rows : List (List (List Char))) :
      (Reading.outside heading rows []).read
        "        </tbody>\n        <tfoot>\n            <tr class=\"total\">"
        = Reading.outside heading rows [] :=
    (Reading.read_ofList _ _).trans (by simp [Reading.outside, Reading.step, Reading.close])
  have htotal (heading : Option (List Char)) (rows : List (List (List Char))) :
      (Reading.outside heading rows []).read "<td class=\"name\">Total</td>"
        = Reading.outside heading rows ["Total".toList] :=
    (Reading.read_ofList _ _).trans (by simp [Reading.outside, Reading.step, Reading.close])
  have hend (heading : Option (List Char)) (rows : List (List (List Char)))
      (row : List (List Char)) :
      (Reading.outside heading rows row).read "</tr>\n        </tfoot>\n    </table>\n"
        = ⟨heading, rows ++ [row], [], none, none, true⟩ :=
    (Reading.read_ofList _ _).trans (by simp [Reading.outside, Reading.step, Reading.close])
  unfold tableOf index
  simp only [Reading.read_frame htitle htext, Reading.read_append, hmodule, hcolumns, hbody,
    Reading.read_lines lines, hfoot, htotal, Reading.read_cells, hend, Reading.read_of_ended]
  simp

end Page
end SuiteCoverage
