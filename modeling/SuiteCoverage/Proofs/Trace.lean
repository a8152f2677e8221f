import SuiteCoverage.Proofs.Hits
import SuiteCoverage.Proofs.Numeral
import SuiteCoverage.Trace

/-!
# What a trace adds up

A line says what its front says: it opens a file, counts, or closes the file. `Opens`, `Counts` and
`closing` tell that by the text of the line, and `Gives` and `Unreadable` tell by the fields between
commas what a line counts, or that it cannot be known. The reader goes by nothing else.

Reading a trace is adding counts to a table, one file at a time, in the order of the lines. `Adds`
is that list of files, told apart from the table that it goes to; only the file that is open where
the lines start has a say in it. A trace that can be read by itself starts with none open, and so
its first counts stand behind a line that opens a file: whatever is open before such a trace, it
adds the same (`Adds.ofNone`). Therefore traces that end with their last line can be put one behind
the other, and what comes of it are the counts of all of them (`read_join`).
-/

set_option autoImplicit false

namespace SuiteCoverage

namespace Trace

/-! ## The fronts of lines -/

/-- A line that opens the records of a file. -/
def Opens (path : Pathname) (line : List Char) : Prop :=
  line = "SF:".toList ++ path.spelling.toList

/-- A line with fields that count something. -/
def Counts (fields line : List Char) : Prop :=
  line = "DA:".toList ++ fields

/-- The line that closes a file. -/
def closing : List Char := "end_of_record".toList

theorem after?_eq_some_iff {start text rest : List Char} :
    after? start text = some rest ↔ text = start ++ rest := by
  fun_induction after? start text with
  | case1 text => simp [eq_comm]
  | case2 c start => simp
  | case3 c start text ih => simp [ih]
  | case4 c start d text hne => simp [Ne.symm hne]

theorem Opens.inj {p q : Pathname} {line : List Char} (hp : Opens p line) (hq : Opens q line) :
    p = q := by
  obtain ⟨spelling⟩ := p
  obtain ⟨other⟩ := q
  have hspelling : spelling.toList = other.toList := List.append_cancel_left (hp.symm.trans hq)
  rw [String.toList_inj.1 hspelling]

/-- What a line is, by its front. -/
theorem ofLine_cases (line : List Char) :
    (∃ path, Opens path line ∧ Record.ofLine line = .file path) ∨
    (∃ fields, Counts fields line ∧ Record.ofLine line = .data fields) ∨
    (line = closing ∧ Record.ofLine line = .endOfFile) ∨
    ((∀ path, ¬ Opens path line) ∧ (∀ fields, ¬ Counts fields line) ∧ line ≠ closing ∧
      Record.ofLine line = .other) := by
  unfold Record.ofLine
  cases hfile : after? "SF:".toList line with
  | some path =>
    exact .inl ⟨⟨String.ofList path⟩,
      (after?_eq_some_iff.1 hfile).trans (congrArg _ String.toList_ofList.symm), rfl⟩
  | none =>
    have hopens (path : Pathname) : ¬ Opens path line := by
      intro h
      rw [after?_eq_some_iff.2 h] at hfile
      cases hfile
    cases hdata : after? "DA:".toList line with
    | some fields => exact .inr (.inl ⟨fields, after?_eq_some_iff.1 hdata, rfl⟩)
    | none =>
      have hcounts (fields : List Char) : ¬ Counts fields line := by
        intro h
        rw [after?_eq_some_iff.2 h] at hdata
        cases hdata
      by_cases hclose : line = closing
      · exact .inr (.inr (.inl ⟨hclose, if_pos hclose⟩))
      · exact .inr (.inr (.inr ⟨hopens, hcounts, hclose, if_neg hclose⟩))

theorem not_counts_of_opens {path : Pathname} {fields line : List Char} (h : Opens path line) :
    ¬ Counts fields line := by
  rintro rfl
  cases h

theorem ne_closing_of_opens {path : Pathname} {line : List Char} (h : Opens path line) :
    line ≠ closing := by
  rintro rfl
  cases h

theorem ne_closing_of_counts {fields line : List Char} (h : Counts fields line) :
    line ≠ closing := by
  rintro rfl
  cases h

theorem ofLine_of_opens {path : Pathname} {line : List Char} (h : Opens path line) :
    Record.ofLine line = .file path := by
  rcases ofLine_cases line with ⟨p, hp, hline⟩ | ⟨fields, hcounts, -⟩ | ⟨hclose, -⟩ | ⟨hnot, -⟩
  · rw [hline, h.inj hp]
  · exact absurd hcounts (not_counts_of_opens h)
  · exact absurd hclose (ne_closing_of_opens h)
  · exact absurd h (hnot path)

theorem ofLine_of_counts {fields line : List Char} (h : Counts fields line) :
    Record.ofLine line = .data fields := by
  rcases ofLine_cases line with ⟨p, hp, -⟩ | ⟨other, hother, hline⟩ | ⟨hclose, -⟩ | ⟨-, hnot, -⟩
  · exact absurd h (not_counts_of_opens hp)
  · rw [hline, List.append_cancel_left (h.symm.trans hother)]
  · exact absurd hclose (ne_closing_of_counts h)
  · exact absurd h (hnot fields)

theorem ofLine_closing : Record.ofLine closing = .endOfFile := rfl

/-! ## Fields -/

/-- The fields of a text are those that commas divide it into. -/
theorem splitOn_eq (fields : List Char) :
    fields.splitOn ','
      = (splitField fields).1 :: (splitField fields).2.elim [] (·.splitOn ',') := by
  fun_induction splitField fields with
  | case1 => rfl
  | case2 rest => simp [List.splitOn, List.splitOnP_cons_eq_if_modifyHead]
  | case3 c rest hc field more heq ih =>
    have hne : (c == ',') = false := by simpa using hc
    rw [heq] at ih
    simp only [List.splitOn, List.splitOnP_cons_eq_if_modifyHead, hne] at ih ⊢
    simp [ih]

/-- The fields of a line give the count of a line: the first is its number and the second the
    count, each without the blanks around it. -/
def Gives (fields : List Char) (n : LineNumber) (count : Nat) : Prop :=
  ∃ number value more, fields.splitOn ',' = number :: value :: more ∧
    Numeral.IsNumeral (Text.trim number) n.toNat ∧
    Numeral.count? (Text.trim value) = some count

/-- Fields that give no count: there are not two of them, the first is no number of a line, or the
    second is no count. -/
inductive Unreadable (fields : List Char) : Prop
  | short (h : (fields.splitOn ',').length < 2)
  | number {first : List Char} {more : List (List Char)} (h : fields.splitOn ',' = first :: more)
      (hfirst : ∀ n : LineNumber, ¬ Numeral.IsNumeral (Text.trim first) n.toNat)
  | count {first second : List Char} {more : List (List Char)}
      (h : fields.splitOn ',' = first :: second :: more)
      (hsecond : Numeral.count? (Text.trim second) = none)

/-- Fields are read as the count that they give, or as none if they give none. -/
theorem readCount_cases (fields : List Char) :
    (∃ n count, readCount fields = .ok (n, count) ∧ Gives fields n count) ∨
      ∃ fault, readCount fields = .error fault ∧ Unreadable fields := by
  have hsplit := splitOn_eq fields
  unfold readCount
  rcases hfirst : splitField fields with ⟨number, _ | rest⟩
  · rw [hfirst] at hsplit
    exact .inr ⟨.malformed, rfl, .short (by simp [hsplit])⟩
  · rw [hfirst, Option.elim_some, splitOn_eq rest] at hsplit
    cases hnumber : Numeral.naturalBelow? UInt32.size (Text.trim number) with
    | none =>
      refine .inr ⟨.badLine, by simp only [hnumber], .number hsplit fun n hn => ?_⟩
      rw [Numeral.naturalBelow?_eq_some_iff.2 ⟨hn, UInt32.toNat_lt n⟩] at hnumber
      cases hnumber
    | some n =>
      cases hcount : Numeral.count? (Text.trim (splitField rest).1) with
      | none => exact .inr ⟨.badCount, by simp only [hnumber, hcount], .count hsplit hcount⟩
      | some count =>
        obtain ⟨hnumeral, hlt⟩ := Numeral.naturalBelow?_eq_some_iff.1 hnumber
        have hvalue : (UInt32.ofNat n).toNat = n := UInt32.toNat_ofNat_of_lt' hlt
        exact .inl ⟨UInt32.ofNat n, count, by simp only [hnumber, hcount], number, _, _, hsplit,
          hvalue.symm ▸ hnumeral, hcount⟩

/-- Text stands for one number at most. -/
theorem Gives.unique {fields : List Char} {n k : LineNumber} {count other : Nat}
    (h : Gives fields n count) (hother : Gives fields k other) : n = k ∧ count = other := by
  obtain ⟨number, value, more, hsplit, hnumber, hcount⟩ := h
  obtain ⟨number', value', more', hsplit', hnumber', hcount'⟩ := hother
  cases hsplit.symm.trans hsplit'
  refine ⟨UInt32.toNat_inj.1 ?_, Option.some.inj (hcount.symm.trans hcount')⟩
  exact Option.some.inj
    ((Numeral.natural?_eq_some_iff.2 hnumber).symm.trans (Numeral.natural?_eq_some_iff.2 hnumber'))

/-- Fields do not both give a count and give none. -/
theorem Gives.not_unreadable {fields : List Char} {n : LineNumber} {count : Nat}
    (h : Gives fields n count) : ¬ Unreadable fields := by
  obtain ⟨number, value, more, hsplit, hnumber, hcount⟩ := h
  intro hunreadable
  cases hunreadable with
  | short hshort =>
    rw [hsplit, List.length_cons, List.length_cons] at hshort
    omega
  | number hfields hfirst =>
    cases hsplit.symm.trans hfields
    exact hfirst n hnumber
  | count hfields hsecond =>
    cases hsplit.symm.trans hfields
    rw [hsecond] at hcount
    cases hcount

theorem readCount_eq_ok_iff {fields : List Char} {n : LineNumber} {count : Nat} :
    readCount fields = .ok (n, count) ↔ Gives fields n count := by
  rcases readCount_cases fields with ⟨k, other, hread, hgives⟩ | ⟨fault, hread, hunreadable⟩
  · rw [hread]
    constructor
    · rintro ⟨⟩
      exact hgives
    · intro h
      obtain ⟨rfl, rfl⟩ := h.unique hgives
      rfl
  · rw [hread]
    exact ⟨nofun, fun h => absurd hunreadable h.not_unreadable⟩

theorem readCount_error_iff {fields : List Char} :
    (∃ fault, readCount fields = .error fault) ↔ Unreadable fields := by
  rcases readCount_cases fields with ⟨n, count, hread, hgives⟩ | ⟨fault, hread, hunreadable⟩
  · rw [hread]
    exact ⟨nofun, fun h => absurd h hgives.not_unreadable⟩
  · exact ⟨fun _ => hunreadable, fun _ => ⟨fault, hread⟩⟩

/-! ## What lines add -/

/-- Lines that are read while `current` is open add the counts of some files, and leave a file open
    or none. -/
inductive Adds : Option Pathname → List (List Char) → List FileHits → Option Pathname → Prop
  | nothing {current : Option Pathname} : Adds current [] [] current
  | opening {current last : Option Pathname} {path : Pathname} {line : List Char}
      {rest : List (List Char)} {files : List FileHits}
      (hline : Record.ofLine (Text.trim line) = .file path)
      (hrest : Adds (some path) rest files last) :
      Adds current (line :: rest) (⟨path, OrderedMap.empty⟩ :: files) last
  | counting {last : Option Pathname} {path : Pathname} {line fields : List Char} {n : LineNumber}
      {count : Nat} {rest : List (List Char)} {files : List FileHits}
      (hline : Record.ofLine (Text.trim line) = .data fields)
      (hfields : readCount fields = .ok (n, count))
      (hrest : Adds (some path) rest files last) :
      Adds (some path) (line :: rest) (⟨path, LineCounts.add n count OrderedMap.empty⟩ :: files)
        last
  | closing {current last : Option Pathname} {line : List Char} {rest : List (List Char)}
      {files : List FileHits} (hline : Record.ofLine (Text.trim line) = .endOfFile)
      (hrest : Adds none rest files last) : Adds current (line :: rest) files last
  | passing {current last : Option Pathname} {line : List Char} {rest : List (List Char)}
      {files : List FileHits} (hline : Record.ofLine (Text.trim line) = .other)
      (hrest : Adds current rest files last) : Adds current (line :: rest) files last

/-- Lines that add something can be read, and then that is added to the table. -/
theorem Adds.run {current last : Option Pathname} {lines : List (List Char)}
    {files : List FileHits} (h : Adds current lines files last) (table : HitTable) :
    Reading.run ⟨table, current⟩ lines
      = .ok ⟨files.foldl (fun table file => HitTable.add file.path file.lines table) table,
          last⟩ := by
  induction h generalizing table with
  | nothing => rfl
  | opening hline hrest ih =>
    rw [Reading.run, Reading.step, hline]
    exact ih _
  | counting hline hfields hrest ih =>
    rw [Reading.run, Reading.step, hline]
    simp only [hfields]
    exact ih _
  | closing hline hrest ih =>
    rw [Reading.run, Reading.step, hline]
    exact ih _
  | passing hline hrest ih =>
    rw [Reading.run, Reading.step, hline]
    exact ih _

/-- Lines that can be read add something. -/
theorem adds_of_run {state final : Reading} {lines : List (List Char)}
    (h : state.run lines = .ok final) : ∃ files, Adds state.current lines files final.current := by
  induction lines generalizing state with
  | nil =>
    cases h
    exact ⟨[], .nothing⟩
  | cons line rest ih =>
    obtain ⟨table, current⟩ := state
    rw [Reading.run, Reading.step] at h
    cases hline : Record.ofLine (Text.trim line) with
    | file path =>
      rw [hline] at h
      obtain ⟨files, hrest⟩ := ih h
      exact ⟨_, .opening hline hrest⟩
    | data fields =>
      rw [hline] at h
      cases current with
      | none => cases h
      | some path =>
        cases hfields : readCount fields with
        | error fault =>
          simp only [hfields] at h
          cases h
        | ok entry =>
          simp only [hfields] at h
          obtain ⟨files, hrest⟩ := ih h
          exact ⟨_, .counting hline hfields hrest⟩
    | endOfFile =>
      rw [hline] at h
      obtain ⟨files, hrest⟩ := ih h
      exact ⟨files, .closing hline hrest⟩
    | other =>
      rw [hline] at h
      obtain ⟨files, hrest⟩ := ih h
      exact ⟨files, .passing hline hrest⟩

/-- Lines one behind the other add what each of them adds. -/
theorem Adds.append {first middle last : Option Pathname} {a b : List (List Char)}
    {files other : List FileHits} (h : Adds first a files middle) (hb : Adds middle b other last) :
    Adds first (a ++ b) (files ++ other) last := by
  induction h with
  | nothing => exact hb
  | opening hline hrest ih => exact .opening hline (ih hb)
  | counting hline hfields hrest ih => exact .counting hline hfields (ih hb)
  | closing hline hrest ih => exact .closing hline (ih hb)
  | passing hline hrest ih => exact .passing hline (ih hb)

/-- Lines one behind the other add what those in front add and what the others add after that. -/
theorem Adds.split {current last : Option Pathname} {a b : List (List Char)}
    {files : List FileHits} (h : Adds current (a ++ b) files last) :
    ∃ first middle second, Adds current a first middle ∧ Adds middle b second last ∧
      files = first ++ second := by
  induction a generalizing current files with
  | nil => exact ⟨[], current, files, .nothing, h, rfl⟩
  | cons line rest ih =>
    cases h with
    | opening hline hrest =>
      obtain ⟨first, middle, second, hfirst, hsecond, rfl⟩ := ih hrest
      exact ⟨_, middle, second, .opening hline hfirst, hsecond, rfl⟩
    | counting hline hfields hrest =>
      obtain ⟨first, middle, second, hfirst, hsecond, rfl⟩ := ih hrest
      exact ⟨_, middle, second, .counting hline hfields hfirst, hsecond, rfl⟩
    | closing hline hrest =>
      obtain ⟨first, middle, second, hfirst, hsecond, rfl⟩ := ih hrest
      exact ⟨first, middle, second, .closing hline hfirst, hsecond, rfl⟩
    | passing hline hrest =>
      obtain ⟨first, middle, second, hfirst, hsecond, rfl⟩ := ih hrest
      exact ⟨first, middle, second, .passing hline hfirst, hsecond, rfl⟩

/-- What can be read with no file open adds the same whatever file is open. -/
theorem Adds.ofNone {last : Option Pathname} {lines : List (List Char)} {files : List FileHits}
    (h : Adds none lines files last) (current : Option Pathname) :
    ∃ last, Adds current lines files last := by
  generalize hnone : (none : Option Pathname) = start at h
  induction h with
  | nothing => exact ⟨current, .nothing⟩
  | opening hline hrest ih => exact ⟨_, .opening hline hrest⟩
  | counting hline hfields hrest ih => cases hnone
  | closing hline hrest ih => exact ⟨_, .closing hline hrest⟩
  | passing hline hrest ih =>
    obtain ⟨last, hlast⟩ := ih hnone
    exact ⟨last, .passing hline hlast⟩

/-! ## Whole traces -/

/-- The counts that a trace lists are those that its lines add, added up. -/
theorem read_eq_ok_iff {content : String} {files : List FileHits} :
    read content = .ok files ↔
      ∃ added last, Adds none (Text.lines content.toList) added last ∧
        files = (HitTable.ofFiles added).files := by
  have hread {added : List FileHits} {last : Option Pathname}
      (h : Adds none (Text.lines content.toList) added last) :
      read content = .ok (HitTable.ofFiles added).files := by
    rw [read, Reading.start, h.run]
    rfl
  constructor
  · intro h
    cases hrun : Reading.start.run (Text.lines content.toList) with
    | error flaw =>
      rw [read, hrun] at h
      cases h
    | ok final =>
      obtain ⟨added, hadds⟩ := adds_of_run hrun
      exact ⟨added, _, hadds, Except.ok.inj (h.symm.trans (hread hadds))⟩
  · rintro ⟨added, last, hadds, rfl⟩
    exact hread hadds

/-- A text of whole lines: there is nothing in it, or it ends where its last line does. -/
def IsWhole (text : String) : Prop :=
  text = "" ∨ text.toList.getLast? = some '\n'

theorem IsWhole.lines_append {text : String} (h : IsWhole text) (other : String) :
    Text.lines (text ++ other).toList = Text.lines text.toList ++ Text.lines other.toList := by
  rw [String.toList_append]
  refine Text.lines_append ?_ _
  rcases h with rfl | hlast
  · exact .inl rfl
  · exact .inr hlast

/-- Traces of whole lines that can be read one by one can be read one behind the other, and list
    the same counts. -/
theorem read_join {texts : List String} {files : String → List FileHits}
    (hwhole : ∀ text ∈ texts, IsWhole text) (hread : ∀ text ∈ texts, read text = .ok (files text)) :
    ∃ listed, read (String.join texts) = .ok listed ∧
      HitTable.SameCounts listed (texts.flatMap files) := by
  -- Put into terms of what lines add, so that the induction goes over the seams.
  have hadds : ∃ added last, Adds none (Text.lines (String.join texts).toList) added last ∧
      HitTable.SameCounts added (texts.flatMap files) := by
    induction texts with
    | nil => exact ⟨[], none, .nothing, .refl []⟩
    | cons text rest ih =>
      obtain ⟨behind, last, hbehind, hsame⟩ := ih (fun t ht => hwhole t (List.mem_cons_of_mem _ ht))
        fun t ht => hread t (List.mem_cons_of_mem _ ht)
      obtain ⟨first, open?, hfirst, hfiles⟩ := read_eq_ok_iff.1 (hread text List.mem_cons_self)
      obtain ⟨last, hbehind⟩ := hbehind.ofNone open?
      refine ⟨first ++ behind, last, ?_, ?_⟩
      · rw [String.join_cons, (hwhole text List.mem_cons_self).lines_append]
        exact hfirst.append hbehind
      · rw [List.flatMap_cons, hfiles]
        exact (HitTable.sameCounts_files first).symm.append hsame
  obtain ⟨added, last, hadds, hsame⟩ := hadds
  exact ⟨_, read_eq_ok_iff.2 ⟨added, last, hadds, rfl⟩, (HitTable.sameCounts_files added).trans hsame⟩

end Trace
end SuiteCoverage
