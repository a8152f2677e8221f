import SuiteCoverage.Proofs.Percent
import SuiteCoverage.Proofs.Report.Agreement

/-!
# How the table is laid out

All lines of the table are equally long, and what a line says can be read off it by whoever knows
how wide the first column is: the name is what stands there, and the figures are the words behind
it. `Shows` says so of one line, and `table_aligned` of all of them.

The first column is measured in bytes and filled up with characters, of which no text has more than
it has bytes; so a name always fits, and one that is not in plain letters leaves more room. The
other columns take six characters, as much as a number below a million, or a percentage.

A name may hold blanks, and even the end of a line. That is why the first column is told by its
width, and why lines are counted as they are written and not by where they end.
-/

set_option autoImplicit false

namespace SuiteCoverage

/-! ## Texts that fit -/

namespace Text

variable {width : Nat} {text : String}

theorem toList_padRight (width : Nat) (text : String) :
    (padRight width text).toList = text.toList ++ List.replicate (width - text.length) ' ' := by
  rw [padRight, filling, String.toList_append, String.toList_ofList]

theorem toList_padLeft (width : Nat) (text : String) :
    (padLeft width text).toList = List.replicate (width - text.length) ' ' ++ text.toList := by
  rw [padLeft, filling, String.toList_append, String.toList_ofList]

theorem length_padRight (h : text.length ≤ width) : (padRight width text).length = width := by
  rw [← String.length_toList, toList_padRight, List.length_append, List.length_replicate,
    String.length_toList]
  omega

theorem length_padLeft (h : text.length ≤ width) : (padLeft width text).length = width := by
  rw [← String.length_toList, toList_padLeft, List.length_append, List.length_replicate,
    String.length_toList]
  omega

/-- A text takes a byte at least for every character. -/
theorem length_le_utf8ByteSize (text : String) : text.length ≤ text.utf8ByteSize := by
  rw [← String.length_toList]
  conv_rhs => rw [← String.ofList_toList (s := text), String.utf8ByteSize_ofList]
  induction text.toList with
  | nil => simp
  | cons c rest ih =>
    have hc := c.utf8Size_pos
    rw [List.length_cons, String.utf8Len_cons]
    omega

/-! ## Words -/

/-- What stands between the blanks of a text. -/
def words (text : List Char) : List (List Char) :=
  (text.splitOn ' ').filter (!·.isEmpty)

theorem words_append_blank (front rest : List Char) :
    words (front ++ ' ' :: rest) = words front ++ words rest := by
  rw [words, List.splitOn, List.splitOnP_append_cons front rest (by simp), List.filter_append]
  rfl

theorem words_cons_blank (rest : List Char) : words (' ' :: rest) = words rest :=
  words_append_blank [] rest

theorem words_blanks (n : Nat) (rest : List Char) :
    words (List.replicate n ' ' ++ rest) = words rest := by
  induction n with
  | zero => rfl
  | succ n ih => rw [List.replicate_succ, List.cons_append, words_cons_blank, ih]

theorem words_of_not_mem {word : List Char} (hne : word ≠ []) (h : ' ' ∉ word) :
    words word = [word] := by
  have hsingle : word.splitOn ' ' = [word] :=
    List.splitOnP_eq_singleton fun c hc => beq_eq_false_iff_ne.2 (ne_of_mem_of_not_mem hc h)
  simpa [words, hsingle] using hne

end Text

/-- A text can stand in a column of six: it fits, and there is something and no blank in it. -/
structure Table.IsFigure (text : String) : Prop where
  length : text.length ≤ 6
  filled : text.toList ≠ []
  single : ' ' ∉ text.toList

namespace Table

theorem isFigure_toString {n : Nat} (h : n < 1000000) : IsFigure (toString n) := by
  constructor
  · rw [← String.length_toList, Numeral.toList_toString]
    exact (Nat.length_toDigits_le_iff (by omega) (by omega)).2 h
  · rw [Numeral.toList_toString]
    exact Nat.toDigits_ne_nil
  · rw [Numeral.toList_toString]
    exact Numeral.not_mem_toDigits (by decide) n

/-- A percentage is one hundred at most. -/
theorem isFigure_percentText {t : Totals} (hran : t.executed ≤ t.statements)
    (hfew : t.statements < 1000000) : IsFigure t.percentText := by
  have hwhole : Totals.wholePercent t ≤ 100 := by
    rw [← Totals.wholePercent_of_all (t := ⟨t.statements, t.statements⟩) rfl]
    exact Totals.wholePercent_mono hran le_rfl
  have hshown : Totals.shown t.percent < 10 ^ 3 := by
    rw [Totals.shown_percent hran (by omega)]
    omega
  have htext : t.percentText.toList = Nat.toDigits 10 (Totals.shown t.percent) ++ ['%'] := by
    rw [Totals.percentText, String.toList_append, Numeral.toList_toString]
    rfl
  have hdigits := (Nat.length_toDigits_le_iff (b := 10) (by omega) (by omega)).2 hshown
  constructor
  · rw [← String.length_toList, htext, List.length_append, List.length_singleton]
    omega
  · rw [htext]
    simp
  · rw [htext, List.mem_append, List.mem_singleton, not_or]
    exact ⟨Numeral.not_mem_toDigits (by decide) _, by decide⟩

/-! ## Lines -/

/-- What a line shows to whoever knows how wide its first column is: a name that is filled up with
    blanks, and words behind it. -/
structure Shows (width : Nat) (line name : String) (figures : List String) : Prop where
  length : line.length = width + 21
  name : ∃ blanks, line.toList.take width = name.toList ++ List.replicate blanks ' '
  figures : Text.words (line.toList.drop width) = figures.map String.toList

variable {width : Nat} {name statements missing cover : String}

theorem words_padLeft {text : String} (h : IsFigure text) :
    Text.words (Text.padLeft 6 text).toList = [text.toList] := by
  rw [Text.toList_padLeft, Text.words_blanks, Text.words_of_not_mem h.filled h.single]

/-- A line shows what it is made of. -/
theorem shows_line (hname : name.length ≤ width) (hstatements : IsFigure statements)
    (hmissing : IsFigure missing) (hcover : IsFigure cover) :
    Shows width (line width name statements missing cover) name [statements, missing, cover] := by
  have hfirst : (Text.padRight width name).toList.length = width := by
    rw [String.length_toList, Text.length_padRight hname]
  have hline : (line width name statements missing cover).toList
      = (Text.padRight width name).toList ++ (' ' :: ((Text.padLeft 6 statements).toList
          ++ ' ' :: ((Text.padLeft 6 missing).toList ++ ' ' :: (Text.padLeft 6 cover).toList))) := by
    simp [line]
  constructor
  · simp only [line, String.length_append, Text.length_padRight hname,
      Text.length_padLeft hstatements.length, Text.length_padLeft hmissing.length,
      Text.length_padLeft hcover.length]
    rfl
  · refine ⟨width - name.length, ?_⟩
    rw [hline, List.take_left' hfirst, Text.toList_padRight]
  · rw [hline, List.drop_left' hfirst]
    rw [Text.words_cons_blank, Text.words_append_blank, Text.words_append_blank,
      words_padLeft hstatements, words_padLeft hmissing, words_padLeft hcover]
    rfl

/-! ## The table -/

variable {m : Measurement} {root : Pathname}

/-- The first column is as wide as the longest name takes bytes, and has room for the last line. -/
theorem nameWidth_rows (root : Pathname) (m : Measurement) :
    nameWidth (rows root m)
      = (m.files.map fun file => (displayName root file.path).utf8ByteSize).foldl max 5 := by
  rw [nameWidth, rows, List.map_map]
  rfl

theorem le_nameWidth {file : FileAccount} (hfile : file ∈ m.files) (root : Pathname) :
    (displayName root file.path).length ≤ nameWidth (rows root m) := by
  rw [nameWidth_rows, List.foldl_max]
  exact (Text.length_le_utf8ByteSize _).trans
    (le_max_of_le_right (List.le_max?_getD_of_mem (List.mem_map_of_mem hfile)))

theorem five_le_nameWidth (root : Pathname) (m : Measurement) : 5 ≤ nameWidth (rows root m) := by
  rw [nameWidth_rows, List.foldl_max]
  exact le_max_left _ _

/-- No file has more lines that count than all files have. -/
theorem size_statements_le {file : FileAccount} (hfile : file ∈ m.files) :
    file.statements.size ≤ m.totals.statements := by
  rw [m.statements_totals]
  exact List.le_sum_of_mem (List.mem_map_of_mem hfile)

/-- The line of a file shows the file. -/
theorem shows_file {file : FileAccount} (hfile : file ∈ m.files) (hsound : file.IsSound)
    (hfew : m.totals.statements < 1000000) (root : Pathname) :
    Shows (nameWidth (rows root m))
      (line (nameWidth (rows root m)) (displayName root file.path) (toString file.statements.size)
        (toString file.missing.size) file.totals.percentText)
      (displayName root file.path)
      [toString file.statements.size, toString file.missing.size, file.totals.percentText] := by
  have hparts := hsound.size_statements
  have hstatements : file.statements.size < 1000000 := (size_statements_le hfile).trans_lt hfew
  have hran : file.totals.executed ≤ file.totals.statements :=
    (Nat.le_add_right _ _).trans_eq hparts.symm
  exact shows_line (le_nameWidth hfile root) (isFigure_toString hstatements)
    (isFigure_toString (by omega)) (isFigure_percentText hran hstatements)

theorem report_of_send {κ σ : Type} {session : Session κ} {w : World}
    {stream : Stream σ} {s last : σ} (hm : session.measurement = .ok m)
    (hsend : stream.send ((lines (Session.displayRoot w) m).map Piece.line) s = (.ok (), last)) :
    session.report w stream s = (.ok m.totals.percent, last) := by
  rw [Session.report, hm]
  simp only [hsend]

/-! ## Alignment -/

/-- The table of files with fewer than a million lines that count is aligned, and can be read back:
    all its lines are equally long, the first column shows the name of a file and nothing else, and
    the words behind it are the figures of the file. The last line shows the sums of the columns. A
    report on a stream that takes all of it is that table. -/
theorem table_aligned (hsound : ∀ file ∈ m.files, file.IsSound) (hfiles : m.files ≠ [])
    (hfew : m.totals.statements < 1000000) (root : Pathname) :
    let width := (m.files.map fun file => (displayName root file.path).utf8ByteSize).foldl max 5
    let dashes := String.ofList (List.replicate (width + 21) '-')
    ∃ heading rows total,
      lines root m = [heading, dashes] ++ rows ++ [dashes, total] ∧
      Shows width heading "Name" ["Stmts", "Miss", "Cover"] ∧
      List.Forall₂ (fun file row => Shows width row (displayName root file.path)
        [toString file.statements.size, toString file.missing.size, file.totals.percentText])
        m.files rows ∧
      Shows width total "TOTAL"
        [toString (m.files.map fun file => file.statements.size).sum,
          toString (m.files.map fun file => file.missing.size).sum, m.totals.percentText] ∧
      ∀ {κ σ : Type} (session : Session κ) (w : World) (stream : Stream σ) (s last : σ),
        session.measurement = .ok m → Session.displayRoot w = root →
        stream.send (([heading, dashes] ++ rows ++ [dashes, total]).map Piece.line) s
          = (.ok (), last) →
        session.report w stream s = (.ok m.totals.percent, last) := by
  intro width dashes
  have hwidth : nameWidth (rows root m) = width := nameWidth_rows root m
  have hfive : 5 ≤ width := hwidth ▸ five_le_nameWidth root m
  have hlines := lines_of_sound hsound hfiles root
  simp only [hwidth] at hlines
  refine ⟨_, _, _, hlines, ?_, ?_, ?_, ?_⟩
  · have hname : "Name".length ≤ width := by
      have : "Name".length = 4 := by decide
      omega
    exact shows_line hname ⟨by decide, by decide, by decide⟩ ⟨by decide, by decide, by decide⟩
      ⟨by decide, by decide, by decide⟩
  · refine List.forall₂_map_right_iff.2 (List.forall₂_same.2 fun file hfile => ?_)
    have hshows := shows_file hfile (hsound file hfile) hfew root
    rwa [hwidth] at hshows
  · have hparts := Measurement.sum_size_statements hsound
    have hall := m.statements_totals
    exact shows_line hfive (isFigure_toString (by omega)) (isFigure_toString (by omega))
      (isFigure_percentText (Measurement.executed_totals_le hsound) hfew)
  · rintro κ σ session w stream s last hm rfl hsend
    exact report_of_send hm (by rwa [hlines])

/-- A file whose name takes more bytes than it has letters. -/
def umlauts : Measurement where
  source := ["lib"]
  files := [.ofHits ⟨⟨"/build/größe.cpp"⟩, .ofList [(1, 2), (2, 0), (3, 0)]⟩ none]

/-- The name of nine letters stands in a column of eleven, as many as it takes bytes. -/
theorem table_aligned_umlauts :
    lines ⟨"/build"⟩ umlauts
      = ["Name         Stmts   Miss  Cover", "--------------------------------",
        "größe.cpp        3      2    33%", "--------------------------------",
        "TOTAL            3      2    33%"] ∧
      Shows 11 "größe.cpp        3      2    33%" "größe.cpp" ["3", "2", "33%"] ∧
      Shows 11 "TOTAL            3      2    33%" "TOTAL" ["3", "2", "33%"] := by
  have hsound : ∀ file ∈ umlauts.files, file.IsSound := by
    rintro file hfile
    cases List.mem_singleton.1 hfile
    exact FileAccount.isSound_ofHits _ _
  have htext : lines ⟨"/build"⟩ umlauts
      = ["Name         Stmts   Miss  Cover", "--------------------------------",
        "größe.cpp        3      2    33%", "--------------------------------",
        "TOTAL            3      2    33%"] := by decide +kernel
  have hwidth : (umlauts.files.map fun file =>
      (displayName ⟨"/build"⟩ file.path).utf8ByteSize).foldl max 5 = 11 := by decide +kernel
  obtain ⟨heading, rows, total, hlines, -, hrows, htotal, -⟩ :=
    table_aligned hsound (by decide) (by decide +kernel) ⟨"/build"⟩
  obtain ⟨row, rest, hrow, hrest, rfl⟩ := List.forall₂_cons_left_iff.1 hrows
  cases List.forall₂_nil_left_iff.1 hrest
  rw [hwidth] at hrow htotal
  rw [htext] at hlines
  simp only [List.cons_append, List.nil_append, List.cons.injEq] at hlines
  obtain ⟨-, -, rfl, -, rfl, -⟩ := hlines
  exact ⟨htext, hrow, htotal⟩

end Table
end SuiteCoverage
