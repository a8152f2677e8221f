import SuiteCoverage.Proofs.Account
import SuiteCoverage.Proofs.Report.Completeness
import SuiteCoverage.Proofs.Report.Reading
import SuiteCoverage.Proofs.Session.Rounds

/-!
# The two reports

The short report and the long one go through the same files with different words. They agree: a
file has a line in the one and a row in the other, in the same order, with the same name and the
same figures, and so has everything taken together. What is missing in all is what is missing in
each, because no line has run that does not count; otherwise one file could make up for another.
-/

set_option autoImplicit false

namespace SuiteCoverage

/-- The measurement of a session is sound. -/
theorem Session.isSound_of_measurement {κ σ : Type} (collector : Collector κ) (settings : Settings)
    (state : κ) (turns : List (Turn σ)) {m : Measurement}
    (hm : ((ofSettings settings state).after collector turns).measurement = .ok m) :
    ∀ file ∈ m.files, file.IsSound := by
  obtain ⟨hstage, hkept⟩ := measurement_ok_iff.1 hm
  obtain ⟨_, _, _, _, _, hmeasured⟩ :=
    (ledger_after collector settings state turns).measured hstage
  rw [hkept] at hmeasured
  cases hmeasured
  intro file hfile
  rw [measure, Measurement.ofFiles, List.mem_mergeSort] at hfile
  obtain ⟨hits, -, rfl⟩ := List.mem_map.1 hfile
  exact FileAccount.isSound_ofHits hits _

/-! ## Lines and rows -/

variable {m : Measurement} {root : Pathname}

/-- The lines of the table: a heading, a line for every file, and one for everything, set off by
    rules. -/
theorem Table.lines_of_sound (hsound : ∀ file ∈ m.files, file.IsSound) (hfiles : m.files ≠ [])
    (root : Pathname) :
    let width := nameWidth (rows root m)
    lines root m
      = [line width "Name" "Stmts" "Miss" "Cover", rule width]
        ++ m.files.map (fun file => line width (displayName root file.path)
            (toString file.statements.size) (toString file.missing.size) file.totals.percentText)
        ++ [rule width, line width "TOTAL"
            (toString (m.files.map fun file => file.statements.size).sum)
            (toString (m.files.map fun file => file.missing.size).sum) m.totals.percentText] := by
  intro width
  have hempty : m.files.isEmpty = false := by simpa using hfiles
  have hlines : (rows root m).map (Row.line width)
      = m.files.map fun file => line width (displayName root file.path)
          (toString file.statements.size) (toString file.missing.size)
          file.totals.percentText := by
    rw [rows, List.map_map]
    refine List.map_congr_left fun file hfile => ?_
    show Row.line _ ⟨displayName root file.path, file.totals⟩ = _
    rw [Row.line, (hsound file hfile).missing_totals]
    rfl
  rw [lines, hempty]
  simp only [Bool.false_eq_true, if_false, ofRows]
  show _ ++ (rows root m).map (Row.line width) ++ _ = _
  rw [hlines, Row.line, m.statements_totals, Measurement.missing_totals hsound]

namespace Pages

/-- The files of a report go with the names of their pages. -/
theorem map_listing {α : Type} (f : FileAccount → String → String → α) (m : Measurement)
    (root : Pathname) :
    (listing m root).map (fun entry => f entry.1 entry.2.1 entry.2.2)
      = List.zipWith (fun file page => f file (displayName root file.path) page) m.files
          (Page.names (m.files.map fun file => displayName root file.path)) := by
  have hzip (files : List FileAccount) (pages : List String) :
      (files.zip ((files.map fun file => displayName root file.path).zip pages)).map
          (fun entry => f entry.1 entry.2.1 entry.2.2)
        = List.zipWith (fun file page => f file (displayName root file.path) page) files pages := by
    induction files generalizing pages with
    | nil => rfl
    | cons file rest ih =>
      cases pages with
      | nil => rfl
      | cons page pages => simp [ih]
  exact hzip m.files _

/-- In what does not depend on the pages, there is an entry for every file. -/
theorem map_listing_files {α : Type} (f : FileAccount → String → α) (m : Measurement)
    (root : Pathname) :
    (listing m root).map (fun entry => f entry.1 entry.2.1)
      = m.files.map fun file => f file (displayName root file.path) := by
  refine List.ext_getElem? fun i => ?_
  rw [List.getElem?_map, List.getElem?_map]
  cases hfile : m.files[i]? with
  | none =>
    have hnone : (listing m root)[i]? = none := by
      rw [List.getElem?_eq_none_iff, length_listing]
      exact List.getElem?_eq_none_iff.1 hfile
    rw [hnone]
    rfl
  | some file =>
    obtain ⟨page, hentry⟩ := listing_getElem? hfile
    rw [hentry]
    rfl

end Pages

/-- The rows of the index: the columns, a row for every file, and one for everything. -/
theorem Page.tableOf_of_sound (hsound : ∀ file ∈ m.files, file.IsSound) (root : Pathname)
    (today : String) :
    tableOf (index m (Pages.rows m root) today)
      = [["Module", "statements", "missing", "excluded", "coverage"]]
        ++ m.files.map (fun file => [encode (displayName root file.path),
            toString file.statements.size, toString file.missing.size,
            toString file.excluded.size, file.totals.percentText])
        ++ [["Total", toString (m.files.map fun file => file.statements.size).sum,
            toString (m.files.map fun file => file.missing.size).sum, toString m.excluded,
            m.totals.percentText]] := by
  have hlines : (Pages.rows m root).map
        (fun line => encode line.name :: figures line.totals line.excluded)
      = m.files.map fun file => [encode (displayName root file.path),
          toString file.statements.size, toString file.missing.size,
          toString file.excluded.size, file.totals.percentText] := by
    rw [Pages.rows_eq, List.map_map]
    refine (Pages.map_listing_files
      (fun file name => encode name :: figures file.totals file.excluded.size) m root).trans ?_
    refine List.map_congr_left fun file hfile => ?_
    rw [figures, (hsound file hfile).missing_totals]
    rfl
  rw [tableOf_index m, hlines, figures, m.statements_totals,
    Measurement.missing_totals hsound]

/-- The heading of the page of a file. -/
theorem Page.headingOf_ofFile (file : FileAccount) (name : String) (source : Except Fault String)
    (today : String) :
    headingOf (ofFile file name source today)
      = some ("Coverage for " ++ encode name ++ ": " ++ file.totals.percentText) := by
  have htitle : '<' ∉ ("Coverage for " ++ encode name).toList := by
    rw [String.toList_append, List.mem_append, not_or]
    exact ⟨by decide, not_mem_encode name⟩
  have htext :
      '<' ∉ ("Coverage for " ++ encode name ++ ": " ++ file.totals.percentText).toList := by
    rw [String.toList_append, String.toList_append, List.mem_append, List.mem_append, not_or,
      not_or]
    exact ⟨⟨htitle, by decide⟩, not_mem_percentText _⟩
  exact headingOf_frame htitle htext _ _

theorem Session.report_ok_iff {κ σ : Type} {session : Session κ} (hm : session.measurement = .ok m)
    (w : World) (stream : Stream σ) (s : σ) {percent : Binary64} :
    (session.report w stream s).1 = .ok percent ↔ percent = m.totals.percent ∧
      (stream.send ((Table.lines (displayRoot w) m).map Piece.line) s).1 = .ok () := by
  rw [report, hm]
  rcases hsend : stream.send ((Table.lines (displayRoot w) m).map Piece.line) s
    with ⟨fault | _, next⟩
  · simp [hsend]
  · simp [hsend, eq_comm]

/-! ## What is written -/

namespace Pages

variable {directory : Pathname} {w after : World} {percent : Binary64}

theorem bind_ok_iff {α β : Type} {x : ExceptT CoverageError (StateM World) α}
    {f : α → ExceptT CoverageError (StateM World) β} {b : β} :
    (x >>= f) w = (.ok b, after) ↔
      ∃ a middle, x w = (.ok a, middle) ∧ f a middle = (.ok b, after) := by
  refine ⟨bind_ok, ?_⟩
  rintro ⟨a, middle, hx, hf⟩
  exact (bind_eq hx).trans hf

/-- Writes texts into a directory, one after the other. -/
def putTexts (directory : Pathname) :
    List (String × String) → ExceptT CoverageError (StateM World) Unit
  | [] => pure ()
  | (name, text) :: rest => do
    put directory name text
    putTexts directory rest

theorem putTexts_append (first second : List (String × String)) :
    putTexts directory (first ++ second) w = (.ok (), after) ↔
      ∃ middle, putTexts directory first w = (.ok (), middle) ∧
        putTexts directory second middle = (.ok (), after) := by
  induction first generalizing w with
  | nil =>
    constructor
    · intro h
      exact ⟨w, rfl, h⟩
    · rintro ⟨middle, hfirst, hsecond⟩
      cases hfirst
      exact hsecond
  | cons entry rest ih =>
    obtain ⟨name, text⟩ := entry
    simp only [List.cons_append, putTexts, bind_ok_iff, ih]
    constructor
    · rintro ⟨_, next, hput, middle, hrest, hsecond⟩
      exact ⟨middle, ⟨(), next, hput, hrest⟩, hsecond⟩
    · rintro ⟨middle, ⟨_, next, hput, hrest⟩, hsecond⟩
      exact ⟨(), next, hput, middle, hrest, hsecond⟩

/-- The pages are written just if their texts are. -/
theorem putFiles_iff {files : List (FileAccount × String × String)} :
    putFiles directory files w = (.ok (), after) ↔
      putTexts directory (texts directory files w) w = (.ok (), after) := by
  induction files generalizing w with
  | nil => rfl
  | cons entry rest ih =>
    obtain ⟨file, name, page⟩ := entry
    have hhead : texts directory ((file, name, page) :: rest) w
        = (page, Page.ofFile file name (w.readText file.path) w.clock.today)
          :: (texts directory ((file, name, page) :: rest) w).tail := by
      rw [texts, List.mapIdx_cons]
      rfl
    rw [hhead, putFiles, putTexts, bind_ok_iff, bind_ok_iff, putFile_eq]
    refine exists_congr fun _ => exists_congr fun next => and_congr_right fun hput => ?_
    rw [texts_cons ((putFile_eq directory file name page w).trans hput), List.tail_cons, ih]

theorem putTexts_singleton {name text : String} :
    putTexts directory [(name, text)] w = (.ok (), after) ↔
      put directory name text w = (.ok (), after) := by
  rw [putTexts, bind_ok_iff]
  constructor
  · rintro ⟨_, middle, hput, hdone⟩
    cases hdone
    exact hput
  · intro hput
    exact ⟨(), after, hput, rfl⟩

theorem write_of_steps {renewed middle last : World}
    (hrenew : renew directory w = (.ok (), renewed))
    (hpages : putFiles directory (listing m root) renewed = (.ok (), middle))
    (hindex : put directory "index.html" (Page.index m (rows m root) middle.clock.today) middle
      = (.ok (), last))
    (hnote : put directory ignoreFile "*\n" last = (.ok (), after)) :
    write m root directory w = (.ok m.totals.percent, after) := by
  unfold write
  refine bind_ok_iff.2 ⟨(), renewed, hrenew, ?_⟩
  refine bind_ok_iff.2 ⟨(), middle, hpages, ?_⟩
  refine bind_ok_iff.2 ⟨middle, middle, rfl, ?_⟩
  refine bind_ok_iff.2 ⟨(), last, hindex, ?_⟩
  exact bind_ok_iff.2 ⟨(), after, hnote, rfl⟩

theorem percent_of_write (h : write m root directory w = (.ok percent, after)) :
    percent = m.totals.percent := by
  obtain ⟨renewed, middle, last, hrenew, hpages, hindex, hnote⟩ := write_ok h
  rw [write_of_steps hrenew hpages hindex hnote] at h
  cases h
  rfl

/-- A report is written just if the directory can be made afresh and all its texts can be written,
    and then the percentage of everything is given back. -/
theorem write_ok_iff : write m root directory w = (.ok percent, after) ↔
    percent = m.totals.percent ∧ ∃ renewed, renew directory w = (.ok (), renewed) ∧
      putTexts directory (reportTexts m root directory renewed) renewed = (.ok (), after) := by
  constructor
  · intro h
    obtain ⟨renewed, middle, last, hrenew, hpages, hindex, hnote⟩ := write_ok h
    refine ⟨percent_of_write h, renewed, hrenew, ?_⟩
    rw [reportTexts, worldBefore_of_putFiles hpages, putTexts_append]
    refine ⟨last, ?_, putTexts_singleton.2 hnote⟩
    rw [putTexts_append]
    exact ⟨middle, putFiles_iff.1 hpages, putTexts_singleton.2 hindex⟩
  · rintro ⟨rfl, renewed, hrenew, htexts⟩
    rw [reportTexts, putTexts_append] at htexts
    obtain ⟨last, htexts, hnote⟩ := htexts
    rw [putTexts_append] at htexts
    obtain ⟨middle, hpages, hindex⟩ := htexts
    rw [← putFiles_iff] at hpages
    rw [worldBefore_of_putFiles hpages] at hindex
    exact write_of_steps hrenew hpages (putTexts_singleton.1 hindex) (putTexts_singleton.1 hnote)

theorem headings_texts (directory : Pathname) (files : List (FileAccount × String × String))
    (w : World) :
    (texts directory files w).map (fun entry => (entry.1, Page.headingOf entry.2))
      = files.map fun entry => (entry.2.2, some ("Coverage for " ++ Page.encode entry.2.1 ++ ": "
          ++ entry.1.totals.percentText)) := by
  refine List.ext_getElem? fun i => ?_
  rw [texts, List.getElem?_map, List.getElem?_mapIdx, Option.map_map, List.getElem?_map]
  simp only [Function.comp_def, Page.headingOf_ofFile]

/-- The files of a report and their headings. -/
theorem headings_reportTexts (m : Measurement) (root directory : Pathname) (renewed : World) :
    (reportTexts m root directory renewed).map (fun entry => (entry.1, Page.headingOf entry.2))
      = List.zipWith (fun file page => (page, some ("Coverage for "
            ++ Page.encode (displayName root file.path) ++ ": " ++ file.totals.percentText)))
          m.files (Page.names (m.files.map fun file => displayName root file.path))
        ++ [("index.html", some ("Coverage report: " ++ m.totals.percentText))]
        ++ [(".gitignore", none)] := by
  have hnote : Page.headingOf "*\n" = none := by decide
  rw [reportTexts, List.map_append, List.map_append, headings_texts, List.map_singleton,
    List.map_singleton, Page.headingOf_index, hnote]
  rw [map_listing fun file name page => (page, some ("Coverage for " ++ Page.encode name ++ ": "
    ++ file.totals.percentText))]
  rfl

end Pages

/-! ## Agreement -/

/-- The two reports on a measurement agree, in whatever directory they are made. A file has a line
    in the table and a row in the index, in the same order, with the same name, which is encoded in
    the index, and with the same figures, which are also in the heading of its page. The last line
    and the last row show the same of everything, and what they show of statements and of missing
    lines are the sums of the columns. Whoever has a report made gets the same percentage from
    both, which is one hundred if nothing was measured. -/
theorem reports_agree {m : Measurement} (hsound : ∀ file ∈ m.files, file.IsSound)
    (root : Pathname) :
    let width := Table.nameWidth (Table.rows root m)
    let statements := (m.files.map fun file => file.statements.size).sum
    let missing := (m.files.map fun file => file.missing.size).sum
    (m.files ≠ [] → Table.lines root m
      = [Table.line width "Name" "Stmts" "Miss" "Cover", Table.rule width]
        ++ m.files.map (fun file => Table.line width (displayName root file.path)
            (toString file.statements.size) (toString file.missing.size) file.totals.percentText)
        ++ [Table.rule width, Table.line width "TOTAL" (toString statements) (toString missing)
            m.totals.percentText]) ∧
    (∀ today, Page.tableOf (Page.index m (Pages.rows m root) today)
      = [["Module", "statements", "missing", "excluded", "coverage"]]
        ++ m.files.map (fun file => [Page.encode (displayName root file.path),
            toString file.statements.size, toString file.missing.size,
            toString file.excluded.size, file.totals.percentText])
        ++ [["Total", toString statements, toString missing, toString m.excluded,
            m.totals.percentText]]) ∧
    (∀ directory renewed,
      (Pages.reportTexts m root directory renewed).map
          (fun entry => (entry.1, Page.headingOf entry.2))
        = List.zipWith (fun file page => (page, some ("Coverage for "
              ++ Page.encode (displayName root file.path) ++ ": " ++ file.totals.percentText)))
            m.files (Page.names (m.files.map fun file => displayName root file.path))
          ++ [("index.html", some ("Coverage report: " ++ m.totals.percentText))]
          ++ [(".gitignore", none)]) ∧
    (∀ directory w percent after, Pages.write m root directory w = (.ok percent, after) ↔
      percent = m.totals.percent ∧ ∃ renewed, Pages.renew directory w = (.ok (), renewed) ∧
        Pages.putTexts directory (Pages.reportTexts m root directory renewed) renewed
          = (.ok (), after)) ∧
    (∀ {κ σ : Type} (session : Session κ) (w : World) (stream : Stream σ) (s : σ)
        (percent : Binary64), session.measurement = .ok m →
      ((session.report w stream s).1 = .ok percent ↔ percent = m.totals.percent ∧
        (stream.send ((Table.lines (Session.displayRoot w) m).map Piece.line) s).1 = .ok ())) ∧
    (m.files = [] → m.totals.percent = Totals.hundred) := by
  intro width statements missing
  refine ⟨fun hfiles => Table.lines_of_sound hsound hfiles root, Page.tableOf_of_sound hsound root,
    Pages.headings_reportTexts m root, fun _ _ _ _ => Pages.write_ok_iff, ?_, ?_⟩
  · intro κ σ session w stream s percent hm
    exact Session.report_ok_iff hm w stream s
  · intro hempty
    rw [Measurement.totals_eq, hempty]
    rfl

/-- Two files, one of them with a name that has to be encoded. -/
def twoFiles : Measurement where
  source := ["lib"]
  files :=
    [.ofHits ⟨⟨"/build/a<b>.cpp"⟩, .ofList [(1, 2), (2, 0), (3, 0)]⟩ none,
      .ofHits ⟨⟨"/src/c.cpp"⟩, .ofList [(7, 1), (8, 1), (9, 1)]⟩ (some 9)]

/-- Both reports on two files, with all that they show. -/
theorem reports_agree_two_files :
    Table.lines ⟨"/build"⟩ twoFiles
      = ["Name        Stmts   Miss  Cover",
        "-------------------------------",
        "a<b>.cpp        3      2    33%",
        "/src/c.cpp      2      0   100%",
        "-------------------------------",
        "TOTAL           5      2    60%"] ∧
      Page.tableOf (Page.index twoFiles (Pages.rows twoFiles ⟨"/build"⟩) "today")
      = [["Module", "statements", "missing", "excluded", "coverage"],
        ["a&lt;b&gt;.cpp", "3", "2", "0", "33%"],
        ["/src/c.cpp", "2", "0", "1", "100%"],
        ["Total", "5", "2", "1", "60%"]] := by
  have hsound : ∀ file ∈ twoFiles.files, file.IsSound := by
    intro file hfile
    simp only [twoFiles, List.mem_cons, List.not_mem_nil, or_false] at hfile
    rcases hfile with rfl | rfl <;> exact FileAccount.isSound_ofHits _ _
  obtain ⟨hlines, htable, -⟩ := reports_agree hsound ⟨"/build"⟩
  rw [hlines (by decide), htable]
  decide +kernel

end SuiteCoverage
