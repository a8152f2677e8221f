import SuiteCoverage.Proofs.Trace

/-!
# What a trace says

A trace is told here by the positions of its lines. Which file is open at a position is told by the
lines before it (`IsOpen`), what a line at a position counts by that file and by its fields
(`CountsAt`), and a trace is unreadable if at some position a line would count and cannot
(`IsFlawedAt`). Reading a trace gives the files that are named in it, and for every line of a file
the sum of what the positions count for it, and it fails at flaws alone.

The invariant of reading is `Told`: what has been added so far, and which file is open, in terms of
the lines that have been read. One more line is one case for every kind of line.
-/

set_option autoImplicit false

namespace SuiteCoverage
namespace Trace

/-! ## Lines and positions -/

/-- The lines of a trace as they are read, without the blanks at their ends. -/
def trimmedLines (content : String) : List (List Char) :=
  (Text.lines content.toList).map Text.trim

/-- A file is open behind lines: one of them opens it, and none after that opens another or closes
    it. -/
def IsOpen (lines : List (List Char)) (path : Pathname) : Prop :=
  ∃ earlier line later, lines = earlier ++ line :: later ∧ Opens path line ∧ closing ∉ later ∧
    ∀ l ∈ later, ∀ p, ¬ Opens p l

/-- The line at a position counts a line of a file: the file is open there, in some spelling. -/
def CountsAt (lines : List (List Char)) (path : Pathname) (n : LineNumber) (i count : Nat) : Prop :=
  ∃ line fields opened, lines[i]? = some line ∧ Counts fields line ∧
    IsOpen (lines.take i) opened ∧ opened.same path = true ∧ Gives fields n count

/-- The line at a position would count, but no file is open there or its fields cannot be read. -/
def IsFlawedAt (lines : List (List Char)) (i : Nat) : Prop :=
  ∃ line fields, lines[i]? = some line ∧ Counts fields line ∧
    ((∀ path, ¬ IsOpen (lines.take i) path) ∨ Unreadable fields)

/-- A path is spelled as in the first of the lines that name it. -/
def IsFirstNamed (lines : List (List Char)) (path : Pathname) : Prop :=
  ∃ earlier line later, lines = earlier ++ line :: later ∧ Opens path line ∧
    ∀ l ∈ earlier, ∀ p, Opens p l → ¬ p.same path = true

variable {lines : List (List Char)} {line : List Char}

theorem isOpen_concat {path : Pathname} :
    IsOpen (lines ++ [line]) path ↔
      Opens path line ∨ (IsOpen lines path ∧ line ≠ closing ∧ ∀ p, ¬ Opens p line) := by
  constructor
  · rintro ⟨earlier, first, later, hlines, hopens, hclosing, hothers⟩
    rcases later.eq_nil_or_concat with rfl | ⟨init, last, rfl⟩
    · obtain ⟨rfl, hlast⟩ := List.append_inj' hlines rfl
      rw [List.cons.injEq] at hlast
      exact .inl (hlast.1 ▸ hopens)
    · rw [List.concat_eq_append, ← List.cons_append, ← List.append_assoc] at hlines
      obtain ⟨rfl, hlast⟩ := List.append_inj' hlines rfl
      rw [List.cons.injEq] at hlast
      rw [List.concat_eq_append] at hclosing hothers
      refine .inr ⟨⟨earlier, first, init, rfl, hopens, fun h => hclosing (by simp [h]),
        fun l hl => hothers l (by simp [hl])⟩, ?_, ?_⟩
      · rintro rfl
        exact hclosing (by simp [hlast.1])
      · exact hothers line (by simp [hlast.1])
  · rintro (hopens | ⟨⟨earlier, first, later, rfl, hopens, hclosing, hothers⟩, hne, hnone⟩)
    · exact ⟨lines, line, [], rfl, hopens, by simp, by simp⟩
    · refine ⟨earlier, first, later ++ [line], by simp, hopens, ?_, ?_⟩
      · simpa [hclosing] using hne.symm
      · intro l hl
        rcases List.mem_append.1 hl with hl | hl
        · exact hothers l hl
        · rw [List.mem_singleton.1 hl]
          exact hnone

theorem countsAt_concat {path : Pathname} {n : LineNumber} {i count : Nat} :
    CountsAt (lines ++ [line]) path n i count ↔
      CountsAt lines path n i count ∨
        (i = lines.length ∧ ∃ fields opened, Counts fields line ∧ IsOpen lines opened ∧
          opened.same path = true ∧ Gives fields n count) := by
  unfold CountsAt
  rcases Nat.lt_trichotomy i lines.length with hlt | rfl | hgt
  · rw [List.getElem?_append_left hlt, List.take_append_of_le_length (Nat.le_of_lt hlt)]
    simp [Nat.ne_of_lt hlt]
  · simp
  · have hnone : (lines ++ [line])[i]? = none := by simp; omega
    have hnone' : lines[i]? = none := by simp; omega
    simp [hnone, hnone', Nat.ne_of_gt hgt]

/-! ## What reading has told so far -/

/-- What has been added, and the file that is open, are what the lines so far tell. -/
structure Told (lines : List (List Char)) (files : List FileHits) (last : Option Pathname) :
    Prop where
  opened : ∀ path, last = some path ↔ IsOpen lines path
  named : ∀ path, (∃ file ∈ files, file.path.same path = true) ↔
    ∃ line ∈ lines, ∃ p, Opens p line ∧ p.same path = true
  spelled : ∀ path file, files.find? (fun file => file.path.same path) = some file →
    IsFirstNamed lines file.path
  counted : ∀ path n, ∃ found : List (Nat × Nat), found.Pairwise (fun a b => a.1 < b.1) ∧
    (∀ i count, (i, count) ∈ found ↔ CountsAt lines path n i count) ∧
    HitTable.countsAt files path n = found.map (·.2)

theorem told_nil : Told [] [] none where
  opened path := by simp [IsOpen]
  named path := by simp
  spelled path file h := by simp at h
  counted path n := ⟨[], .nil, by simp [CountsAt], rfl⟩

theorem IsFirstNamed.concat {path : Pathname} (h : IsFirstNamed lines path) (line : List Char) :
    IsFirstNamed (lines ++ [line]) path := by
  obtain ⟨earlier, first, later, rfl, hopens, hothers⟩ := h
  exact ⟨earlier, first, later ++ [line], by simp, hopens, hothers⟩

/-- The file that is open has been named. -/
theorem IsOpen.named {path : Pathname} (h : IsOpen lines path) :
    ∃ line ∈ lines, ∃ p, Opens p line ∧ p.same path = true := by
  obtain ⟨earlier, line, later, rfl, hopens, -⟩ := h
  exact ⟨line, by simp, path, hopens, Pathname.same_iff.2 rfl⟩

variable {files : List FileHits} {last : Option Pathname}

/-- A line that counts nothing, and a file that is added without counts or none. -/
theorem Told.counted_of_not_counts (h : Told lines files last) (added : List FileHits)
    (hline : ∀ fields, ¬ Counts fields line) (hadded : ∀ path n, HitTable.countsAt added path n = [])
    (path : Pathname) (n : LineNumber) :
    ∃ found : List (Nat × Nat), found.Pairwise (fun a b => a.1 < b.1) ∧
      (∀ i count, (i, count) ∈ found ↔ CountsAt (lines ++ [line]) path n i count) ∧
      HitTable.countsAt (files ++ added) path n = found.map (·.2) := by
  obtain ⟨found, hascending, hfound, hcounts⟩ := h.counted path n
  refine ⟨found, hascending, fun i count => ?_, ?_⟩
  · rw [countsAt_concat, hfound]
    simp [hline]
  · rw [HitTable.countsAt_append, hcounts, hadded, List.append_nil]

/-- A line that opens no file, and a file that is added because it is open or none. -/
theorem Told.named_of_not_opens (h : Told lines files last) (added : List FileHits)
    (hline : ∀ p, ¬ Opens p line) (hadded : ∀ file ∈ added, IsOpen lines file.path) :
    (∀ path, (∃ file ∈ files ++ added, file.path.same path = true) ↔
      ∃ l ∈ lines ++ [line], ∃ p, Opens p l ∧ p.same path = true) ∧
    ∀ path file, (files ++ added).find? (fun file => file.path.same path) = some file →
      IsFirstNamed (lines ++ [line]) file.path := by
  have hknown {path : Pathname} {file : FileHits} (hfile : file ∈ added)
      (hsame : file.path.same path = true) : ∃ file ∈ files, file.path.same path = true := by
    obtain ⟨l, hl, p, hp, hpsame⟩ := (hadded file hfile).named
    exact (h.named path).2 ⟨l, hl, p, hp, Pathname.same_trans hpsame hsame⟩
  constructor
  · intro path
    simp only [List.mem_append, List.mem_singleton, or_and_right, exists_or, h.named path,
      exists_eq_left, hline, false_and, exists_false, or_false, or_iff_left_iff_imp]
    rintro ⟨file, hfile, hsame⟩
    exact (h.named path).1 (hknown hfile hsame)
  · intro path file hfind
    rw [List.find?_append] at hfind
    cases hearlier : files.find? fun file => file.path.same path with
    | some first =>
      rw [hearlier, Option.some_or, Option.some.injEq] at hfind
      exact hfind ▸ (h.spelled path first hearlier).concat line
    | none =>
      -- What is open is known, so it would have been found among the files before.
      rw [hearlier, Option.none_or] at hfind
      have hsame : file.path.same path = true := by simpa using List.find?_some hfind
      obtain ⟨other, hother, hothersame⟩ := hknown (List.mem_of_find?_eq_some hfind) hsame
      exact absurd hothersame (List.find?_eq_none.1 hearlier other hother)

theorem Told.opening {path : Pathname} (h : Told lines files last) (hline : Opens path line) :
    Told (lines ++ [line]) (files ++ [⟨path, OrderedMap.empty⟩]) (some path) where
  opened p := by
    rw [isOpen_concat, Option.some_inj]
    constructor
    · rintro rfl
      exact .inl hline
    · rintro (hp | ⟨-, -, hnone⟩)
      · exact hline.inj hp
      · exact absurd hline (hnone path)
  named p := by
    have hsame : (∃ q, Opens q line ∧ q.same p = true) ↔ path.same p = true :=
      ⟨fun ⟨q, hq, hqp⟩ => hq.inj hline ▸ hqp, fun hp => ⟨path, hline, hp⟩⟩
    simp only [List.mem_append, List.mem_singleton, or_and_right, exists_or, exists_eq_left,
      h.named p, hsame]
  spelled p file hfind := by
    rw [List.find?_append] at hfind
    cases hearlier : files.find? fun file => file.path.same p with
    | some first =>
      rw [hearlier, Option.some_or, Option.some.injEq] at hfind
      exact hfind ▸ (h.spelled p first hearlier).concat line
    | none =>
      rw [hearlier, Option.none_or] at hfind
      have hfile := List.mem_singleton.1 (List.mem_of_find?_eq_some hfind)
      have hsame : path.same p = true := by simpa [hfile] using List.find?_some hfind
      subst hfile
      refine ⟨lines, line, [], rfl, hline, fun l hl q hq hqsame => ?_⟩
      obtain ⟨other, hother, hothersame⟩ := (h.named path).2 ⟨l, hl, q, hq, hqsame⟩
      exact absurd (Pathname.same_trans hothersame hsame) (List.find?_eq_none.1 hearlier other hother)
  counted :=
    h.counted_of_not_counts _ (fun _ => not_counts_of_opens hline) (HitTable.countsAt_bare path)

theorem Told.closing (h : Told lines files last) : Told (lines ++ [closing]) files none where
  opened p := by
    have hopens : ¬ Opens p Trace.closing := fun hp => ne_closing_of_opens hp rfl
    rw [isOpen_concat]
    simp [hopens]
  named := by
    simpa using (h.named_of_not_opens [] (fun _ hp => ne_closing_of_opens hp rfl)
      (by simp)).1
  spelled := by
    simpa using (h.named_of_not_opens [] (fun _ hp => ne_closing_of_opens hp rfl)
      (by simp)).2
  counted := by
    simpa using h.counted_of_not_counts [] (fun _ hc => ne_closing_of_counts hc rfl)
      fun _ _ => rfl

theorem Told.passing (h : Told lines files last) (hopens : ∀ p, ¬ Opens p line)
    (hcounts : ∀ fields, ¬ Counts fields line) (hclosing : line ≠ Trace.closing) :
    Told (lines ++ [line]) files last where
  opened p := by
    rw [isOpen_concat, h.opened]
    simp [hopens, hclosing]
  named := by simpa using (h.named_of_not_opens [] hopens (by simp)).1
  spelled := by simpa using (h.named_of_not_opens [] hopens (by simp)).2
  counted := by simpa using h.counted_of_not_counts [] hcounts fun _ _ => rfl

theorem lt_length_of_countsAt {path : Pathname} {n : LineNumber} {i count : Nat}
    (h : CountsAt lines path n i count) : i < lines.length := by
  obtain ⟨line, fields, opened, hline, -⟩ := h
  exact (List.getElem?_eq_some_iff.1 hline).1

theorem Told.counting {path : Pathname} {fields : List Char} {n : LineNumber} {count : Nat}
    (h : Told lines files (some path)) (hline : Counts fields line) (hfields : Gives fields n count) :
    Told (lines ++ [line]) (files ++ [⟨path, LineCounts.add n count OrderedMap.empty⟩])
      (some path) := by
  have hopen : IsOpen lines path := (h.opened path).1 rfl
  have hopens (p : Pathname) : ¬ Opens p line := fun hp => not_counts_of_opens hp hline
  have hnamed := h.named_of_not_opens [⟨path, LineCounts.add n count OrderedMap.empty⟩] hopens
    (fun file hfile => by rw [List.mem_singleton.1 hfile]; exact hopen)
  refine ⟨fun p => ?_, hnamed.1, hnamed.2, fun p k => ?_⟩
  · rw [isOpen_concat, h.opened]
    simp [hopens, ne_closing_of_counts hline]
  obtain ⟨found, hascending, hfound, hcounts⟩ := h.counted p k
  have hat (i other : Nat) : CountsAt (lines ++ [line]) p k i other ↔
      (i, other) ∈ found ∨
        (i = lines.length ∧ (path.same p = true ∧ k = n) ∧ other = count) := by
    rw [countsAt_concat, hfound]
    refine or_congr_right (and_congr_right fun _ => ?_)
    constructor
    · rintro ⟨fields', opened, hline', hopened, hsame, hgives⟩
      cases List.append_cancel_left (hline'.symm.trans hline)
      cases (h.opened opened).2 hopened
      obtain ⟨rfl, rfl⟩ := hgives.unique hfields
      exact ⟨⟨hsame, rfl⟩, rfl⟩
    · rintro ⟨⟨hsame, rfl⟩, rfl⟩
      exact ⟨fields, path, hline, hopen, hsame, hfields⟩
  rw [HitTable.countsAt_append, hcounts, HitTable.countsAt_single]
  by_cases hhere : path.same p = true ∧ k = n
  · refine ⟨found ++ [(lines.length, count)], ?_, fun i other => ?_, by simp [hhere]⟩
    · refine List.pairwise_append.2 ⟨hascending, List.pairwise_singleton _ _, ?_⟩
      rintro ⟨i, other⟩ he e he'
      rw [List.mem_singleton.1 he']
      exact lt_length_of_countsAt ((hfound i other).1 he)
    · rw [hat]
      simp [hhere]
  · refine ⟨found, hascending, fun i other => ?_, by simp [hhere]⟩
    rw [hat]
    simp [hhere]

/-! ## Whole traces -/

/-- What lines add is told by them. -/
theorem told_of_adds {lines : List (List Char)} (h : Adds none lines files last) :
    Told (lines.map Text.trim) files last := by
  induction lines using List.reverseRecOn generalizing files last with
  | nil =>
    cases h
    exact told_nil
  | append_singleton lines line ih =>
    obtain ⟨first, middle, second, hfirst, hsecond, rfl⟩ := h.split
    have htold := ih hfirst
    rw [List.map_append, List.map_singleton]
    rcases ofLine_cases (Text.trim line) with
      ⟨path, hopens, hkind⟩ | ⟨fields, hcounts, hkind⟩ | ⟨hclose, hkind⟩ | ⟨hopens, hcounts, hclose, hkind⟩
    · cases hsecond with
      | opening hline hrest =>
        cases hrest
        cases hkind.symm.trans hline
        exact htold.opening hopens
      | counting hline | closing hline | passing hline => cases hkind.symm.trans hline
    · cases hsecond with
      | counting hline hfields hrest =>
        cases hrest
        cases hkind.symm.trans hline
        exact htold.counting hcounts (readCount_eq_ok_iff.1 hfields)
      | opening hline | closing hline | passing hline => cases hkind.symm.trans hline
    · cases hsecond with
      | closing hline hrest =>
        cases hrest
        rw [List.append_nil, hclose]
        exact htold.closing
      | opening hline | counting hline | passing hline => cases hkind.symm.trans hline
    · cases hsecond with
      | passing hline hrest =>
        cases hrest
        rw [List.append_nil]
        exact htold.passing hopens hcounts hclose
      | opening hline | counting hline | closing hline => cases hkind.symm.trans hline

/-- Lines fail to be read at one of them, which says something and is refused. -/
theorem exists_of_run_error {state : Reading} {lines : List (List Char)} {flaw : Flaw}
    (h : state.run lines = .error flaw) :
    ∃ before line after next fault, lines = before ++ line :: after ∧
      state.run before = .ok next ∧ next.step (Text.trim line) = .error fault := by
  induction lines generalizing state with
  | nil => cases h
  | cons line rest ih =>
    rw [Reading.run] at h
    cases hstep : state.step (Text.trim line) with
    | error fault => exact ⟨[], line, rest, state, fault, rfl, rfl, hstep⟩
    | ok next =>
      simp only [hstep] at h
      obtain ⟨before, refused, after, reached, fault, rfl, hrun, hrefused⟩ := ih h
      refine ⟨line :: before, refused, after, reached, fault, rfl, ?_, hrefused⟩
      rw [Reading.run]
      simpa only [hstep] using hrun

/-- Only a line that would count is refused: no file is open, or its fields cannot be read. -/
theorem step_error {state : Reading} {line : List Char} {fault : RecordFault}
    (h : state.step line = .error fault) :
    ∃ fields, Counts fields line ∧ (state.current = none ∨ Unreadable fields) := by
  unfold Reading.step at h
  rcases ofLine_cases line with
    ⟨path, -, hkind⟩ | ⟨fields, hcounts, hkind⟩ | ⟨-, hkind⟩ | ⟨-, -, -, hkind⟩
  · rw [hkind] at h
    cases h
  · refine ⟨fields, hcounts, ?_⟩
    rw [hkind] at h
    cases hcurrent : state.current with
    | none => exact .inl rfl
    | some path =>
      simp only [hcurrent] at h
      cases hfields : readCount fields with
      | error fault => exact .inr (readCount_error_iff.1 ⟨fault, hfields⟩)
      | ok entry =>
        simp only [hfields] at h
        cases h
  · rw [hkind] at h
    cases h
  · rw [hkind] at h
    cases h

/-- A trace that fails to be read has a flaw. -/
theorem exists_flaw_of_error {content : String} {flaw : Flaw} (h : read content = .error flaw) :
    ∃ i, IsFlawedAt (trimmedLines content) i := by
  cases hrun : Reading.start.run (Text.lines content.toList) with
  | ok final =>
    rw [read, hrun] at h
    cases h
  | error flaw =>
    obtain ⟨before, line, after, next, fault, hlines, hbefore, hstep⟩ := exists_of_run_error hrun
    obtain ⟨files, hadds⟩ := adds_of_run hbefore
    have htold := told_of_adds hadds
    obtain ⟨fields, hcounts, hflaw⟩ := step_error hstep
    refine ⟨before.length, Text.trim line, fields, ?_, hcounts, ?_⟩
    · simp [trimmedLines, hlines]
    · have htake : (trimmedLines content).take before.length = before.map Text.trim := by
        simp [trimmedLines, hlines]
      rw [htake]
      refine hflaw.imp_left fun hnone path hopen => ?_
      rw [← htold.opened, hnone] at hopen
      cases hopen

/-- A trace that is read has no flaw. -/
theorem not_isFlawedAt_of_adds {content : String} {files : List FileHits} {last : Option Pathname}
    (h : Adds none (Text.lines content.toList) files last) (i : Nat) :
    ¬ IsFlawedAt (trimmedLines content) i := by
  rintro ⟨line, fields, hline, hcounts, hflaw⟩
  obtain ⟨raw, hraw, rfl⟩ : ∃ raw, (Text.lines content.toList)[i]? = some raw ∧ Text.trim raw = line := by
    simpa [trimmedLines] using hline
  obtain ⟨hi, hget⟩ := List.getElem?_eq_some_iff.1 hraw
  have hsplit : Text.lines content.toList
      = (Text.lines content.toList).take i ++ raw :: (Text.lines content.toList).drop (i + 1) := by
    rw [← hget, List.getElem_cons_drop, List.take_append_drop]
  rw [hsplit] at h
  obtain ⟨first, middle, second, hfirst, hsecond, -⟩ := h.split
  have htold := told_of_adds hfirst
  rw [List.map_take] at htold
  have hkind := ofLine_of_counts hcounts
  cases hsecond with
  | counting hkind' hfields hrest =>
    cases hkind.symm.trans hkind'
    rcases hflaw with hnone | hunreadable
    · exact hnone _ ((htold.opened _).1 rfl)
    · exact (readCount_eq_ok_iff.1 hfields).not_unreadable hunreadable
  | opening hkind' | closing hkind' | passing hkind' => cases hkind.symm.trans hkind'

/-- What a trace lists if it lists neither more nor less than its lines say. -/
structure Accounts (lines : List (List Char)) (files : List FileHits) : Prop where
  ascending : files.Pairwise fun a b => Pathname.order a.path b.path = .lt
  /-- The files are those that some line names, whether anything is counted for them or not. -/
  named : ∀ path, (∃ file ∈ files, file.path.same path = true) ↔
    ∃ line ∈ lines, ∃ p, Opens p line ∧ p.same path = true
  spelled : ∀ file ∈ files, IsFirstNamed lines file.path
  /-- A line of a file is there if it is counted somewhere, and then with the sum of all that is
      counted for it. -/
  counted : ∀ file ∈ files, ∀ n, ∃ found : List (Nat × Nat),
    found.Pairwise (fun a b => a.1 < b.1) ∧
    (∀ i count, (i, count) ∈ found ↔ CountsAt lines file.path n i count) ∧
    OrderedMap.get? file.lines n
      = if found = [] then none else some (found.map (·.2)).sum

/-- What lines tell is what the table of it lists. -/
theorem Told.accounts (h : Told lines files last) :
    Accounts lines (HitTable.ofFiles files).files where
  ascending := List.pairwise_map.2 (HitTable.ofFiles files).ascending
  named path := by
    rw [← h.named path]
    exact (HitTable.sameCounts_files files).listed path
  spelled file hfile := by
    obtain ⟨e, he, rfl⟩ := List.mem_map.1 hfile
    have hfirst := (HitTable.held?_ofFiles_eq_some (OrderedMap.mem_entries_iff.1 he)).1
    obtain ⟨first, hfind, hpath⟩ := Option.map_eq_some_iff.1 hfirst
    exact hpath ▸ h.spelled e.1 first hfind
  counted file hfile n := by
    obtain ⟨e, he, rfl⟩ := List.mem_map.1 hfile
    obtain ⟨found, hascending, hfound, hcounts⟩ := h.counted e.1 n
    refine ⟨found, hascending, hfound, ?_⟩
    rw [(HitTable.held?_ofFiles_eq_some (OrderedMap.mem_entries_iff.1 he)).2 n, hcounts]
    simp

/-- A trace fails to be read exactly if it has a flaw: a line that would count where no file is
    open, or whose fields are too few, or are no number of a line and no count. Otherwise it lists
    the files that its lines name and, for every line, the sum of what is counted for it. -/
theorem read_accounts_for_lines (content : String) :
    ((∃ flaw, read content = .error flaw) ↔ ∃ i, IsFlawedAt (trimmedLines content) i) ∧
    ((¬ ∃ i, IsFlawedAt (trimmedLines content) i) →
      ∃ files, read content = .ok files ∧ Accounts (trimmedLines content) files) := by
  cases hread : read content with
  | error flaw =>
    have hflaw := exists_flaw_of_error hread
    exact ⟨⟨fun _ => hflaw, fun _ => ⟨flaw, rfl⟩⟩, fun hnone => absurd hflaw hnone⟩
  | ok files =>
    obtain ⟨added, last, hadds, rfl⟩ := read_eq_ok_iff.1 hread
    have hnone := not_isFlawedAt_of_adds hadds
    exact ⟨⟨nofun, fun ⟨i, hi⟩ => absurd hi (hnone i)⟩,
      fun _ => ⟨_, rfl, (told_of_adds hadds).accounts⟩⟩

/-- A file in two spellings is one file, under the first of them. -/
example : read "SF:/m/a.c\nDA:3,2\nend_of_record\nSF:/m/./a.c\nDA:3,1\n"
    = .ok [⟨⟨"/m/a.c"⟩, LineCounts.ofList [(3, 3)]⟩] := by
  decide +kernel

end Trace
end SuiteCoverage
