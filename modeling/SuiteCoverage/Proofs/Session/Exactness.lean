import SuiteCoverage.Proofs.Settings
import SuiteCoverage.Proofs.Hits
import SuiteCoverage.Proofs.Session.Rounds

/-!
# What a stopped session reports

The measurement of a stopped session, told by its history alone: which files the rounds that were
brought to an end have given counts for, which of those are in scope, where their sources stood in
the world of the last round. `Exact` says field by field what has to come out, and
`measurement_exact` that it does, after any history and with any collector.

The table of counts that a session keeps is a fold over the files of all rounds, in the scope of
settings that have not changed since the first of them (`Ledger.hits`); the rest is what is known
of such folds.
-/

set_option autoImplicit false

namespace SuiteCoverage

/-- A scope does not depend on how a path is spelled. -/
theorem Scope.covers_congr {p q : Pathname} (h : p.same q = true) (scope : Scope) :
    scope.covers p = scope.covers q := by
  have hcomponents := Pathname.same_iff.1 h
  unfold covers reaches Pathname.startsWith
  rw [hcomponents]

namespace Session

variable {κ σ : Type}

/-- The files in scope that rounds have given counts for, in the order in which they came. -/
def collected (settings : Settings) (rounds : List Round) : List FileHits :=
  (rounds.flatMap (·.files)).filter fun file =>
    (Scope.ofTexts settings.source).covers file.path

theorem mem_collected {settings : Settings} {rounds : List Round} {file : FileHits} :
    file ∈ collected settings rounds ↔
      (Scope.ofTexts settings.source).covers file.path = true ∧
        ∃ round ∈ rounds, file ∈ round.files := by
  rw [collected, List.mem_filter, List.mem_flatMap, and_comm]

theorem gatherAll_eq_ofFiles (settings : Settings) (rounds : List Round) :
    gatherAll (Scope.ofTexts settings.source) rounds
      = HitTable.ofFiles (collected settings rounds) := by
  unfold gatherAll gather HitTable.ofFiles collected
  rw [List.filter_flatMap, List.foldl_flatMap]

/-! ## The exact measurement -/

/-- The line that settings cut a file off at, or one after it. -/
def IsCutOff (settings : Settings) (w : World) (p : Pathname) (n : LineNumber) : Prop :=
  ∃ start, settings.cutoff? (w.readText p) = some start ∧ start ≤ n

/-- What a measurement says if it says neither more nor less than what happened: `rounds` were
    brought to an end, and `w` is the world after the last of them. -/
structure Exact (settings : Settings) (rounds : List Round) (w : World) (m : Measurement) :
    Prop where
  source : m.source = settings.source
  ascending : m.files.Pairwise fun a b => Pathname.order a.path b.path = .lt
  /-- A file is there if it is in scope and some round had it, with lines or without. -/
  listed : ∀ p, (∃ account ∈ m.files, account.path.same p = true) ↔
    (Scope.ofTexts settings.source).covers p = true ∧
      ∃ round ∈ rounds, ∃ file ∈ round.files, file.path.same p = true
  /-- A path is spelled as it was when it came first. -/
  spelled : ∀ account ∈ m.files,
    ((collected settings rounds).find? fun file => file.path.same account.path).map (·.path)
      = some account.path
  excluded : ∀ account ∈ m.files, ∀ n, n ∈ account.excluded ↔
    HitTable.countsAt (collected settings rounds) account.path n ≠ [] ∧
      IsCutOff settings w account.path n
  statements : ∀ account ∈ m.files, ∀ n, n ∈ account.statements ↔
    HitTable.countsAt (collected settings rounds) account.path n ≠ [] ∧
      ¬ IsCutOff settings w account.path n
  executed : ∀ account ∈ m.files, ∀ n, n ∈ account.executed ↔
    n ∈ account.statements ∧
      0 < (HitTable.countsAt (collected settings rounds) account.path n).sum

/-! ## Accounts -/

theorem beyond_iff {boundary : Option LineNumber} {n : LineNumber} :
    FileAccount.beyond boundary n = true ↔ ∃ start, boundary = some start ∧ start ≤ n := by
  cases boundary with
  | none => simp [FileAccount.beyond]
  | some start => simp [FileAccount.beyond]

/-- The lines of an entry that satisfy a condition, in terms of the counts that made the entry. -/
theorem mem_linesWhere_iff {files : List FileHits} {e : Pathname × LineCounts}
    (h : (HitTable.ofFiles files).held? e.1 = some e) {p : LineNumber × Nat → Bool}
    {n : LineNumber} :
    n ∈ e.2.linesWhere p ↔
      HitTable.countsAt files e.1 n ≠ [] ∧
        p (n, (HitTable.countsAt files e.1 n).sum) = true := by
  have hcount := (HitTable.held?_ofFiles_eq_some h).2 n
  rw [LineCounts.mem_linesWhere]
  simp only [← LineCounts.get?_eq_some_iff, hcount]
  cases hcounts : HitTable.countsAt files e.1 n with
  | nil => simp
  | cons count rest => simp

/-- The files of a measurement are accounts of the entries of the table. -/
theorem files_measure {settings : Settings} {boundaries : List Boundary}
    (h : settings.boundaries = .ok boundaries) (w : World) (hits : HitTable) :
    (measure settings boundaries w hits).files
      = hits.entries.map fun e =>
          FileAccount.ofHits ⟨e.1, e.2⟩ (settings.cutoff? (w.readText e.1)) := by
  unfold measure Measurement.ofFiles HitTable.files
  simp only [List.map_map, boundaryOf_eq_cutoff? h]
  -- Accounts of an ascending table are in order already.
  refine List.mergeSort_of_pairwise (List.pairwise_map.2 (hits.ascending.imp ?_))
  intro a b hlt
  show (Pathname.order a.1 b.1).isLE = true
  rw [hlt]
  rfl

/-- The path of an entry is the path of a file that was added, in its spelling. -/
theorem find?_of_mem_entries {files : List FileHits} {e : Pathname × LineCounts}
    (he : e ∈ (HitTable.ofFiles files).entries) :
    (HitTable.ofFiles files).held? e.1 = some e ∧
      (files.find? fun file => file.path.same e.1).map (·.path) = some e.1 := by
  have hentry := OrderedMap.mem_entries_iff.1 he
  exact ⟨hentry, (HitTable.held?_ofFiles_eq_some hentry).1⟩

/-- The table has an entry for every path that was added, whatever its spelling. -/
theorem exists_entry_same {files : List FileHits} {p : Pathname} {file : FileHits}
    (hfile : file ∈ files) (hsame : file.path.same p = true) :
    ∃ e ∈ (HitTable.ofFiles files).entries, e.1.same p = true := by
  have hsome := HitTable.isSome_held?_ofFiles.2 ⟨file, hfile, hsame⟩
  obtain ⟨e, he⟩ := Option.isSome_iff_exists.1 hsome
  have horder := List.find?_some he
  exact ⟨e, List.mem_of_find?_eq_some he,
    HitTable.order_eq_iff_same.1 (by simpa using horder)⟩

section Measured

variable {settings : Settings} {boundaries : List Boundary} {rounds : List Round} {w : World}

/-- What holds of the accounts of all entries holds of all accounts of a measurement. -/
theorem forall_files_measure (h : settings.boundaries = .ok boundaries)
    {motive : FileAccount → Prop}
    (hof : ∀ e ∈ (HitTable.ofFiles (collected settings rounds)).entries,
      motive (FileAccount.ofHits ⟨e.1, e.2⟩ (settings.cutoff? (w.readText e.1)))) :
    ∀ account ∈ (measure settings boundaries w
      (HitTable.ofFiles (collected settings rounds))).files, motive account := by
  intro account hmem
  rw [files_measure h] at hmem
  obtain ⟨e, he, rfl⟩ := List.mem_map.1 hmem
  exact hof e he

theorem listed_measure (h : settings.boundaries = .ok boundaries) (p : Pathname) :
    (∃ account ∈ (measure settings boundaries w
        (HitTable.ofFiles (collected settings rounds))).files, account.path.same p = true) ↔
      (Scope.ofTexts settings.source).covers p = true ∧
        ∃ round ∈ rounds, ∃ file ∈ round.files, file.path.same p = true := by
  constructor
  · rintro ⟨account, hmem, hsame⟩
    have hfound : ∃ file ∈ collected settings rounds, file.path = account.path := by
      refine forall_files_measure h
        (motive := fun account => ∃ file ∈ collected settings rounds, file.path = account.path)
        (fun e he => ?_) account hmem
      obtain ⟨file, hfind, hpath⟩ := Option.map_eq_some_iff.1 (find?_of_mem_entries he).2
      exact ⟨file, List.mem_of_find?_eq_some hfind, hpath⟩
    obtain ⟨file, hfile, hpath⟩ := hfound
    obtain ⟨hcovers, round, hround, hin⟩ := mem_collected.1 hfile
    rw [← hpath] at hsame
    rw [← Scope.covers_congr hsame]
    exact ⟨hcovers, round, hround, file, hin, hsame⟩
  · rintro ⟨hcovers, round, hround, file, hin, hsame⟩
    rw [← Scope.covers_congr hsame] at hcovers
    obtain ⟨e, he, hp⟩ := exists_entry_same (mem_collected.2 ⟨hcovers, round, hround, hin⟩) hsame
    refine ⟨FileAccount.ofHits ⟨e.1, e.2⟩ (settings.cutoff? (w.readText e.1)), ?_, hp⟩
    rw [files_measure h]
    exact List.mem_map.2 ⟨e, he, rfl⟩

/-- The measurement of the counts that rounds have given is exact. -/
theorem exact_measure (h : settings.boundaries = .ok boundaries) :
    Exact settings rounds w
      (measure settings boundaries w (gatherAll (Scope.ofTexts settings.source) rounds)) := by
  rw [gatherAll_eq_ofFiles]
  constructor
  case source => rfl
  case listed => exact listed_measure h
  case spelled => exact forall_files_measure h fun e he => (find?_of_mem_entries he).2
  case ascending =>
    rw [files_measure h]
    exact List.pairwise_map.2 (HitTable.ofFiles _).ascending
  case excluded =>
    refine forall_files_measure h fun e he n => ?_
    rw [IsCutOff, ← beyond_iff]
    exact mem_linesWhere_iff (find?_of_mem_entries he).1
  case statements =>
    refine forall_files_measure h fun e he n => ?_
    rw [IsCutOff, ← beyond_iff, Bool.not_eq_true, ← Bool.not_eq_true']
    exact mem_linesWhere_iff (find?_of_mem_entries he).1
  case executed =>
    refine forall_files_measure h fun e he n => ?_
    have hentry := (find?_of_mem_entries he).1
    show n ∈ e.2.linesWhere _ ↔ n ∈ e.2.linesWhere _ ∧ _
    rw [mem_linesWhere_iff hentry, mem_linesWhere_iff hentry, Bool.and_eq_true, decide_eq_true_iff,
      and_assoc]
    rfl

end Measured

/-- The measurement of a stopped session is exact, whatever has been asked of it before, in
    whatever order and with whatever success: it can be had, and it says of all rounds that were
    brought to an end what happened in them, with the sources as they were after the last. -/
theorem measurement_exact (collector : Collector κ) (settings : Settings) (state : κ)
    (turns : List (Turn σ))
    (hstage : ((ofSettings settings state).after collector turns).stage = .stopped) :
    ∃ earlier last measured,
      rounds collector (ofSettings settings state) turns = earlier ++ [last] ∧
      ((ofSettings settings state).after collector turns).measurement = .ok measured ∧
      Exact ((ofSettings settings state).after collector turns).settings (earlier ++ [last])
        last.world measured := by
  have hledger := ledger_after collector settings state turns
  obtain ⟨earlier, last, boundaries, hrounds, hboundaries, hmeasured⟩ := hledger.measured hstage
  refine ⟨earlier, last, _, hrounds, measurement_ok_iff.2 ⟨hstage, hmeasured⟩, ?_⟩
  rw [hledger.hits, hrounds]
  exact exact_measure hboundaries

/-! ## A session of two rounds

Two files in scope and one out of it, a path in two spellings, a stop that fails, and a source with
a marker on its third line.
-/

/-- A collector that gives what it was made with, piece by piece, every time it is finished. -/
def scripted : Collector (List (Except CoverageError (List FileHits))) where
  begin := fun _ script w => (.ok (), script, w)
  finish := fun _ script w =>
    match script with
    | [] => (.ok [], [], w)
    | result :: rest => (result, rest, w)

/-- What it gives here: a failure, and then the counts of two rounds. -/
def twoRounds : List (Except CoverageError (List FileHits)) :=
  [.error (.invalidState "started" "not started"),
    .ok [⟨⟨"lib/a.c"⟩, .ofList [(1, 0), (2, 1), (4, 7)]⟩, ⟨⟨"other/b.c"⟩, .ofList [(1, 1)]⟩],
    .ok [⟨⟨"lib//a.c"⟩, .ofList [(1, 2), (3, 0)]⟩, ⟨⟨"lib/empty.c"⟩, .ofList []⟩]]

/-- A world with the source of one of the files. -/
def sourceWorld : World where
  disk := ⟨[("lib", .directory (.new ⟨0o755⟩ 0)
    [("a.c", .file "one\ntwo\nfrom here\nfour\n".toUTF8 (.new ⟨0o644⟩ 0))])]⟩
  cwd := .ofLocation []
  waiting := []
  started := 0
  env := []
  mask := World.usualMask
  clock := ⟨"", ""⟩
  now := 0

/-- Both options, a start, a stop that fails, and two rounds that are brought to an end. -/
def twoRoundsTurns : List (Turn Unit) :=
  [.setOption "run:plugins" (.list ["exclude_until_coverage_plugin"]),
    .setOption "exclude_until_coverage_plugin:marker" (.text "from here"),
    .start, .stop, .stop, .measurement, .start, .addObjects [⟨"a.out"⟩], .stop].map
    fun request => ⟨request, sourceWorld⟩

theorem measurement_exact_two_rounds :
    ((ofSettings (.ofSource ["lib"]) twoRounds).after scripted twoRoundsTurns).stage = .stopped ∧
      ∃ earlier last measured,
        rounds scripted (ofSettings (.ofSource ["lib"]) twoRounds) twoRoundsTurns
          = earlier ++ [last] ∧
        ((ofSettings (.ofSource ["lib"]) twoRounds).after scripted twoRoundsTurns).measurement
          = .ok measured ∧
        Exact ((ofSettings (.ofSource ["lib"]) twoRounds).after scripted twoRoundsTurns).settings
          (earlier ++ [last]) last.world measured := by
  have hstage : ((ofSettings (.ofSource ["lib"]) twoRounds).after scripted twoRoundsTurns).stage
      = .stopped := by decide +kernel
  exact ⟨hstage, measurement_exact scripted (.ofSource ["lib"]) twoRounds twoRoundsTurns hstage⟩

end Session
end SuiteCoverage

/-!
## Sessions side by side

Two sessions are compared that need not have anything in common but their settings: their
collectors are different, and what has been asked of them is. A `Course` is a session together with
all of that. What a stopped session has measured depends on its course through three things only:
its settings, the counts of its rounds in scope, and the sources in the world of the last round
(`Course.measurement_eq`).
-/

namespace SuiteCoverage

/-- What a source is read for does not tell faults apart. -/
theorem Settings.cutoff?_congr {settings : Settings} {source other : Except Fault String}
    (h : source.toOption = other.toOption) : settings.cutoff? source = settings.cutoff? other := by
  cases source with
  | error fault =>
    cases other with
    | error fault' =>
      unfold Settings.cutoff?
      cases settings.plugins <;> cases settings.marker <;> rfl
    | ok text => cases h
  | ok text =>
    cases other with
    | error fault => cases h
    | ok text' =>
      cases h
      rfl

namespace Session

theorem source_measure (settings : Settings) (boundaries : List Boundary) (w : World)
    (hits : HitTable) : (measure settings boundaries w hits).source = settings.source := rfl

/-- An entry of a table has the path of a file that was added to it. -/
theorem exists_file_of_mem_entries {files : List FileHits} {e : Pathname × LineCounts}
    (h : e ∈ (HitTable.ofFiles files).entries) : ∃ file ∈ files, file.path = e.1 := by
  obtain ⟨file, hfile, hpath⟩ := Option.map_eq_some_iff.1 (find?_of_mem_entries h).2
  exact ⟨file, List.mem_of_find?_eq_some hfile, hpath⟩

/-- A session, told by what it was made with and what has been asked of it since. -/
structure Course (κ σ : Type) where
  collector : Collector κ
  settings : Settings
  state : κ
  turns : List (Turn σ)

namespace Course

variable {κ σ : Type}

/-- The session at the end of a course. -/
def session (course : Course κ σ) : Session κ :=
  (ofSettings course.settings course.state).after course.collector course.turns

/-- The rounds that are brought to an end in a course. -/
def rounds (course : Course κ σ) : List Round :=
  Session.rounds course.collector (ofSettings course.settings course.state) course.turns

/-- The files in scope that the rounds of a course have given counts for. -/
def inScope (course : Course κ σ) : List FileHits :=
  collected course.session.settings course.rounds

/-- The measurement of a stopped session is made of what its rounds have given counts for, with
    the sources as they were after the last of them. -/
theorem measurement_eq {course : Course κ σ} {w : World}
    (hstage : course.session.stage = .stopped)
    (hlast : course.rounds.getLast?.map (·.world) = some w) :
    ∃ boundaries, course.session.settings.boundaries = .ok boundaries ∧
      course.session.measurement = .ok (measure course.session.settings boundaries w
        (HitTable.ofFiles course.inScope)) := by
  have hledger : Ledger _ course.rounds course.session :=
    ledger_after course.collector course.settings course.state course.turns
  obtain ⟨earlier, last, boundaries, hrounds, hboundaries, hmeasured⟩ := hledger.measured hstage
  rw [hrounds, List.getLast?_concat] at hlast
  cases hlast
  refine ⟨boundaries, hboundaries, measurement_ok_iff.2 ⟨hstage, ?_⟩⟩
  rw [hmeasured, hledger.hits, gatherAll_eq_ofFiles, inScope]

end Course

/-- A session of the files in `lib` that is given both options, and then started and stopped once
    for every result of its collector. -/
def scriptedCourse (script : List (Except CoverageError (List FileHits))) :
    Course (List (Except CoverageError (List FileHits))) Unit where
  collector := scripted
  settings := .ofSource ["lib"]
  state := script
  turns := (.setOption "run:plugins" (.list ["exclude_until_coverage_plugin"]) ::
    .setOption "exclude_until_coverage_plugin:marker" (.text "from here") ::
    script.flatMap fun _ => [.start, .stop]).map fun request => ⟨request, sourceWorld⟩

end Session
end SuiteCoverage
