import SuiteCoverage.Proofs.Session.Exactness
import SuiteCoverage.Proofs.Trace

/-!
# A trace in one piece or in several

Counts are added up in two places: within a trace, when it is read, and over the rounds of a
session. It does not matter which of the two does it. A trace may be cut between any two lines, as
long as each piece can be read by itself, its pieces may be put in another order, and a session that
gets them all at once measures the same as one that gets them round by round.

Only the spelling of a path may come out differently, since the spelling that comes first stays.
-/

set_option autoImplicit false

namespace SuiteCoverage

/-- Accounts of the same lines of the same file, in whatever spelling. -/
structure FileAccount.SameLines (account other : FileAccount) : Prop where
  path : account.path.same other.path = true
  statements : account.statements = other.statements
  executed : account.executed = other.executed
  excluded : account.excluded = other.excluded

/-- Measurements of the same modules, with accounts of the same lines, file by file. -/
structure Measurement.SameLines (m other : Measurement) : Prop where
  source : m.source = other.source
  files : List.Forall₂ FileAccount.SameLines m.files other.files

namespace Session

variable {κ κ' σ σ' : Type}

/-- Tables with the same counts are measured alike where the sources are alike. -/
theorem sameLines_measure {settings : Settings} {boundaries : List Boundary}
    (h : settings.boundaries = .ok boundaries) {v w : World} {files other : List FileHits}
    (hsame : HitTable.SameCounts files other)
    (hsources : ∀ file ∈ files, ∀ file' ∈ other, file.path.same file'.path = true →
      (v.readText file.path).toOption = (w.readText file'.path).toOption) :
    (measure settings boundaries v (.ofFiles files)).SameLines
      (measure settings boundaries w (.ofFiles other)) := by
  constructor
  case source => rw [source_measure, source_measure]
  case files =>
    rw [files_measure h, files_measure h, List.forall₂_map_left_iff, List.forall₂_map_right_iff]
    refine forall₂_imp_of_mem hsame.entries fun e he e' he' hee' => ?_
    obtain ⟨file, hfile, hpath⟩ := exists_file_of_mem_entries he
    obtain ⟨file', hfile', hpath'⟩ := exists_file_of_mem_entries he'
    -- Both paths lead to a source with the same text, so both files are cut off at the same line.
    have hcutoff : settings.cutoff? (v.readText e.1) = settings.cutoff? (w.readText e'.1) := by
      rw [← hpath, ← hpath'] at hee' ⊢
      exact Settings.cutoff?_congr (hsources file hfile file' hfile' hee'.1)
    rw [hcutoff]
    constructor
    case path => exact hee'.1
    all_goals simp only [FileAccount.ofHits, hee'.2]

/-- A course whose rounds bring what traces list, a trace in each round; `w` is the world after the
    last of them. -/
structure Course.Brings (course : Course κ σ) (texts : List String) (w : World) : Prop where
  stopped : course.session.stage = .stopped
  listed : course.rounds.map (fun round => .ok round.files) = texts.map Trace.read
  world : course.rounds.getLast?.map (·.world) = some w

/-- The files that the rounds of such a course bring. -/
theorem Course.Brings.flatMap_files {course : Course κ σ} {texts : List String} {w : World}
    (h : course.Brings texts w) {files : String → List FileHits}
    (hread : ∀ text ∈ texts, Trace.read text = .ok (files text)) :
    course.rounds.flatMap (·.files) = texts.flatMap files := by
  have hlisted := h.listed
  rw [List.map_congr_left hread] at hlisted
  have hlists := congrArg (List.flatMap fun result => result.toOption.getD []) hlisted
  rw [List.flatMap_map, List.flatMap_map] at hlists
  exact hlists

/-- Traces of whole lines that can be read one by one can be read one behind the other, in any
    order. A session that gets all of them in one round and a session that gets one in each of its
    rounds measure the same, if their settings are the same and the sources of the files in scope
    are after the last round of the one what they are after the last round of the other. -/
theorem measurement_of_joined_traces {texts shuffled : List String}
    (hwhole : ∀ text ∈ texts, Trace.IsWhole text)
    (hread : ∀ text ∈ texts, ∃ files, Trace.read text = .ok files)
    (hperm : shuffled.Perm texts) :
    (∃ files, Trace.read (String.join shuffled) = .ok files) ∧
      ∀ {κ κ' σ σ' : Type} (one : Course κ σ) (many : Course κ' σ') (v w : World),
        one.Brings [String.join shuffled] v → many.Brings texts w →
        many.session.settings = one.session.settings →
        (∀ file ∈ one.inScope, ∀ file' ∈ many.inScope, file.path.same file'.path = true →
          (v.readText file.path).toOption = (w.readText file'.path).toOption) →
        ∃ m m', one.session.measurement = .ok m ∧ many.session.measurement = .ok m' ∧
          m.SameLines m' := by
  let filesOf (text : String) : List FileHits := (Trace.read text).toOption.getD []
  have hfiles : ∀ text ∈ texts, Trace.read text = .ok (filesOf text) := by
    intro text htext
    obtain ⟨files, hok⟩ := hread text htext
    simp only [filesOf, hok]
    rfl
  obtain ⟨files, hjoined, hsame⟩ := Trace.read_join
    (fun text htext => hwhole text (hperm.mem_iff.1 htext))
    (fun text htext => hfiles text (hperm.mem_iff.1 htext))
  refine ⟨⟨files, hjoined⟩, ?_⟩
  intro κ κ' σ σ' one many v w hone hmany hsettings hsources
  have hwhole : one.rounds.flatMap (·.files) = files := by
    have hfirst : ∀ text ∈ [String.join shuffled], Trace.read text = .ok files := by
      simpa using hjoined
    rw [hone.flatMap_files hfirst, List.flatMap_singleton]
  -- What is in scope is the same for both, and it has the same counts.
  have hscope : HitTable.SameCounts one.inScope many.inScope := by
    rw [Course.inScope, Course.inScope, collected, collected, hsettings, hwhole,
      hmany.flatMap_files hfiles]
    exact (hsame.trans (.ofPerm (hperm.flatMap_right filesOf))).filter
      fun p q hpq => Scope.covers_congr hpq _
  obtain ⟨boundaries, hboundaries, hm⟩ := Course.measurement_eq hone.stopped hone.world
  obtain ⟨boundaries', hboundaries', hm'⟩ := Course.measurement_eq hmany.stopped hmany.world
  rw [hsettings, hboundaries] at hboundaries'
  cases hboundaries'
  refine ⟨_, _, hm, hm', ?_⟩
  rw [hsettings]
  exact sameLines_measure hboundaries hscope hsources

/-! ## Three traces

A trace that leaves its file open, one that spells the same path otherwise, and one that closes a
file before it has opened any.
-/

/-- Three traces of whole lines, each of which can be read by itself. -/
def threeTraces : List String :=
  ["SF:lib/a.c\nDA:1,0\nDA:2,1\n", "end_of_record\n",
    "SF:lib//a.c\nDA:1,2\r\nDA:4,1,x\nend_of_record\nSF:other.c\nDA:1,1\n"]

/-- What a collector that reads traces gives. -/
def traceScript (texts : List String) : List (Except CoverageError (List FileHits)) :=
  texts.map fun text => (Trace.read text).mapError fun flaw => .data (.trace flaw)

theorem traceScript_eq (texts : List String) :
    traceScript texts = (texts.map Trace.read).map fun result =>
      result.mapError fun flaw => .data (.trace flaw) := by
  rw [traceScript, List.map_map]
  rfl

/-- What the three traces say, each for itself. -/
theorem read_threeTraces : threeTraces.map Trace.read
    = [.ok [⟨⟨"lib/a.c"⟩, LineCounts.ofList [(1, 0), (2, 1)]⟩], .ok [],
        .ok [⟨⟨"lib//a.c"⟩, LineCounts.ofList [(1, 2), (4, 1)]⟩,
          ⟨⟨"other.c"⟩, LineCounts.ofList [(1, 1)]⟩]] := by
  decide +kernel

/-- What they say one behind the other, the last one first. -/
theorem read_join_threeTraces : [String.join threeTraces.reverse].map Trace.read
    = [.ok [⟨⟨"lib//a.c"⟩, LineCounts.ofList [(1, 2), (2, 1), (4, 1)]⟩,
        ⟨⟨"other.c"⟩, LineCounts.ofList [(1, 1)]⟩]] := by
  rw [List.map_singleton, Trace.read, String.toList_join]
  decide +kernel

theorem measurement_of_joined_three :
    (∀ text ∈ threeTraces, Trace.IsWhole text) ∧
      (∀ text ∈ threeTraces, ∃ files, Trace.read text = .ok files) ∧
      threeTraces.reverse.Perm threeTraces ∧
      (scriptedCourse (traceScript [String.join threeTraces.reverse])).Brings
        [String.join threeTraces.reverse] sourceWorld ∧
      (scriptedCourse (traceScript threeTraces)).Brings threeTraces sourceWorld ∧
      ∃ m m',
        (scriptedCourse (traceScript [String.join threeTraces.reverse])).session.measurement
          = .ok m ∧
        (scriptedCourse (traceScript threeTraces)).session.measurement = .ok m' ∧
        m.SameLines m' := by
  have hwhole : ∀ text ∈ threeTraces, Trace.IsWhole text := by
    intro text htext
    right
    revert text
    decide +kernel
  have hread : ∀ text ∈ threeTraces, ∃ files, Trace.read text = .ok files := by
    have hresults : ∀ result ∈ threeTraces.map Trace.read, ∃ files, result = .ok files := by
      rw [read_threeTraces]
      simp
    exact fun text htext => hresults _ (List.mem_map_of_mem htext)
  have hperm : threeTraces.reverse.Perm threeTraces := List.reverse_perm threeTraces
  have hone : (scriptedCourse (traceScript [String.join threeTraces.reverse])).Brings
      [String.join threeTraces.reverse] sourceWorld := by
    rw [traceScript_eq, read_join_threeTraces]
    exact ⟨by decide +kernel, by rw [read_join_threeTraces]; decide +kernel, rfl⟩
  have hmany : (scriptedCourse (traceScript threeTraces)).Brings threeTraces sourceWorld := by
    rw [traceScript_eq, read_threeTraces]
    exact ⟨by decide +kernel, by rw [read_threeTraces]; decide +kernel, rfl⟩
  refine ⟨hwhole, hread, hperm, hone, hmany, (measurement_of_joined_traces hwhole hread hperm).2
    _ _ _ _ hone hmany ?_ ?_⟩
  all_goals
    rw [traceScript_eq, traceScript_eq, read_join_threeTraces, read_threeTraces]
    decide +kernel

end Session
end SuiteCoverage
