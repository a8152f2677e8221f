import SuiteCoverage.Llvm.Recorder
import SuiteCoverage.Proofs.Session.Rounds

/-!
# A session and its recorder

A session that is started and a recorder that records ought to be the same thing, seen from two
sides. They advance one after the other: the recorder first, and the session only if the recorder
has succeeded. The recorder begins to record as the last thing that it does, but it gives up its
directory as the first thing of finishing, before anything that can fail.

So the two are in step up to the first stop that fails, and never again after it. A session whose
stop has failed is still started; it cannot be started for that reason, and it cannot be stopped
either, in whatever world, because its recorder has nothing left to finish.
-/

set_option autoImplicit false

namespace SuiteCoverage

variable {κ σ : Type}

namespace Session

variable {collector : Collector κ} {session : Session κ}

/-! ## Stops that fail -/

/-- A turn would stop a session that is started, and fails. -/
def Falters (collector : Collector κ) (session : Session κ) (turn : Turn σ) : Prop :=
  turn.request = .stop ∧ session.stage = .started ∧
    ∃ e, (session.perform collector turn).1 = .error e

/-- Some turn of a history would have stopped a session that was started, and failed. -/
def HasFaltered (collector : Collector κ) (session : Session κ) (turns : List (Turn σ)) : Prop :=
  ∃ earlier turn later, turns = earlier ++ turn :: later ∧
    (session.after collector earlier).Falters collector turn

theorem not_hasFaltered_nil : ¬ session.HasFaltered collector ([] : List (Turn σ)) := by
  rintro ⟨earlier, turn, later, hturns, _⟩
  simp at hturns

theorem hasFaltered_concat {turns : List (Turn σ)} {turn : Turn σ} :
    session.HasFaltered collector (turns ++ [turn]) ↔
      session.HasFaltered collector turns ∨
        (session.after collector turns).Falters collector turn := by
  constructor
  · rintro ⟨earlier, first, later, hturns, hfalters⟩
    rcases concat_eq_append_cons hturns with ⟨rfl, rfl, -⟩ | ⟨between, -, hbefore⟩
    · exact .inr hfalters
    · exact .inl ⟨earlier, first, between, hbefore, hfalters⟩
  · rintro (⟨earlier, first, later, rfl, hfalters⟩ | hfalters)
    · exact ⟨earlier, first, later ++ [turn], by simp, hfalters⟩
    · exact ⟨turns, turn, [], rfl, hfalters⟩

end Session

namespace Llvm

open Session

variable {launch : Launcher} {session : Session Recording}

/-! ## What the recorder does -/

/-- A recorder that cannot begin is as it was. -/
theorem Recording.eq_of_begin_error {data : Pathname} {recording state : Recording} {w last : World}
    {e : CoverageError} (h : begin data recording w = (.error e, state, last)) :
    state = recording := by
  unfold begin at h
  rcases hrenew : renew (data.join ⟨Artifact.profiles⟩) w with ⟨result, next⟩
  simp only [hrenew] at h
  cases result with
  | error e =>
    cases h
    rfl
  | ok value => cases h

/-- A recorder that has begun has a directory. -/
theorem Recording.isSome_of_begin_ok {data : Pathname} {recording state : Recording}
    {w last : World} (h : begin data recording w = (.ok (), state, last)) :
    state.directory.isSome = true := by
  unfold begin at h
  rcases hrenew : renew (data.join ⟨Artifact.profiles⟩) w with ⟨result, next⟩
  simp only [hrenew] at h
  cases result with
  | error e => cases h
  | ok value =>
    cases h
    rfl

/-- A recorder that has been asked to finish has no directory, whatever came of it. -/
theorem Recording.directory_of_finish {objects : List Pathname} {recording state : Recording}
    {w last : World} {result : Except CoverageError (List FileHits)}
    (h : finish launch objects recording w = (result, state, last)) : state.directory = none := by
  unfold finish at h
  cases hdirectory : recording.directory with
  | none =>
    rw [hdirectory] at h
    cases h
    exact hdirectory
  | some directory =>
    rw [hdirectory] at h
    cases h
    rfl

/-- A recorder without a directory cannot finish. -/
theorem Recording.finish_of_none {objects : List Pathname} {recording : Recording} {w : World}
    (h : recording.directory = none) :
    finish launch objects recording w
      = (.error (.invalidState "started" "not started"), recording, w) := by
  rw [finish, h]

/-- The world in which counts are made: the variable has its former value again. -/
def Recording.restore (recording : Recording) (w : World) : World :=
  { w with env := w.env.put profileVariable recording.previous }

theorem Recording.finish_of_some {objects : List Pathname} {recording : Recording} {w : World}
    {directory : Pathname} (h : recording.directory = some directory) :
    (finish launch objects recording w).1
      = (counts launch directory objects (recording.restore w)).1 := by
  rw [finish, h]
  rfl

/-! ## The invariant -/

/-- How a session and its recorder stand to each other; `faltered` is whether a stop has failed. -/
structure Standing (faltered : Prop) (session : Session Recording) : Prop where
  recording : session.collector.directory.isSome = true → session.stage = .started
  started : session.stage = .started → (session.collector.directory.isSome = true ↔ ¬ faltered)
  faltered : faltered → session.stage = .started

/-- The invariant looks at the stage and at what the recorder keeps in mind. -/
theorem Standing.congr {faltered other : Prop} {session next : Session Recording}
    (h : Standing faltered session) (hfaltered : other ↔ faltered)
    (hstage : next.stage = session.stage) (hcollector : next.collector = session.collector) :
    Standing other next := by
  constructor
  · rw [hstage, hcollector]
    exact h.recording
  · rw [hstage, hcollector, hfaltered]
    exact h.started
  · rw [hstage, hfaltered]
    exact h.faltered

/-- One request keeps the standing, if the boundaries are there as soon as the session has been
    started. The requests that matter are a start and a stop. -/
theorem standing_next {faltered : Prop} (h : Standing faltered session)
    (hsettled : session.stage ≠ .configured →
      ∃ boundaries, session.settings.boundaries = .ok boundaries)
    (turn : Turn σ) :
    Standing (faltered ∨ session.Falters (recorder launch) turn)
      (session.next (recorder launch) turn) := by
  have hmove := moves (recorder launch) session turn
  unfold Falters
  generalize (session.perform (recorder launch) turn).1 = result at hmove
  generalize session.next (recorder launch) turn = next at hmove
  cases hmove with
  | refused e hstop =>
    refine h.congr ⟨?_, .inl⟩ rfl rfl
    rintro (hfaltered | ⟨hrequest, hstage, _⟩)
    · exact hfaltered
    · exact absurd hstage (hstop hrequest)
  | answered hstart hstop => exact h.congr (by simp) rfl rfl
  | optioned settings hrequest hstage hset => exact h.congr (by simp) rfl rfl
  | extended hrequest => exact h.congr (by simp) rfl rfl
  | unbegun hrequest hstage hboundaries hdirectory hbegin =>
    exact h.congr (by simp [hrequest]) rfl (Recording.eq_of_begin_error hbegin)
  | begun hrequest hstage hboundaries hdirectory hbegin =>
    have hsome := Recording.isSome_of_begin_ok hbegin
    -- A session that can be started has not faltered.
    have hnot : ¬ faltered := fun hfaltered => hstage (h.faltered hfaltered)
    constructor
    · exact fun _ => rfl
    · intro _
      simp [hsome, hnot]
    · exact fun _ => rfl
  | @unfinished e state last hrequest hstage hfinish =>
    have hnone : state.directory = none := Recording.directory_of_finish hfinish
    constructor
    · exact fun _ => hstage
    · intro _
      simp [hnone, hrequest, hstage]
    · exact fun _ => hstage
  | stranded hrequest hstage hfinish hboundaries =>
    obtain ⟨boundaries, hok⟩ := hsettled (by simp [hstage])
    rw [hok] at hboundaries
    cases hboundaries
  | @finished files boundaries state last hrequest hstage hfinish hboundaries =>
    have hfinish : Recording.finish launch session.objects session.collector turn.world
      = (.ok files, state, last) := hfinish
    have hnone : state.directory = none := Recording.directory_of_finish hfinish
    -- A recorder that could be finished had a directory.
    have hnot : ¬ faltered := by
      refine (h.started hstage).1 ?_
      cases hdirectory : session.collector.directory with
      | none =>
        rw [Recording.finish_of_none hdirectory] at hfinish
        cases hfinish
      | some directory => rfl
    constructor
    · intro hsome
      simp [halt, hnone] at hsome
    · exact fun hstopped => absurd hstopped (by simp [halt])
    · simp [hnot]

theorem standing_after (launch : Launcher) (settings : Settings) (turns : List (Turn σ)) :
    Standing ((ofSettings settings .idle).HasFaltered (recorder launch) turns)
      ((ofSettings settings .idle).after (recorder launch) turns) := by
  refine after_induction (motive := fun turns session =>
    Standing ((ofSettings settings .idle).HasFaltered (recorder launch) turns) session) ?_ ?_ turns
  · constructor
    · exact fun h => absurd h (by simp [ofSettings, Recording.idle])
    · exact fun h => absurd h (by simp [ofSettings])
    · exact fun h => absurd h not_hasFaltered_nil
  · intro turns turn h
    rw [hasFaltered_concat]
    -- That the boundaries are there once the session has been started is in the books.
    exact standing_next h (ledger_after (recorder launch) settings .idle turns).settled turn

/-! ## In step until a stop fails -/

/-- A session that is started and has a recorder with a directory is stopped if counts can be made
    of what is in the directory. -/
theorem stop_of_some {boundaries : List Boundary} {directory : Pathname}
    (hstage : session.stage = .started) (hboundaries : session.settings.boundaries = .ok boundaries)
    (hdirectory : session.collector.directory = some directory) (w : World) :
    (session.stop (recorder launch) w).1
      = (Recording.counts launch directory session.objects (session.collector.restore w)).1.map
          fun _ => () := by
  rw [← Recording.finish_of_some hdirectory]
  show (session.stop (recorder launch) w).1
    = ((recorder launch).finish session.objects session.collector w).1.map fun _ => ()
  rw [stop, expect, if_pos hstage]
  rcases (recorder launch).finish session.objects session.collector w with ⟨result, state, last⟩
  cases result with
  | error e => rfl
  | ok files =>
    simp only [halt, hboundaries]
    rfl

/-- A session that is started cannot be stopped if its recorder has no directory. -/
theorem stop_of_none (hstage : session.stage = .started)
    (hdirectory : session.collector.directory = none) (w : World) :
    (session.stop (recorder launch) w).1 = .error (.invalidState "started" "not started") := by
  have hfinish : (recorder launch).finish session.objects session.collector w
      = (.error (.invalidState "started" "not started"), session.collector, w) :=
    Recording.finish_of_none hdirectory
  rw [stop, expect, if_pos hstage]
  simp only [hfinish]

/-- A session and its recorder are in step as long as no stop has failed, and then a stop fails for
    no other reason than that no counts can be made. Once a stop has failed they are out of step,
    and the session can neither be stopped nor started any more, in whatever world. -/
theorem in_step_iff_not_faltered (launch : Launcher) (settings : Settings)
    (turns : List (Turn σ)) :
    let session := (ofSettings settings .idle).after (recorder launch) turns
    let faltered := (ofSettings settings .idle).HasFaltered (recorder launch) turns
    ((session.stage = .started ↔ session.collector.directory.isSome = true) ↔ ¬ faltered) ∧
    (¬ faltered → session.stage = .started → ∃ directory,
      session.collector.directory = some directory ∧
      ∀ w, (session.stop (recorder launch) w).1
        = (Recording.counts launch directory session.objects (session.collector.restore w)).1.map
            fun _ => ()) ∧
    (faltered → session.stage = .started ∧ session.collector.directory = none ∧
      ∀ w, (session.stop (recorder launch) w).1 = .error (.invalidState "started" "not started") ∧
        (session.start (recorder launch) w).1
          = .error (.invalidState "configured or stopped" "started")) := by
  intro session faltered
  have hstanding : Standing faltered session := standing_after launch settings turns
  have hledger := ledger_after (recorder launch) settings .idle turns
  refine ⟨⟨fun hstep hfaltered => ?_, fun hnot => ⟨fun hstage => ?_, hstanding.recording⟩⟩,
    fun hnot hstage => ?_, fun hfaltered => ?_⟩
  · have hstage := hstanding.faltered hfaltered
    exact (hstanding.started hstage).1 (hstep.1 hstage) hfaltered
  · exact (hstanding.started hstage).2 hnot
  · obtain ⟨directory, hdirectory⟩ :=
      Option.isSome_iff_exists.1 ((hstanding.started hstage).2 hnot)
    obtain ⟨boundaries, hboundaries⟩ := hledger.settled (by rw [hstage]; simp)
    exact ⟨directory, hdirectory, stop_of_some hstage hboundaries hdirectory⟩
  · have hstage := hstanding.faltered hfaltered
    have hnone : session.collector.directory = none := by
      rw [← Option.not_isSome_iff_eq_none]
      exact fun hsome => (hstanding.started hstage).1 hsome hfaltered
    refine ⟨hstage, hnone, fun w => ⟨stop_of_none hstage hnone w, ?_⟩⟩
    rw [start, if_pos hstage, misplaced, hstage]
    rfl

/-- A world with a profile where the recorder looks for profiles, and without any tools. -/
def profileWorld : World where
  disk := ⟨[("home", .directory (.new ⟨0o755⟩ 0)
    [(Artifact.profiles, .directory (.new ⟨0o755⟩ 0)
      [("a.profraw", .file .empty (.new ⟨0o644⟩ 0))])])]⟩
  cwd := .ofLocation ["home"]
  waiting := []
  started := 0
  env := []
  mask := World.usualMask
  clock := ⟨"", ""⟩
  now := 0

/-- Programs cannot be launched at all. -/
def noPrograms : Launcher := fun _ w => (.error .notFound, w)

/-- An object, a start, and a stop for which the tools are missing. -/
def missingToolsTurns : List (Turn Unit) :=
  [.addObjects [⟨"a.out"⟩], .start, .stop].map fun request => ⟨request, profileWorld⟩

/-- A session whose stop has failed for want of tools is started, its recorder does not record, and
    stopping it again does not so much as look for tools. -/
theorem started_and_idle_of_missing_tools :
    let session := (ofSettings (.ofSource []) .idle).after (recorder noPrograms) missingToolsTurns
    session.stage = .started ∧ session.collector.directory = none ∧
      (((ofSettings (.ofSource []) .idle).after (recorder noPrograms)
        (missingToolsTurns.take 2)).stop (recorder noPrograms) profileWorld).1
          = .error (.toolchain .notInstalled) ∧
      (session.stop (recorder noPrograms) profileWorld).1
        = .error (.invalidState "started" "not started") := by
  refine ⟨?_, ?_, ?_, ?_⟩ <;> decide +kernel

end Llvm
end SuiteCoverage
