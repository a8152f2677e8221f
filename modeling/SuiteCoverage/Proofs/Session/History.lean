import Mathlib.Data.List.Induction
import SuiteCoverage.Session

/-!
# Histories of sessions

What can be asked of a session, one request after the other. A request is carried out in a world
of its own: between two requests tests run, files change and variables are set, so nothing ties
the world of a request to what the one before it left behind. A statement about all histories is
therefore one about all orders of requests *and* about all that the rest of the system may do in
between, and the collector is a parameter, so that it may fail and succeed as it likes.

`moves` says once what a request can do. Everything that a history keeps is derived from it, by
`after_induction`, and no proof about histories has to open `start` or `stop` again.
-/

set_option autoImplicit false

namespace SuiteCoverage

/-- Where an entry stands in a list with one more entry: it is the last, or stands before it. -/
theorem concat_eq_append_cons {α : Type} {l earlier later : List α} {last a : α}
    (h : l ++ [last] = earlier ++ a :: later) :
    (l = earlier ∧ last = a ∧ later = []) ∨
      ∃ between, later = between ++ [last] ∧ l = earlier ++ a :: between := by
  rcases later.eq_nil_or_concat with rfl | ⟨between, other, rfl⟩
  · obtain ⟨rfl, hlast⟩ := List.append_inj' h rfl
    exact .inl ⟨rfl, List.singleton_inj.1 hlast, rfl⟩
  · rw [List.concat_eq_append, ← List.cons_append, ← List.append_assoc] at h
    obtain ⟨rfl, hlast⟩ := List.append_inj' h rfl
    rw [List.singleton_inj] at hlast
    subst hlast
    exact .inr ⟨between, by simp, rfl⟩

namespace Session

variable {κ σ : Type}

/-- What can be asked of a session. -/
inductive Request (σ : Type) where
  | setOption (key : String) (value : OptionValue)
  | addObjects (objects : List Pathname)
  | start
  | stop
  | measurement
  | save
  | report (stream : Stream σ) (s : σ)
  | reportPages (directory : Pathname)

/-- A request, and the world in which it is carried out. -/
structure Turn (σ : Type) where
  request : Request σ
  world : World

/-- Carries out a request: whether it succeeds, and the session and the world that it leaves. -/
def perform (collector : Collector κ) (session : Session κ) (turn : Turn σ) :
    Except CoverageError Unit × Session κ × World :=
  match turn.request with
  | .setOption key value =>
    match session.setOption key value with
    | .ok next => (.ok (), next, turn.world)
    | .error e => (.error e, session, turn.world)
  | .addObjects objects => (.ok (), session.addObjects objects, turn.world)
  | .start => session.start collector turn.world
  | .stop => session.stop collector turn.world
  | .measurement => (session.measurement.map fun _ => (), session, turn.world)
  | .save =>
    match session.save turn.world with
    | .ok (_, next) => (.ok (), session, next)
    | .error e => (.error e, session, turn.world)
  | .report stream s =>
    ((session.report turn.world stream s).1.map fun _ => (), session, turn.world)
  | .reportPages directory =>
    let (result, next) := session.reportPages directory turn.world
    (result.map fun _ => (), session, next)

/-- The session that a request leaves. -/
def next (collector : Collector κ) (session : Session κ) (turn : Turn σ) : Session κ :=
  (session.perform collector turn).2.1

/-- The session that a history leaves. -/
def after (collector : Collector κ) (session : Session κ) (turns : List (Turn σ)) : Session κ :=
  turns.foldl (next collector) session

@[simp] theorem after_nil (collector : Collector κ) (session : Session κ) :
    session.after collector ([] : List (Turn σ)) = session := rfl

@[simp] theorem after_concat (collector : Collector κ) (session : Session κ)
    (turns : List (Turn σ)) (turn : Turn σ) :
    session.after collector (turns ++ [turn])
      = (session.after collector turns).next collector turn := by
  simp [after]

/-- What holds at the start and is kept by every request that can come next holds throughout. The
    history so far is part of it, since what a session holds is an account of that history. -/
theorem after_induction {collector : Collector κ} {session : Session κ}
    {motive : List (Turn σ) → Session κ → Prop} (hstart : motive [] session)
    (hstep : ∀ turns turn, motive turns (session.after collector turns) →
      motive (turns ++ [turn]) ((session.after collector turns).next collector turn))
    (turns : List (Turn σ)) : motive turns (session.after collector turns) := by
  induction turns using List.reverseRec with
  | nil => exact hstart
  | append_singleton turns turn ih =>
    rw [after_concat]
    exact hstep turns turn ih

/-! ## What a start and a stop can do -/

/-- The ways in which a start can turn out. -/
inductive Starts (collector : Collector κ) (session : Session κ) (w : World) :
    Except CoverageError Unit → Session κ → World → Prop
  /-- It fails before the collector is asked to begin. -/
  | refused (e : CoverageError) : Starts collector session w (.error e) session w
  /-- The collector is asked to begin and fails. -/
  | unbegun {directory : Pathname} {boundaries : List Boundary} {e : CoverageError} {state : κ}
      {last : World} (hstage : session.stage ≠ .started)
      (hboundaries : session.settings.boundaries = .ok boundaries)
      (hdirectory : w.currentDirectory = .ok directory)
      (hbegin : collector.begin directory session.collector w = (.error e, state, last)) :
      Starts collector session w (.error e) { session with collector := state } last
  /-- The collector begins. -/
  | begun {directory : Pathname} {boundaries : List Boundary} {state : κ} {last : World}
      (hstage : session.stage ≠ .started)
      (hboundaries : session.settings.boundaries = .ok boundaries)
      (hdirectory : w.currentDirectory = .ok directory)
      (hbegin : collector.begin directory session.collector w = (.ok (), state, last)) :
      Starts collector session w (.ok ())
        { session with collector := state, stage := .started } last

/-- Every start turns out in one of the ways. -/
theorem starts {collector : Collector κ} {session next : Session κ} {w last : World}
    {result : Except CoverageError Unit}
    (h : session.start collector w = (result, next, last)) :
    Starts collector session w result next last := by
  unfold start at h
  split at h
  · cases h
    exact .refused _
  split at h
  · cases h
    exact .refused _
  split at h
  · cases h
    exact .refused _
  split at h
  · cases h
    exact .unbegun ‹_› ‹_› ‹_› ‹_›
  · cases h
    exact .begun ‹_› ‹_› ‹_› ‹_›

/-- The ways in which a stop can turn out. -/
inductive Stops (collector : Collector κ) (session : Session κ) (w : World) :
    Except CoverageError Unit → Session κ → World → Prop
  /-- The session is not started. -/
  | refused (e : CoverageError) (hstage : session.stage ≠ .started) :
      Stops collector session w (.error e) session w
  /-- The collector is asked to finish and fails. -/
  | unfinished {e : CoverageError} {state : κ} {last : World}
      (hstage : session.stage = .started)
      (hfinish : collector.finish session.objects session.collector w = (.error e, state, last)) :
      Stops collector session w (.error e) { session with collector := state } last
  /-- The collector finishes, and then the boundaries are not there. -/
  | stranded {files : List FileHits} {e : CoverageError} {state : κ} {last : World}
      (hstage : session.stage = .started)
      (hfinish : collector.finish session.objects session.collector w = (.ok files, state, last))
      (hboundaries : session.settings.boundaries = .error e) :
      Stops collector session w (.error e) (session.halt state files) last
  /-- The collector finishes, and the measurement is kept. -/
  | finished {files : List FileHits} {boundaries : List Boundary} {state : κ} {last : World}
      (hstage : session.stage = .started)
      (hfinish : collector.finish session.objects session.collector w = (.ok files, state, last))
      (hboundaries : session.settings.boundaries = .ok boundaries) :
      Stops collector session w (.ok ())
        { session.halt state files with
          measured :=
            some (measure session.settings boundaries last (session.halt state files).hits) }
        last

/-- Every stop turns out in one of the ways. -/
theorem stops {collector : Collector κ} {session next : Session κ} {w last : World}
    {result : Except CoverageError Unit}
    (h : session.stop collector w = (result, next, last)) :
    Stops collector session w result next last := by
  unfold stop expect at h
  by_cases hstage : session.stage = .started
  · rw [if_pos hstage] at h
    rcases hfinish : collector.finish session.objects session.collector w
      with ⟨e | files, state, finished⟩
    · simp only [hfinish] at h
      cases h
      exact .unfinished hstage hfinish
    · simp only [hfinish] at h
      split at h
      · cases h
        exact .stranded hstage hfinish ‹_›
      · cases h
        exact .finished hstage hfinish ‹_›
  · rw [if_neg hstage] at h
    cases h
    exact .refused _ hstage

/-- An option is set before the first start, and nothing else changes. -/
theorem setOption_ok {session next : Session κ} {key : String} {value : OptionValue}
    (h : session.setOption key value = .ok next) :
    session.stage = .configured ∧ ∃ settings, session.settings.set key value = .ok settings ∧
      next = { session with settings } := by
  unfold setOption expect at h
  by_cases hstage : session.stage = .configured
  · rw [if_pos hstage] at h
    cases hset : session.settings.set key value with
    | error e =>
      simp only [hset, bind, Except.bind] at h
      cases h
    | ok settings =>
      simp only [hset, bind, Except.bind] at h
      cases h
      exact ⟨hstage, settings, rfl, rfl⟩
  · rw [if_neg hstage] at h
    cases h

/-! ## What a request can do -/

/-- The ways in which a request can turn out. Each says under which circumstances it is the one,
    so that the circumstances of a change can be read off the change. -/
inductive Moves (collector : Collector κ) (session : Session κ) (turn : Turn σ) :
    Except CoverageError Unit → Session κ → Prop
  /-- It fails before anything is done. -/
  | refused (e : CoverageError)
      (hstop : turn.request = .stop → session.stage ≠ .started) :
      Moves collector session turn (.error e) session
  /-- It gives an answer and changes nothing about the session. -/
  | answered (hstart : turn.request ≠ .start) (hstop : turn.request ≠ .stop) :
      Moves collector session turn (.ok ()) session
  /-- An option is set. -/
  | optioned (settings : Settings) {key : String} {value : OptionValue}
      (hrequest : turn.request = .setOption key value)
      (hstage : session.stage = .configured)
      (hset : session.settings.set key value = .ok settings) :
      Moves collector session turn (.ok ()) { session with settings }
  /-- Objects are added. -/
  | extended {objects : List Pathname} (hrequest : turn.request = .addObjects objects) :
      Moves collector session turn (.ok ()) (session.addObjects objects)
  /-- The collector is asked to begin and fails. -/
  | unbegun {directory : Pathname} {boundaries : List Boundary} {e : CoverageError} {state : κ}
      {last : World} (hrequest : turn.request = .start) (hstage : session.stage ≠ .started)
      (hboundaries : session.settings.boundaries = .ok boundaries)
      (hdirectory : turn.world.currentDirectory = .ok directory)
      (hbegin : collector.begin directory session.collector turn.world = (.error e, state, last)) :
      Moves collector session turn (.error e) { session with collector := state }
  /-- The collector begins. -/
  | begun {directory : Pathname} {boundaries : List Boundary} {state : κ} {last : World}
      (hrequest : turn.request = .start) (hstage : session.stage ≠ .started)
      (hboundaries : session.settings.boundaries = .ok boundaries)
      (hdirectory : turn.world.currentDirectory = .ok directory)
      (hbegin : collector.begin directory session.collector turn.world = (.ok (), state, last)) :
      Moves collector session turn (.ok ())
        { session with collector := state, stage := .started }
  /-- The collector is asked to finish and fails. -/
  | unfinished {e : CoverageError} {state : κ} {last : World}
      (hrequest : turn.request = .stop) (hstage : session.stage = .started)
      (hfinish : collector.finish session.objects session.collector turn.world
        = (.error e, state, last)) :
      Moves collector session turn (.error e) { session with collector := state }
  /-- The collector finishes, and then the boundaries are not there. -/
  | stranded {files : List FileHits} {e : CoverageError} {state : κ} {last : World}
      (hrequest : turn.request = .stop) (hstage : session.stage = .started)
      (hfinish : collector.finish session.objects session.collector turn.world
        = (.ok files, state, last))
      (hboundaries : session.settings.boundaries = .error e) :
      Moves collector session turn (.error e) (session.halt state files)
  /-- The collector finishes, and the measurement is kept. -/
  | finished {files : List FileHits} {boundaries : List Boundary} {state : κ} {last : World}
      (hrequest : turn.request = .stop) (hstage : session.stage = .started)
      (hfinish : collector.finish session.objects session.collector turn.world
        = (.ok files, state, last))
      (hboundaries : session.settings.boundaries = .ok boundaries) :
      Moves collector session turn (.ok ())
        { session.halt state files with
          measured :=
            some (measure session.settings boundaries last (session.halt state files).hits) }

variable {collector : Collector κ} {session : Session κ}

/-- An answer, good or bad, leaves the session as it is. -/
theorem Moves.ofAnswer {α : Type} {turn : Turn σ} (hstart : turn.request ≠ .start)
    (hstop : turn.request ≠ .stop) (result : Except CoverageError α) :
    Moves collector session turn (result.map fun _ => ()) session := by
  cases result with
  | error e => exact .refused e fun h => absurd h hstop
  | ok value => exact .answered hstart hstop

theorem Moves.ofSetOption {turn : Turn σ} {key : String} {value : OptionValue}
    (hrequest : turn.request = .setOption key value) :
    Moves collector session turn (session.perform collector turn).1
      (session.next collector turn) := by
  have hstop : turn.request ≠ .stop := by simp [hrequest]
  simp only [next, perform, hrequest, setOption, expect]
  by_cases hstage : session.stage = .configured
  · rw [if_pos hstage]
    cases hset : session.settings.set key value with
    | error e => exact .refused e fun h => absurd h hstop
    | ok settings => exact .optioned settings hrequest hstage hset
  · rw [if_neg hstage]
    exact .refused _ fun h => absurd h hstop

theorem Moves.ofStart {turn : Turn σ} (hrequest : turn.request = .start) :
    Moves collector session turn (session.perform collector turn).1
      (session.next collector turn) := by
  rcases hstart : session.start collector turn.world with ⟨result, after, last⟩
  simp only [next, perform, hrequest, hstart]
  cases starts hstart with
  | refused e => exact .refused e (by simp [hrequest])
  | unbegun hstage hboundaries hdirectory hbegin =>
    exact .unbegun hrequest hstage hboundaries hdirectory hbegin
  | begun hstage hboundaries hdirectory hbegin =>
    exact .begun hrequest hstage hboundaries hdirectory hbegin

theorem Moves.ofStop {turn : Turn σ} (hrequest : turn.request = .stop) :
    Moves collector session turn (session.perform collector turn).1
      (session.next collector turn) := by
  rcases hstop : session.stop collector turn.world with ⟨result, after, last⟩
  simp only [next, perform, hrequest, hstop]
  cases stops hstop with
  | refused e hstage => exact .refused e fun _ => hstage
  | unfinished hstage hfinish => exact .unfinished hrequest hstage hfinish
  | stranded hstage hfinish hboundaries =>
    exact .stranded hrequest hstage hfinish hboundaries
  | finished hstage hfinish hboundaries =>
    exact .finished hrequest hstage hfinish hboundaries

/-- Every request turns out in one of the ways. -/
theorem moves (collector : Collector κ) (session : Session κ) (turn : Turn σ) :
    Moves collector session turn (session.perform collector turn).1
      (session.next collector turn) := by
  obtain ⟨request, w⟩ := turn
  cases request with
  | setOption key value => exact .ofSetOption rfl
  | addObjects objects => exact .extended rfl
  | start => exact .ofStart rfl
  | stop => exact .ofStop rfl
  | measurement => exact .ofAnswer (by simp) (by simp) session.measurement
  | save =>
    simp only [next, perform]
    cases session.save w with
    | error e => exact .refused e (by simp)
    | ok saved => exact .answered (by simp) (by simp)
  | report stream s => exact .ofAnswer (by simp) (by simp) (session.report w stream s).1
  | reportPages directory => exact .ofAnswer (by simp) (by simp) (session.reportPages directory w).1

end Session
end SuiteCoverage
