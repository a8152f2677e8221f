import SuiteCoverage.Proofs.Settings
import SuiteCoverage.Proofs.Session.Replay
import SuiteCoverage.Proofs.Session.Rounds

/-!
# Requests that fail, and the order of calls

A request that fails leaves a session with all that it held, so it might as well not have been
made: what comes after it comes as it would have come without it, if the collector has not been
changed by it. And a collector is asked to begin and to finish in turns. It is asked to begin only
when nothing that it has begun is open, and to finish only when something is.

Both rest on what a session remembers. It is started just when a begin is open (`isOpen_calls`),
and once it has been started its boundaries are there, for otherwise a stop could fail half way.
-/

set_option autoImplicit false

namespace SuiteCoverage

/-! ## Open begins -/

namespace Call

/-- A begin has succeeded, and no finish has since. -/
def IsOpen (calls : List Call) : Prop :=
  ∃ earlier later, calls = earlier ++ begin true :: later ∧ finish true ∉ later

variable {calls : List Call}

theorem not_isOpen_nil : ¬ IsOpen [] := by
  rintro ⟨earlier, later, hcalls, _⟩
  simp at hcalls

theorem isOpen_concat_begin (calls : List Call) : IsOpen (calls ++ [begin true]) :=
  ⟨calls, [], rfl, by simp⟩

theorem not_isOpen_concat_finish (calls : List Call) : ¬ IsOpen (calls ++ [finish true]) := by
  rintro ⟨earlier, later, hcalls, hnone⟩
  rcases concat_eq_append_cons hcalls with ⟨_, hlast, _⟩ | ⟨between, rfl, _⟩
  · cases hlast
  · simp at hnone

/-- Calls that do not succeed change nothing about what is open. -/
theorem isOpen_append_iff {others : List Call} (hbegin : begin true ∉ others)
    (hfinish : finish true ∉ others) : IsOpen (calls ++ others) ↔ IsOpen calls := by
  constructor
  · rintro ⟨earlier, later, hcalls, hnone⟩
    rcases List.append_eq_append_iff.1 hcalls with ⟨between, rfl, hlater⟩ | ⟨between, rfl, hlater⟩
    · -- The begin would be one of the others.
      rw [hlater] at hbegin
      simp at hbegin
    · cases between with
      | nil =>
        rw [List.nil_append] at hlater
        rw [← hlater] at hbegin
        simp at hbegin
      | cons call between =>
        obtain ⟨rfl, rfl⟩ := List.cons.inj hlater
        exact ⟨earlier, between, rfl, fun hmem => hnone (by simp [hmem])⟩
  · rintro ⟨earlier, later, rfl, hnone⟩
    exact ⟨earlier, later ++ others, by simp, by simp [hnone, hfinish]⟩

/-- A call is in its place after others: a begin if nothing is open, and a finish if something
    is. -/
def IsDue (calls : List Call) : Call → Prop
  | begin _ => ¬ IsOpen calls
  | finish _ => IsOpen calls

/-- Every call is in its place after those before it. -/
def Alternate (calls : List Call) : Prop :=
  ∀ earlier call later, calls = earlier ++ call :: later → IsDue earlier call

theorem alternate_nil : Alternate [] := by
  intro earlier call later hcalls
  simp at hcalls

theorem Alternate.concat (h : Alternate calls) {call : Call} (hcall : IsDue calls call) :
    Alternate (calls ++ [call]) := by
  intro earlier other later hcalls
  rcases concat_eq_append_cons hcalls with ⟨rfl, rfl, _⟩ | ⟨between, _, hcalls⟩
  · exact hcall
  · exact h earlier other between hcalls

/-- What has been begun is finished exactly once before something is begun again. -/
theorem Alternate.count_finish (h : Alternate calls) {earlier between later : List Call}
    (hcalls : calls = earlier ++ begin true :: (between ++ begin true :: later))
    (hnone : begin true ∉ between) : between.count (finish true) = 1 := by
  have hclosed : ¬ IsOpen (earlier ++ begin true :: between) :=
    h (earlier ++ begin true :: between) (begin true) later (by simp [hcalls])
  have hmem : finish true ∈ between := by
    by_contra hnot
    exact hclosed ⟨earlier, between, rfl, hnot⟩
  obtain ⟨before, rest, rfl, hbefore⟩ := List.eq_append_cons_of_mem hmem
  simp only [List.mem_append, List.mem_cons, not_or] at hnone
  have hrest : finish true ∉ rest := by
    intro hagain
    obtain ⟨middle, last, rfl, hmiddle⟩ := List.eq_append_cons_of_mem hagain
    -- Nothing is open at a second finish, as nothing has been begun since the first.
    have hopen : IsOpen ((earlier ++ begin true :: before ++ [finish true]) ++ middle) :=
      h _ (finish true) (last ++ begin true :: later) (by simp [hcalls])
    rw [isOpen_append_iff (fun hbegin => hnone.2.2 (by simp [hbegin])) hmiddle] at hopen
    exact not_isOpen_concat_finish _ hopen
  rw [List.count_append, List.count_cons_self, List.count_eq_zero_of_not_mem hbefore,
    List.count_eq_zero_of_not_mem hrest]

end Call

namespace Session

variable {κ σ : Type} {collector : Collector κ} {session : Session κ}

/-! ## The calls of a history -/

/-- The call that is behind an answer. -/
def Answer.call : Answer → Call
  | begun result _ => .begin result.isOk
  | finished result _ => .finish result.isOk

/-- The calls that a history makes to the collector, in order. -/
def calls (collector : Collector κ) (session : Session κ) (turns : List (Turn σ)) : List Call :=
  ((session.watched []).after collector.watched turns).collector.2

/-- What a turn asks the collector for, with the stage that it leads to. -/
inductive Asks (session : Session κ) : Option Answer → Stage → Prop
  | nothing : Asks session none session.stage
  | begins {boundaries : List Boundary} (result : Except CoverageError Unit) (last : World)
      (hstage : session.stage ≠ .started)
      (hboundaries : session.settings.boundaries = .ok boundaries) :
      Asks session (some (.begun result last)) (if result.isOk then .started else session.stage)
  | finishes (result : Except CoverageError (List FileHits)) (last : World)
      (hstage : session.stage = .started) :
      Asks session (some (.finished result last)) (if result.isOk then .stopped else .started)

theorem asks_start (w : World) :
    Asks session (session.answer? collector (⟨.start, w⟩ : Turn σ))
      (session.start collector w).2.1.stage := by
  simp only [answer?, beginsIn?, start]
  by_cases hstage : session.stage = .started
  · simp only [if_pos hstage]
    cases session.settings.boundaries <;> cases w.currentDirectory <;> exact .nothing
  simp only [if_neg hstage]
  cases hboundaries : session.settings.boundaries with
  | error e => exact .nothing
  | ok boundaries =>
    cases w.currentDirectory with
    | error fault => exact .nothing
    | ok directory =>
      simp only [Option.map_some]
      rcases collector.begin directory session.collector w with ⟨result, state, last⟩
      have hasks := Asks.begins result last hstage hboundaries
      cases result <;> exact hasks

theorem asks_stop (w : World) :
    Asks session (session.answer? collector (⟨.stop, w⟩ : Turn σ))
      (session.stop collector w).2.1.stage := by
  simp only [answer?, stop, expect]
  by_cases hstage : session.stage = .started
  · simp only [if_pos hstage]
    rcases collector.finish session.objects session.collector w with ⟨result, state, last⟩
    have hasks := Asks.finishes result last hstage
    cases result with
    | error e =>
      rw [← hstage] at hasks
      exact hasks
    | ok files =>
      simp only
      split <;> exact hasks
  · simp only [if_neg hstage]
    exact .nothing

/-- Every turn asks for something or nothing. -/
theorem asks (collector : Collector κ) (session : Session κ) (turn : Turn σ) :
    Asks session (session.answer? collector turn) (session.next collector turn).stage := by
  by_cases hstart : turn.request = .start
  · obtain ⟨_, w⟩ := turn
    subst hstart
    exact asks_start w
  by_cases hstop : turn.request = .stop
  · obtain ⟨_, w⟩ := turn
    subst hstop
    exact asks_stop w
  obtain ⟨_, hstage, hnone⟩ := next_of_quiet collector session hstart hstop
  rw [hstage, hnone]
  exact .nothing

/-! ## Watched histories -/

variable {made : List Call}

theorem start_watched_eq (collector : Collector κ) (session : Session κ) (made : List Call)
    (w : World) :
    ((session.watched made).start collector.watched w).2.1
      = (session.start collector w).2.1.watched (made ++
          ((session.answer? collector (⟨.start, w⟩ : Turn σ)).map Answer.call).toList) := by
  have hboundaries' : (session.watched made).settings.boundaries = session.settings.boundaries :=
    rfl
  rw [start, start, hboundaries']
  simp only [answer?, beginsIn?]
  by_cases hstage : session.stage = .started
  · have hstage' : (session.watched made).stage = .started := hstage
    rw [if_pos hstage, if_pos hstage']
    cases session.settings.boundaries <;> cases w.currentDirectory <;> simp [hstage]
  have hstage' : (session.watched made).stage ≠ .started := hstage
  rw [if_neg hstage, if_neg hstage']
  cases session.settings.boundaries with
  | error e => simp
  | ok boundaries =>
    cases w.currentDirectory with
    | error fault => simp
    | ok directory =>
      have hcollector : (session.watched made).collector = (session.collector, made) := rfl
      simp only [Collector.begin_watched, hcollector, if_neg hstage, Option.map_some,
        Option.toList_some]
      rcases collector.begin directory session.collector w with ⟨result, next, last⟩
      cases result <;> rfl

theorem stop_watched_eq (collector : Collector κ) (session : Session κ) (made : List Call)
    (w : World) :
    ((session.watched made).stop collector.watched w).2.1
      = (session.stop collector w).2.1.watched (made ++
          ((session.answer? collector (⟨.stop, w⟩ : Turn σ)).map Answer.call).toList) := by
  by_cases hstage : session.stage = .started
  · have hexpect : session.expect .started = .ok () := if_pos hstage
    have hexpect' : (session.watched made).expect .started = .ok () := if_pos hstage
    have hobjects : (session.watched made).objects = session.objects := rfl
    have hcollector : (session.watched made).collector = (session.collector, made) := rfl
    rw [stop, stop, hexpect, hexpect']
    simp only [Collector.finish_watched, hobjects, hcollector, answer?, if_pos hstage,
      Option.map_some, Option.toList_some]
    rcases collector.finish session.objects session.collector w with ⟨result, next, last⟩
    cases result with
    | error e => rfl
    | ok files =>
      have hboundaries' : (session.watched made).settings.boundaries
          = session.settings.boundaries := rfl
      simp only [halt, hboundaries']
      cases session.settings.boundaries <;> rfl
  · have hstage' : (session.watched made).stage ≠ .started := hstage
    rw [stop_of_not_started collector.watched hstage' w, stop_of_not_started collector hstage w]
    simp [answer?, hstage]

/-- A watched turn does what the turn does, and puts on the list the call that it makes. -/
theorem next_watched (collector : Collector κ) (session : Session κ) (made : List Call)
    (turn : Turn σ) :
    (session.watched made).next collector.watched turn
      = (session.next collector turn).watched
          (made ++ ((session.answer? collector turn).map Answer.call).toList) := by
  by_cases hstart : turn.request = .start
  · obtain ⟨_, w⟩ := turn
    subst hstart
    exact start_watched_eq collector session made w
  by_cases hstop : turn.request = .stop
  · obtain ⟨_, w⟩ := turn
    subst hstop
    exact stop_watched_eq collector session made w
  obtain ⟨hcollector, _, hnone⟩ := next_of_quiet collector session hstart hstop
  have hperform := perform_withCollector collector collector.watched session
    (session.collector, made) hstart hstop
  rw [next, watched, hperform, hnone, watched, hcollector]
  simp [next]

/-- Watching a history changes nothing about it. -/
theorem after_watched (collector : Collector κ) (session : Session κ) (turns : List (Turn σ)) :
    (session.watched []).after collector.watched turns
      = (session.after collector turns).watched (calls collector session turns) := by
  have hsome : ∃ made, (session.watched []).after collector.watched turns
      = (session.after collector turns).watched made := by
    induction turns using List.reverseRec with
    | nil => exact ⟨[], rfl⟩
    | append_singleton turns turn ih =>
      obtain ⟨made, hmade⟩ := ih
      rw [after_concat, after_concat, hmade, next_watched]
      exact ⟨_, rfl⟩
  obtain ⟨made, hmade⟩ := hsome
  rw [calls, hmade]
  rfl

theorem calls_concat (collector : Collector κ) (session : Session κ) (turns : List (Turn σ))
    (turn : Turn σ) :
    calls collector session (turns ++ [turn])
      = calls collector session turns ++
          (((session.after collector turns).answer? collector turn).map Answer.call).toList := by
  rw [calls, after_concat, after_watched, next_watched]
  rfl

/-! ## The order of the calls -/

/-- What is open after one more call, if a begin was open just when the session was started. -/
theorem Asks.isOpen_iff {answer : Option Answer} {stage : Stage} (h : Asks session answer stage)
    (hopen : Call.IsOpen made ↔ session.stage = .started) :
    Call.IsOpen (made ++ (answer.map Answer.call).toList) ↔ stage = .started := by
  have hfailed (call : Call) (hbegin : call ≠ .begin true) (hfinish : call ≠ .finish true) :
      Call.IsOpen (made ++ [call]) ↔ session.stage = .started :=
    (Call.isOpen_append_iff (by simpa using hbegin.symm) (by simpa using hfinish.symm)).trans hopen
  cases h with
  | nothing => simpa using hopen
  | begins result last hstage hboundaries =>
    cases result with
    | ok value => exact iff_of_true (Call.isOpen_concat_begin made) rfl
    | error e => exact hfailed (.begin false) (by simp) (by simp)
  | finishes result last hstage =>
    cases result with
    | ok files => exact iff_of_false (Call.not_isOpen_concat_finish made) Stage.noConfusion
    | error e =>
      exact (hfailed (.finish false) (by simp) (by simp)).trans (iff_of_true hstage rfl)

/-- A session is started just when what its collector has begun is open. -/
theorem isOpen_calls (collector : Collector κ) (settings : Settings) (state : κ)
    (turns : List (Turn σ)) :
    Call.IsOpen (calls collector (ofSettings settings state) turns)
      ↔ ((ofSettings settings state).after collector turns).stage = .started := by
  refine after_induction (motive := fun turns session =>
    Call.IsOpen (calls collector (ofSettings settings state) turns) ↔ session.stage = .started)
    ?_ ?_ turns
  · exact iff_of_false Call.not_isOpen_nil (by simp [ofSettings])
  · intro turns turn ih
    rw [calls_concat]
    exact (asks collector _ turn).isOpen_iff ih

/-- What a turn adds to the calls: nothing, a begin if nothing is open and no plugin is enabled
    without a marker, or a finish if something is open. -/
theorem calls_turn (collector : Collector κ) (settings : Settings) (state : κ)
    (turns : List (Turn σ)) (turn : Turn σ) :
    let session := (ofSettings settings state).after collector turns
    let calls := calls collector (ofSettings settings state)
    calls (turns ++ [turn]) = calls turns ∨
      (∃ succeeded, calls (turns ++ [turn]) = calls turns ++ [.begin succeeded] ∧
        ¬ Call.IsOpen (calls turns) ∧
        (session.settings.plugins ≠ [] → ∃ marker, session.settings.marker = some marker)) ∨
      (∃ succeeded, calls (turns ++ [turn]) = calls turns ++ [.finish succeeded] ∧
        Call.IsOpen (calls turns)) := by
  intro session calls
  have hasks := asks collector session turn
  have hopen : Call.IsOpen (calls turns) ↔ session.stage = .started :=
    isOpen_calls collector settings state turns
  have hturn : calls (turns ++ [turn])
      = calls turns ++ ((session.answer? collector turn).map Answer.call).toList :=
    calls_concat collector (ofSettings settings state) turns turn
  generalize session.answer? collector turn = answer at hasks hturn
  generalize (session.next collector turn).stage = stage at hasks
  cases hasks with
  | nothing => exact .inl (by simpa using hturn)
  | begins result last hstage hboundaries =>
    refine .inr (.inl ⟨result.isOk, hturn, fun h => hstage (hopen.1 h), ?_⟩)
    intro hplugins
    cases hmarker : session.settings.marker with
    | none => exact absurd (Settings.plugins_eq_nil_of_boundaries hboundaries hmarker) hplugins
    | some marker => exact ⟨marker, rfl⟩
  | finishes result last hstage => exact .inr (.inr ⟨result.isOk, hturn, hopen.2 hstage⟩)

theorem alternate_calls (collector : Collector κ) (settings : Settings) (state : κ)
    (turns : List (Turn σ)) :
    Call.Alternate (calls collector (ofSettings settings state) turns) := by
  induction turns using List.reverseRec with
  | nil => exact Call.alternate_nil
  | append_singleton turns turn ih =>
    rcases calls_turn collector settings state turns turn with
      hsame | ⟨succeeded, hbegin, hclosed, _⟩ | ⟨succeeded, hfinish, hopen⟩
    · rw [hsame]
      exact ih
    · rw [hbegin]
      exact ih.concat hclosed
    · rw [hfinish]
      exact ih.concat hopen

/-! ## Requests that fail -/

/-- A request that fails leaves everything but the collector as it was, if the boundaries are
    there once the session has been started. -/
theorem bare_next_of_error {turn : Turn σ} {e : CoverageError}
    (hsettled : session.stage = .started →
      ∃ boundaries, session.settings.boundaries = .ok boundaries)
    (h : (session.perform collector turn).1 = .error e) :
    (session.next collector turn).bare = session.bare := by
  have hmove := moves collector session turn
  rw [h] at hmove
  generalize session.next collector turn = next at hmove
  cases hmove with
  | refused => rfl
  | unbegun => rfl
  | unfinished => rfl
  | stranded hrequest hstage hfinish hboundaries =>
    -- The session would be stopped, and have nothing measured.
    obtain ⟨boundaries, hok⟩ := hsettled hstage
    rw [hok] at hboundaries
    cases hboundaries

/-- In every state that a session can come to, whatever its collector does, a request that fails
    changes nothing, and all that comes after it goes as if it had not been made, as long as the
    collector gives the same answers. And the collector is asked to begin only when nothing is
    open and no plugin is enabled without a marker, and to finish only when something is open, so
    that what it has begun is finished once before it begins again. -/
theorem failures_leave_no_trace_and_calls_alternate (collector : Collector κ)
    (settings : Settings) (state : κ) (turns : List (Turn σ)) :
    let session := (ofSettings settings state).after collector turns
    let calls := calls collector (ofSettings settings state)
    (∀ (turn : Turn σ) (e : CoverageError), (session.perform collector turn).1 = .error e →
      (session.next collector turn).bare = session.bare ∧
      ∀ {κ' : Type} (other : Collector κ') (state' : κ') (later : List (Turn σ)),
        answers collector (session.next collector turn) later
            = answers other (session.withCollector state') later →
          trail collector (session.next collector turn) later
              = trail other (session.withCollector state') later ∧
            ((session.next collector turn).after collector later).bare
              = ((session.withCollector state').after other later).bare) ∧
    ((ofSettings settings state).watched []).after collector.watched turns
        = session.watched (calls turns) ∧
    (∀ turn : Turn σ, calls (turns ++ [turn]) = calls turns ∨
      (∃ succeeded, calls (turns ++ [turn]) = calls turns ++ [.begin succeeded] ∧
        ¬ Call.IsOpen (calls turns) ∧
        (session.settings.plugins ≠ [] → ∃ marker, session.settings.marker = some marker)) ∨
      (∃ succeeded, calls (turns ++ [turn]) = calls turns ++ [.finish succeeded] ∧
        Call.IsOpen (calls turns))) ∧
    (∀ earlier between later,
      calls turns = earlier ++ .begin true :: (between ++ .begin true :: later) →
        .begin true ∉ between → between.count (.finish true) = 1) := by
  intro session calls
  refine ⟨?_, after_watched collector (ofSettings settings state) turns,
    calls_turn collector settings state turns, ?_⟩
  · intro turn e he
    have hbare : (session.next collector turn).bare = session.bare := by
      refine bare_next_of_error (fun hstarted => ?_) he
      exact (ledger_after collector settings state turns).settled (by simp [session, hstarted])
    refine ⟨hbare, ?_⟩
    intro κ' other state' later hanswers
    have hbare' : (session.next collector turn).bare = (session.withCollector state').bare := hbare
    exact trail_congr hbare' hanswers
  · intro earlier between later hcalls hnone
    exact (alternate_calls collector settings state turns).count_finish hcalls hnone

end Session
end SuiteCoverage
