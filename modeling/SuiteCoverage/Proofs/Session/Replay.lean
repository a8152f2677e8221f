import SuiteCoverage.Proofs.Session.History

/-!
# What the rest of a history depends on

A session does not look into its collector. All that it learns from it are the answers that it
gets when it asks, with the worlds that they leave. So two sessions that hold the same apart from
their collectors, which may be of different kinds, go on alike for as long as the collectors
answer alike: every request gets the same reply and leaves the same world (`trail_congr`).

A collector is watched by keeping a list of the calls that are made to it, with the success that
they had. The list is kept beside the state of the collector, which the collector itself cannot
see, so whoever uses a watched collector gets what it would get from the collector.
-/

set_option autoImplicit false

namespace SuiteCoverage

/-- A collector does on a state what its image does on what is seen of the state. -/
structure Collector.Mirrors {κ κ' : Type} (view : κ → κ') (collector : Collector κ)
    (image : Collector κ') : Prop where
  begin : ∀ directory state w, image.begin directory (view state) w
    = ((collector.begin directory state w).1, view (collector.begin directory state w).2.1,
      (collector.begin directory state w).2.2)
  finish : ∀ objects state w, image.finish objects (view state) w
    = ((collector.finish objects state w).1, view (collector.finish objects state w).2.1,
      (collector.finish objects state w).2.2)

/-! ## Watching a collector -/

section Watching

/-- A call to a collector, and whether it succeeded. -/
inductive Call where
  | begin (succeeded : Bool)
  | finish (succeeded : Bool)
deriving DecidableEq, Repr

namespace Call

/-- Whether a call asks to finish. -/
def isFinish : Call → Bool
  | finish _ => true
  | begin _ => false

end Call

variable {κ : Type}

/-- The collector with a list of the calls that are made to it. -/
def Collector.watched (collector : Collector κ) : Collector (κ × List Call) where
  begin directory state w :=
    match collector.begin directory state.1 w with
    | (.ok (), next, last) => (.ok (), (next, state.2 ++ [.begin true]), last)
    | (.error e, next, last) => (.error e, (next, state.2 ++ [.begin false]), last)
  finish objects state w :=
    match collector.finish objects state.1 w with
    | (.ok files, next, last) => (.ok files, (next, state.2 ++ [.finish true]), last)
    | (.error e, next, last) => (.error e, (next, state.2 ++ [.finish false]), last)

/-- A watched collector begins as the collector does, and the call is put on the list. -/
theorem Collector.begin_watched (collector : Collector κ) (directory : Pathname)
    (state : κ × List Call) (w : World) :
    collector.watched.begin directory state w
      = ((collector.begin directory state.1 w).1,
        ((collector.begin directory state.1 w).2.1,
          state.2 ++ [.begin (collector.begin directory state.1 w).1.isOk]),
        (collector.begin directory state.1 w).2.2) := by
  simp only [watched]
  rcases collector.begin directory state.1 w with ⟨_ | _, _, _⟩ <;> rfl

/-- A watched collector finishes as the collector does, and the call is put on the list. -/
theorem Collector.finish_watched (collector : Collector κ) (objects : List Pathname)
    (state : κ × List Call) (w : World) :
    collector.watched.finish objects state w
      = ((collector.finish objects state.1 w).1,
        ((collector.finish objects state.1 w).2.1,
          state.2 ++ [.finish (collector.finish objects state.1 w).1.isOk]),
        (collector.finish objects state.1 w).2.2) := by
  simp only [watched]
  rcases collector.finish objects state.1 w with ⟨_ | _, _, _⟩ <;> rfl

/-- Without the list, a watched collector is the collector. -/
theorem Collector.mirrors_watched (collector : Collector κ) :
    collector.watched.Mirrors Prod.fst collector where
  begin directory state w := by rw [begin_watched]
  finish objects state w := by rw [finish_watched]

namespace Session

variable {collector : Collector κ} {session : Session κ} {w : World}

/-- The session with another collector state. -/
def withCollector {κ' : Type} (session : Session κ) (state : κ') : Session κ' :=
  ⟨session.settings, state, session.stage, session.objects, session.hits, session.measured⟩

/-- A session whose collector has been called so far as the list says. -/
def watched (session : Session κ) (calls : List Call) : Session (κ × List Call) :=
  session.withCollector (session.collector, calls)

/-- A session with a watched collector, without the list. -/
def unwatched (session : Session (κ × List Call)) : Session κ :=
  session.withCollector session.collector.1

/-! ## What a start and a stop call -/

/-- Starting a watched session does what starting the session does. The collector is asked to begin
    once and the start succeeds as the collector does, or the start fails before that. -/
theorem start_watched (collector : Collector κ) (session : Session (κ × List Call)) (w : World) :
    ∃ made,
      ((made = [] ∧ (session.unwatched.start collector w).1.isOk = false) ∨
        made = [.begin (session.unwatched.start collector w).1.isOk]) ∧
      session.start collector.watched w
        = ((session.unwatched.start collector w).1,
          (session.unwatched.start collector w).2.1.watched (session.collector.2 ++ made),
          (session.unwatched.start collector w).2.2) := by
  have hsettings : session.unwatched.settings = session.settings := rfl
  have hstage : session.unwatched.stage = session.stage := rfl
  rw [start, start, hsettings, hstage]
  -- The collector is not asked in the wrong stage, without boundaries, or in no directory.
  split
  · exact ⟨[], .inl ⟨rfl, rfl⟩, by simp [misplaced, watched, unwatched, withCollector]⟩
  split
  · exact ⟨[], .inl ⟨rfl, rfl⟩, by simp [watched, unwatched, withCollector]⟩
  split
  · exact ⟨[], .inl ⟨rfl, rfl⟩, by simp [watched, unwatched, withCollector]⟩
  rename_i directory hdirectory
  have hcollector : session.unwatched.collector = session.collector.1 := rfl
  rw [Collector.begin_watched, hcollector]
  rcases collector.begin directory session.collector.1 w with ⟨result, next, last⟩
  cases result with
  | error e => exact ⟨[.begin false], .inr rfl, rfl⟩
  | ok value => exact ⟨[.begin true], .inr rfl, rfl⟩

theorem stop_of_not_started (collector : Collector κ) {session : Session κ}
    (hstage : session.stage ≠ .started) (w : World) :
    session.stop collector w = (.error (session.misplaced Stage.started.name), session, w) := by
  rw [stop, expect, if_neg hstage]

/-- Stopping a watched session does what stopping the session does. The collector is asked to
    finish once if the session is started, whatever comes of the stop. -/
theorem stop_watched (collector : Collector κ) (session : Session (κ × List Call)) (w : World) :
    ∃ made,
      ((made = [] ∧ session.stage ≠ .started) ∨
        (session.stage = .started ∧ ∃ succeeded, made = [.finish succeeded])) ∧
      session.stop collector.watched w
        = ((session.unwatched.stop collector w).1,
          (session.unwatched.stop collector w).2.1.watched (session.collector.2 ++ made),
          (session.unwatched.stop collector w).2.2) := by
  by_cases hstage : session.stage = .started
  · have hexpect : session.expect .started = .ok () := if_pos hstage
    have hexpect' : session.unwatched.expect .started = .ok () := if_pos hstage
    have hobjects : session.unwatched.objects = session.objects := rfl
    have hcollector : session.unwatched.collector = session.collector.1 := rfl
    rw [stop, stop, hexpect, hexpect']
    simp only [Collector.finish_watched, hobjects, hcollector]
    rcases collector.finish session.objects session.collector.1 w with ⟨e | files, next, last⟩
    · exact ⟨[.finish false], .inr ⟨hstage, false, rfl⟩, rfl⟩
    · refine ⟨[.finish true], .inr ⟨hstage, true, rfl⟩, ?_⟩
      have hsettings : session.unwatched.settings = session.settings := rfl
      simp only [halt, hsettings]
      cases session.settings.boundaries <;> rfl
  · have hstage' : session.unwatched.stage ≠ .started := hstage
    refine ⟨[], .inl ⟨rfl, hstage⟩, ?_⟩
    rw [stop_of_not_started collector.watched hstage w, stop_of_not_started collector hstage' w,
      List.append_nil]
    rfl

end Session

end Watching

namespace Session

variable {κ κ' σ : Type} {collector : Collector κ} {other : Collector κ'}

/-! ## Sessions apart from their collectors -/

/-- All that a session holds, without its collector. -/
def bare (session : Session κ) : Session Unit := session.withCollector ()

/-- A session that holds the same is the session with another collector. -/
theorem eq_withCollector_of_bare {session : Session κ} {twin : Session κ'}
    (h : session.bare = twin.bare) : twin = session.withCollector twin.collector := by
  obtain ⟨settings, state, stage, objects, hits, measured⟩ := twin
  cases h
  rfl

/-- Options are set whatever the collector. -/
theorem setOption_withCollector (session : Session κ) (state : κ') (key : String)
    (value : OptionValue) :
    (session.withCollector state).setOption key value
      = (session.setOption key value).map (·.withCollector state) := by
  have hexpect : (session.withCollector state).expect .configured
      = session.expect .configured := rfl
  have hset : (session.withCollector state).settings.set key value
      = session.settings.set key value := rfl
  rw [setOption, setOption, hexpect, hset]
  cases session.expect .configured with
  | error e => rfl
  | ok _ => cases session.settings.set key value <;> rfl

/-! ## What a collector is asked for -/

/-- What a collector answers, and the world that it leaves. -/
inductive Answer where
  | begun (result : Except CoverageError Unit) (world : World)
  | finished (result : Except CoverageError (List FileHits)) (world : World)

/-- The directory that a start asks the collector to begin in, if it gets so far. -/
def beginsIn? (session : Session κ) (w : World) : Option Pathname :=
  match session.settings.boundaries, w.currentDirectory with
  | .ok _, .ok directory => if session.stage = .started then none else some directory
  | _, _ => none

/-- The answer that a session gets from its collector in a turn, if it asks. -/
def answer? (collector : Collector κ) (session : Session κ) (turn : Turn σ) : Option Answer :=
  match turn.request with
  | .start =>
    (session.beginsIn? turn.world).map fun directory =>
      let asked := collector.begin directory session.collector turn.world
      .begun asked.1 asked.2.2
  | .stop =>
    if session.stage = .started then
      let asked := collector.finish session.objects session.collector turn.world
      some (.finished asked.1 asked.2.2)
    else none
  | _ => none

/-- The answers that a session gets from its collector in a history, in order. -/
def answers (collector : Collector κ) : Session κ → List (Turn σ) → List Answer
  | _, [] => []
  | session, turn :: rest =>
    (session.answer? collector turn).toList ++ answers collector (session.next collector turn) rest

/-! ## What a request gives back -/

/-- What whoever makes a request gets. -/
inductive Reply (σ : Type) where
  | done (result : Except CoverageError Unit)
  | measured (result : Except CoverageError Measurement)
  | saved (result : Except CoverageError Pathname)
  /-- The stream is left in a state of its own. -/
  | reported (result : Except CoverageError Binary64) (s : σ)
  | paged (result : Except CoverageError Binary64)

/-- The reply to a request. -/
def reply (collector : Collector κ) (session : Session κ) (turn : Turn σ) : Reply σ :=
  match turn.request with
  | .measurement => .measured session.measurement
  | .save => .saved ((session.save turn.world).map (·.1))
  | .report stream s =>
    .reported (session.report turn.world stream s).1 (session.report turn.world stream s).2
  | .reportPages directory => .paged (session.reportPages directory turn.world).1
  | _ => .done (session.perform collector turn).1

/-- The world that a request leaves. -/
def leaves (collector : Collector κ) (session : Session κ) (turn : Turn σ) : World :=
  (session.perform collector turn).2.2

/-- What can be seen of a history: the replies to its requests, and the worlds that they leave. -/
def trail (collector : Collector κ) : Session κ → List (Turn σ) → List (Reply σ × World)
  | _, [] => []
  | session, turn :: rest =>
    (session.reply collector turn, session.leaves collector turn)
      :: trail collector (session.next collector turn) rest

/-! ## Requests that do not ask the collector -/

/-- Unless it starts or stops the session, a request does the same whatever the collector. -/
theorem perform_withCollector (collector : Collector κ) (other : Collector κ')
    (session : Session κ) (state : κ') {turn : Turn σ} (hstart : turn.request ≠ .start)
    (hstop : turn.request ≠ .stop) :
    (session.withCollector state).perform other turn
      = ((session.perform collector turn).1,
        (session.perform collector turn).2.1.withCollector state,
        (session.perform collector turn).2.2) := by
  obtain ⟨request, w⟩ := turn
  cases request with
  | start => exact absurd rfl hstart
  | stop => exact absurd rfl hstop
  | setOption key value =>
    simp only [perform, setOption_withCollector]
    cases session.setOption key value <;> rfl
  | save =>
    have hsave : (session.withCollector state).save w = session.save w := rfl
    simp only [perform, hsave]
    cases session.save w <;> rfl
  | _ => rfl

/-- Unless it starts or stops the session, a request has nothing to do with the collector. -/
theorem next_of_quiet (collector : Collector κ) (session : Session κ) {turn : Turn σ}
    (hstart : turn.request ≠ .start) (hstop : turn.request ≠ .stop) :
    (session.next collector turn).collector = session.collector ∧
      (session.next collector turn).stage = session.stage ∧
      session.answer? collector turn = none := by
  obtain ⟨request, w⟩ := turn
  cases request with
  | start => exact absurd rfl hstart
  | stop => exact absurd rfl hstop
  | setOption key value =>
    simp only [next, perform]
    cases hset : session.setOption key value with
    | error e => exact ⟨rfl, rfl, rfl⟩
    | ok other =>
      obtain ⟨_, settings, _, rfl⟩ := setOption_ok hset
      exact ⟨rfl, rfl, rfl⟩
  | save =>
    simp only [next, perform]
    cases session.save w <;> exact ⟨rfl, rfl, rfl⟩
  | _ => exact ⟨rfl, rfl, rfl⟩

/-! ## Collectors that can be seen through -/

section Mirrors

variable {view : κ → κ'} {image : Collector κ'}

/-- The session with what is seen of its collector. -/
def seen (view : κ → κ') (session : Session κ) : Session κ' :=
  session.withCollector (view session.collector)

/-- A session starts as it is seen to start. -/
theorem start_seen (h : collector.Mirrors view image) (session : Session κ) (w : World) :
    (session.seen view).start image w
      = ((session.start collector w).1, (session.start collector w).2.1.seen view,
        (session.start collector w).2.2) := by
  have hsettings : (session.seen view).settings = session.settings := rfl
  have hstage : (session.seen view).stage = session.stage := rfl
  rw [start, start, hsettings, hstage]
  split
  · rfl
  split
  · rfl
  split
  · rfl
  rename_i directory hdirectory
  have hcollector : (session.seen view).collector = view session.collector := rfl
  rw [hcollector, h.begin]
  rcases collector.begin directory session.collector w with ⟨result, next, last⟩
  cases result <;> rfl

/-- A session stops as it is seen to stop. -/
theorem stop_seen (h : collector.Mirrors view image) (session : Session κ) (w : World) :
    (session.seen view).stop image w
      = ((session.stop collector w).1, (session.stop collector w).2.1.seen view,
        (session.stop collector w).2.2) := by
  by_cases hstage : session.stage = .started
  · have hexpect : session.expect .started = .ok () := if_pos hstage
    have hexpect' : (session.seen view).expect .started = .ok () := if_pos hstage
    have hobjects : (session.seen view).objects = session.objects := rfl
    have hcollector : (session.seen view).collector = view session.collector := rfl
    rw [stop, stop, hexpect, hexpect']
    simp only [hobjects, hcollector, h.finish]
    rcases collector.finish session.objects session.collector w with ⟨e | files, next, last⟩
    · rfl
    · have hsettings : (session.seen view).settings = session.settings := rfl
      simp only [halt, hsettings]
      cases session.settings.boundaries <;> rfl
  · have hstage' : (session.seen view).stage ≠ .started := hstage
    rw [stop_of_not_started image hstage' w, stop_of_not_started collector hstage w]
    rfl

/-- Every request leaves what it is seen to leave. -/
theorem next_seen (h : collector.Mirrors view image) (session : Session κ) (turn : Turn σ) :
    (session.seen view).next image turn = (session.next collector turn).seen view := by
  by_cases hstart : turn.request = .start
  · obtain ⟨_, w⟩ := turn
    subst hstart
    exact congrArg (·.2.1) (start_seen h session w)
  by_cases hstop : turn.request = .stop
  · obtain ⟨_, w⟩ := turn
    subst hstop
    exact congrArg (·.2.1) (stop_seen h session w)
  rw [next, seen, perform_withCollector collector image session _ hstart hstop, seen,
    (next_of_quiet collector session hstart hstop).1]
  rfl

/-- A history leaves what it is seen to leave. -/
theorem after_seen (h : collector.Mirrors view image) (session : Session κ)
    (turns : List (Turn σ)) :
    (session.seen view).after image turns = (session.after collector turns).seen view := by
  induction turns using List.reverseRec with
  | nil => rfl
  | append_singleton turns turn ih => rw [after_concat, after_concat, ih, next_seen h]

end Mirrors

/-! ## Going on alike -/

section Alike

variable {session : Session κ} {twin : Session κ'}

/-- Whether the collector is asked at all does not depend on it. -/
theorem isSome_answer?_congr (hbare : session.bare = twin.bare) (turn : Turn σ) :
    (session.answer? collector turn).isSome = (twin.answer? other turn).isSome := by
  have hstage : session.stage = twin.stage := congrArg Session.stage hbare
  have hbegins : session.beginsIn? turn.world = twin.beginsIn? turn.world := by
    rw [eq_withCollector_of_bare hbare]
    rfl
  unfold answer?
  cases turn.request with
  | start => simp only [Option.isSome_map, hbegins]
  | stop =>
    simp only [hstage]
    by_cases hstarted : twin.stage = .started
    · rw [if_pos hstarted, if_pos hstarted]
      rfl
    · rw [if_neg hstarted, if_neg hstarted]
  | _ => rfl

/-- A start goes on from the answer alone. -/
theorem start_congr (hbare : session.bare = twin.bare) (w : World)
    (hanswer : session.answer? collector (⟨.start, w⟩ : Turn σ)
      = twin.answer? other (⟨.start, w⟩ : Turn σ)) :
    (session.start collector w).1 = (twin.start other w).1 ∧
      (session.start collector w).2.1.bare = (twin.start other w).2.1.bare ∧
      (session.start collector w).2.2 = (twin.start other w).2.2 := by
  obtain ⟨settings, state, stage, objects, hits, measured⟩ := session
  obtain ⟨_, state', _, _, _, _⟩ := twin
  cases hbare
  simp only [answer?, beginsIn?, start, misplaced] at hanswer ⊢
  by_cases hstage : stage = .started
  · simp [hstage, bare, withCollector]
  simp only [if_neg hstage] at hanswer ⊢
  cases hboundaries : settings.boundaries with
  | error e => exact ⟨rfl, rfl, rfl⟩
  | ok boundaries =>
    cases hdirectory : w.currentDirectory with
    | error fault => exact ⟨rfl, rfl, rfl⟩
    | ok directory =>
      simp only [hboundaries, hdirectory, Option.map_some, Option.some.injEq,
        Answer.begun.injEq] at hanswer ⊢
      rcases hone : collector.begin directory state w with ⟨result, next, last⟩
      rcases htwin : other.begin directory state' w with ⟨result', next', last'⟩
      rw [hone, htwin] at hanswer
      obtain ⟨rfl, rfl⟩ := hanswer
      cases result <;> exact ⟨rfl, rfl, rfl⟩

/-- A stop goes on from the answer alone. -/
theorem stop_congr (hbare : session.bare = twin.bare) (w : World)
    (hanswer : session.answer? collector (⟨.stop, w⟩ : Turn σ)
      = twin.answer? other (⟨.stop, w⟩ : Turn σ)) :
    (session.stop collector w).1 = (twin.stop other w).1 ∧
      (session.stop collector w).2.1.bare = (twin.stop other w).2.1.bare ∧
      (session.stop collector w).2.2 = (twin.stop other w).2.2 := by
  obtain ⟨settings, state, stage, objects, hits, measured⟩ := session
  obtain ⟨_, state', _, _, _, _⟩ := twin
  cases hbare
  simp only [answer?, stop, expect, misplaced] at hanswer ⊢
  by_cases hstage : stage = .started
  · simp only [if_pos hstage] at hanswer ⊢
    rcases hone : collector.finish objects state w with ⟨result, next, last⟩
    rcases htwin : other.finish objects state' w with ⟨result', next', last'⟩
    rw [hone, htwin] at hanswer
    simp only [Option.some.injEq, Answer.finished.injEq] at hanswer
    obtain ⟨rfl, rfl⟩ := hanswer
    cases result with
    | error e => exact ⟨rfl, rfl, rfl⟩
    | ok files =>
      simp only [halt]
      cases settings.boundaries <;> exact ⟨rfl, rfl, rfl⟩
  · simp [hstage, bare, withCollector]

theorem turn_congr_of_quiet (hbare : session.bare = twin.bare) {turn : Turn σ}
    (hstart : turn.request ≠ .start) (hstop : turn.request ≠ .stop) :
    session.reply collector turn = twin.reply other turn ∧
      session.leaves collector turn = twin.leaves other turn ∧
      (session.next collector turn).bare = (twin.next other turn).bare := by
  have hsame := perform_withCollector collector other session twin.collector hstart hstop
  rw [← eq_withCollector_of_bare hbare] at hsame
  refine ⟨?_, ?_, ?_⟩
  · obtain ⟨request, w⟩ := turn
    cases request with
    | start => exact absurd rfl hstart
    | stop => exact absurd rfl hstop
    | setOption key value => exact congrArg Reply.done (congrArg Prod.fst hsame).symm
    | addObjects objects => rfl
    | _ =>
      rw [eq_withCollector_of_bare hbare]
      rfl
  · rw [leaves, leaves, hsame]
  · rw [next, next, hsame]
    rfl

/-- One request: the same answer makes the same reply, the same world and the same session apart
    from the collector. -/
theorem turn_congr (hbare : session.bare = twin.bare) {turn : Turn σ}
    (hanswer : session.answer? collector turn = twin.answer? other turn) :
    session.reply collector turn = twin.reply other turn ∧
      session.leaves collector turn = twin.leaves other turn ∧
      (session.next collector turn).bare = (twin.next other turn).bare := by
  obtain ⟨request, w⟩ := turn
  cases request with
  | start =>
    obtain ⟨hresult, hnext, hworld⟩ := start_congr hbare w hanswer
    exact ⟨congrArg Reply.done hresult, hworld, hnext⟩
  | stop =>
    obtain ⟨hresult, hnext, hworld⟩ := stop_congr hbare w hanswer
    exact ⟨congrArg Reply.done hresult, hworld, hnext⟩
  | _ => exact turn_congr_of_quiet hbare (by simp) (by simp)

/-- Sessions that hold the same apart from their collectors go on alike for as long as the
    collectors answer alike. -/
theorem trail_congr (hbare : session.bare = twin.bare) {turns : List (Turn σ)}
    (hanswers : answers collector session turns = answers other twin turns) :
    trail collector session turns = trail other twin turns ∧
      (session.after collector turns).bare = (twin.after other turns).bare := by
  induction turns generalizing session twin with
  | nil => exact ⟨rfl, hbare⟩
  | cons turn rest ih =>
    -- Both ask or neither does, so the first answers stand at the head of both lists.
    have hasked : (session.answer? collector turn).isSome = (twin.answer? other turn).isSome :=
      isSome_answer?_congr hbare turn
    have hboth : session.answer? collector turn = twin.answer? other turn ∧
        answers collector (session.next collector turn) rest
          = answers other (twin.next other turn) rest := by
      simp only [answers] at hanswers
      cases hone : session.answer? collector turn with
      | none =>
        cases htwin : twin.answer? other turn with
        | none =>
          rw [hone, htwin] at hanswers
          exact ⟨rfl, hanswers⟩
        | some answer =>
          rw [hone, htwin] at hasked
          cases hasked
      | some answer =>
        cases htwin : twin.answer? other turn with
        | none =>
          rw [hone, htwin] at hasked
          cases hasked
        | some answer' =>
          rw [hone, htwin] at hanswers
          obtain ⟨hhead, htail⟩ := List.cons.inj hanswers
          exact ⟨congrArg some hhead, htail⟩
    obtain ⟨hreply, hworld, hnext⟩ := turn_congr hbare hboth.1
    obtain ⟨htrail, hafter⟩ := ih hnext hboth.2
    refine ⟨?_, hafter⟩
    rw [trail, trail, hreply, hworld, htrail]

end Alike

end Session
end SuiteCoverage
