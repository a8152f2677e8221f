import SuiteCoverage.Proofs.Session.History

/-!
# Rounds

What a history amounts to: the settings with which the session was started first, and the rounds
that were brought to an end, each with the counts that its collector gave and the world in which
they were evaluated. Both are read off the requests that *succeeded*, not off what the session
holds, so they can say what the session ought to hold.

`Ledger` is that comparison, the one invariant of sessions. Its fields lean on each other: a
measurement is there after a stop because the boundaries are, these are because they were when the
session was started and no option has been set since, and for the same reason all rounds were
gathered with the scope of the settings that stand now.

A session is stopped before the boundaries are asked for a second time, and the measurement is
kept only after that, so for a moment it is stopped and has none. That this moment cannot last is
no matter of one request: it rests on what was required when the session was started, however
many requests ago, and on no option having been set since. So `lifecycle` is read off the ledger.
It has no assumption about the collector, which may fail at every call, nor about the worlds.
-/

set_option autoImplicit false

namespace SuiteCoverage
namespace Session

variable {κ σ : Type} {collector : Collector κ} {session : Session κ} {turn : Turn σ}

/-! ## The first start -/

/-- The settings of a session that a turn starts. -/
def startWith? (collector : Collector κ) (session : Session κ) (turn : Turn σ) :
    Option Settings :=
  match turn.request, (session.perform collector turn).1 with
  | .start, .ok () => some session.settings
  | _, _ => none

/-- The settings with which a session was started first in a history. -/
def startedWith? (collector : Collector κ) : Session κ → List (Turn σ) → Option Settings
  | _, [] => none
  | session, turn :: rest =>
    (session.startWith? collector turn).or
      (startedWith? collector (session.next collector turn) rest)

theorem startWith?_eq_none
    (h : turn.request = .start → ∃ e, (session.perform collector turn).1 = .error e) :
    session.startWith? collector turn = none := by
  unfold startWith?
  split
  · rename_i hrequest hok
    obtain ⟨e, he⟩ := h hrequest
    rw [he] at hok
    cases hok
  · rfl

theorem startWith?_eq_some (hrequest : turn.request = .start)
    (hok : (session.perform collector turn).1 = .ok ()) :
    session.startWith? collector turn = some session.settings := by
  rw [startWith?, hrequest, hok]

theorem startedWith?_concat (turns : List (Turn σ)) (turn : Turn σ) :
    startedWith? collector session (turns ++ [turn])
      = (startedWith? collector session turns).or
          ((session.after collector turns).startWith? collector turn) := by
  induction turns generalizing session with
  | nil => simp [startedWith?]
  | cons first rest ih =>
    rw [List.cons_append, startedWith?, startedWith?, ih, Option.or_assoc]
    rfl

/-! ## The rounds -/

/-- What a round brought: the counts of the files, and the world in which they are evaluated. -/
structure Round where
  files : List FileHits
  world : World

/-- The round that a turn brings to an end. -/
def round? (collector : Collector κ) (session : Session κ) (turn : Turn σ) : Option Round :=
  match turn.request, (session.perform collector turn).1,
    collector.finish session.objects session.collector turn.world with
  | .stop, .ok (), (.ok files, _, last) => some ⟨files, last⟩
  | _, _, _ => none

/-- The rounds that a history brings to an end, in order. -/
def rounds (collector : Collector κ) : Session κ → List (Turn σ) → List Round
  | _, [] => []
  | session, turn :: rest =>
    (session.round? collector turn).toList ++ rounds collector (session.next collector turn) rest

theorem round?_eq_none
    (h : turn.request = .stop → ∃ e, (session.perform collector turn).1 = .error e) :
    session.round? collector turn = none := by
  unfold round?
  split
  · rename_i hrequest hok _
    obtain ⟨e, he⟩ := h hrequest
    rw [he] at hok
    cases hok
  · rfl

theorem round?_eq_some {files : List FileHits} {state : κ} {last : World}
    (hrequest : turn.request = .stop) (hok : (session.perform collector turn).1 = .ok ())
    (hfinish : collector.finish session.objects session.collector turn.world
      = (.ok files, state, last)) :
    session.round? collector turn = some ⟨files, last⟩ := by
  rw [round?, hrequest, hok, hfinish]

theorem rounds_concat (turns : List (Turn σ)) (turn : Turn σ) :
    rounds collector session (turns ++ [turn])
      = rounds collector session turns
          ++ ((session.after collector turns).round? collector turn).toList := by
  induction turns generalizing session with
  | nil => simp [rounds]
  | cons first rest ih =>
    rw [List.cons_append, rounds, rounds, ih, List.append_assoc]
    rfl

/-- The counts of rounds, gathered in a scope. -/
def gatherAll (scope : Scope) (rounds : List Round) : HitTable :=
  rounds.foldl (fun hits round => gather scope hits round.files) OrderedMap.empty

theorem gatherAll_concat (scope : Scope) (rounds : List Round) (round : Round) :
    gatherAll scope (rounds ++ [round]) = gather scope (gatherAll scope rounds) round.files := by
  simp [gatherAll]

/-! ## The invariant -/

/-- What a session holds after a history: `first` is what it was started with first, and `rounds`
    are the rounds brought to an end. -/
structure Ledger (first : Option Settings) (rounds : List Round) (session : Session κ) : Prop where
  first : first = if session.stage = .configured then none else some session.settings
  settled : session.stage ≠ .configured → ∃ boundaries, session.settings.boundaries = .ok boundaries
  fresh : session.stage = .configured → rounds = []
  hits : session.hits = gatherAll (Scope.ofTexts session.settings.source) rounds
  measured : session.stage = .stopped → ∃ earlier last boundaries,
    rounds = earlier ++ [last] ∧ session.settings.boundaries = .ok boundaries ∧
      session.measured = some (measure session.settings boundaries last.world session.hits)

/-- The invariant looks at four fields and no others. -/
theorem Ledger.congr {first : Option Settings} {rounds : List Round} {session other : Session κ}
    (h : Ledger first rounds session) (hstage : other.stage = session.stage)
    (hsettings : other.settings = session.settings) (hhits : other.hits = session.hits)
    (hmeasured : other.measured = session.measured) : Ledger first rounds other := by
  obtain ⟨hfirst, hsettled, hfresh, htable, hkept⟩ := h
  constructor
  · rw [hstage, hsettings]
    exact hfirst
  · rw [hstage, hsettings]
    exact hsettled
  · rw [hstage]
    exact hfresh
  · rw [hhits, hsettings]
    exact htable
  · rw [hstage, hsettings, hhits, hmeasured]
    exact hkept

/-- A session that has only been configured has nothing to account for. -/
theorem ledger_ofSettings (settings : Settings) (state : κ) :
    Ledger none [] (ofSettings settings state) := by
  constructor
  · rfl
  · exact fun h => absurd rfl h
  · exact fun _ => rfl
  · rfl
  · exact fun h => absurd h (by simp [ofSettings])

/-- One request keeps the books in order. The moves that matter are an option, which comes before
    the first start only, a start, which finds the boundaries there, and a stop. -/
theorem ledger_next {first : Option Settings} {rounds : List Round}
    (h : Ledger first rounds session) (turn : Turn σ) :
    Ledger (first.or (session.startWith? collector turn))
      (rounds ++ (session.round? collector turn).toList) (session.next collector turn) := by
  have hmove := moves collector session turn
  generalize hresult : (session.perform collector turn).1 = result at hmove
  generalize session.next collector turn = next at hmove
  -- A turn that neither starts nor stops the session adds nothing to the history.
  have hquiet (hstart : turn.request = .start → ∃ e, result = .error e)
      (hstop : turn.request = .stop → ∃ e, result = .error e) :
      Ledger first rounds next → Ledger (first.or (session.startWith? collector turn))
        (rounds ++ (session.round? collector turn).toList) next := by
    rw [startWith?_eq_none (by rwa [hresult]), round?_eq_none (by rwa [hresult])]
    simp
  cases hmove with
  | refused e _ => exact hquiet (fun _ => ⟨e, rfl⟩) (fun _ => ⟨e, rfl⟩) h
  | answered hstart hstop =>
    exact hquiet (fun hr => absurd hr hstart) (fun hr => absurd hr hstop) h
  | extended hrequest =>
    refine hquiet ?_ ?_ (h.congr rfl rfl rfl rfl)
    · simp [hrequest]
    · simp [hrequest]
  | unbegun => exact hquiet (fun _ => ⟨_, rfl⟩) (fun _ => ⟨_, rfl⟩) (h.congr rfl rfl rfl rfl)
  | unfinished => exact hquiet (fun _ => ⟨_, rfl⟩) (fun _ => ⟨_, rfl⟩) (h.congr rfl rfl rfl rfl)
  | optioned settings hrequest hstage hset =>
    refine hquiet ?_ ?_ ?_
    · simp [hrequest]
    · simp [hrequest]
    · have hnone : first = none := by rw [h.first, if_pos hstage]
      have hrounds := h.fresh hstage
      constructor
      · rw [if_pos hstage, hnone]
      · exact fun hs => absurd hstage hs
      · exact fun _ => hrounds
      · -- Nothing has been gathered yet, in whatever scope.
        show session.hits = _
        rw [h.hits, hrounds]
        rfl
      · exact fun hs => absurd (hstage.symm.trans hs) (by simp)
  | begun hrequest hstage hboundaries hdirectory hbegin =>
    rw [startWith?_eq_some hrequest hresult, round?_eq_none (by simp [hrequest])]
    constructor
    · rw [h.first]
      show _ = some session.settings
      split <;> rfl
    · exact fun _ => ⟨_, hboundaries⟩
    · exact fun hs => absurd hs (by simp)
    · simpa using h.hits
    · exact fun hs => absurd hs (by simp)
  | stranded hrequest hstage hfinish hboundaries =>
    -- The session was started, so its boundaries are there.
    obtain ⟨boundaries, hok⟩ := h.settled (by simp [hstage])
    rw [hok] at hboundaries
    cases hboundaries
  | @finished files boundaries state last hrequest hstage hfinish hboundaries =>
    rw [startWith?_eq_none (by simp [hrequest]), round?_eq_some hrequest hresult hfinish]
    constructor
    · rw [h.first, if_neg (by simp [hstage]), if_neg (by simp [halt])]
      rfl
    · exact fun _ => ⟨boundaries, hboundaries⟩
    · exact fun hs => absurd hs (by simp [halt])
    · simp only [Option.toList_some, gatherAll_concat, halt]
      rw [h.hits]
    · exact fun _ => ⟨rounds, ⟨files, last⟩, boundaries, rfl, hboundaries, rfl⟩

/-- The books are in order after every history. -/
theorem ledger_after (collector : Collector κ) (settings : Settings) (state : κ)
    (turns : List (Turn σ)) :
    Ledger (startedWith? collector (ofSettings settings state) turns)
      (rounds collector (ofSettings settings state) turns)
      ((ofSettings settings state).after collector turns) := by
  refine after_induction (motive := fun turns session =>
    Ledger (startedWith? collector (ofSettings settings state) turns)
      (rounds collector (ofSettings settings state) turns) session) ?_ ?_ turns
  · exact ledger_ofSettings settings state
  · intro turns turn h
    rw [startedWith?_concat, rounds_concat]
    exact ledger_next h turn

/-! ## The life of a session -/

/-- Stopping fails in the wrong stage, or when the collector cannot finish, or for want of
    boundaries. -/
theorem stop_error_iff (w : World) :
    (∃ e, (session.stop collector w).1 = .error e) ↔
      session.stage ≠ .started ∨
        (∃ e, (collector.finish session.objects session.collector w).1 = .error e) ∨
        ∃ e, session.settings.boundaries = .error e := by
  unfold stop expect
  by_cases hstage : session.stage = .started
  · rw [if_pos hstage]
    rcases hfinish : collector.finish session.objects session.collector w
      with ⟨result, state, last⟩
    cases result with
    | error e => simp
    | ok files =>
      cases hboundaries : session.settings.boundaries with
      | error e => simp [halt, hboundaries]
      | ok boundaries => simp [halt, hboundaries, hstage]
  · rw [if_neg hstage]
    simp [hstage]

/-- There is a measurement to be had when the session is stopped and has kept one. -/
theorem measurement_ok_iff {measured : Measurement} :
    session.measurement = .ok measured ↔
      session.stage = .stopped ∧ session.measured = some measured := by
  unfold measurement expect
  by_cases hstage : session.stage = .stopped
  · rw [if_pos hstage]
    cases hkept : session.measured with
    | none => simp [bind, Except.bind, throw, throwThe, MonadExceptOf.throw, hstage]
    | some kept => simp [bind, Except.bind, pure, Except.pure, hstage]
  · rw [if_neg hstage]
    simp [bind, Except.bind, hstage]

/-- What holds of a session after every history: once it has been started, its settings are those
    of the first start, and their boundaries are there; while it is stopped, it holds the
    measurement of all that it has gathered, made when it was stopped last. So stopping fails only
    in the wrong stage or with the collector, and there is a measurement to be had exactly while
    the session is stopped. -/
theorem lifecycle (collector : Collector κ) (settings : Settings) (state : κ)
    (turns : List (Turn σ)) :
    let session := (ofSettings settings state).after collector turns
    (session.stage ≠ .configured →
      (∃ boundaries, session.settings.boundaries = .ok boundaries) ∧
        startedWith? collector (ofSettings settings state) turns = some session.settings) ∧
    (session.stage = .stopped → ∃ boundaries last,
      session.settings.boundaries = .ok boundaries ∧
        (rounds collector (ofSettings settings state) turns).getLast? = some last ∧
        session.measured =
          some (measure session.settings boundaries last.world session.hits)) ∧
    (∀ w, (∃ e, (session.stop collector w).1 = .error e) ↔
      session.stage ≠ .started ∨
        ∃ e, (collector.finish session.objects session.collector w).1 = .error e) ∧
    ((∃ measured, session.measurement = .ok measured) ↔ session.stage = .stopped) := by
  intro session
  have hledger := ledger_after collector settings state turns
  refine ⟨fun hstage => ⟨hledger.settled hstage, ?_⟩, fun hstage => ?_, fun w => ?_, ?_⟩
  · rw [hledger.first, if_neg hstage]
  · obtain ⟨earlier, last, boundaries, hrounds, hboundaries, hmeasured⟩ :=
      hledger.measured hstage
    refine ⟨boundaries, last, hboundaries, ?_, hmeasured⟩
    rw [hrounds, List.getLast?_concat]
  · rw [stop_error_iff]
    constructor
    · rintro (hstage | hfinish | ⟨e, he⟩)
      · exact .inl hstage
      · exact .inr hfinish
      · -- Boundaries are wanting only in a session that has never been started.
        refine .inl fun hstage => ?_
        obtain ⟨boundaries, hok⟩ := hledger.settled (by rw [hstage]; simp)
        exact absurd (he.symm.trans hok) (by simp)
    · rintro (hstage | hfinish)
      · exact .inl hstage
      · exact .inr (.inl hfinish)
  · constructor
    · rintro ⟨measured, hmeasured⟩
      exact (measurement_ok_iff.1 hmeasured).1
    · intro hstage
      obtain ⟨_, _, _, _, _, hmeasured⟩ := hledger.measured hstage
      exact ⟨_, measurement_ok_iff.2 ⟨hstage, hmeasured⟩⟩

end Session
end SuiteCoverage
