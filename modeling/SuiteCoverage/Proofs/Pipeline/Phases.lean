import SuiteCoverage.Pipeline
import SuiteCoverage.Proofs.Session.History
import SuiteCoverage.Proofs.World.Environment

/-!
# The phases of a run

A run falls into phases. The session is configured and the directory entered; the session is
started; the tests are found; they are run; the session is stopped; and what was measured is saved
and reported. `ends` says once in which ways a run can end, and with which states its phases have
been carried out. What is kept by a run as a whole, or happens in it, is derived from that.
-/

set_option autoImplicit false

namespace SuiteCoverage
namespace Pipeline

variable {κ σ τ : Type}

/-! ## What comes of a step -/

section Steps

variable (p : Progress κ σ τ)

/-- A step that takes a result fails if the result is not there, and does nothing else. -/
theorem outcome_orFail {α ε : Type} (step : Step) (cause : ε → Cause) (result : Except ε α) :
    outcome (orFail step cause result) p = (result.mapError fun e => ⟨step, cause e⟩, p) := by
  cases result <;> rfl

theorem outcome_setOption (key : String) (value : OptionValue) :
    outcome (setOption key value) p
      = match p.session.setOption key value with
        | .ok session => (.ok (), { p with session })
        | .error e => (.error ⟨.configure, .coverage e⟩, p) := by
  show outcome (orFail .configure .coverage (p.session.setOption key value) >>= fun session =>
    set { p with session }) p = _
  rw [outcome_bind, outcome_orFail]
  cases p.session.setOption key value <;> rfl

theorem outcome_readDirectory :
    outcome readDirectory p
      = (p.world.currentDirectory.mapError fun fault => ⟨.readDirectory, .system fault⟩, p) :=
  outcome_orFail p .readDirectory .system _

theorem outcome_enterDirectory (root : Pathname) (configuration : String) :
    outcome (enterDirectory root configuration) p
      = ((relocate root configuration p.world).1.mapError fun e => ⟨.enterDirectory, .workdir e⟩,
        { p with world := (relocate root configuration p.world).2 }) :=
  outcome_orFail { p with world := (relocate root configuration p.world).2 } .enterDirectory
    .workdir _

theorem outcome_start (collector : Collector κ) :
    outcome (start collector) p
      = ((p.session.start collector p.world).1.mapError fun e => ⟨.start, .coverage e⟩,
        { p with
          session := (p.session.start collector p.world).2.1
          world := (p.session.start collector p.world).2.2 }) :=
  outcome_orFail
    { p with
      session := (p.session.start collector p.world).2.1
      world := (p.session.start collector p.world).2.2 } .start .coverage _

theorem outcome_discover (engine : Engine σ) (directory : Pathname) :
    outcome (discover engine directory) p
      = ((engine.discover p.world directory).mapError fun e =>
          ⟨.discover directory, .discovery e⟩, p) :=
  outcome_orFail p (.discover directory) .discovery _

theorem outcome_stop (collector : Collector κ) :
    outcome (stop collector) p
      = ((p.session.stop collector p.world).1.mapError fun e => ⟨.stop, .coverage e⟩,
        { p with
          session := (p.session.stop collector p.world).2.1
          world := (p.session.stop collector p.world).2.2 }) :=
  outcome_orFail
    { p with
      session := (p.session.stop collector p.world).2.1
      world := (p.session.stop collector p.world).2.2 } .stop .coverage _

theorem outcome_save_ok {dataFile : Pathname} {next : World}
    (h : p.session.save p.world = .ok (dataFile, next)) :
    outcome save p = (.ok dataFile, { p with world := next }) := by
  have hsaved := outcome_orFail p .save .coverage (p.session.save p.world)
  rw [h] at hsaved
  show outcome (orFail .save .coverage (p.session.save p.world) >>= _) p = _
  rw [h, outcome_bind_ok hsaved]
  rfl

theorem outcome_save_error {e : CoverageError} (h : p.session.save p.world = .error e) :
    outcome save p = (.error ⟨.save, .coverage e⟩, p) := by
  have hsaved := outcome_orFail p .save .coverage (p.session.save p.world)
  rw [h] at hsaved
  show outcome (orFail .save .coverage (p.session.save p.world) >>= _) p = _
  rw [h, outcome_bind_error hsaved]

theorem outcome_writePages :
    outcome writePages p
      = ((p.session.reportPages ⟨Artifact.pages⟩ p.world).1.mapError fun e =>
          ⟨.writePages, .coverage e⟩,
        { p with world := (p.session.reportPages ⟨Artifact.pages⟩ p.world).2 }) :=
  outcome_orFail { p with world := (p.session.reportPages ⟨Artifact.pages⟩ p.world).2 }
    .writePages .coverage _

theorem outcome_writeTable (stream : Stream τ) :
    outcome (writeTable stream) p
      = ((p.session.report p.world stream p.output).1.mapError fun e =>
          ⟨.writeTable, .coverage e⟩,
        { p with output := (p.session.report p.world stream p.output).2 }) :=
  outcome_orFail { p with output := (p.session.report p.world stream p.output).2 } .writeTable
    .coverage _

end Steps

/-- The start of the session that is behind a start. -/
theorem start_of_outcome {collector : Collector κ} {p last : Progress κ σ τ}
    {result : Except Failure Unit} (h : outcome (start collector) p = (result, last)) :
    ∃ started, p.session.start collector p.world = (started, last.session, last.world) ∧
      result = started.mapError fun e => ⟨.start, .coverage e⟩ := by
  rw [outcome_start] at h
  cases h
  exact ⟨_, rfl, rfl⟩

/-- The stop of the session that is behind a stop. -/
theorem stop_of_outcome {collector : Collector κ} {p last : Progress κ σ τ}
    {result : Except Failure Unit} (h : outcome (stop collector) p = (result, last)) :
    ∃ stopped, p.session.stop collector p.world = (stopped, last.session, last.world) ∧
      result = stopped.mapError fun e => ⟨.stop, .coverage e⟩ := by
  rw [outcome_stop] at h
  cases h
  exact ⟨_, rfl, rfl⟩

/-! ## The phases -/

/-- The directory that the tests are in: where the run starts unless the options tell otherwise. -/
def testsDirectory (options : RunOptions) (origin : Pathname) : Pathname :=
  (options.testsDir.map origin.join).getD origin

/-- All that comes before the start: where the run starts, and where it goes. -/
def prepare (options : RunOptions) : Part κ σ τ (Pathname × Relocation) := do
  configure options.marker
  let origin ← readDirectory
  let relocation ← enterDirectory options.workingRoot options.configuration
  return (origin, relocation)

/-- All that is done with the tests once they have been found. -/
def exercise (engine : Engine σ) (options : RunOptions) (origin : Pathname) (suite : Suite) :
    Part κ σ τ Run := do
  addObjects suite.executables
  addObjects (options.objects.map origin.join)
  runTests engine suite options.verbosity

/-- All that comes after the stop. -/
def conclude (output : Stream τ) (options : RunOptions) (relocation : Relocation) (run : Run) :
    Part κ σ τ Summary := do
  let dataFile ← save
  match options.reportMode with
  | .pages =>
    let percent ← writePages
    return ⟨relocation, run, dataFile, percent, some (relocation.current.join ⟨Artifact.pages⟩)⟩
  | .table =>
    let percent ← writeTable output
    return ⟨relocation, run, dataFile, percent, none⟩

/-- A run is its phases, one after the other. -/
theorem run_eq (setup : Setup κ σ τ) (options : RunOptions) :
    run setup options
      = (prepare options >>= fun origin =>
          start setup.collector >>= fun _ =>
          discover setup.engine (testsDirectory options origin.1) >>= fun suite =>
          exercise setup.engine options origin.1 suite >>= fun run =>
          stop setup.collector >>= fun _ =>
          conclude setup.output options origin.2 run) := by
  simp only [run, prepare, exercise, bind_assoc, pure_bind]
  rfl

/-- Nothing fails while the tests are run, and the session gets objects. -/
theorem outcome_exercise (engine : Engine σ) (options : RunOptions) (origin : Pathname)
    (suite : Suite) (p : Progress κ σ τ) :
    outcome (exercise engine options origin suite) p
      = (.ok (engine.run suite options.verbosity p.world p.console).1,
        { p with
          session :=
            (p.session.addObjects suite.executables).addObjects (options.objects.map origin.join)
          world := (engine.run suite options.verbosity p.world p.console).2.1
          console := (engine.run suite options.verbosity p.world p.console).2.2 }) := rfl

/-- While the tests are run the session stays in its stage, and its collector as it is. -/
theorem session_of_exercise {engine : Engine σ} {options : RunOptions} {origin : Pathname}
    {suite : Suite} {p last : Progress κ σ τ} {result : Except Failure Run}
    (h : outcome (exercise engine options origin suite) p = (result, last)) :
    last.session.stage = p.session.stage ∧ last.session.collector = p.session.collector := by
  rw [outcome_exercise] at h
  cases h
  exact ⟨rfl, rfl⟩

/-- While the tests are run the settings of the session stay as they are. -/
theorem settings_of_exercise {engine : Engine σ} {options : RunOptions} {origin : Pathname}
    {suite : Suite} {p last : Progress κ σ τ} {result : Except Failure Run}
    (h : outcome (exercise engine options origin suite) p = (result, last)) :
    last.session.settings = p.session.settings := by
  rw [outcome_exercise] at h
  cases h
  rfl

/-- A session that has been started is started. -/
theorem stage_of_start {collector : Collector κ} {p last : Progress κ σ τ}
    (h : outcome (start collector) p = (.ok (), last)) : last.session.stage = .started := by
  obtain ⟨e | _, hstart, hresult⟩ := start_of_outcome h
  · cases hresult
  · generalize last.session = session, last.world = w at hstart ⊢
    cases Session.starts hstart
    rfl

/-! ## The ways in which a run can end -/

/-- The ways in which a run can end, with the states that its phases leave. -/
inductive Ends (setup : Setup κ σ τ) (options : RunOptions) (before : Progress κ σ τ) :
    Except Failure Summary → Progress κ σ τ → Prop
  /-- Something fails before the session is started. -/
  | unprepared {failure : Failure} {last : Progress κ σ τ}
      (hprepare : outcome (prepare options) before = (.error failure, last)) :
      Ends setup options before (.error failure) last
  /-- The session cannot be started. -/
  | unstarted {origin : Pathname} {relocation : Relocation} {failure : Failure}
      {ready last : Progress κ σ τ}
      (hprepare : outcome (prepare options) before = (.ok (origin, relocation), ready))
      (hstart : outcome (start setup.collector) ready = (.error failure, last)) :
      Ends setup options before (.error failure) last
  /-- The tests cannot be found. -/
  | undiscovered {origin : Pathname} {relocation : Relocation} {error : DiscoveryError}
      {ready started : Progress κ σ τ}
      (hprepare : outcome (prepare options) before = (.ok (origin, relocation), ready))
      (hstart : outcome (start setup.collector) ready = (.ok (), started))
      (hdiscover : setup.engine.discover started.world (testsDirectory options origin)
        = .error error) :
      Ends setup options before
        (.error ⟨.discover (testsDirectory options origin), .discovery error⟩) started
  /-- The session cannot be stopped. -/
  | unstopped {origin : Pathname} {relocation : Relocation} {suite : Suite} {run : Run}
      {failure : Failure} {ready started ran last : Progress κ σ τ}
      (hprepare : outcome (prepare options) before = (.ok (origin, relocation), ready))
      (hstart : outcome (start setup.collector) ready = (.ok (), started))
      (hdiscover : setup.engine.discover started.world (testsDirectory options origin)
        = .ok suite)
      (hexercise : outcome (exercise setup.engine options origin suite) started = (.ok run, ran))
      (hstop : outcome (stop setup.collector) ran = (.error failure, last)) :
      Ends setup options before (.error failure) last
  /-- The session is stopped, and the rest succeeds or fails. -/
  | stopped {origin : Pathname} {relocation : Relocation} {suite : Suite} {run : Run}
      {result : Except Failure Summary} {ready started ran stopped last : Progress κ σ τ}
      (hprepare : outcome (prepare options) before = (.ok (origin, relocation), ready))
      (hstart : outcome (start setup.collector) ready = (.ok (), started))
      (hdiscover : setup.engine.discover started.world (testsDirectory options origin)
        = .ok suite)
      (hexercise : outcome (exercise setup.engine options origin suite) started = (.ok run, ran))
      (hstop : outcome (stop setup.collector) ran = (.ok (), stopped))
      (hconclude : outcome (conclude setup.output options relocation run) stopped
        = (result, last)) :
      Ends setup options before result last

/-- Every run ends in one of the ways. -/
theorem ends (setup : Setup κ σ τ) (options : RunOptions) (before : Progress κ σ τ) :
    Ends setup options before (outcome (run setup options) before).1
      (outcome (run setup options) before).2 := by
  rw [run_eq]
  rcases hprepare : outcome (prepare options) before with ⟨failure | ⟨origin, relocation⟩, ready⟩
  · rw [outcome_bind_error hprepare]
    exact .unprepared hprepare
  rw [outcome_bind_ok hprepare]
  rcases hstart : outcome (start setup.collector) ready with ⟨failure | _, started⟩
  · rw [outcome_bind_error hstart]
    exact .unstarted hprepare hstart
  rw [outcome_bind_ok hstart]
  have hfound := outcome_discover started setup.engine (testsDirectory options origin)
  cases hdiscover : setup.engine.discover started.world (testsDirectory options origin) with
  | error error =>
    rw [hdiscover] at hfound
    rw [outcome_bind_error hfound]
    exact .undiscovered hprepare hstart hdiscover
  | ok suite =>
    rw [hdiscover] at hfound
    rw [outcome_bind_ok hfound]
    -- The tests themselves cannot fail the run.
    have hexercise := outcome_exercise setup.engine options origin suite started
    rw [outcome_bind_ok hexercise]
    rcases hstop : outcome (stop setup.collector) _ with ⟨failure | _, stopped⟩
    · rw [outcome_bind_error hstop]
      exact .unstopped hprepare hstart hdiscover hexercise hstop
    rw [outcome_bind_ok hstop]
    exact .stopped hprepare hstart hdiscover hexercise hstop rfl

/-! ## The steps at which a phase fails -/

/-- A part fails at one of the steps if it fails. -/
abbrev FailsAt {α : Type} (steps : List Step) (part : Part κ σ τ α) : Prop :=
  FailsWith (fun failure => failure.step ∈ steps) part

/-- A step that takes a result fails at that step. -/
theorem step_mem_of_mapError {α ε : Type} {step : Step} {cause : ε → Cause}
    {result : Except ε α} {failure : Failure} {steps : List Step} (hstep : step ∈ steps)
    (h : (result.mapError fun e => ⟨step, cause e⟩) = .error failure) : failure.step ∈ steps := by
  cases result with
  | ok value => cases h
  | error e =>
    cases h
    exact hstep

theorem FailsAt.mono {α : Type} {part : Part κ σ τ α} {steps more : List Step}
    (hpart : FailsAt steps part) (hmore : steps ⊆ more) : FailsAt more part :=
  fun p failure h => hmore (hpart p failure h)

theorem failsAt_setOption (key : String) (value : OptionValue) :
    FailsAt [.configure] (setOption key value : Part κ σ τ Unit) := by
  intro p failure h
  rw [outcome_setOption] at h
  split at h <;> cases h
  exact List.mem_singleton_self _

theorem failsAt_readDirectory : FailsAt [.readDirectory] (readDirectory : Part κ σ τ Pathname) := by
  intro p failure h
  rw [outcome_readDirectory] at h
  exact step_mem_of_mapError (List.mem_singleton_self _) h

theorem failsAt_enterDirectory (root : Pathname) (configuration : String) :
    FailsAt [.enterDirectory] (enterDirectory root configuration : Part κ σ τ Relocation) := by
  intro p failure h
  rw [outcome_enterDirectory] at h
  exact step_mem_of_mapError (List.mem_singleton_self _) h

theorem failsAt_prepare (options : RunOptions) :
    FailsAt [.configure, .readDirectory, .enterDirectory]
      (prepare options : Part κ σ τ (Pathname × Relocation)) := by
  have hoption (key : String) (value : OptionValue) :
      FailsAt [.configure, .readDirectory, .enterDirectory]
        (setOption key value : Part κ σ τ Unit) :=
    (failsAt_setOption key value).mono (by simp)
  refine FailsWith.bind (FailsWith.bind (hoption _ _) fun _ => hoption _ _) fun _ => ?_
  refine FailsWith.bind (failsAt_readDirectory.mono (by simp)) fun origin => ?_
  exact FailsWith.bind ((failsAt_enterDirectory _ _).mono (by simp)) fun _ => failsWith_pure _ _

theorem failsAt_start (collector : Collector κ) :
    FailsAt [.start] (start collector : Part κ σ τ Unit) := by
  intro p failure h
  rw [outcome_start] at h
  exact step_mem_of_mapError (List.mem_singleton_self _) h

theorem failsAt_discover (engine : Engine σ) (directory : Pathname) :
    FailsAt [.discover directory] (discover engine directory : Part κ σ τ Suite) := by
  intro p failure h
  rw [outcome_discover] at h
  exact step_mem_of_mapError (List.mem_singleton_self _) h

theorem failsAt_stop (collector : Collector κ) :
    FailsAt [.stop] (stop collector : Part κ σ τ Unit) := by
  intro p failure h
  rw [outcome_stop] at h
  exact step_mem_of_mapError (List.mem_singleton_self _) h

theorem failsAt_save : FailsAt [.save] (save : Part κ σ τ Pathname) := by
  intro p failure h
  cases hsave : p.session.save p.world with
  | ok saved =>
    rw [outcome_save_ok p hsave] at h
    cases h
  | error e =>
    rw [outcome_save_error p hsave] at h
    cases h
    exact List.mem_singleton_self _

theorem failsAt_writePages : FailsAt [.writePages] (writePages : Part κ σ τ Binary64) := by
  intro p failure h
  rw [outcome_writePages] at h
  exact step_mem_of_mapError (List.mem_singleton_self _) h

theorem failsAt_writeTable (output : Stream τ) :
    FailsAt [.writeTable] (writeTable output : Part κ σ τ Binary64) := by
  intro p failure h
  rw [outcome_writeTable] at h
  exact step_mem_of_mapError (List.mem_singleton_self _) h

theorem failsAt_conclude (output : Stream τ) (options : RunOptions) (relocation : Relocation)
    (run : Run) :
    FailsAt [.save, .writePages, .writeTable]
      (conclude output options relocation run : Part κ σ τ Summary) := by
  refine FailsWith.bind (failsAt_save.mono (by simp)) fun dataFile => ?_
  cases options.reportMode with
  | pages => exact FailsWith.bind (failsAt_writePages.mono (by simp)) fun _ => failsWith_pure _ _
  | table =>
    exact FailsWith.bind ((failsAt_writeTable output).mono (by simp)) fun _ => failsWith_pure _ _

/-- Whether a step finds the tests. -/
def Step.isDiscovery : Step → Bool
  | discover _ => true
  | _ => false

/-- A run has failed because the tests could not be found. -/
def FailsAtDiscovery (result : Except Failure Summary) : Prop :=
  ∃ failure, result = .error failure ∧ failure.step.isDiscovery = true

theorem failsAtDiscovery_error_iff {failure : Failure} :
    FailsAtDiscovery (.error failure) ↔ failure.step.isDiscovery = true := by
  constructor
  · rintro ⟨_, ⟨⟩, hdiscovery⟩
    exact hdiscovery
  · exact fun hdiscovery => ⟨failure, rfl, hdiscovery⟩

theorem not_failsAtDiscovery_ok (summary : Summary) : ¬ FailsAtDiscovery (.ok summary) := by
  rintro ⟨_, ⟨⟩, _⟩

instance (result : Except Failure Summary) : Decidable (FailsAtDiscovery result) :=
  match result with
  | .ok summary => .isFalse (not_failsAtDiscovery_ok summary)
  | .error failure =>
    decidable_of_iff (failure.step.isDiscovery = true) failsAtDiscovery_error_iff.symm

/-- A part that fails at other steps does not fail for want of tests. -/
theorem FailsAt.not_failsAtDiscovery {α : Type} {part : Part κ σ τ α} {steps : List Step}
    (hpart : FailsAt steps part) (hsteps : steps.all (!·.isDiscovery) = true)
    {p last : Progress κ σ τ} {failure : Failure}
    (h : outcome part p = (.error failure, last)) : ¬ FailsAtDiscovery (.error failure) := by
  have hmem : failure.step ∈ steps := hpart p failure (by rw [h])
  rw [failsAtDiscovery_error_iff]
  simpa using List.all_eq_true.1 hsteps failure.step hmem

theorem not_failsAtDiscovery_of_conclude {output : Stream τ} {options : RunOptions}
    {relocation : Relocation} {run : Run} {p last : Progress κ σ τ}
    {result : Except Failure Summary}
    (h : outcome (conclude output options relocation run) p = (result, last)) :
    ¬ FailsAtDiscovery result := by
  cases result with
  | ok summary => exact not_failsAtDiscovery_ok summary
  | error failure =>
    exact (failsAt_conclude output options relocation run).not_failsAtDiscovery rfl h

/-! ## What a phase leaves alone -/

section Prepare

variable {γ : Type} {view : Progress κ σ τ → γ}

/-- Setting an option leaves alone whatever does not depend on the settings. -/
theorem keeps_setOption
    (hsettings : ∀ (p : Progress κ σ τ) (settings : Settings),
      view { p with session := { p.session with settings } } = view p)
    (key : String) (value : OptionValue) : Keeps view (setOption key value) := by
  intro p
  rw [outcome_setOption]
  cases hset : p.session.setOption key value with
  | error e => rfl
  | ok next =>
    obtain ⟨_, settings, _, rfl⟩ := Session.setOption_ok hset
    exact hsettings p settings

/-- As long as the session is not started all is left alone that depends neither on the settings
    nor on the directory worked in. -/
theorem keeps_prepare
    (hsettings : ∀ (p : Progress κ σ τ) (settings : Settings),
      view { p with session := { p.session with settings } } = view p)
    (hrelocate : ∀ (p : Progress κ σ τ) (root : Pathname) (configuration : String),
      view { p with world := (relocate root configuration p.world).2 } = view p)
    (options : RunOptions) : Keeps view (prepare options) := by
  have hoption := keeps_setOption hsettings
  refine Keeps.bind (Keeps.bind (hoption _ _) fun _ => hoption _ _) fun _ => ?_
  refine Keeps.bind (fun p => by rw [outcome_readDirectory]) fun _ => ?_
  refine Keeps.bind (fun p => ?_) fun _ => keeps_pure _ _
  rw [outcome_enterDirectory]
  exact hrelocate p _ _

end Prepare

/-- The collector is left alone as long as the session is not started. -/
theorem keeps_collector_prepare (options : RunOptions) :
    Keeps (·.session.collector) (prepare options : Part κ σ τ (Pathname × Relocation)) :=
  keeps_prepare (fun _ _ => rfl) (fun _ _ _ => rfl) options

/-- A session stays in its stage as long as it is not started. -/
theorem keeps_stage_prepare (options : RunOptions) :
    Keeps (·.session.stage) (prepare options : Part κ σ τ (Pathname × Relocation)) :=
  keeps_prepare (fun _ _ => rfl) (fun _ _ _ => rfl) options

/-- The environment is left alone as long as the session is not started. -/
theorem keeps_env_prepare (options : RunOptions) :
    Keeps (·.world.env) (prepare options : Part κ σ τ (Pathname × Relocation)) :=
  keeps_prepare (fun _ _ => rfl) (fun _ _ _ => env_relocate _ _ _) options

section Conclude

variable {γ : Type} {view : Progress κ σ τ → γ}

/-- Saving leaves alone whatever the written file leaves alone. -/
theorem keeps_save
    (hsave : ∀ (p : Progress κ σ τ) (dataFile : Pathname) (next : World),
      p.session.save p.world = .ok (dataFile, next) → view { p with world := next } = view p) :
    Keeps view save := by
  intro p
  cases hsaved : p.session.save p.world with
  | ok saved =>
    rw [outcome_save_ok p hsaved]
    exact hsave p _ _ hsaved
  | error e => rw [outcome_save_error p hsaved]

/-- Once the session has been stopped all is left alone that saving and the reports leave alone. -/
theorem keeps_conclude {output : Stream τ} {options : RunOptions} (hsave : Keeps view save)
    (hpages : options.reportMode = .pages → Keeps view writePages)
    (htable : options.reportMode = .table → Keeps view (writeTable output))
    (relocation : Relocation) (run : Run) :
    Keeps view (conclude output options relocation run) := by
  refine Keeps.bind hsave fun dataFile => ?_
  cases hmode : options.reportMode with
  | pages => exact Keeps.bind (hpages hmode) fun _ => keeps_pure _ _
  | table => exact Keeps.bind (htable hmode) fun _ => keeps_pure _ _

end Conclude

/-- The session is left alone once it has been stopped. -/
theorem keeps_session_conclude (output : Stream τ) (options : RunOptions) (relocation : Relocation)
    (run : Run) :
    Keeps (·.session) (conclude output options relocation run : Part κ σ τ Summary) :=
  keeps_conclude (keeps_save fun _ _ _ _ => rfl) (fun _ p => by rw [outcome_writePages])
    (fun _ p => by rw [outcome_writeTable]) relocation run

/-- The environment is left alone once the session has been stopped. -/
theorem keeps_env_conclude (output : Stream τ) (options : RunOptions) (relocation : Relocation)
    (run : Run) :
    Keeps (·.world.env) (conclude output options relocation run : Part κ σ τ Summary) := by
  refine keeps_conclude (keeps_save fun _ _ _ hsaved => Session.env_save hsaved) (fun _ p => ?_)
    (fun _ p => by rw [outcome_writeTable]) relocation run
  rw [outcome_writePages]
  exact Session.env_reportPages _ _ _

end Pipeline
end SuiteCoverage
