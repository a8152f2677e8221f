import SuiteCoverage.Proofs.Pipeline.Balance
import SuiteCoverage.Proofs.Pipeline.Recast
import SuiteCoverage.Proofs.Pipeline.Footprint

/-!
# Order in a run

What a run promises whatever its engine and its collector do: effects in one order that end with
the first that fails, a session in the stage that it got to, one report and not the other, and
results that do not depend on what the tests come to. It goes back to the course of a run, to the
ways in which a run can end, and to what each effect leaves alone.

The directory of the long report is left alone in a run with the short one, but for one case:
a data file is written where its name leads, and a link can lead into that directory.
-/

set_option autoImplicit false

namespace SuiteCoverage
namespace Pipeline

variable {κ σ τ : Type}

/-! ## The stage that a run leaves -/

/-- The stage of a session when a step has failed. -/
def Step.stage : Step → Stage
  | configure => .configured
  | readDirectory => .configured
  | enterDirectory => .configured
  | start => .configured
  | discover _ => .started
  | stop => .started
  | save => .stopped
  | writePages => .stopped
  | writeTable => .stopped

/-- The stage in which a run leaves its session. -/
def stageAfter : Except Failure Summary → Stage
  | .ok _ => .stopped
  | .error failure => failure.step.stage

section Stage

variable {setup : Setup κ σ τ} {options : RunOptions} {collector : Collector κ}
  {before p last : Progress κ σ τ} {failure : Failure} {result : Except Failure Summary}

/-- A start that fails leaves the session in its stage. -/
theorem stage_of_start_error (h : outcome (start collector) p = (.error failure, last)) :
    last.session.stage = p.session.stage := by
  obtain ⟨e | _, hstart, hresult⟩ := start_of_outcome h
  · generalize last.session = session, last.world = w at hstart ⊢
    cases Session.starts hstart <;> rfl
  · cases hresult

/-- A session that has been started with success has the boundaries. -/
theorem boundaries_of_start (h : outcome (start collector) p = (.ok (), last)) :
    ∃ boundaries, last.session.settings.boundaries = .ok boundaries := by
  obtain ⟨e | _, hstart, hresult⟩ := start_of_outcome h
  · cases hresult
  · generalize last.session = session, last.world = w at hstart ⊢
    cases Session.starts hstart with
    | begun _ hboundaries _ _ => exact ⟨_, hboundaries⟩

/-- A stop that fails leaves a session started that has the boundaries. -/
theorem stage_of_stop_error {boundaries : List Boundary} (hstage : p.session.stage = .started)
    (hboundaries : p.session.settings.boundaries = .ok boundaries)
    (h : outcome (stop collector) p = (.error failure, last)) :
    last.session.stage = .started := by
  obtain ⟨e | _, hstop, hresult⟩ := stop_of_outcome h
  · generalize last.session = session, last.world = w at hstop ⊢
    cases Session.stops hstop with
    | refused _ hother => exact absurd hstage hother
    | unfinished hstage _ => exact hstage
    | stranded _ _ hmissing =>
      rw [hboundaries] at hmissing
      cases hmissing
  · cases hresult

theorem stage_of_stop (h : outcome (stop collector) p = (.ok (), last)) :
    last.session.stage = .stopped := by
  obtain ⟨e | _, hstop, hresult⟩ := stop_of_outcome h
  · cases hresult
  · generalize last.session = session, last.world = w at hstop ⊢
    cases Session.stops hstop
    rfl

/-- A part that fails at some steps after all of which the stage is the same. -/
theorem FailsAt.stage {α : Type} {part : Part κ σ τ α} {steps : List Step} {stage : Stage}
    (hpart : FailsAt steps part) (hsteps : ∀ step ∈ steps, step.stage = stage)
    (h : outcome part p = (.error failure, last)) : failure.step.stage = stage :=
  hsteps _ (hpart p failure (by rw [h]))

/-- However a run ends, the stage tells how far it got. -/
theorem stage_of_ends (hends : Ends setup options before result last)
    (hstage : before.session.stage = .configured) : last.session.stage = stageAfter result := by
  have hprepared {ready : Progress κ σ τ} {prepared : Except Failure (Pathname × Relocation)}
      (hprepare : outcome (prepare options) before = (prepared, ready)) :
      ready.session.stage = .configured :=
    ((keeps_stage_prepare options).eq_of_outcome hprepare).trans hstage
  cases hends with
  | unprepared hprepare =>
    exact (hprepared hprepare).trans
      ((failsAt_prepare options).stage (by simp [Step.stage]) hprepare).symm
  | unstarted hprepare hstart =>
    exact ((stage_of_start_error hstart).trans (hprepared hprepare)).trans
      ((failsAt_start _).stage (by simp [Step.stage]) hstart).symm
  | undiscovered _ hstart _ => exact stage_of_start hstart
  | unstopped _ hstart _ hexercise hstop =>
    obtain ⟨boundaries, hboundaries⟩ := boundaries_of_start hstart
    have hran := (session_of_exercise hexercise).1.trans (stage_of_start hstart)
    rw [← settings_of_exercise hexercise] at hboundaries
    exact (stage_of_stop_error hran hboundaries hstop).trans
      ((failsAt_stop _).stage (by simp [Step.stage]) hstop).symm
  | stopped _ _ _ _ hstop hconclude =>
    have hsame := (keeps_session_conclude _ _ _ _).eq_of_outcome hconclude
    rw [show last.session.stage = _ from congrArg Session.stage hsame, stage_of_stop hstop]
    cases result with
    | ok summary => rfl
    | error failure =>
      exact ((failsAt_conclude _ _ _ _).stage (by simp [Step.stage]) hconclude).symm

end Stage

/-! ## The stream -/

section Output

variable {setup : Setup κ σ τ} {options : RunOptions}

/-- A run with the long report leaves the stream alone. -/
theorem keeps_output_run (hpages : options.reportMode = .pages) :
    Keeps (·.output) (run setup options) := by
  rw [run_eq]
  refine Keeps.bind (keeps_prepare (fun _ _ => rfl) (fun _ _ _ => rfl) options) fun origin => ?_
  refine Keeps.bind (fun p => by rw [outcome_start]) fun _ => ?_
  refine Keeps.bind (fun p => by rw [outcome_discover]) fun suite => ?_
  refine Keeps.bind (fun p => by rw [outcome_exercise]) fun run => ?_
  refine Keeps.bind (fun p => by rw [outcome_stop]) fun _ => ?_
  exact keeps_conclude (keeps_save fun _ _ _ _ => rfl) (fun _ p => by rw [outcome_writePages])
    (fun htable => by rw [hpages] at htable; cases htable) _ _

/-- A run with the long report does not use the stream at all. -/
theorem run_with_other_stream (hpages : options.reportMode = .pages) (output : Stream τ) :
    run { setup with output } options = run setup options := by
  simp only [run_eq, conclude, hpages]

end Output

/-! ## Order in a run -/

namespace Course

variable {setup : Setup κ σ τ} {options : RunOptions} {before last : Progress κ σ τ}
  {result : Except Failure Summary} {moments : List (Moment κ σ τ)} {m : Moment κ σ τ}

/-- The data file stays the same as long as a run goes on. -/
theorem dataFile (h : Course setup options before result last moments) (hm : m ∈ moments) :
    m.before.session.settings.dataFile = before.session.settings.dataFile := by
  obtain ⟨_, _, hcarried, _, _⟩ := h.exists_carried
  obtain ⟨_, _, _, hfront, _⟩ := hcarried.split hm
  exact hfront.keeps (·.session.settings.dataFile) fun _ _ hhappens => hhappens.dataFile

/-- The data file is written in the directory that has been entered. -/
theorem currentDirectory_of_save (h : Course setup options before result last moments)
    (hstays : setup.StaysPut) (hm : m ∈ moments) {dataFile : Pathname}
    (heffect : m.effect = .save dataFile) :
    ∃ relocation, .enter relocation ∈ moments.map Moment.effect ∧
      m.before.world.currentDirectory = .ok relocation.current := by
  obtain ⟨found, _, hcarried, hfirst, _⟩ := h.exists_carried
  obtain ⟨front, rest, rfl, hfront, _⟩ := hcarried.split hm
  have hbefore : front.map Moment.effect ++ [.save dataFile] <+: sequence options found := by
    refine List.IsPrefix.trans ⟨rest.map Moment.effect, ?_⟩ hfirst
    simp [heffect]
  have heffects := take_of_save hbefore
  refine ⟨found.relocation, ?_, hfront.currentDirectory_of_save hstays heffects⟩
  simp [heffects, sequence]

end Course

/-- What is promised of a run with the data file that is usual. -/
structure Orderly (setup : Setup κ σ τ) (options : RunOptions) (before : Progress κ σ τ)
    (result : Except Failure Summary) (last : Progress κ σ τ) (moments : List (Moment κ σ τ)) :
    Prop where
  /-- Its effects are the first of all effects, in their order, up to the one that fails. -/
  course : Course setup options before result last moments
  /-- No effect comes twice. -/
  once : (moments.map Moment.effect).Nodup
  /-- The run fails with the effect that fails, and its failure names it. -/
  failing : ∀ m ∈ moments, ∀ failure, m.result = .error failure →
    result = .error failure ∧ m.effect.step? options.reportMode = some failure.step
  /-- The stage of the session tells how far the run got. -/
  stage : last.session.stage = stageAfter result
  /-- What is saved is the measurement. -/
  saved : ∀ m ∈ moments, ∀ dataFile, m.effect = .save dataFile → m.result = .ok () →
    dataFile = Settings.defaultDataFile ∧ ∃ measured,
      m.before.session.measurement = .ok measured ∧
      m.before.world.writeText dataFile measured.toText = .ok m.after.world
  /-- It is saved in the directory that has been entered, if the engine and the collector stay
      there. -/
  place : setup.StaysPut → ∀ m ∈ moments, ∀ dataFile, m.effect = .save dataFile →
    ∃ relocation, .enter relocation ∈ moments.map Moment.effect ∧
      m.before.world.currentDirectory = .ok relocation.current
  /-- With the short report, what the run does on its own leaves alone whatever the data file does
      not lead to. -/
  spared : options.reportMode = .table → ∀ m ∈ moments, m.effect.isOwn = true →
    ∀ loc, (m.effect.isSave = true → ¬ m.before.world.Reaches Settings.defaultDataFile loc) →
      m.after.world.disk.node? loc = m.before.world.disk.node? loc
  /-- That is so of the directory of the long report, unless there is a link or a file with other
      names in the place of the data file. -/
  pagesSpared : options.reportMode = .table → ∀ m ∈ moments, m.effect.isOwn = true →
    ∀ here, m.before.world.cwd = .ofLocation here →
      m.before.world.IsPlain (here ++ [Settings.defaultDataFile.spelling]) →
      m.after.world.disk.node? (here ++ [Artifact.pages])
        = m.before.world.disk.node? (here ++ [Artifact.pages])

/-- A run is orderly. -/
theorem Course.orderly {setup : Setup κ σ τ} {options : RunOptions} {before last : Progress κ σ τ}
    {result : Except Failure Summary} {moments : List (Moment κ σ τ)}
    (h : Course setup options before result last moments)
    (hdata : before.session.settings.dataFile = Settings.defaultDataFile)
    (hstage : last.session.stage = stageAfter result) :
    Orderly setup options before result last moments := by
  obtain ⟨found, carried, hcarried, hfirst, hfails⟩ := h.exists_carried
  have hhappens : ∀ m ∈ moments, m.Happens setup options := fun m hm =>
    (hcarried.split hm).elim fun _ ⟨_, _, _, hhappens⟩ => hhappens
  have hfile : ∀ m ∈ moments, m.before.session.settings.dataFile = Settings.defaultDataFile :=
    fun m hm => (h.dataFile hm).trans hdata
  have hspared (htable : options.reportMode = .table) (m : Moment κ σ τ) (hm : m ∈ moments)
      (hown : m.effect.isOwn = true) (loc : Location)
      (hsave : m.effect.isSave = true →
        ¬ m.before.world.Reaches Settings.defaultDataFile loc) :
      m.after.world.disk.node? loc = m.before.world.disk.node? loc :=
    (hhappens m hm).node? htable hown ((hfile m hm).symm ▸ hsave)
  refine
    { course := h
      once := (nodup_sequence options found).sublist hfirst.sublist
      failing := fun m hm failure hfailed =>
        ⟨hfails _ (hcarried.result_of_failed hm hfailed), (hhappens m hm).step hfailed⟩
      stage := hstage
      saved := fun m hm dataFile heffect hok => ?_
      place := fun hstays m hm dataFile heffect => h.currentDirectory_of_save hstays hm heffect
      spared := hspared
      pagesSpared := fun htable m hm hown here hcwd hplain => ?_ }
  · obtain ⟨hname, hsaved⟩ := (hhappens m hm).saved heffect hok
    exact ⟨hname.trans (hfile m hm), hsaved⟩
  · refine hspared htable m hm hown _ fun _ => ?_
    exact World.not_reaches_beside rfl rfl hcwd hplain (by decide)

/-- A run of a configured session that saves to the usual data file is orderly: its effects come in
    their order, each at most once and none after one that fails, and with the short report the
    directory of the long one is left alone unless the data file leads there. Besides, the
    collector is asked to begin and to finish at most once each; with the long report the stream
    is not used; with another engine that is as good all is the same but for what came of the
    tests; and the exit status tells of that if the policy wants it and not otherwise. -/
theorem effects_in_order (setup : Setup κ σ τ) (options : RunOptions) (before : Progress κ σ τ)
    (hstage : before.session.stage = .configured)
    (hdata : before.session.settings.dataFile = Settings.defaultDataFile) :
    let ran := outcome (run setup options) before
    let watched := outcome (run setup.watched options) (before.watched [])
    (∃ moments, Orderly setup options before ran.1 ran.2 moments) ∧
    (watched.1 = ran.1 ∧ watched.2.unwatched = ran.2 ∧ CallsOf ran.1 watched.2.calls) ∧
    (options.reportMode = .pages → ran.2.output = before.output ∧
      ∀ output : Stream τ, outcome (run { setup with output } options) before = ran) ∧
    (∀ (σ' : Type) (other : Engine σ') (console : σ'),
      Replaces setup options before other console →
      ∃ judged shown,
        outcome (run ⟨other, setup.collector, setup.output⟩ options) (before.withConsole console)
          = (judged, ran.2.withConsole shown) ∧
        judged.map Summary.unjudged = ran.1.map Summary.unjudged) ∧
    ∀ summary policy, ran.1 = .ok summary →
      summary.exitCode policy
        = if policy = .failOnFailure ∧ summary.run.isSuccessful = false then 1 else 0 := by
  intro ran watched
  have hends : Ends setup options before ran.1 ran.2 := ends setup options before
  refine ⟨?_, ?_, fun hpages => ⟨?_, fun output => ?_⟩, ?_, fun summary policy _ => ?_⟩
  · obtain ⟨moments, hcourse⟩ := course setup options before
    exact ⟨moments, hcourse.orderly hdata (stage_of_ends hends hstage)⟩
  · have hsame : ran = (watched.1, watched.2.unwatched) :=
      mirrors_unwatched setup options (before.watched [])
    rw [hsame]
    exact ⟨rfl, rfl, callsOf_of_ends (ends setup.watched options (before.watched [])) rfl⟩
  · exact keeps_output_run hpages before
  · rw [run_with_other_stream hpages]
  · exact fun σ' other console hreplaces => run_with_other_engine hreplaces hends
  · cases policy <;> cases hsuccess : summary.run.isSuccessful <;>
      simp [Summary.exitCode, Run.exitCode, hsuccess]

/-! ### A run in an empty directory, and one with a link -/

/-- An engine that finds no tests, and whose runs come to something all the same. -/
def idleEngine (outcomes : List Outcome) : Engine Unit where
  discover _ _ := .ok ⟨[]⟩
  run _ _ w s := (⟨outcomes⟩, w, s)

/-- A collector that counts nothing. -/
def idleCollector : Collector Unit where
  begin _ s w := (.ok (), s, w)
  finish _ s w := (.ok [], s, w)

/-- An engine and a collector that do nothing at all. -/
def idle : Setup Unit Unit String := ⟨idleEngine [], idleCollector, Stream.memory⟩

/-- A run that has not begun. -/
def atRest (w : World) : Progress Unit Unit String :=
  ⟨.ofSettings (.ofSource [Arguments.defaultSource]) (), w, (), ""⟩

/-- An engine that comes to a failed test. -/
def failingEngine : Engine Unit := idleEngine [⟨"test_a", .failed, ""⟩]

/-- In the empty directory all nine effects succeed, and a failed test shows in the exit status and
    nowhere else. -/
theorem effects_in_order_in_empty_directory :
    (atRest emptyHome).session.stage = .configured ∧
    (atRest emptyHome).session.settings.dataFile = Settings.defaultDataFile ∧
    (∃ moments, Orderly idle (runIn none) (atRest emptyHome)
        (outcome (run idle (runIn none)) (atRest emptyHome)).1
        (outcome (run idle (runIn none)) (atRest emptyHome)).2 moments ∧ moments.length = 9) ∧
    ∃ summary,
      outcome (run ⟨failingEngine, idleCollector, Stream.memory⟩ (runIn none)) (atRest emptyHome)
        = (.ok summary, (outcome (run idle (runIn none)) (atRest emptyHome)).2) ∧
      summary.exitCode .failOnFailure = 1 ∧ summary.exitCode .ignoreFailures = 0 := by
  obtain ⟨⟨moments, horderly⟩, _, _, hother, _⟩ :=
    effects_in_order idle (runIn none) (atRest emptyHome) rfl rfl
  refine ⟨rfl, rfl, ⟨moments, horderly, horderly.course.length_of_ok (by decide +kernel)⟩, ?_⟩
  have hreplaces : Replaces idle (runIn none) (atRest emptyHome) failingEngine () := by
    refine fun _ _ _ _ _ _ => ⟨rfl, fun suite run ran _ hexercise => ?_⟩
    cases hexercise
    rfl
  obtain ⟨judged, _, hran, _⟩ := hother Unit failingEngine () hreplaces
  have hcodes : judged.toOption.map
      (fun summary => (summary.exitCode .failOnFailure, summary.exitCode .ignoreFailures))
        = some (1, 0) := by
    rw [← show _ = judged from congrArg Prod.fst hran]
    decide +kernel
  cases judged with
  | error failure => cases hcodes
  | ok summary =>
    have hpair := Option.some.inj hcodes
    exact ⟨summary, hran, congrArg Prod.fst hpair, congrArg Prod.snd hpair⟩

/-- The same directory, with a link in the place of the data file that leads into the directory of
    the long report. -/
def linkedHome : World :=
  { emptyHome with
    disk := ⟨[("home", .directory (.new ⟨0o755⟩ 0)
      [(".coverage", .link "coverage_html_report/data"),
        ("coverage_html_report", .directory (.new ⟨0o755⟩ 0) [])])]⟩ }

/-- Through that link a run with the short report writes into the directory of the long one, with
    an engine and a collector that touch nothing. -/
theorem pages_changed_through_link :
    (runIn none).reportMode = .table ∧
    (atRest linkedHome).session.stage = .configured ∧
    (atRest linkedHome).session.settings.dataFile = Settings.defaultDataFile ∧
    (∀ directory s w, (idle.collector.begin directory s w).2.2 = w) ∧
    (∀ suite verbosity w s, (idle.engine.run suite verbosity w s).2.1 = w) ∧
    (∀ objects s w, (idle.collector.finish objects s w).2.2 = w) ∧
    (outcome (run idle (runIn none)) (atRest linkedHome)).1.isOk = true ∧
    (linkedHome.disk.entries? ["home", Artifact.pages]).map Entries.names = some [] ∧
    ((outcome (run idle (runIn none)) (atRest linkedHome)).2.world.disk.entries?
      ["home", Artifact.pages]).map Entries.names = some ["data"] := by
  refine ⟨rfl, rfl, rfl, fun _ _ _ => rfl, fun _ _ _ _ => rfl, fun _ _ _ => rfl, ?_, ?_, ?_⟩ <;>
    decide +kernel

end Pipeline
end SuiteCoverage
