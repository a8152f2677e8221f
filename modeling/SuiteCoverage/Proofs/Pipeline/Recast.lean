import SuiteCoverage.Proofs.Pipeline.Phases
import SuiteCoverage.Proofs.Session.Replay

/-!
# Runs with other collectors and consoles

A run looks neither into its collector nor into its console, whatever they are. So with others in
their places (`Progress.recast`) all phases do the same that do not ask them for anything.
-/

set_option autoImplicit false

namespace SuiteCoverage
namespace Pipeline

variable {κ κ' σ σ' τ : Type}

/-- A run in progress with another collector and another console. -/
def Progress.recast (collector : κ → κ') (console : σ → σ') (p : Progress κ σ τ) :
    Progress κ' σ' τ :=
  ⟨p.session.withCollector (collector p.session.collector), p.world, console p.console, p.output⟩

variable (collector : κ → κ') (console : σ → σ')

theorem mirrors_setOption (key : String) (value : OptionValue) :
    Mirrors (Progress.recast (τ := τ) collector console) (setOption key value)
      (setOption key value) := by
  intro p
  have hset : (p.recast collector console).session.setOption key value
      = (p.session.setOption key value).map (·.withCollector (collector p.session.collector)) :=
    p.session.setOption_withCollector _ key value
  rw [outcome_setOption, outcome_setOption, hset]
  cases hnext : p.session.setOption key value with
  | error e => rfl
  | ok next =>
    obtain ⟨_, settings, _, rfl⟩ := Session.setOption_ok hnext
    rfl

/-- Before the start neither the collector nor the console is asked for anything. -/
theorem mirrors_prepare (options : RunOptions) :
    Mirrors (Progress.recast (τ := τ) collector console) (prepare options) (prepare options) := by
  have hoption := mirrors_setOption (τ := τ) collector console
  refine Mirrors.bind (Mirrors.bind (hoption _ _) fun _ => hoption _ _) fun _ => ?_
  refine Mirrors.bind (fun p => ?_) fun origin => ?_
  · rw [outcome_readDirectory, outcome_readDirectory]
    rfl
  · refine Mirrors.bind (fun p => ?_) fun relocation p => rfl
    rw [outcome_enterDirectory, outcome_enterDirectory]
    rfl

/-- Nor is it after the stop. -/
theorem mirrors_conclude (output : Stream τ) (options : RunOptions) (relocation : Relocation)
    (run : Run) :
    Mirrors (Progress.recast collector console) (conclude output options relocation run)
      (conclude output options relocation run) := by
  refine Mirrors.bind (fun p => ?_) fun dataFile => ?_
  · have hsame : (p.recast collector console).session.save (p.recast collector console).world
        = p.session.save p.world := rfl
    cases hsave : p.session.save p.world with
    | ok saved =>
      rw [outcome_save_ok p hsave, outcome_save_ok _ (hsame.trans hsave)]
      rfl
    | error e => rw [outcome_save_error p hsave, outcome_save_error _ (hsame.trans hsave)]
  cases options.reportMode with
  | pages =>
    refine Mirrors.bind (fun p => ?_) fun percent p => rfl
    rw [outcome_writePages, outcome_writePages]
    rfl
  | table =>
    refine Mirrors.bind (fun p => ?_) fun percent p => rfl
    rw [outcome_writeTable, outcome_writeTable]
    rfl

/-! ### Collectors that can be seen through -/

section Seen

variable {view : κ → κ'} {collector : Collector κ} {image : Collector κ'}

theorem mirrors_start (h : collector.Mirrors view image) :
    Mirrors (Progress.recast (σ := σ) (τ := τ) view id) (start collector) (start image) := by
  intro p
  have hstart := Session.start_seen h p.session p.world
  rw [Session.seen] at hstart
  rw [outcome_start, outcome_start, Progress.recast, hstart]
  rfl

theorem mirrors_stop (h : collector.Mirrors view image) :
    Mirrors (Progress.recast (σ := σ) (τ := τ) view id) (stop collector) (stop image) := by
  intro p
  have hstop := Session.stop_seen h p.session p.world
  rw [Session.seen] at hstop
  rw [outcome_stop, outcome_stop, Progress.recast, hstop]
  rfl

/-- A run does what it is seen to do, if its collector does. -/
theorem mirrors_run (h : collector.Mirrors view image) (engine : Engine σ) (output : Stream τ)
    (options : RunOptions) :
    Mirrors (Progress.recast view id) (run ⟨engine, collector, output⟩ options)
      (run ⟨engine, image, output⟩ options) := by
  rw [run_eq, run_eq]
  refine Mirrors.bind (mirrors_prepare view id options) fun origin => ?_
  refine Mirrors.bind (mirrors_start h) fun _ => ?_
  refine Mirrors.bind (fun p => ?_) fun suite => ?_
  · rw [outcome_discover, outcome_discover]
    rfl
  refine Mirrors.bind (fun p => ?_) fun run => ?_
  · rw [outcome_exercise, outcome_exercise]
    rfl
  exact Mirrors.bind (mirrors_stop h) fun _ => mirrors_conclude view id output options origin.2 run

end Seen

end Pipeline

/-!
## Runs with other engines

What the tests come to does not bear on what is measured, saved or reported. With another engine
that finds the same tests a run is the same but for what came of them, as long as the collector
finishes alike. Both are asked for only in the state in which the run asks for them.
-/

/-- A session that is started stops in the same way in two worlds in which its collector finishes
    in the same way. -/
theorem Session.stop_eq_of_finish {κ : Type} {collector : Collector κ} {session : Session κ}
    {w other : World} (hstage : session.stage = .started)
    (hfinish : collector.finish session.objects session.collector other
      = collector.finish session.objects session.collector w) :
    session.stop collector other = session.stop collector w := by
  unfold stop expect
  rw [if_pos hstage, hfinish]

namespace Pipeline

variable {κ σ τ : Type}

/-- A run in progress with another console. -/
def Progress.withConsole {σ' : Type} (p : Progress κ σ τ) (console : σ') : Progress κ σ' τ :=
  ⟨p.session, p.world, console, p.output⟩

/-- A summary that does not tell what came of the tests. -/
def Summary.unjudged (summary : Summary) : Summary := { summary with run := ⟨[]⟩ }

/-- Another engine is as good in a run: where the tests are looked for it finds the same, and when
    it has run them the collector finishes as it does in the run. -/
def Replaces {σ' : Type} (setup : Setup κ σ τ) (options : RunOptions) (before : Progress κ σ τ)
    (other : Engine σ') (console : σ') : Prop :=
  ∀ origin relocation ready started,
    outcome (prepare options) before = (.ok (origin, relocation), ready) →
    outcome (start setup.collector) ready = (.ok (), started) →
    other.discover started.world (testsDirectory options origin)
        = setup.engine.discover started.world (testsDirectory options origin) ∧
      ∀ suite run ran,
        setup.engine.discover started.world (testsDirectory options origin) = .ok suite →
        outcome (exercise setup.engine options origin suite) started = (.ok run, ran) →
        setup.collector.finish ran.session.objects ran.session.collector
            (other.run suite options.verbosity started.world console).2.1
          = setup.collector.finish ran.session.objects ran.session.collector ran.world

/-- What came of the tests does not bear on what comes after the stop. -/
theorem unjudged_conclude (output : Stream τ) (options : RunOptions) (relocation : Relocation)
    (run : Run) (p : Progress κ σ τ) :
    outcome (conclude output options relocation ⟨[]⟩) p
      = ((outcome (conclude output options relocation run) p).1.map Summary.unjudged,
        (outcome (conclude output options relocation run) p).2) := by
  unfold conclude
  rw [outcome_bind, outcome_bind]
  rcases outcome save p with ⟨e | dataFile, saved⟩
  · rfl
  cases options.reportMode with
  | pages =>
    simp only [outcome_bind]
    rcases outcome writePages saved with ⟨e | percent, reported⟩ <;> rfl
  | table =>
    simp only [outcome_bind]
    rcases outcome (writeTable output) saved with ⟨e | percent, reported⟩ <;> rfl

section Engines

variable {σ' : Type} {setup : Setup κ σ τ} {options : RunOptions} {before last : Progress κ σ τ}
  {result : Except Failure Summary}

/-- A stop does not look at the console. -/
theorem stop_of_alike {collector : Collector κ} {p : Progress κ σ τ} {twin : Progress κ σ' τ}
    {stopped : Except Failure Unit} (hstop : outcome (stop collector) p = (stopped, last))
    (hsame : twin.session.stop collector twin.world = p.session.stop collector p.world)
    (houtput : twin.output = p.output) :
    outcome (stop collector) twin = (stopped, last.withConsole twin.console) := by
  rw [outcome_stop] at hstop ⊢
  cases hstop
  simp only [hsame, houtput, Progress.withConsole]

/-- Whichever engine has run the tests, the session is stopped alike. -/
theorem stop_after_other_engine {other : Engine σ'} {console : σ'} {origin : Pathname}
    {suite : Suite} {started ran : Progress κ σ τ} {run : Run} {stopped : Except Failure Unit}
    (hfinish : setup.collector.finish ran.session.objects ran.session.collector
        (other.run suite options.verbosity started.world console).2.1
      = setup.collector.finish ran.session.objects ran.session.collector ran.world)
    (hstage : started.session.stage = .started)
    (hexercise : outcome (exercise setup.engine options origin suite) started = (.ok run, ran))
    (hstop : outcome (stop setup.collector) ran = (stopped, last)) :
    ∃ judged reran shown,
      outcome (exercise other options origin suite) (started.withConsole console)
        = (.ok judged, reran) ∧
      outcome (stop setup.collector) reran = (stopped, last.withConsole shown) := by
  have hran := (session_of_exercise hexercise).1.trans hstage
  have hother := outcome_exercise other options origin suite (started.withConsole console)
  rw [outcome_exercise] at hexercise
  cases hexercise
  refine ⟨_, _, _, hother, stop_of_alike hstop ?_ rfl⟩
  exact Session.stop_eq_of_finish hran hfinish

/-- With another engine that is as good a run ends as before but for what came of the tests. -/
theorem run_with_other_engine {other : Engine σ'} {console : σ'}
    (hreplaces : Replaces setup options before other console)
    (hends : Ends setup options before result last) :
    ∃ judged shown,
      outcome (run ⟨other, setup.collector, setup.output⟩ options) (before.withConsole console)
        = (judged, last.withConsole shown) ∧
      judged.map Summary.unjudged = result.map Summary.unjudged := by
  have hprepared {prepared : Except Failure (Pathname × Relocation)} {ready : Progress κ σ τ}
      (hprepare : outcome (prepare options) before = (prepared, ready)) :
      outcome (prepare options) (before.withConsole console)
        = (prepared, ready.withConsole console) := by
    have hmirrors := mirrors_prepare id (fun _ => console) options before
    rw [hprepare] at hmirrors
    exact hmirrors
  have hstarted {begun : Except Failure Unit} {ready started : Progress κ σ τ}
      (hstart : outcome (start setup.collector) ready = (begun, started)) :
      outcome (start setup.collector) (ready.withConsole console)
        = (begun, started.withConsole console) := by
    rw [outcome_start] at hstart ⊢
    cases hstart
    rfl
  have hdiscovered {started : Progress κ σ τ} {directory : Pathname}
      {found : Except DiscoveryError Suite}
      (hfound : other.discover started.world directory = found) :
      outcome (discover other directory) (started.withConsole console)
        = (found.mapError fun e => ⟨.discover directory, .discovery e⟩,
          started.withConsole console) := by
    rw [outcome_discover, ← hfound]
    rfl
  rw [run_eq]
  cases hends with
  | unprepared hprepare =>
    rw [outcome_bind_error (hprepared hprepare)]
    exact ⟨_, console, rfl, rfl⟩
  | unstarted hprepare hstart =>
    rw [outcome_bind_ok (hprepared hprepare), outcome_bind_error (hstarted hstart)]
    exact ⟨_, console, rfl, rfl⟩
  | undiscovered hprepare hstart hfound =>
    obtain ⟨hsame, _⟩ := hreplaces _ _ _ _ hprepare hstart
    rw [outcome_bind_ok (hprepared hprepare), outcome_bind_ok (hstarted hstart),
      outcome_bind_error (hdiscovered (hsame.trans hfound))]
    exact ⟨_, console, rfl, rfl⟩
  | unstopped hprepare hstart hfound hexercise hstop =>
    obtain ⟨hsame, hfinish⟩ := hreplaces _ _ _ _ hprepare hstart
    obtain ⟨judged, reran, shown, hother, hstopped⟩ := stop_after_other_engine
      (hfinish _ _ _ hfound hexercise) (stage_of_start hstart) hexercise hstop
    rw [outcome_bind_ok (hprepared hprepare), outcome_bind_ok (hstarted hstart),
      outcome_bind_ok (hdiscovered (hsame.trans hfound)), outcome_bind_ok hother,
      outcome_bind_error hstopped]
    exact ⟨_, shown, rfl, rfl⟩
  | @stopped _ relocation _ run _ _ _ _ stopped _ hprepare hstart hfound hexercise hstop
      hconclude =>
    obtain ⟨hsame, hfinish⟩ := hreplaces _ _ _ _ hprepare hstart
    obtain ⟨judged, reran, shown, hother, hstopped⟩ := stop_after_other_engine
      (hfinish _ _ _ hfound hexercise) (stage_of_start hstart) hexercise hstop
    rw [outcome_bind_ok (hprepared hprepare), outcome_bind_ok (hstarted hstart),
      outcome_bind_ok (hdiscovered (hsame.trans hfound)), outcome_bind_ok hother,
      outcome_bind_ok hstopped]
    have hmirrors := mirrors_conclude id (fun _ => shown) setup.output options relocation judged
      stopped
    have hone := unjudged_conclude setup.output options relocation run stopped
    have hother := unjudged_conclude setup.output options relocation judged stopped
    rw [hconclude] at hone
    rw [hone] at hother
    obtain ⟨hresult, hlast⟩ := Prod.mk.inj hother
    refine ⟨_, shown, hmirrors.trans (Prod.ext rfl ?_), hresult.symm⟩
    exact congrArg (Progress.withConsole · shown) hlast.symm

end Engines

end Pipeline
end SuiteCoverage
