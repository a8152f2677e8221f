import SuiteCoverage.Program
import SuiteCoverage.Proofs.Llvm.Borrowing
import SuiteCoverage.Proofs.Pipeline.Recast

/-!
# Beginning and finishing in a run

A collector that has begun in a run ought to be asked to finish in it, once. It is, in every run
but one whose tests cannot be found: that is the only step between the start and the stop that
can fail, and a run ends with the first step that fails. So there a collector is left begun, and
the recorder still has the variable that it has borrowed.

Runs are watched to tell what their collectors are asked for. A watched run does what the run
does, so nothing that is told depends on being watched.
-/

set_option autoImplicit false

namespace SuiteCoverage
namespace Pipeline

variable {κ σ τ : Type}

/-! ## Runs that are watched -/

/-- What a run is made with, and a list of the calls to the collector. -/
def Setup.watched (setup : Setup κ σ τ) : Setup (κ × List Call) σ τ :=
  ⟨setup.engine, setup.collector.watched, setup.output⟩

namespace Progress

/-- A run in progress whose collector has been called so far as the list says. -/
def watched (p : Progress κ σ τ) (calls : List Call) : Progress (κ × List Call) σ τ :=
  ⟨p.session.watched calls, p.world, p.console, p.output⟩

/-- A watched run in progress, without the list. -/
def unwatched (p : Progress (κ × List Call) σ τ) : Progress κ σ τ :=
  ⟨p.session.unwatched, p.world, p.console, p.output⟩

/-- The calls that have been made so far. -/
def calls (p : Progress (κ × List Call) σ τ) : List Call := p.session.collector.2

end Progress

open Progress

/-! ## A watched run does what the run does -/

/-- A watched run does what the run does. -/
theorem mirrors_unwatched (setup : Setup κ σ τ) (options : RunOptions) :
    Mirrors Progress.unwatched (run setup.watched options) (run setup options) :=
  mirrors_run setup.collector.mirrors_watched setup.engine setup.output options

/-! ## What a run calls its collector for -/

section Calls

variable {collector : Collector κ} {p last : Progress (κ × List Call) σ τ}

/-- Nothing is called for before the start. -/
theorem calls_of_prepare {options : RunOptions} {result : Except Failure (Pathname × Relocation)}
    (h : outcome (prepare options) p = (result, last)) : last.calls = p.calls :=
  congrArg Prod.snd ((keeps_collector_prepare options).eq_of_outcome h)

/-- Nothing is called for after the stop. -/
theorem calls_of_conclude {output : Stream τ} {options : RunOptions} {relocation : Relocation}
    {run : Run} {result : Except Failure Summary}
    (h : outcome (conclude output options relocation run) p = (result, last)) :
    last.calls = p.calls :=
  congrArg (·.collector.2) ((keeps_session_conclude output options relocation run).eq_of_outcome h)

/-- A start asks the collector to begin, unless it fails before. -/
theorem calls_of_start {result : Except Failure Unit}
    (h : outcome (start collector.watched) p = (result, last)) :
    ∃ made, last.calls = p.calls ++ made ∧
      ((made = [] ∧ result.isOk = false) ∨ made = [.begin result.isOk]) := by
  obtain ⟨made, hmade, hwatched⟩ := p.session.start_watched collector p.world
  rw [outcome_start, hwatched] at h
  cases h
  refine ⟨made, rfl, ?_⟩
  cases hstart : (p.session.unwatched.start collector p.world).1
  all_goals
    rw [hstart] at hmade
    exact hmade

/-- A start that succeeds has asked the collector to begin. -/
theorem calls_of_start_ok (h : outcome (start collector.watched) p = (.ok (), last)) :
    last.calls = p.calls ++ [.begin true] := by
  obtain ⟨made, hlast, ⟨_, hfailed⟩ | rfl⟩ := calls_of_start h
  · cases hfailed
  · exact hlast

/-- Nothing is called for while the tests are run, and a stop asks the collector to finish if the
    session is started. -/
theorem calls_of_stop {engine : Engine σ} {options : RunOptions} {origin : Pathname}
    {suite : Suite} {exercised : Except Failure Run} {stopped : Except Failure Unit}
    {ran : Progress (κ × List Call) σ τ} (hstage : p.session.stage = .started)
    (hexercise : outcome (exercise engine options origin suite) p = (exercised, ran))
    (hstop : outcome (stop collector.watched) ran = (stopped, last)) :
    ∃ succeeded, last.calls = p.calls ++ [.finish succeeded] := by
  obtain ⟨hran, hcollector⟩ := session_of_exercise hexercise
  have hcalls : ran.calls = p.calls := congrArg Prod.snd hcollector
  obtain ⟨made, hmade, hwatched⟩ := ran.session.stop_watched collector ran.world
  rw [outcome_stop, hwatched] at hstop
  cases hstop
  rw [← hcalls]
  obtain ⟨_, hother⟩ | ⟨_, succeeded, rfl⟩ := hmade
  · exact absurd (hran.trans hstage) hother
  · exact ⟨succeeded, rfl⟩

end Calls

/-- The calls that a run makes: none, or a begin that fails; a begin alone, if the tests cannot be
    found; or a begin and a finish. -/
inductive CallsOf (result : Except Failure Summary) : List Call → Prop
  | unstarted {made : List Call} (hmade : made = [] ∨ made = [.begin false])
      (hfailed : result.isOk = false) (hresult : ¬ FailsAtDiscovery result) : CallsOf result made
  | undiscovered (hresult : FailsAtDiscovery result) : CallsOf result [.begin true]
  | stopped (succeeded : Bool) (hresult : ¬ FailsAtDiscovery result) :
      CallsOf result [.begin true, .finish succeeded]

/-- However a run ends, that is what it has called its collector for. -/
theorem callsOf_of_ends {setup : Setup κ σ τ} {options : RunOptions}
    {before last : Progress (κ × List Call) σ τ} {result : Except Failure Summary}
    (hends : Ends setup.watched options before result last) (hnone : before.calls = []) :
    CallsOf result last.calls := by
  cases hends with
  | unprepared hprepare =>
    rw [calls_of_prepare hprepare, hnone]
    exact .unstarted (.inl rfl) rfl ((failsAt_prepare options).not_failsAtDiscovery rfl hprepare)
  | unstarted hprepare hstart =>
    obtain ⟨made, hlast, hmade⟩ := calls_of_start hstart
    rw [hlast, calls_of_prepare hprepare, hnone, List.nil_append]
    exact .unstarted (hmade.imp_left And.left) rfl
      ((failsAt_start _).not_failsAtDiscovery rfl hstart)
  | undiscovered hprepare hstart hdiscover =>
    -- The run ends where the session has been started.
    rw [calls_of_start_ok hstart, calls_of_prepare hprepare, hnone]
    exact .undiscovered (failsAtDiscovery_error_iff.2 rfl)
  | unstopped hprepare hstart hdiscover hexercise hstop =>
    obtain ⟨succeeded, hlast⟩ := calls_of_stop (stage_of_start hstart) hexercise hstop
    rw [hlast, calls_of_start_ok hstart, calls_of_prepare hprepare, hnone]
    exact .stopped succeeded ((failsAt_stop _).not_failsAtDiscovery rfl hstop)
  | stopped hprepare hstart hdiscover hexercise hstop hconclude =>
    obtain ⟨succeeded, hlast⟩ := calls_of_stop (stage_of_start hstart) hexercise hstop
    rw [calls_of_conclude hconclude, hlast, calls_of_start_ok hstart, calls_of_prepare hprepare,
      hnone]
    exact .stopped succeeded (not_failsAtDiscovery_of_conclude hconclude)

/-! ## What becomes of the variable -/

section Variable

open Llvm

variable {launch : Launcher} {p last : Progress Recording σ τ}

/-- The value of the variable that a recorder borrows. -/
def Progress.profileValue (p : Progress Recording σ τ) : Option String :=
  p.world.env.get? Recording.profileVariable

theorem borrowed_of_start (h : outcome (start (recorder launch)) p = (.ok (), last)) :
    Borrowed last.session.collector p.profileValue last.world := by
  obtain ⟨e | _, hstart, hresult⟩ := start_of_outcome h
  · cases hresult
  · exact borrowed_of_start_ok hstart

theorem profileValue_of_start {failure : Failure}
    (h : outcome (start (recorder launch)) p = (.error failure, last)) :
    last.profileValue = p.profileValue := by
  obtain ⟨e | _, hstart, hresult⟩ := start_of_outcome h
  · exact congrArg (·.get? Recording.profileVariable) (env_of_start_error hstart)
  · cases hresult

/-- A stop gives the variable back, even if the engine has changed it. -/
theorem profileValue_of_stop (hlaunch : launch.KeepsEnvironment) {engine : Engine σ}
    {options : RunOptions} {origin : Pathname} {suite : Suite} {exercised : Except Failure Run}
    {stopped : Except Failure Unit} {ran : Progress Recording σ τ} {value : Option String}
    (hstage : p.session.stage = .started) (hborrowed : Borrowed p.session.collector value p.world)
    (hexercise : outcome (exercise engine options origin suite) p = (exercised, ran))
    (hstop : outcome (stop (recorder launch)) ran = (stopped, last)) :
    last.profileValue = value := by
  -- What counts is what the recorder keeps, and an engine cannot get at that.
  obtain ⟨hran, hcollector⟩ := session_of_exercise hexercise
  obtain ⟨_, hstopped, _⟩ := stop_of_outcome hstop
  obtain ⟨hkept, directory, hdirectory, _⟩ := hborrowed
  rw [← hcollector] at hkept hdirectory
  rw [← hkept]
  exact get?_of_stop hlaunch hstopped (hran.trans hstage) hdirectory

/-- However a run ends, the variable has the value that it had, or is still borrowed if the tests
    could not be found. -/
theorem profileValue_of_ends (hlaunch : launch.KeepsEnvironment) {engine : Engine σ}
    {output : Stream τ} {options : RunOptions} {before last : Progress Recording σ τ}
    {result : Except Failure Summary}
    (hends : Ends ⟨engine, recorder launch, output⟩ options before result last) :
    (last.profileValue = before.profileValue ∧ ¬ FailsAtDiscovery result) ∨
      (Borrowed last.session.collector before.profileValue last.world ∧
        FailsAtDiscovery result) := by
  have hprepared {ready : Progress Recording σ τ} {prepared}
      (hprepare : outcome (prepare options) before = (prepared, ready)) :
      ready.profileValue = before.profileValue :=
    congrArg (·.get? Recording.profileVariable) ((keeps_env_prepare options).eq_of_outcome hprepare)
  cases hends with
  | unprepared hprepare =>
    exact .inl ⟨hprepared hprepare, (failsAt_prepare options).not_failsAtDiscovery rfl hprepare⟩
  | unstarted hprepare hstart =>
    exact .inl ⟨(profileValue_of_start hstart).trans (hprepared hprepare),
      (failsAt_start _).not_failsAtDiscovery rfl hstart⟩
  | undiscovered hprepare hstart hdiscover =>
    rw [← hprepared hprepare]
    exact .inr ⟨borrowed_of_start hstart, failsAtDiscovery_error_iff.2 rfl⟩
  | unstopped hprepare hstart hdiscover hexercise hstop =>
    rw [← hprepared hprepare]
    exact .inl ⟨profileValue_of_stop hlaunch (stage_of_start hstart) (borrowed_of_start hstart)
      hexercise hstop, (failsAt_stop _).not_failsAtDiscovery rfl hstop⟩
  | stopped hprepare hstart hdiscover hexercise hstop hconclude =>
    have hstopped := profileValue_of_stop hlaunch (stage_of_start hstart)
      (borrowed_of_start hstart) hexercise hstop
    have hlast := congrArg (·.get? Recording.profileVariable)
      ((keeps_env_conclude output options _ _).eq_of_outcome hconclude)
    rw [← hprepared hprepare]
    exact .inl ⟨hlast.trans hstopped, not_failsAtDiscovery_of_conclude hconclude⟩

end Variable

/-! ## What has begun is finished once, unless the tests cannot be found -/

/-- A run in which the collector has begun, as it has in every run that succeeds, asks it to finish
    exactly once if and only if it does not fail for want of tests; if it does, the collector has
    been asked to begin and for nothing else. Accordingly a run with the recorder leaves the
    variable with the value that it had, or, if the tests cannot be found, with the name of the
    files of the recorder, which still keeps the value. Watching the collector makes no difference
    to the run. -/
theorem finished_once_iff_discovered (launch : Launcher) (hlaunch : launch.KeepsEnvironment)
    (engine : Engine σ) (output : Stream τ) (options : RunOptions) :
    (∀ (κ : Type) (collector : Collector κ) (before : Progress κ σ τ),
      let setup : Setup κ σ τ := ⟨engine, collector, output⟩
      let plain := outcome (run setup options) before
      let watched := outcome (run setup.watched options) (before.watched [])
      (watched.1 = plain.1 ∧ watched.2.unwatched = plain.2) ∧
      (plain.1.isOk = true → .begin true ∈ watched.2.calls) ∧
      (.begin true ∈ watched.2.calls →
        (watched.2.calls.countP Call.isFinish = 1 ↔ ¬ FailsAtDiscovery plain.1)) ∧
      (FailsAtDiscovery plain.1 → watched.2.calls = [.begin true]) ∧
      (.begin true ∉ watched.2.calls → watched.2.calls.countP Call.isFinish = 0)) ∧
    ∀ before : Progress Llvm.Recording σ τ,
      let ran := outcome (run ⟨engine, Llvm.recorder launch, output⟩ options) before
      (¬ FailsAtDiscovery ran.1 → ran.2.profileValue = before.profileValue) ∧
      (FailsAtDiscovery ran.1 →
        Llvm.Borrowed ran.2.session.collector before.profileValue ran.2.world) := by
  refine ⟨fun κ collector before => ?_, fun before => ?_⟩
  · intro setup plain watched
    have hsame : plain = (watched.1, watched.2.unwatched) :=
      mirrors_unwatched setup options (before.watched [])
    have hcalls : CallsOf watched.1 watched.2.calls :=
      callsOf_of_ends (ends setup.watched options (before.watched [])) rfl
    rw [hsame]
    refine ⟨⟨rfl, rfl⟩, ?_⟩
    generalize watched.2.calls = calls at hcalls ⊢
    cases hcalls with
    | unstarted hmade hfailed hresult =>
      obtain rfl | rfl := hmade <;> simp [hfailed, hresult, Call.isFinish]
    | undiscovered hresult => simp [hresult, Call.isFinish]
    | stopped succeeded hresult => simp [hresult, Call.isFinish]
  · have hends := ends ⟨engine, Llvm.recorder launch, output⟩ options before
    obtain ⟨hvalue, hresult⟩ | ⟨hborrowed, hresult⟩ := profileValue_of_ends hlaunch hends
    · exact ⟨fun _ => hvalue, fun h => absurd h hresult⟩
    · exact ⟨fun h => absurd hresult h, fun _ => hborrowed⟩

/-! ### A run with tests in a directory that is there, and in one that is not -/

/-- A world with a directory in which nothing is, and a value of the variable. -/
def emptyHome : World where
  disk := ⟨[("home", .directory (.new ⟨0o755⟩ 0) [])]⟩
  cwd := .ofLocation ["home"]
  waiting := []
  started := 0
  env := [(Llvm.Recording.profileVariable, "mine.profraw")]
  mask := World.usualMask
  clock := ⟨"", ""⟩
  now := 0

/-- A run with the tests in a directory. -/
def runIn (testsDir : Option Pathname) : RunOptions where
  configuration := ""
  reportMode := .table
  workingRoot := RunOptions.defaultRoot
  sources := [Arguments.defaultSource]
  marker := Arguments.defaultMarker
  testsDir
  pattern := TestCase.usualPattern
  objects := []
  verbosity := .progress
  exitPolicy := .ignoreFailures

/-- What comes of a run of the program in the empty directory, and how the recorder is called. -/
def runWatched (testsDir : Option Pathname) :
    Except Failure Summary × Progress (Llvm.Recording × List Call) String String :=
  outcome (run (Program.setup World.launch (runIn testsDir)).watched (runIn testsDir))
    ((Program.fresh (runIn testsDir) emptyHome).watched [])

/-- Where there are no tests, the recorder is finished once and the variable given back. -/
theorem finished_once_without_tests :
    World.launch.KeepsEnvironment ∧
      .begin true ∈ (runWatched none).2.calls ∧
      (runWatched none).2.calls.countP Call.isFinish = 1 ∧
      (outcome (run (Program.setup World.launch (runIn none)) (runIn none))
        (Program.fresh (runIn none) emptyHome)).2.profileValue = some "mine.profraw" := by
  have hbegun : .begin true ∈ (runWatched none).2.calls := by decide +kernel
  have hfound : ¬ FailsAtDiscovery (outcome (run (Program.setup World.launch (runIn none))
      (runIn none)) (Program.fresh (runIn none) emptyHome)).1 := by decide +kernel
  obtain ⟨hcalls, hvalue⟩ := finished_once_iff_discovered World.launch
    World.keepsEnvironment_launch (Program.setup World.launch (runIn none)).engine Stream.memory
    (runIn none)
  refine ⟨World.keepsEnvironment_launch, hbegun, ?_, ?_⟩
  · exact ((hcalls _ (Llvm.recorder World.launch) (Program.fresh (runIn none) emptyHome)).2.2.1
      hbegun).2 hfound
  · exact (hvalue (Program.fresh (runIn none) emptyHome)).1 hfound

/-- Where the tests are said to be in a directory that is missing, the recorder begins and is never
    finished, and the variable does not get its value back. -/
theorem unfinished_of_missing_directory :
    FailsAtDiscovery (runWatched (some ⟨"missing"⟩)).1 ∧
      (runWatched (some ⟨"missing"⟩)).2.calls = [.begin true] ∧
      emptyHome.env.get? Llvm.Recording.profileVariable = some "mine.profraw" ∧
      (runWatched (some ⟨"missing"⟩)).2.world.env.get? Llvm.Recording.profileVariable
        = some "/home/.coverage_profraw/prof-%p-%m.profraw" := by
  refine ⟨?_, ?_, ?_, ?_⟩ <;> decide +kernel

end Pipeline
end SuiteCoverage
