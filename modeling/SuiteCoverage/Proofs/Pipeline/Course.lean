import SuiteCoverage.Proofs.Pipeline.Phases

/-!
# The course of a run

A run has nine effects at most. They come in one order, each of them once, and the first that fails
is the last. `Carried` tells how effects are carried out one after the other, and what every
moment of that finds and leaves; `course` tells that a run is that and nothing else. So what a run
does to the world, or to a stream, is seen by looking at one effect after the other.
-/

set_option autoImplicit false

namespace SuiteCoverage
namespace Pipeline

variable {κ σ τ α β γ : Type}

/-! ## Effects -/

/-- What a run does, with what that gives if it succeeds. -/
inductive Effect where
  | enablePlugin
  | setMarker
  | enter (relocation : Relocation)
  | begin
  | discover (directory : Pathname) (suite : Suite)
  | exercise (origin : Pathname) (suite : Suite) (run : Run)
  | finish
  | save (dataFile : Pathname)
  | report (percent : Binary64)

/-- What a run finds out one by one. -/
structure Findings where
  /-- Where the run starts. -/
  origin : Pathname
  relocation : Relocation
  suite : Suite
  run : Run
  dataFile : Pathname
  percent : Binary64

namespace Findings

/-- Nothing has been found out. -/
def unknown : Findings := ⟨⟨""⟩, ⟨⟨""⟩, ⟨""⟩⟩, ⟨[]⟩, ⟨[]⟩, ⟨""⟩, ⟨0, 0⟩⟩

/-- The summary of a run that has found out all. -/
def summary (found : Findings) (options : RunOptions) : Summary where
  relocation := found.relocation
  run := found.run
  dataFile := found.dataFile
  percent := found.percent
  pages :=
    match options.reportMode with
    | .pages => some (found.relocation.current.join ⟨Artifact.pages⟩)
    | .table => none

end Findings

/-- All effects of a run, in their order. -/
def sequence (options : RunOptions) (found : Findings) : List Effect :=
  [.enablePlugin, .setMarker, .enter found.relocation, .begin,
    .discover (testsDirectory options found.origin) found.suite,
    .exercise found.origin found.suite found.run, .finish, .save found.dataFile,
    .report found.percent]

theorem nodup_sequence (options : RunOptions) (found : Findings) :
    (sequence options found).Nodup := by
  simp [sequence]

/-! ## Moments -/

/-- An effect and what comes of it: the state that it finds, whether it succeeds, and the state
    that it leaves. -/
structure Moment (κ σ τ : Type) where
  effect : Effect
  before : Progress κ σ τ
  result : Except Failure Unit
  after : Progress κ σ τ

namespace Moment

/-- A part is carried out, and gives a value unless it fails. -/
def Gives (m : Moment κ σ τ) (part : Part κ σ τ α) (a : α) : Prop :=
  outcome part m.before = (m.result.map fun _ => a, m.after)

end Moment

/-- Writes the report that the options ask for. -/
def writeReport (output : Stream τ) : ReportMode → Part κ σ τ Binary64
  | .pages => writePages
  | .table => writeTable output

/-- The effect is carried out. -/
def Moment.Happens (setup : Setup κ σ τ) (options : RunOptions) (m : Moment κ σ τ) : Prop :=
  match m.effect with
  | .enablePlugin => m.Gives (setOption Setting.pluginsKey (.list [Plugin.boundary.name])) ()
  | .setMarker => m.Gives (setOption (Setting.markerKey .boundary) (.text options.marker)) ()
  | .enter relocation =>
    m.Gives (enterDirectory options.workingRoot options.configuration) relocation
  | .begin => m.Gives (start setup.collector) ()
  | .discover directory suite => m.Gives (discover setup.engine directory) suite
  | .exercise origin suite run => m.Gives (exercise setup.engine options origin suite) run
  | .finish => m.Gives (stop setup.collector) ()
  | .save dataFile => m.Gives save dataFile
  | .report percent => m.Gives (writeReport setup.output options.reportMode) percent

/-! ## The failure of an effect -/

/-- The step that an effect is, if it can fail. -/
def Effect.step? (mode : ReportMode) : Effect → Option Step
  | .enablePlugin => some .configure
  | .setMarker => some .configure
  | .enter _ => some .enterDirectory
  | .begin => some .start
  | .discover directory _ => some (.discover directory)
  | .exercise .. => none
  | .finish => some .stop
  | .save _ => some .save
  | .report _ =>
    match mode with
    | .pages => some .writePages
    | .table => some .writeTable

theorem Moment.Gives.step {m : Moment κ σ τ} {part : Part κ σ τ α} {a : α} {step : Step}
    {failure : Failure} (h : m.Gives part a) (hpart : FailsAt [step] part)
    (hfailed : m.result = .error failure) : some step = some failure.step := by
  have hstep := hpart m.before failure (by rw [h, hfailed]; rfl)
  rw [List.mem_singleton.1 hstep]

/-- What an effect fails with names the step that it is. -/
theorem Moment.Happens.step {setup : Setup κ σ τ} {options : RunOptions} {m : Moment κ σ τ}
    {failure : Failure} (h : m.Happens setup options) (hfailed : m.result = .error failure) :
    m.effect.step? options.reportMode = some failure.step := by
  obtain ⟨effect, p, result, q⟩ := m
  cases effect with
  | enablePlugin => exact Gives.step h (failsAt_setOption _ _) hfailed
  | setMarker => exact Gives.step h (failsAt_setOption _ _) hfailed
  | enter => exact Gives.step h (failsAt_enterDirectory _ _) hfailed
  | begin => exact Gives.step h (failsAt_start _) hfailed
  | discover => exact Gives.step h (failsAt_discover _ _) hfailed
  | exercise =>
    -- Nothing fails while the tests are run.
    cases hfailed
    cases h
  | finish => exact Gives.step h (failsAt_stop _) hfailed
  | save => exact Gives.step h failsAt_save hfailed
  | report =>
    unfold Happens at h
    simp only [Effect.step?] at h ⊢
    cases hmode : options.reportMode with
    | pages =>
      rw [hmode] at h
      exact Gives.step h failsAt_writePages hfailed
    | table =>
      rw [hmode] at h
      exact Gives.step h (failsAt_writeTable _) hfailed

/-! ## One effect after the other -/

/-- Effects are carried out one after the other. Only the last may fail. -/
inductive Carried (setup : Setup κ σ τ) (options : RunOptions) :
    Progress κ σ τ → List (Moment κ σ τ) → Except Failure Unit → Progress κ σ τ → Prop
  | done {p : Progress κ σ τ} : Carried setup options p [] (.ok ()) p
  | failed {p q : Progress κ σ τ} {effect : Effect} {failure : Failure}
      (hlast : Moment.Happens setup options ⟨effect, p, .error failure, q⟩) :
      Carried setup options p [⟨effect, p, .error failure, q⟩] (.error failure) q
  | next {p middle q : Progress κ σ τ} {effect : Effect} {rest : List (Moment κ σ τ)}
      {result : Except Failure Unit}
      (hfirst : Moment.Happens setup options ⟨effect, p, .ok (), middle⟩)
      (hrest : Carried setup options middle rest result q) :
      Carried setup options p (⟨effect, p, .ok (), middle⟩ :: rest) result q

namespace Carried

variable {setup : Setup κ σ τ} {options : RunOptions} {p middle q : Progress κ σ τ}
  {first rest moments : List (Moment κ σ τ)} {result : Except Failure Unit}

theorem append (hfirst : Carried setup options p first (.ok ()) middle)
    (hrest : Carried setup options middle rest result q) :
    Carried setup options p (first ++ rest) result q := by
  induction first generalizing p with
  | nil =>
    cases hfirst
    exact hrest
  | cons m others ih =>
    cases hfirst with
    | next hhappens hothers => exact .next hhappens (ih hothers)

/-- A moment comes after others, all of which have succeeded. -/
theorem split (h : Carried setup options p moments result q) {m : Moment κ σ τ}
    (hm : m ∈ moments) :
    ∃ front rest, moments = front ++ m :: rest ∧
      Carried setup options p front (.ok ()) m.before ∧ m.Happens setup options := by
  induction h with
  | done => cases hm
  | failed hlast =>
    obtain rfl := List.mem_singleton.1 hm
    exact ⟨[], [], rfl, .done, hlast⟩
  | next hfirst _ ih =>
    rcases List.mem_cons.1 hm with rfl | hm
    · exact ⟨[], _, rfl, .done, hfirst⟩
    · obtain ⟨front, rest, rfl, hfront, hhappens⟩ := ih hm
      exact ⟨_ :: front, rest, rfl, .next hfirst hfront, hhappens⟩

/-- If an effect fails, it is with that that all of them fail. -/
theorem result_of_failed (h : Carried setup options p moments result q) {m : Moment κ σ τ}
    (hm : m ∈ moments) {failure : Failure} (hfailed : m.result = .error failure) :
    result = .error failure := by
  induction h with
  | done => cases hm
  | failed _ =>
    obtain rfl := List.mem_singleton.1 hm
    exact hfailed
  | next _ _ ih =>
    rcases List.mem_cons.1 hm with rfl | hm
    · cases hfailed
    · exact ih hm

/-- What every effect leaves alone is left alone by all of them together. -/
theorem keeps (h : Carried setup options p moments result q) (view : Progress κ σ τ → γ)
    (hkeeps : ∀ m ∈ moments, m.Happens setup options → view m.after = view m.before) :
    view q = view p := by
  induction h with
  | done => rfl
  | failed hlast => exact hkeeps _ (List.mem_singleton_self _) hlast
  | next hfirst _ ih =>
    rw [ih fun m hm => hkeeps m (List.mem_cons_of_mem _ hm)]
    exact hkeeps _ List.mem_cons_self hfirst

/-- A part that is an effect is carried out after others: it fails, and is the last, or it succeeds
    and hands over. -/
theorem walk (h : Carried setup options p moments (.ok ()) middle) {part : Part κ σ τ α}
    {next : α → Part κ σ τ β} {last : Except Failure β} (effect : α → Effect)
    (heffect : ∀ a p result q, Moment.Gives ⟨effect a, p, result, q⟩ part a →
      Moment.Happens setup options ⟨effect a, p, result, q⟩)
    (hwalk : outcome (part >>= next) middle = (last, q)) :
    (∃ failure, last = .error failure ∧ ∀ a, Carried setup options p
      (moments ++ [⟨effect a, middle, .error failure, q⟩]) (.error failure) q) ∨
    ∃ a onward, Carried setup options p (moments ++ [⟨effect a, middle, .ok (), onward⟩])
      (.ok ()) onward ∧ outcome (next a) onward = (last, q) := by
  rcases hpart : outcome part middle with ⟨failure | a, onward⟩
  · rw [outcome_bind_error hpart] at hwalk
    cases hwalk
    exact .inl ⟨failure, rfl, fun a => h.append (.failed (heffect a _ _ _ hpart))⟩
  · rw [outcome_bind_ok hpart] at hwalk
    exact .inr ⟨a, onward, h.append (.next (heffect a _ _ _ hpart) .done), hwalk⟩

end Carried

/-! ## A run -/

/-- How a run goes. Its effects are the first of all effects: those before the one that fails and
    that one, or all of them. Where it starts is read between the second and the third, and if
    that fails the run fails with it. -/
inductive Course (setup : Setup κ σ τ) (options : RunOptions) (before : Progress κ σ τ) :
    Except Failure Summary → Progress κ σ τ → List (Moment κ σ τ) → Prop
  /-- An effect fails. -/
  | failed {failure : Failure} {last : Progress κ σ τ} {moments : List (Moment κ σ τ)}
      (found : Findings)
      (hcarried : Carried setup options before moments (.error failure) last)
      (hleading : moments.map Moment.effect <+: sequence options found)
      (horigin : 2 < moments.length → before.world.currentDirectory = .ok found.origin) :
      Course setup options before (.error failure) last moments
  /-- It cannot be told where the run starts. -/
  | lost {fault : Fault} {last : Progress κ σ τ} {moments : List (Moment κ σ τ)}
      (hcarried : Carried setup options before moments (.ok ()) last)
      (heffects : moments.map Moment.effect = [.enablePlugin, .setMarker])
      (hlaunch : before.world.currentDirectory = .error fault) :
      Course setup options before (.error ⟨.readDirectory, .system fault⟩) last moments
  /-- No effect fails. -/
  | complete {last : Progress κ σ τ} {moments : List (Moment κ σ τ)} (found : Findings)
      (hcarried : Carried setup options before moments (.ok ()) last)
      (heffects : moments.map Moment.effect = sequence options found)
      (horigin : before.world.currentDirectory = .ok found.origin) :
      Course setup options before (.ok (found.summary options)) last moments

namespace Course

variable {setup : Setup κ σ τ} {options : RunOptions} {before last : Progress κ σ τ}
  {result : Except Failure Summary} {moments : List (Moment κ σ τ)}

/-- However a run goes, its effects are carried out one after the other, and they are the first of
    all effects. -/
theorem exists_carried (h : Course setup options before result last moments) :
    ∃ found carried, Carried setup options before moments carried last ∧
      moments.map Moment.effect <+: sequence options found ∧
      ∀ failure, carried = .error failure → result = .error failure := by
  cases h with
  | failed found hcarried hleading _ => exact ⟨found, _, hcarried, hleading, by simp⟩
  | lost hcarried heffects _ =>
    exact ⟨.unknown, _, hcarried, by simp [heffects, sequence], by simp⟩
  | complete found hcarried heffects _ =>
    exact ⟨found, _, hcarried, heffects ▸ List.prefix_rfl, by simp⟩

/-- A run that succeeds has all nine effects. -/
theorem length_of_ok (h : Course setup options before result last moments)
    (hok : result.isOk = true) : moments.length = 9 := by
  cases h with
  | failed _ _ _ _ => cases hok
  | lost _ _ _ => cases hok
  | complete _ _ heffects _ => simpa [sequence] using congrArg List.length heffects

end Course

/-- A run is its effects, one after the other. -/
theorem run_eq_effects (setup : Setup κ σ τ) (options : RunOptions) :
    run setup options
      = (setOption Setting.pluginsKey (.list [Plugin.boundary.name]) >>= fun _ =>
          setOption (Setting.markerKey .boundary) (.text options.marker) >>= fun _ =>
          readDirectory >>= fun origin =>
          enterDirectory options.workingRoot options.configuration >>= fun relocation =>
          start setup.collector >>= fun _ =>
          discover setup.engine (testsDirectory options origin) >>= fun suite =>
          exercise setup.engine options origin suite >>= fun run =>
          stop setup.collector >>= fun _ =>
          save >>= fun dataFile =>
          writeReport setup.output options.reportMode >>= fun percent =>
          pure ((⟨origin, relocation, suite, run, dataFile, percent⟩ : Findings).summary
            options)) := by
  rw [run_eq]
  simp only [prepare, configure, conclude, bind_assoc, pure_bind, Findings.summary]
  cases options.reportMode <;> rfl

/-- Every run takes its course. -/
theorem course (setup : Setup κ σ τ) (options : RunOptions) (before : Progress κ σ τ) :
    ∃ moments, Course setup options before (outcome (run setup options) before).1
      (outcome (run setup options) before).2 moments := by
  rcases h : outcome (run setup options) before with ⟨result, last⟩
  rw [run_eq_effects] at h
  have hnone : Carried setup options before [] (.ok ()) before := .done
  obtain ⟨failure, rfl, hfailed⟩ | ⟨_, enabled, henabled, h⟩ :=
    hnone.walk (fun _ => .enablePlugin) (fun _ _ _ _ h => h) h
  · exact ⟨_, .failed .unknown (hfailed ()) (by simp [sequence]) (by simp)⟩
  obtain ⟨failure, rfl, hfailed⟩ | ⟨_, marked, hmarked, h⟩ :=
    henabled.walk (fun _ => .setMarker) (fun _ _ _ _ h => h) h
  · exact ⟨_, .failed .unknown (hfailed ()) (by simp [sequence]) (by simp)⟩
  -- Nothing has happened to the world so far.
  have hworld : marked.world = before.world := by
    refine hmarked.keeps (·.world) fun m hm hhappens => ?_
    simp only [List.nil_append, List.cons_append, List.mem_cons, List.not_mem_nil, or_false] at hm
    rcases hm with rfl | rfl
    all_goals exact (keeps_setOption (fun _ _ => rfl) _ _).eq_of_outcome hhappens
  cases horigin : before.world.currentDirectory with
  | error fault =>
    rw [outcome_bind, outcome_readDirectory, hworld, horigin] at h
    cases h
    exact ⟨_, .lost hmarked rfl horigin⟩
  | ok origin =>
    rw [outcome_bind, outcome_readDirectory, hworld, horigin] at h
    replace h : outcome (_ >>= _) marked = _ := h
    obtain ⟨failure, rfl, hfailed⟩ | ⟨relocation, ready, hready, h⟩ :=
      hmarked.walk .enter (fun _ _ _ _ h => h) h
    · exact ⟨_, .failed { Findings.unknown with origin }
        (hfailed Findings.unknown.relocation) (by simp [sequence]) fun _ => horigin⟩
    obtain ⟨failure, rfl, hfailed⟩ | ⟨_, started, hstarted, h⟩ :=
      hready.walk (fun _ => .begin) (fun _ _ _ _ h => h) h
    · exact ⟨_, .failed { Findings.unknown with origin, relocation } (hfailed ())
        (by simp [sequence]) fun _ => horigin⟩
    obtain ⟨failure, rfl, hfailed⟩ | ⟨suite, found, hfound, h⟩ :=
      hstarted.walk (.discover _) (fun _ _ _ _ h => h) h
    · exact ⟨_, .failed { Findings.unknown with origin, relocation }
        (hfailed Findings.unknown.suite) (by simp [sequence]) fun _ => horigin⟩
    obtain ⟨failure, rfl, hfailed⟩ | ⟨run, ran, hran, h⟩ :=
      hfound.walk (.exercise origin suite) (fun _ _ _ _ h => h) h
    · exact ⟨_, .failed { Findings.unknown with origin, relocation, suite }
        (hfailed Findings.unknown.run) (by simp [sequence]) fun _ => horigin⟩
    obtain ⟨failure, rfl, hfailed⟩ | ⟨_, stopped, hstopped, h⟩ :=
      hran.walk (fun _ => .finish) (fun _ _ _ _ h => h) h
    · exact ⟨_, .failed { Findings.unknown with origin, relocation, suite, run } (hfailed ())
        (by simp [sequence]) fun _ => horigin⟩
    obtain ⟨failure, rfl, hfailed⟩ | ⟨dataFile, saved, hsaved, h⟩ :=
      hstopped.walk .save (fun _ _ _ _ h => h) h
    · exact ⟨_, .failed { Findings.unknown with origin, relocation, suite, run }
        (hfailed Findings.unknown.dataFile) (by simp [sequence]) fun _ => horigin⟩
    obtain ⟨failure, rfl, hfailed⟩ | ⟨percent, reported, hreported, h⟩ :=
      hsaved.walk .report (fun _ _ _ _ h => h) h
    · exact ⟨_, .failed { Findings.unknown with origin, relocation, suite, run, dataFile }
        (hfailed Findings.unknown.percent) (by simp [sequence]) fun _ => horigin⟩
    cases h
    exact ⟨_, .complete ⟨origin, relocation, suite, run, dataFile, percent⟩ hreported
      (by simp [sequence]) horigin⟩

end Pipeline
end SuiteCoverage
