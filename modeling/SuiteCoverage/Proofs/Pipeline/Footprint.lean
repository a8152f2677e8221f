import SuiteCoverage.Proofs.Pipeline.Course
import SuiteCoverage.Proofs.Settings
import SuiteCoverage.Proofs.World.Reach

/-!
# What a run does on its own

An engine and a collector may do what they like. All else in a run is done by the run itself, and
that is little: it enters a directory, writes the data file there, and writes a report. What each
of these effects leaves alone is told here, effect by effect.

With the short report only the data file is written, and where that is depends on where its name
leads: a link can lead anywhere.
-/

set_option autoImplicit false

namespace SuiteCoverage

/-! ## What a session keeps -/

/-- Only the option with that name changes the data file. -/
theorem Settings.dataFile_of_set {settings next : Settings} {key : String} {value : OptionValue}
    (hkey : Setting.splitKey? key ≠ some ("run", "data_file"))
    (h : settings.set key value = .ok next) : next.dataFile = settings.dataFile := by
  obtain ⟨setting, hfits, rfl⟩ := set_ok_iff.1 h
  cases hfits with
  | plugins => rfl
  | dataFile => exact absurd (by decide) hkey
  | marker => rfl

namespace Session

variable {κ : Type} {collector : Collector κ} {session next : Session κ} {w last : World}
  {result : Except CoverageError Unit}

theorem settings_of_start (h : session.start collector w = (result, next, last)) :
    next.settings = session.settings := by
  cases starts h <;> rfl

theorem settings_of_stop (h : session.stop collector w = (result, next, last)) :
    next.settings = session.settings := by
  cases stops h <;> rfl

theorem cwd_of_start
    (hstays : ∀ directory state w, (collector.begin directory state w).2.2.cwd = w.cwd)
    (h : session.start collector w = (result, next, last)) : last.cwd = w.cwd := by
  cases starts h with
  | refused e => rfl
  | unbegun _ _ _ hbegin => exact (congrArg (·.2.2.cwd) hbegin).symm.trans (hstays _ _ _)
  | begun _ _ _ hbegin => exact (congrArg (·.2.2.cwd) hbegin).symm.trans (hstays _ _ _)

theorem cwd_of_stop
    (hstays : ∀ objects state w, (collector.finish objects state w).2.2.cwd = w.cwd)
    (h : session.stop collector w = (result, next, last)) : last.cwd = w.cwd := by
  cases stops h with
  | refused e => rfl
  | unfinished _ hfinish => exact (congrArg (·.2.2.cwd) hfinish).symm.trans (hstays _ _ _)
  | stranded _ hfinish => exact (congrArg (·.2.2.cwd) hfinish).symm.trans (hstays _ _ _)
  | finished _ hfinish => exact (congrArg (·.2.2.cwd) hfinish).symm.trans (hstays _ _ _)

/-- A session is saved where its settings tell. -/
theorem dataFile_of_save {dataFile : Pathname} (h : session.save w = .ok (dataFile, last)) :
    dataFile = session.settings.dataFile := by
  unfold save at h
  cases hmeasured : session.measurement with
  | error e =>
    rw [hmeasured] at h
    cases h
  | ok measured =>
    simp only [hmeasured, bind, Except.bind] at h
    split at h <;> cases h
    rfl

end Session

namespace Pipeline

variable {κ σ τ : Type}

/-! ## What an effect leaves alone -/

section Moments

variable {α γ : Type} {setup : Setup κ σ τ} {options : RunOptions} {m : Moment κ σ τ}

namespace Moment

theorem Gives.keeps {part : Part κ σ τ α} {a : α} (h : m.Gives part a)
    (view : Progress κ σ τ → γ) (hpart : Keeps view part) : view m.after = view m.before :=
  hpart.eq_of_outcome h

/-- An effect that succeeds has given what it is said to give. -/
theorem Gives.ok {part : Part κ σ τ α} {a : α} (h : m.Gives part a) (hok : m.result = .ok ()) :
    outcome part m.before = (.ok a, m.after) := by
  rw [h, hok]
  rfl

end Moment

theorem keeps_dataFile_setOption {key : String} (value : OptionValue)
    (hkey : Setting.splitKey? key ≠ some ("run", "data_file")) :
    Keeps (·.session.settings.dataFile) (setOption key value : Part κ σ τ Unit) := by
  intro p
  rw [outcome_setOption]
  cases hset : p.session.setOption key value with
  | error e => rfl
  | ok next =>
    obtain ⟨_, settings, hsettings, rfl⟩ := Session.setOption_ok hset
    exact Settings.dataFile_of_set hkey hsettings

/-- No effect of a run changes the data file. -/
theorem Moment.Happens.dataFile (h : m.Happens setup options) :
    m.after.session.settings.dataFile = m.before.session.settings.dataFile := by
  obtain ⟨effect, p, result, q⟩ := m
  cases effect with
  | enablePlugin => exact Gives.keeps h _ (keeps_dataFile_setOption _ (by decide))
  | setMarker => exact Gives.keeps h _ (keeps_dataFile_setOption _ (by decide))
  | enter =>
    exact Gives.keeps h (·.session.settings.dataFile) fun p => by
      rw [outcome_enterDirectory]
  | begin =>
    refine Gives.keeps h (·.session.settings.dataFile) fun p => ?_
    rw [outcome_start]
    exact congrArg Settings.dataFile (Session.settings_of_start rfl)
  | discover =>
    exact Gives.keeps h (·.session.settings.dataFile) fun p => by rw [outcome_discover]
  | exercise =>
    exact Gives.keeps h (·.session.settings.dataFile) fun p => rfl
  | finish =>
    refine Gives.keeps h (·.session.settings.dataFile) fun p => ?_
    rw [outcome_stop]
    exact congrArg Settings.dataFile (Session.settings_of_stop rfl)
  | save =>
    exact Gives.keeps h (·.session.settings.dataFile) (keeps_save fun _ _ _ _ => rfl)
  | report =>
    refine Gives.keeps h (·.session.settings.dataFile) fun p => ?_
    cases options.reportMode with
    | pages => rw [writeReport, outcome_writePages]
    | table => rw [writeReport, outcome_writeTable]

/-- Whether an effect is the run's own, and not that of the engine or the collector. -/
def Effect.isOwn : Effect → Bool
  | .begin => false
  | .exercise .. => false
  | .finish => false
  | _ => true

/-- Whether an effect writes the data file. -/
def Effect.isSave : Effect → Bool
  | .save _ => true
  | _ => false

/-- A run with the short report leaves alone on its own what the data file does not lead to. -/
theorem Moment.Happens.node? (h : m.Happens setup options) (htable : options.reportMode = .table)
    (hown : m.effect.isOwn = true) {loc : Location}
    (hsave : m.effect.isSave = true →
      ¬ m.before.world.Reaches m.before.session.settings.dataFile loc) :
    m.after.world.disk.node? loc = m.before.world.disk.node? loc := by
  obtain ⟨effect, p, result, q⟩ := m
  cases effect with
  | enablePlugin =>
    exact Gives.keeps h (·.world.disk.node? loc) (keeps_setOption (fun _ _ => rfl) _ _)
  | setMarker =>
    exact Gives.keeps h (·.world.disk.node? loc) (keeps_setOption (fun _ _ => rfl) _ _)
  | enter =>
    refine Gives.keeps h (·.world.disk.node? loc) fun p => ?_
    rw [outcome_enterDirectory]
    exact congrArg (·.node? loc) (disk_relocate _ _ _)
  | discover =>
    exact Gives.keeps h (·.world.disk.node? loc) fun p => by rw [outcome_discover]
  | save dataFile =>
    cases hsaved : p.session.save p.world with
    | error e =>
      have hsame := congrArg Prod.snd ((outcome_save_error p hsaved).symm.trans h)
      exact congrArg (·.world.disk.node? loc) hsame.symm
    | ok saved =>
      obtain ⟨written, next⟩ := saved
      obtain rfl := Session.dataFile_of_save hsaved
      obtain ⟨measured, _, hwritten⟩ := Session.exists_of_save hsaved
      have hsame := congrArg Prod.snd ((outcome_save_ok p hsaved).symm.trans h)
      rw [← show { p with world := next } = q from hsame]
      exact World.node?_of_write (Measurement.writeText_of_save hwritten) (hsave rfl)
  | report =>
    refine Gives.keeps h (·.world.disk.node? loc) fun p => ?_
    rw [htable, writeReport, outcome_writeTable]
  | begin => cases hown
  | exercise => cases hown
  | finish => cases hown

/-- A data file that has been saved holds the measurement. -/
theorem Moment.Happens.saved (h : m.Happens setup options) {dataFile : Pathname}
    (heffect : m.effect = .save dataFile) (hok : m.result = .ok ()) :
    dataFile = m.before.session.settings.dataFile ∧ ∃ measured,
      m.before.session.measurement = .ok measured ∧
      m.before.world.writeText dataFile measured.toText = .ok m.after.world := by
  obtain ⟨effect, p, result, q⟩ := m
  cases heffect
  have hgiven : outcome save p = (.ok dataFile, q) := Gives.ok h hok
  cases hsaved : p.session.save p.world with
  | error e =>
    rw [outcome_save_error p hsaved] at hgiven
    cases hgiven
  | ok saved =>
    obtain ⟨written, next⟩ := saved
    rw [outcome_save_ok p hsaved] at hgiven
    cases hgiven
    obtain ⟨measured, hmeasured, hwritten⟩ := Session.exists_of_save hsaved
    exact ⟨Session.dataFile_of_save hsaved, measured, hmeasured,
      Measurement.writeText_of_save hwritten⟩

/-! ## Where the data file is written -/

/-- Whether an effect comes between entering the directory and saving. -/
def Effect.isMeasuring : Effect → Bool
  | .begin => true
  | .discover .. => true
  | .exercise .. => true
  | .finish => true
  | _ => false

/-- An engine and a collector that stay in the directory worked in. -/
structure Setup.StaysPut (setup : Setup κ σ τ) : Prop where
  begin : ∀ directory state w, (setup.collector.begin directory state w).2.2.cwd = w.cwd
  finish : ∀ objects state w, (setup.collector.finish objects state w).2.2.cwd = w.cwd
  run : ∀ suite verbosity w s, (setup.engine.run suite verbosity w s).2.1.cwd = w.cwd

/-- While it is measured the directory worked in is left to the engine and the collector. -/
theorem Moment.Happens.cwd (h : m.Happens setup options) (hstays : setup.StaysPut)
    (hmeasuring : m.effect.isMeasuring = true) : m.after.world.cwd = m.before.world.cwd := by
  obtain ⟨effect, p, result, q⟩ := m
  cases effect with
  | begin =>
    refine Gives.keeps h (·.world.cwd) fun p => ?_
    rw [outcome_start]
    exact Session.cwd_of_start hstays.begin rfl
  | discover =>
    exact Gives.keeps h (·.world.cwd) fun p => by rw [outcome_discover]
  | exercise =>
    refine Gives.keeps h (·.world.cwd) fun p => ?_
    rw [outcome_exercise]
    exact hstays.run _ _ _ _
  | finish =>
    refine Gives.keeps h (·.world.cwd) fun p => ?_
    rw [outcome_stop]
    exact Session.cwd_of_stop hstays.finish rfl
  | _ => cases hmeasuring

/-- What comes before the data file is written. -/
theorem take_of_save {found : Findings} {effects : List Effect} {dataFile : Pathname}
    (h : effects ++ [.save dataFile] <+: sequence options found) :
    effects = (sequence options found).take 7 := by
  have hlength : effects.length < 9 := by simpa [sequence, Nat.lt_succ_iff] using h.length_le
  have hsave : ((sequence options found).map Effect.isSave)[effects.length]? = some true := by
    obtain ⟨rest, hrest⟩ := h
    simp [← hrest, Effect.isSave]
  have honce : ∀ n < 9, ((sequence options found).map Effect.isSave)[n]? = some true → n = 7 :=
    show ∀ n < 9, [false, false, false, false, false, false, false, true, false][n]? = some true →
      n = 7 by decide
  rw [← honce _ hlength hsave]
  exact List.prefix_iff_eq_take.1 ((List.prefix_append _ _).trans h)

/-- The directory that has been entered is the one worked in as long as it is measured. -/
theorem Carried.currentDirectory {entering q : Progress κ σ τ} {relocation : Relocation}
    {measuring : List (Moment κ σ τ)}
    (h : Carried setup options entering (m :: measuring) (.ok ()) q)
    (hstays : setup.StaysPut) (heffect : m.effect = .enter relocation)
    (hmeasuring : ∀ effect ∈ measuring.map Moment.effect, effect.isMeasuring = true) :
    q.world.currentDirectory = .ok relocation.current := by
  cases h with
  | @next _ entered _ _ _ _ hfirst hrest =>
    cases heffect
    have hgiven : outcome (enterDirectory options.workingRoot options.configuration) entering
        = (.ok relocation, entered) := Moment.Gives.ok hfirst rfl
    rw [outcome_enterDirectory] at hgiven
    have hentered : relocate options.workingRoot options.configuration entering.world
        = (.ok relocation, entered.world) := by
      generalize relocate options.workingRoot options.configuration entering.world = relocated
        at hgiven ⊢
      obtain ⟨error | found, world⟩ := relocated <;> cases hgiven
      rfl
    have hcwd : q.world.cwd = entered.world.cwd :=
      hrest.keeps (·.world.cwd) fun m hm hhappens =>
        hhappens.cwd hstays (hmeasuring _ (List.mem_map_of_mem hm))
    rw [World.currentDirectory, hcwd]
    exact currentDirectory_of_relocate hentered

/-- The data file is written there. -/
theorem Carried.currentDirectory_of_save {before : Progress κ σ τ} {front : List (Moment κ σ τ)}
    {found : Findings} (h : Carried setup options before front (.ok ()) m.before)
    (hstays : setup.StaysPut)
    (heffects : front.map Moment.effect = (sequence options found).take 7) :
    m.before.world.currentDirectory = .ok found.relocation.current := by
  obtain ⟨first, others, rfl, _, hothers⟩ := List.map_eq_cons_iff.1 heffects
  obtain ⟨second, onward, rfl, _, honward⟩ := List.map_eq_cons_iff.1 hothers
  obtain ⟨third, measuring, rfl, henter, hmeasuring⟩ := List.map_eq_cons_iff.1 honward
  cases h with | next _ h =>
  cases h with | next _ h =>
  refine h.currentDirectory hstays henter fun effect heffect => ?_
  rw [hmeasuring] at heffect
  revert effect
  simp [Effect.isMeasuring]

end Moments

end Pipeline
end SuiteCoverage
