import SuiteCoverage.Launch
import SuiteCoverage.Proofs.Outcome
import SuiteCoverage.Session
import SuiteCoverage.Workdir

/-!
# The environment of a run

The environment of a run changes only where it is meant to. Whatever is done on the disk leaves it
as it is, and so does a program that is launched: it gets an environment of its own.
-/

set_option autoImplicit false

namespace SuiteCoverage

/-! ## Variables -/

namespace Environment

variable {env : Environment} {name : String}

theorem get?_set_self (env : Environment) (name value : String) :
    (env.set name value).get? name = some value := by
  induction env with
  | nil => simp [set, get?]
  | cons entry rest ih =>
    rw [set]
    split
    · simp [get?]
    · rename_i h
      rw [get?, List.find?_cons_of_neg (by simpa using h)]
      exact ih

theorem get?_unset_self (env : Environment) (name : String) : (env.unset name).get? name = none := by
  simp [unset, get?]

/-- A variable has the value that it has been given, or none. -/
theorem get?_put_self (env : Environment) (name : String) (value : Option String) :
    (env.put name value).get? name = value := by
  cases value with
  | none => exact get?_unset_self env name
  | some value => exact get?_set_self env name value

end Environment

/-! ## Changing the disk -/

namespace World

variable {w next : World} {p : Pathname}

@[simp] theorem env_replace (w : World) (loc : Location) (node : Node) :
    (w.replace loc node).env = w.env := by
  unfold replace
  split <;> rfl

@[simp] theorem env_touched (w : World) (loc : Location) : (w.touched loc).env = w.env := by
  unfold touched
  split
  · exact env_replace w _ _
  · rfl

theorem env_write {content : ByteArray} (h : w.write p content = .ok next) :
    next.env = w.env := by
  unfold write writeWith at h
  split at h
  all_goals try split at h
  -- Nothing is written, or nothing but the disk is another.
  all_goals cases h
  all_goals simp

theorem env_make {node : Node} (h : w.make node p = .ok next) : next.env = w.env := by
  unfold make at h
  split at h
  · split at h
    · cases h
    split at h
    · cases h
    split at h
    · cases h
    cases h
    simp
  · cases h
  · cases h

theorem env_makeDirectoriesUpTo (depth : Nat) (w : World) (p : Pathname) :
    (makeDirectoriesUpTo depth w p).2.env = w.env := by
  induction depth generalizing w p with
  | zero =>
    unfold makeDirectoriesUpTo
    split
    · rfl
    split
    · exact env_make ‹_›
    · rfl
    · split <;> rfl
  | succ depth ih =>
    unfold makeDirectoriesUpTo
    split
    · rfl
    split
    · exact env_make ‹_›
    · split
      · rename_i d parent hdepth hparent
        cases hdepth
        have hupper := ih w parent
        split
        · rename_i fault last hlast
          rw [hlast] at hupper
          exact hupper
        · rename_i last hlast
          rw [hlast] at hupper
          split
          · exact (env_make ‹_›).trans hupper
          · split <;> exact hupper
      · rfl
    · split <;> rfl

theorem env_makeDirectories (w : World) (p : Pathname) : (w.makeDirectories p).2.env = w.env :=
  env_makeDirectoriesUpTo _ w p

/-- Going to another directory changes the directory worked in and nothing else. -/
theorem exists_of_changeDirectory (h : w.changeDirectory p = .ok next) :
    ∃ f, next = { w with cwd := f } := by
  unfold changeDirectory at h
  split at h
  · split at h
    · cases h
      exact ⟨_, rfl⟩
    · cases h
  · cases h
  · cases h
    exact ⟨_, rfl⟩
  · cases h
  · cases h

@[simp] theorem env_takeAway (w : World) (entry : Entry) : (w.takeAway entry).env = w.env := by
  simp [takeAway, keepFootholds]

theorem env_removeDirectory (h : w.removeDirectory p = .ok next) : next.env = w.env := by
  unfold removeDirectory at h
  split at h
  · split at h
    · cases h
    split at h
    · cases h
    split at h
    · cases h
      exact env_takeAway w _
    · cases h
    · cases h
  all_goals cases h

theorem env_removeFile (h : w.removeFile p = .ok next) : next.env = w.env := by
  unfold removeFile at h
  split at h
  · split at h
    · cases h
    split at h
    · cases h
    split at h
    · cases h
    split at h
    · cases h
    · cases h
      exact env_takeAway w _
  all_goals cases h

theorem env_removeTree (w : World) (p : Pathname) : (w.removeTree p).2.env = w.env := by
  have hemptied (w : World) : (w.removeEmptied p).2.env = w.env := by
    unfold removeEmptied
    split
    · exact env_removeDirectory ‹_›
    · rfl
    · rfl
  unfold removeTree
  split
  · split
    · exact env_removeFile ‹_›
    · rfl
  · split
    · rfl
    split
    · rfl
    · exact hemptied _
  · exact hemptied w
  · rfl
  · rfl

/-- Removing what is at a path, if anything is. -/
theorem env_removed (w : World) (p : Pathname) :
    (if w.pathExists p then w.removeTree p else (.ok (), w)).2.env = w.env := by
  split
  · exact env_removeTree w p
  · rfl

end World

/-! ## Launching programs -/

/-- A launcher gives every program an environment of its own. -/
def Launcher.KeepsEnvironment (launch : Launcher) : Prop :=
  ∀ command w, (launch command w).2.env = w.env

theorem World.keepsEnvironment_launch : Launcher.KeepsEnvironment World.launch := by
  intro command w
  unfold launch
  simp only
  split
  · rfl
  split
  · unfold Shell.Run.program
    simp only
    split <;> rfl
  · rfl

/-! ## Going to another directory and writing pages -/

theorem exists_of_relocate (root : Pathname) (configuration : String) (w : World) :
    ∃ f, (relocate root configuration w).2 = { w with cwd := f } := by
  unfold relocate
  simp only
  split
  · exact ⟨w.cwd, rfl⟩
  · exact ⟨w.cwd, rfl⟩
  split
  · exact ⟨w.cwd, rfl⟩
  split
  · exact ⟨w.cwd, rfl⟩
  split
  · exact ⟨w.cwd, rfl⟩
  · exact World.exists_of_changeDirectory ‹_›

theorem env_relocate (root : Pathname) (configuration : String) (w : World) :
    (relocate root configuration w).2.env = w.env := by
  obtain ⟨f, hworld⟩ := exists_of_relocate root configuration w
  rw [hworld]

theorem disk_relocate (root : Pathname) (configuration : String) (w : World) :
    (relocate root configuration w).2.disk = w.disk := by
  obtain ⟨f, hworld⟩ := exists_of_relocate root configuration w
  rw [hworld]

/-- The directory that has been entered is the one worked in. -/
theorem currentDirectory_of_relocate {root : Pathname} {configuration : String} {w next : World}
    {relocation : Relocation} (h : relocate root configuration w = (.ok relocation, next)) :
    next.currentDirectory = .ok relocation.current := by
  unfold relocate at h
  simp only at h
  split at h
  · cases h
  · cases h
  split at h
  · cases h
  split at h
  · cases h
  split at h
  · cases h
  rename_i entered _
  cases hcurrent : entered.currentDirectory with
  | error fault =>
    rw [hcurrent] at h
    cases h
  | ok current =>
    rw [hcurrent] at h
    cases h
    exact hcurrent

namespace Pages

theorem keeps_env_put (directory : Pathname) (name text : String) :
    Keeps World.env (put directory name text) := by
  intro w
  show (put directory name text w).2.env = w.env
  unfold put
  simp only
  split
  · exact World.env_write ‹_›
  · rfl

theorem keeps_env_renew (directory : Pathname) : Keeps World.env (renew directory) := by
  intro w
  show (renew directory w).2.env = w.env
  unfold renew
  simp only
  split
  · exact World.env_removed w directory
  · exact (World.env_makeDirectories _ _).trans (World.env_removed w directory)

theorem keeps_env_putFiles (directory : Pathname) (files : List (FileAccount × String × String)) :
    Keeps World.env (putFiles directory files) := by
  induction files with
  | nil => exact keeps_pure _ _
  | cons entry rest ih =>
    obtain ⟨file, name, page⟩ := entry
    refine Keeps.bind ?_ fun _ => ih
    exact Keeps.bind (fun _ => rfl) fun _ => keeps_env_put _ _ _

theorem keeps_env_write (m : Measurement) (root directory : Pathname) :
    Keeps World.env (write m root directory) := by
  refine Keeps.bind (keeps_env_renew directory) fun _ => ?_
  refine Keeps.bind (keeps_env_putFiles _ _) fun _ => ?_
  refine Keeps.bind (fun _ => rfl) fun _ => ?_
  refine Keeps.bind (keeps_env_put _ _ _) fun _ => ?_
  exact Keeps.bind (keeps_env_put _ _ _) fun _ => keeps_pure _ _

end Pages

/-! ## Saving and reporting -/

/-- A measurement is saved by writing its text. -/
theorem Measurement.writeText_of_save {m : Measurement} {w next : World} {p : Pathname}
    (h : m.save w p = .ok next) : w.writeText p m.toText = .ok next := by
  rw [save] at h
  cases hwritten : w.writeText p m.toText with
  | error fault =>
    rw [hwritten] at h
    cases h
  | ok written =>
    rw [hwritten] at h
    cases h
    rfl

namespace Session

variable {κ : Type} {session : Session κ} {w next : World} {p : Pathname}

/-- A session saves the measurement that it has. -/
theorem exists_of_save (h : session.save w = .ok (p, next)) :
    ∃ m, session.measurement = .ok m ∧ m.save w p = .ok next := by
  rw [save] at h
  cases hmeasured : session.measurement with
  | error e =>
    rw [hmeasured] at h
    cases h
  | ok m =>
    rw [hmeasured] at h
    cases hsaved : m.save w session.settings.dataFile with
    | error e =>
      simp only [bind, Except.bind, hsaved] at h
      cases h
    | ok written =>
      simp only [bind, Except.bind, hsaved] at h
      cases h
      exact ⟨m, rfl, hsaved⟩

theorem env_save (h : session.save w = .ok (p, next)) : next.env = w.env := by
  obtain ⟨m, _, hsaved⟩ := exists_of_save h
  exact World.env_write (Measurement.writeText_of_save hsaved)

theorem env_reportPages (session : Session κ) (directory : Pathname) (w : World) :
    (session.reportPages directory w).2.env = w.env := by
  unfold reportPages
  split
  · rfl
  · exact Pages.keeps_env_write _ _ _ w

end Session
end SuiteCoverage
