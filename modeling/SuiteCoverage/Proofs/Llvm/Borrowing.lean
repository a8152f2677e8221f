import SuiteCoverage.Llvm.Recorder
import SuiteCoverage.Proofs.Session.History
import SuiteCoverage.Proofs.World.Environment

/-!
# The variable that the recorder borrows

While it records, the recorder has a variable of the environment name its files, and it keeps the
value that the variable had. It changes the variable in beginning, as the last thing that it does,
and gives it back in finishing, as the first. Neither the tools nor anything on the disk touch it
in between.
-/

set_option autoImplicit false

namespace SuiteCoverage
namespace Llvm

variable {launch : Launcher} {w last : World}

/-! ## What leaves the environment alone -/

theorem env_renew (directory : Pathname) (w : World) :
    (Recording.renew directory w).2.env = w.env := by
  unfold Recording.renew
  simp only
  split
  · exact World.env_removed w directory
  · exact (World.env_makeDirectories _ _).trans (World.env_removed w directory)

theorem env_runTool (hlaunch : launch.KeepsEnvironment) (tool : Pathname) (label : String)
    (arguments : List String) (w : World) :
    (Toolchain.runTool launch tool label arguments w).2.env = w.env := by
  have hkept := hlaunch ⟨tool, arguments⟩ w
  unfold Toolchain.runTool
  split
  · simpa [*] using hkept
  · split <;> simpa [*] using hkept

theorem env_fromRustup? (hlaunch : launch.KeepsEnvironment) (w : World) :
    (fromRustup? launch w).2.env = w.env := by
  have hkept := hlaunch ⟨⟨"rustup"⟩, ["show", "active-toolchain"]⟩ w
  unfold fromRustup?
  split
  · rfl
  split
  · simpa [*] using hkept
  · split <;> simpa [*] using hkept

theorem env_detect (hlaunch : launch.KeepsEnvironment) (w : World) :
    (detect launch w).2.env = w.env := by
  have hkept := env_fromRustup? hlaunch w
  unfold detect
  split
  · rfl
  split <;> simpa [*] using hkept

theorem env_exportTrace (hlaunch : launch.KeepsEnvironment) (toolchain : Toolchain)
    (objects : List Pathname) (profile : Pathname) (w : World) :
    (toolchain.exportTrace launch objects profile w).2.env = w.env := by
  cases objects with
  | nil => rfl
  | cons first others => exact env_runTool hlaunch _ _ _ w

theorem env_countsWith (hlaunch : launch.KeepsEnvironment) (toolchain : Toolchain)
    (profiles objects : List Pathname) (merged : Pathname) (w : World) :
    (Recording.countsWith launch toolchain profiles objects merged w).2.env = w.env := by
  have hmerged : (toolchain.merge launch profiles merged w).2.env = w.env :=
    env_runTool hlaunch _ _ _ w
  unfold Recording.countsWith
  rcases hmerge : toolchain.merge launch profiles merged w with ⟨e | _, next⟩
  all_goals rw [hmerge] at hmerged
  · exact hmerged
  · have hexported := (env_exportTrace hlaunch toolchain objects merged next).trans hmerged
    simp only
    split <;> simpa [*] using hexported

theorem env_counts (hlaunch : launch.KeepsEnvironment) (directory : Pathname)
    (objects : List Pathname) (w : World) :
    (Recording.counts launch directory objects w).2.env = w.env := by
  have hdetected := env_detect hlaunch w
  unfold Recording.counts
  simp only
  split
  · rfl
  rcases hdetect : detect launch w with ⟨e | toolchain, next⟩
  all_goals rw [hdetect] at hdetected
  · exact hdetected
  · exact (env_countsWith hlaunch _ _ _ _ next).trans hdetected

/-! ## What beginning and finishing do to the variable -/

/-- A recorder has borrowed the variable, which had a value before: it keeps the value, and now
    the variable names files in the directory of the recorder. -/
structure Borrowed (recording : Recording) (value : Option String) (w : World) : Prop where
  kept : recording.previous = value
  named : ∃ directory, recording.directory = some directory ∧
    w.env.get? Recording.profileVariable
      = some (directory.join ⟨Recording.profileTemplate⟩).spelling

variable {recording next : Recording} {data : Pathname}

/-- A recorder that cannot begin leaves the environment alone. -/
theorem env_of_begin_error {e : CoverageError}
    (h : Recording.begin data recording w = (.error e, next, last)) : last.env = w.env := by
  have hrenewed := env_renew (data.join ⟨Artifact.profiles⟩) w
  unfold Recording.begin at h
  simp only at h
  split at h
  · cases h
    simpa [*] using hrenewed
  · cases h

/-- A recorder that begins borrows the variable. -/
theorem borrowed_of_begin_ok (h : Recording.begin data recording w = (.ok (), next, last)) :
    Borrowed next (w.env.get? Recording.profileVariable) last := by
  have hrenewed := env_renew (data.join ⟨Artifact.profiles⟩) w
  unfold Recording.begin at h
  simp only at h
  split at h
  · cases h
  · rename_i renewed hrenew
    rw [hrenew] at hrenewed
    cases h
    -- The value is read in the world in which the directory has been made afresh.
    refine ⟨?_, _, rfl, Environment.get?_set_self _ _ _⟩
    exact congrArg (·.get? Recording.profileVariable) hrenewed

/-- A recorder that has a directory gives the variable back in finishing, whatever comes of
    that. -/
theorem get?_of_finish (hlaunch : launch.KeepsEnvironment) {objects : List Pathname}
    {result : Except CoverageError (List FileHits)}
    (h : Recording.finish launch objects recording w = (result, next, last))
    {directory : Pathname} (hdirectory : recording.directory = some directory) :
    last.env.get? Recording.profileVariable = recording.previous := by
  -- The variable is given back first, and the counts are made in the world that leaves.
  have hcounted := env_counts hlaunch directory objects
    { w with env := w.env.put Recording.profileVariable recording.previous }
  rw [Recording.finish, hdirectory] at h
  simp only [Prod.mk.injEq] at h
  rw [← h.2.2, hcounted]
  exact Environment.get?_put_self _ _ _

/-! ## What starting and stopping do to it -/

variable {session after : Session Recording}

/-- A session that cannot be started leaves the environment alone. -/
theorem env_of_start_error {e : CoverageError}
    (h : session.start (recorder launch) w = (.error e, after, last)) : last.env = w.env := by
  cases Session.starts h with
  | refused => rfl
  | unbegun hstage hboundaries hdirectory hbegin => exact env_of_begin_error hbegin

/-- When a session has been started its recorder has borrowed the variable. -/
theorem borrowed_of_start_ok
    (h : session.start (recorder launch) w = (.ok (), after, last)) :
    Borrowed after.collector (w.env.get? Recording.profileVariable) last := by
  cases Session.starts h with
  | begun hstage hboundaries hdirectory hbegin => exact borrowed_of_begin_ok hbegin

/-- A session that is started and has a recorder with a directory gives the variable back in
    stopping, whatever comes of that. -/
theorem get?_of_stop (hlaunch : launch.KeepsEnvironment) {result : Except CoverageError Unit}
    (h : session.stop (recorder launch) w = (result, after, last))
    (hstage : session.stage = .started) {directory : Pathname}
    (hdirectory : session.collector.directory = some directory) :
    last.env.get? Recording.profileVariable = session.collector.previous := by
  cases Session.stops h with
  | refused e hother => exact absurd hstage hother
  | unfinished _ hfinish => exact get?_of_finish hlaunch hfinish hdirectory
  | stranded _ hfinish => exact get?_of_finish hlaunch hfinish hdirectory
  | finished _ hfinish => exact get?_of_finish hlaunch hfinish hdirectory

end Llvm
end SuiteCoverage
