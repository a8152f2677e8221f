import SuiteCoverage.Proofs.Llvm.Borrowing
import SuiteCoverage.Proofs.Llvm.Standing
import SuiteCoverage.Proofs.World.Renewal
import SuiteCoverage.Proofs.World.Walk

/-!
# The profiles of a recording

A recording makes its directory afresh when it begins, so that there is nothing in it, and when it
is finished it merges the profiles that are in it: all of them, each once, in the order of their
paths, and no others. So what is merged has come since the recording began (`startsAfresh`,
`merges`). In a session a stop takes the directory away from the recorder, and only a start gives it
one, so the rounds of a session do not overlap (`exists_opens`).

The directory is found again by its path. If that ascends through a directory which is missing, the
recording makes this one, and finds behind it what has been there all the time.
-/

set_option autoImplicit false

namespace SuiteCoverage

/-- There is nothing below a bare directory. -/
theorem World.Bare.not_hasBelow {w : World} {p : Pathname} {loc : Location} {node : Node}
    (h : w.Bare p) : ¬ w.HasBelow p loc node := by
  rintro ⟨facts, entries, hstat, hne, hnode⟩
  have hempty : entries = [] := by
    unfold stat at hstat
    split at hstat
    · rename_i top found hlocate
      cases hstat
      exact h top facts entries hlocate
    · cases hstat
      rfl
    · cases hstat
    · cases hstat
  obtain ⟨name, rest, rfl⟩ := List.exists_cons_of_ne_nil hne
  rw [hempty] at hnode
  cases hnode

namespace Llvm
namespace Recording

variable {launch other : Launcher} {data directory : Pathname} {recording state : Recording}
  {w begun : World} {objects : List Pathname}

/-! ## Profiles -/

/-- Paths are those of all profiles below a directory, each once and in order. -/
structure AreProfiles (w : World) (directory : Pathname) (profiles : List Pathname) : Prop where
  mem_iff : ∀ p, p ∈ profiles ↔ ∃ loc node, w.HasBelow directory loc node ∧
    p = directory.at loc ∧ p.extension? = some "profraw"
  ascending : profiles.Pairwise fun a b => Pathname.order a b = .lt

/-- Paths that are different are put in order without two of them standing in one place. -/
theorem ascending_mergeSort {paths : List Pathname}
    (h : paths.Pairwise fun a b => Pathname.order a b ≠ .eq) :
    (paths.mergeSort fun a b => (Pathname.order a b).isLE).Pairwise
      fun a b => Pathname.order a b = .lt := by
  have hsorted : (paths.mergeSort fun a b => (Pathname.order a b).isLE).Pairwise
      fun a b => (Pathname.order a b).isLE := by
    refine List.pairwise_mergeSort ?_ ?_ _
    · exact fun a b c => Std.TransCmp.isLE_trans
    · intro a b
      have hswap : Pathname.order a b = (Pathname.order b a).swap := Std.OrientedCmp.eq_swap
      rw [hswap]
      cases Pathname.order b a <;> rfl
  have hapart : (paths.mergeSort fun a b => (Pathname.order a b).isLE).Pairwise
      fun a b => Pathname.order a b ≠ .eq := by
    refine ((List.mergeSort_perm _ _).pairwise_iff ?_).2 h
    exact fun hne heq => hne (Std.OrientedCmp.eq_symm heq)
  refine (hsorted.and hapart).imp ?_
  rintro a b ⟨hle, hne⟩
  cases horder : Pathname.order a b with
  | lt => rfl
  | eq => exact absurd horder hne
  | gt => rw [horder] at hle; cases hle

/-- Different locations below a directory have different paths. -/
theorem order_at_ne {loc other : Location} (hfilled : directory.spelling.toList ≠ [])
    (hloc : ∀ name ∈ loc, Pathname.IsEntry name) (hother : ∀ name ∈ other, Pathname.IsEntry name)
    (hne : loc ≠ other) : Pathname.order (directory.at loc) (directory.at other) ≠ .eq := by
  rw [Ne, Pathname.order_eq_iff, Pathname.components_at hfilled hloc,
    Pathname.components_at hfilled hother, List.append_cancel_left_eq]
  exact fun heq => hne (List.map_injective_iff.2 (fun _ _ h => Component.name.inj h) heq)

theorem areProfiles_profilesIn (hproper : w.IsProperAt directory)
    (hfilled : directory.spelling.toList ≠ []) :
    AreProfiles w directory (profilesIn w directory) := by
  obtain ⟨sites, hwalk, hnodup, hentries, hsites⟩ := World.exists_sites hproper
  have hpaths : (w.walk (fun _ => false) directory).map (·.path)
      = (sites.map Prod.fst).map directory.at := by
    rw [hwalk, List.map_map, List.map_map]
    rfl
  constructor
  · intro p
    rw [profilesIn, List.mem_mergeSort, List.mem_filter, hpaths, List.map_map, List.mem_map,
      beq_iff_eq]
    constructor
    · rintro ⟨⟨⟨loc, node⟩, hsite, rfl⟩, hextension⟩
      exact ⟨loc, node, (hsites loc node).1 hsite, rfl, hextension⟩
    · rintro ⟨loc, node, hbelow, rfl, hextension⟩
      exact ⟨⟨(loc, node), (hsites loc node).2 hbelow, rfl⟩, hextension⟩
  · have hdistinct : ((sites.map Prod.fst).map directory.at).Pairwise
        fun a b => Pathname.order a b ≠ .eq := by
      refine List.pairwise_map.2 (hnodup.imp_of_mem fun {loc other} hloc hother hne => ?_)
      obtain ⟨site, hsite, rfl⟩ := List.mem_map.1 hloc
      obtain ⟨last, hlast, rfl⟩ := List.mem_map.1 hother
      exact order_at_ne hfilled (hentries site hsite) (hentries last hlast) hne
    exact ascending_mergeSort ((hpaths ▸ hdistinct).filter _)

/-! ## Beginning -/

/-- The directory in which a recording looks for profiles. -/
def profilesOf (data : Pathname) : Pathname := data.join ⟨".coverage_profraw"⟩

theorem isEntry_profiles : Pathname.IsEntry ".coverage_profraw" := by
  constructor <;> decide

theorem filled_profilesOf (data : Pathname) : (profilesOf data).spelling.toList ≠ [] := by
  rcases Pathname.join_cases isEntry_profiles data with ⟨-, hname⟩ | ⟨text, -, hname⟩
  · rw [profilesOf, hname]
    exact isEntry_profiles.filled
  · rw [profilesOf, hname]
    simp

/-- What is done in order to begin. -/
theorem begin_ok_iff : begin data recording w = (.ok (), state, begun) ↔
    ∃ renewed, Pages.renew (profilesOf data) w = (.ok (), renewed) ∧
      state = ⟨some (profilesOf data), renewed.env.get? "LLVM_PROFILE_FILE"⟩ ∧
      begun = { renewed with
        env := renewed.env.set "LLVM_PROFILE_FILE"
          ((profilesOf data).join ⟨profileTemplate⟩).spelling } := by
  constructor
  · intro h
    unfold begin at h
    rcases hrenew : renew (data.join ⟨Artifact.profiles⟩) w with ⟨e | _, renewed⟩
    · simp only [hrenew] at h
      cases h
    · simp only [hrenew] at h
      cases h
      exact ⟨renewed, hrenew, rfl, rfl⟩
  · rintro ⟨renewed, hrenew, rfl, rfl⟩
    have hrenew : renew (data.join ⟨Artifact.profiles⟩) w = (.ok (), renewed) := hrenew
    unfold begin
    simp only [hrenew]
    rfl

theorem steps_profilesOf (data : Pathname) :
    (profilesOf data).route.steps = data.route.steps ++ [.enter ".coverage_profraw"] := by
  rw [profilesOf, Pathname.route_join isEntry_profiles]

theorem bare_of_begin (hplain : data.NeverReturns)
    (h : begin data recording w = (.ok (), state, begun)) : begun.Bare (profilesOf data) := by
  obtain ⟨renewed, hrenew, -, rfl⟩ := begin_ok_iff.1 h
  have hbare := World.bare_renew (hplain.join isEntry_profiles) (steps_profilesOf data) hrenew
  exact fun loc facts entries hlocate => hbare loc facts entries hlocate

/-- If anything is there, beginning is the same as if it had been removed. -/
theorem begin_removed (hexists : w.pathExists (profilesOf data) = true)
    (h : begin data recording w = (.ok (), state, begun)) :
    ∃ without, w.removeTree (profilesOf data) = (.ok (), without) ∧
      without.pathExists (profilesOf data) = false ∧
      begin data recording without = (.ok (), state, begun) := by
  obtain ⟨renewed, hrenew, hstate, hbegun⟩ := begin_ok_iff.1 h
  obtain ⟨without, hremove, hgone, hagain⟩ :=
    World.renew_removed (steps_profilesOf data) hexists hrenew
  exact ⟨without, hremove, hgone, begin_ok_iff.2 ⟨renewed, hagain, hstate, hbegun⟩⟩

/-- Whatever was in the directory, beginning leaves the same world and the same in mind. -/
theorem begin_refilled {loc : Location} {facts : Facts} {entries others : Entries}
    (hhere : w.LeadsTo (profilesOf data) loc facts entries)
    (hthere : (w.refilled loc others).LeadsTo (profilesOf data) loc facts others)
    (h : begin data recording w = (.ok (), state, begun)) {state' : Recording} {begun' : World}
    (h' : begin data recording (w.refilled loc others) = (.ok (), state', begun')) :
    state' = state ∧ begun' = begun := by
  obtain ⟨renewed, hrenew, rfl, rfl⟩ := begin_ok_iff.1 h
  obtain ⟨renewed', hrenew', rfl, rfl⟩ := begin_ok_iff.1 h'
  obtain ⟨middle, hremove, hmake⟩ := World.renew_leadsTo hhere hrenew
  obtain ⟨middle', hremove', hmake'⟩ := World.renew_leadsTo hthere hrenew'
  rw [World.clear_refilled, hremove] at hremove'
  cases hremove'
  rw [hmake] at hmake'
  cases hmake'
  exact ⟨rfl, rfl⟩

/-- What a recording that has begun starts from. It keeps its directory in mind and the value that
    the variable had; there is nothing below the directory, unless its path returns; and it makes no
    difference whether anything was there, nor what. -/
structure StartsAfresh (data : Pathname) (recording : Recording) (w : World) (state : Recording)
    (begun : World) : Prop where
  kept : state = ⟨some (profilesOf data), w.env.get? "LLVM_PROFILE_FILE"⟩
  empty : data.NeverReturns → ∀ loc node, ¬ begun.HasBelow (profilesOf data) loc node
  removed : w.pathExists (profilesOf data) = true →
    ∃ without, w.removeTree (profilesOf data) = (.ok (), without) ∧
      without.pathExists (profilesOf data) = false ∧
      begin data recording without = (.ok (), state, begun)
  same : ∀ {loc facts entries others}, w.LeadsTo (profilesOf data) loc facts entries →
    (w.refilled loc others).LeadsTo (profilesOf data) loc facts others →
    ∀ {state' begun'}, begin data recording (w.refilled loc others) = (.ok (), state', begun') →
      state' = state ∧ begun' = begun

theorem startsAfresh (h : begin data recording w = (.ok (), state, begun)) :
    StartsAfresh data recording w state begun := by
  constructor
  · have henv := env_renew (profilesOf data) w
    obtain ⟨renewed, hrenew, hstate, -⟩ := begin_ok_iff.1 h
    rw [show renew (profilesOf data) w = _ from hrenew] at henv
    rw [hstate, ← henv]
  · exact fun hplain loc node => (bare_of_begin hplain h).not_hasBelow
  · exact fun hexists => begin_removed hexists h
  · exact fun hhere hthere _ _ h' => begin_refilled hhere hthere h h'

/-! ## Finishing -/

/-- Launchers treat all commands the same, but for those that merge anything else than given
    profiles. -/
def AgreeUpTo (profiles : List Pathname) (merged : Pathname) (launch other : Launcher) : Prop :=
  ∀ command w, (command.arguments.head? = some "merge" →
    command.arguments = ["merge", "-sparse"] ++ profiles.map (·.spelling)
      ++ ["-o", merged.spelling]) → launch command w = other command w

theorem runTool_congr {tool : Pathname} {label : String} {arguments : List String} (w : World)
    (h : ∀ w, launch ⟨tool, arguments⟩ w = other ⟨tool, arguments⟩ w) :
    Toolchain.runTool launch tool label arguments w
      = Toolchain.runTool other tool label arguments w := by
  rw [Toolchain.runTool, h, Toolchain.runTool]

variable {profiles : List Pathname} {merged : Pathname}

theorem merge_congr (h : AgreeUpTo profiles merged launch other) (toolchain : Toolchain)
    (w : World) : toolchain.merge launch profiles merged w
      = toolchain.merge other profiles merged w := by
  have hmerge (w : World) : launch ⟨toolchain.profdata, Toolchain.mergeArguments profiles merged⟩ w
      = other ⟨toolchain.profdata, Toolchain.mergeArguments profiles merged⟩ w :=
    h _ w fun _ => rfl
  rw [Toolchain.merge, runTool_congr w hmerge, Toolchain.merge]

theorem exportTrace_congr (h : AgreeUpTo profiles merged launch other) (toolchain : Toolchain)
    (profile : Pathname) (w : World) :
    toolchain.exportTrace launch objects profile w
      = toolchain.exportTrace other objects profile w := by
  cases objects with
  | nil => rfl
  | cons first others =>
    have hexport (w : World) :
        launch ⟨toolchain.cov, Toolchain.exportArguments profile first others⟩ w
          = other ⟨toolchain.cov, Toolchain.exportArguments profile first others⟩ w :=
      h _ w fun hmerges => absurd hmerges (by simp [Toolchain.exportArguments])
    rw [Toolchain.exportTrace, runTool_congr w hexport, Toolchain.exportTrace]

theorem detect_congr (h : AgreeUpTo profiles merged launch other) (w : World) :
    detect launch w = detect other w := by
  have hrustup : fromRustup? launch w = fromRustup? other w := by
    rw [fromRustup?, h ⟨⟨"rustup"⟩, _⟩ w (by simp), fromRustup?]
  rw [detect, hrustup, detect]

theorem countsWith_congr (h : AgreeUpTo profiles merged launch other) (toolchain : Toolchain)
    (w : World) : countsWith launch toolchain profiles objects merged w
      = countsWith other toolchain profiles objects merged w := by
  unfold countsWith
  simp only [merge_congr h, exportTrace_congr h]

/-- Counts are made with no other commands that merge. -/
theorem counts_congr (h : AgreeUpTo (profilesIn w directory) (directory.join ⟨mergedName⟩) launch
    other) : counts launch directory objects w = counts other directory objects w := by
  unfold counts
  simp only [detect_congr h, countsWith_congr h]

/-- What comes of finishing a recording. -/
structure Merges (launch : Launcher) (directory : Pathname) (objects : List Pathname)
    (state : Recording) (ended : World) (profiles : List Pathname) : Prop where
  /-- The profiles are those that are there. -/
  found : AreProfiles ended directory profiles
  /-- Without profiles, or without objects, there are no counts, and nothing is launched. -/
  nothing : profiles = [] ∨ objects = [] →
    finish launch objects state ended = (.ok [], .idle, state.restore ended)
  /-- Otherwise tools are looked for, and the first of them merges the profiles. -/
  something : profiles ≠ [] → objects ≠ [] →
    finish launch objects state ended
      = match detect launch (state.restore ended) with
        | (.error e, next) => (.error e, .idle, next)
        | (.ok toolchain, next) =>
          let (result, last) := countsWith launch toolchain profiles objects
            (directory.join ⟨"merged.profdata"⟩) next
          (result, .idle, last)
  /-- Nothing else is ever merged. -/
  only : ∀ other, AgreeUpTo profiles (directory.join ⟨"merged.profdata"⟩) launch other →
    finish launch objects state ended = finish other objects state ended

theorem merges (launch : Launcher) (objects : List Pathname) {ended : World}
    {previous : Option String} (hproper : ended.IsProperAt directory)
    (hfilled : directory.spelling.toList ≠ []) :
    Merges launch directory objects ⟨some directory, previous⟩ ended
      (profilesIn ended directory) := by
  have hfinish (launch : Launcher) : finish launch objects ⟨some directory, previous⟩ ended
      = let (result, next) := counts launch directory objects
          (restore ⟨some directory, previous⟩ ended)
        (result, .idle, next) := rfl
  -- The variable is given back first; that changes nothing about the disk.
  have hrestored : profilesIn (restore ⟨some directory, previous⟩ ended) directory
      = profilesIn ended directory := rfl
  constructor
  · exact areProfiles_profilesIn hproper hfilled
  · intro hnothing
    have hempty : ((profilesIn ended directory).isEmpty || objects.isEmpty) = true := by
      rw [Bool.or_eq_true, List.isEmpty_iff, List.isEmpty_iff]
      exact hnothing
    simp only [hfinish, counts, hrestored, if_pos hempty]
  · intro hprofiles hobjects
    have hfull : ¬ ((profilesIn ended directory).isEmpty || objects.isEmpty) = true := by
      rw [Bool.or_eq_true, List.isEmpty_iff, List.isEmpty_iff, not_or]
      exact ⟨hprofiles, hobjects⟩
    simp only [hfinish, counts, hrestored, if_neg hfull]
    rcases detect launch (restore ⟨some directory, previous⟩ ended) with ⟨e | toolchain, next⟩ <;>
      rfl
  · intro other h
    have hcounts : counts launch directory objects (restore ⟨some directory, previous⟩ ended)
        = counts other directory objects (restore ⟨some directory, previous⟩ ended) :=
      counts_congr h
    rw [hfinish, hfinish, hcounts]

/-! ## Cycles -/

/-- What comes of a recording that has begun: it starts afresh, and when it is finished, in whatever
    world, it merges the profiles that are there then. -/
structure Cycle (launch : Launcher) (data : Pathname) (recording : Recording) (w : World)
    (state : Recording) (begun : World) : Prop where
  afresh : StartsAfresh data recording w state begun
  merges : ∀ objects ended, ended.IsProperAt (profilesOf data) →
    ∃ profiles, Merges launch (profilesOf data) objects state ended profiles

theorem cycle (launch : Launcher) (h : begin data recording w = (.ok (), state, begun)) :
    Cycle launch data recording w state begun := by
  have hafresh := startsAfresh h
  refine ⟨hafresh, fun objects ended hproper => ?_⟩
  rw [hafresh.kept]
  exact ⟨_, merges launch objects hproper (filled_profilesOf data)⟩

end Recording

/-! ## The cycles of a session -/

open Session

variable {σ : Type} {launch : Launcher} {first : Session Recording}

/-- A start in a history has given the recorder what it has in mind at the end, and no stop has been
    asked for since. -/
structure Opens (launch : Launcher) (first : Session Recording) (front : List (Turn σ))
    (start : Turn σ) (between : List (Turn σ)) (data : Pathname) (begun : World) : Prop where
  request : start.request = .start
  place : start.world.currentDirectory = .ok data
  begins : Recording.begin data (first.after (recorder launch) front).collector start.world
    = (.ok (), (first.after (recorder launch) (front ++ start :: between)).collector, begun)
  unstopped : ∀ turn ∈ between, turn.request ≠ .stop

/-- A request that is no stop and leaves the recorder alone changes nothing about it. -/
theorem Opens.concat {front between : List (Turn σ)} {start turn : Turn σ} {data : Pathname}
    {begun : World} (h : Opens launch first front start between data begun)
    (hrequest : turn.request ≠ .stop)
    (hkept : (first.after (recorder launch) (front ++ start :: between ++ [turn])).collector
      = (first.after (recorder launch) (front ++ start :: between)).collector) :
    Opens launch first front start (between ++ [turn]) data begun := by
  constructor
  · exact h.request
  · exact h.place
  · rw [← List.cons_append, ← List.append_assoc, hkept]
    exact h.begins
  · exact List.forall_mem_append.2 ⟨h.unstopped, List.forall_mem_singleton.2 hrequest⟩

/-- There is nothing below the directory of a recording that a start has opened, if the names of the
    directories that the start has been made in are such as a file system has. -/
theorem Opens.not_hasBelow {front between : List (Turn σ)} {start : Turn σ} {data : Pathname}
    {begun : World} (h : Opens launch first front start between data begun)
    (hnames : ∀ name ∈ start.world.cwd.standing, Pathname.IsEntry name) (loc : Location)
    (node : Node) : ¬ begun.HasBelow (Recording.profilesOf data) loc node := by
  refine (Recording.startsAfresh h.begins).empty ?_ loc node
  have hplace := h.place
  unfold World.currentDirectory at hplace
  split at hplace
  · cases hplace
  · cases hplace
    exact World.neverReturns_pathOf hnames

end Llvm
end SuiteCoverage
