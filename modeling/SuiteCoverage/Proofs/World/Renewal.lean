import SuiteCoverage.Proofs.World.Places
import SuiteCoverage.Report.Pages

/-!
# Directories that are made afresh

A directory is made afresh by removing what is there and making the directories that are missing.
That nothing is in it afterwards is not a matter of course: what is missing may be on the way of
the path itself, so that making it puts something into the directory that the path leads to. A path
that does not ascend once it has descended cannot do that (`bare_renew`).

All of it is stated for a path that still leads to a directory in the end. Whether it does depends
on what may be gone through, and whoever writes into the directory finds out.
-/

set_option autoImplicit false

namespace SuiteCoverage
namespace World

variable {w next : World} {p : Pathname} {loc : Location} {facts : Facts} {entries : Entries}
  {name : String} {start : List RouteStep}

/-! ## A directory that has been touched -/

theorem touched_root (w : World) : w.touched [] = w := by
  simp [touched, replace, Disk.node?, Disk.nodeIn]

theorem touched_child {above : Location}
    (h : w.disk.node? (above ++ [name]) = some (.directory facts entries)) :
    w.touched (above ++ [name])
      = { w with
          disk := w.disk.put above name
            (.directory { facts with changed := w.fileTime } entries) } := by
  simp [touched, replace, h]

/-- A directory that has been touched has in it what was in it, and all nodes are of the kind that
    they were of. -/
theorem touched_spec (h : w.disk.node? loc = some (.directory facts entries)) :
    (∃ changed, (w.touched loc).disk.node? loc = some (.directory changed entries)) ∧
      (∀ other, (w.touched loc).disk.kind? other = w.disk.kind? other) ∧
      (w.touched loc).cwd = w.cwd := by
  rcases loc.eq_nil_or_concat with rfl | ⟨above, last, rfl⟩
  · rw [touched_root]
    exact ⟨⟨facts, h⟩, fun _ => rfl, rfl⟩
  · -- What is known of a directory is kept with its name in the one above.
    rw [List.concat_eq_append] at h ⊢
    obtain ⟨upper, siblings, habove⟩ := Disk.holds_of_child h
    have hfind : Entries.find? last siblings = some (.directory facts entries) := by
      rw [← Disk.node?_child habove, h]
    rw [touched_child h]
    refine ⟨⟨{ facts with changed := w.fileTime }, ?_⟩, fun other => ?_, rfl⟩
    · show (w.disk.put above last _).node? _ = _
      rw [Disk.put, Disk.node?_child (Disk.node?_change_self habove _), Entries.find?_put_self]
    · show (w.disk.put above last _).kind? other = _
      by_cases hp : above <+: other
      · obtain ⟨rest, rfl⟩ := hp
        rw [Disk.kind?, Disk.kind?, Disk.put, Disk.node?_change_append habove,
          Disk.node?_append habove]
        cases rest with
        | nil => rfl
        | cons first more =>
          by_cases hfirst : first = last
          · subst hfirst
            simp only [Disk.nodeIn, Entries.find?_put_self, hfind]
            cases more <;> rfl
          · simp only [Disk.nodeIn, Entries.find?_put_of_ne hfirst]
      · rw [Disk.put, Disk.kind?_change_of_not_below hp]

/-- The directory that a name has been put into. -/
theorem placed_spec (h : w.disk.node? loc = some (.directory facts entries)) {node : Node}
    (hold : ∀ old, Entries.find? name entries = some old → old.kind = .other ∧ node.kind = .other)
    (hnext : next = { w with disk := w.disk.put loc name node }.touched loc) :
    (∃ changed, next.disk.node? loc = some (.directory changed (Entries.put name node entries))) ∧
      Disk.Extends w.disk next.disk ∧ next.cwd = w.cwd := by
  have hput : (w.disk.put loc name node).node? loc
      = some (.directory facts (Entries.put name node entries)) := Disk.node?_change_self h _
  obtain ⟨hnode, hkind, hcwd⟩ :=
    touched_spec (w := { w with disk := w.disk.put loc name node }) hput
  rw [← hnext] at hnode hkind hcwd
  refine ⟨hnode, fun other kind hother => ?_, hcwd⟩
  rw [hkind]
  exact Disk.extends_put h hold other kind hother

/-- The directory that an entry has been taken out of. -/
theorem takeAway_spec {entry : Entry}
    (h : w.disk.node? entry.parent = some (.directory facts entries)) :
    (∃ changed, (w.takeAway entry).disk.node? entry.parent
        = some (.directory changed (Entries.erase entry.name entries))) ∧
      Disk.Extends (w.takeAway entry).disk w.disk ∧
      (w.takeAway entry).cwd = w.cwd.removed entry.loc := by
  have herase : (w.disk.erase entry.parent entry.name).node? entry.parent
      = some (.directory facts (Entries.erase entry.name entries)) := Disk.node?_change_self h _
  obtain ⟨hnode, hkind, hcwd⟩ := touched_spec
    (w := { w with disk := w.disk.erase entry.parent entry.name }.keepFootholds
      (·.removed entry.loc)) herase
  refine ⟨hnode, fun other kind hother => ?_, hcwd⟩
  rw [show (w.takeAway entry).disk.kind? other = _ from hkind other] at hother
  exact Disk.erase_extends h entry.name other kind hother

/-! ## Bare directories -/

/-- If a path leads to a directory, there is nothing in it. -/
def Bare (w : World) (p : Pathname) : Prop :=
  ∀ loc facts entries, w.locate .through p = .ok (.present loc (.directory facts entries)) →
    entries = []

/-- A directory that has just been made is bare. -/
theorem bare_of_makeDirectory (h : w.makeDirectory p = .ok next) :
    next.Bare p ∧ routeOf p = .ok p.route ∧ ∃ name, .enter name ∈ p.route.steps := by
  unfold makeDirectory make at h
  split at h
  · rename_i entry hend
    obtain ⟨hroute, start, facts, entries, hsteps, hparent, hnode⟩ := pathEnd_entry hend
    split at h
    · cases h
    rename_i hfree
    split at h
    · cases h
    split at h
    · cases h
    refine ⟨?_, hroute, entry.name, by simp [hsteps]⟩
    have hholds := Disk.followFrom_node? hparent
    have hvacant : Entries.find? entry.name entries = none := by
      rw [← Disk.node?_child hholds, ← hnode]
      simpa using hfree
    obtain ⟨⟨changed, hchanged⟩, hextends, hcwd⟩ :=
      placed_spec hholds (fun old hold => by simp [hvacant] at hold) (Except.ok.inj h).symm
    have hchild : next.disk.node? (entry.parent ++ [entry.name])
        = some (.directory (w.newFacts ⟨0o777⟩) []) := by
      rw [Disk.node?_child hchanged, Entries.find?_put_self]
    intro loc found inside hlocate
    obtain ⟨-, hfollow⟩ := locate_ok hlocate
    rw [hsteps, baseOf_congr hcwd] at hfollow
    -- The way to the directory above is what it was before.
    obtain ⟨left, hwalk⟩ :=
      Disk.followFrom_beyond hextends (.inl rfl) rfl (Nat.le_refl _) hparent hfollow
    have hhere := (Disk.entering hwalk).2.2.ofDirectory (Disk.kind?_of_node? hchild)
    obtain ⟨node, hnode, hplace⟩ := Disk.walk_nil_ok hhere
    rw [hchild] at hnode
    cases hnode
    cases hplace
    rfl
  · cases h
  · cases h

theorem locate_of_pathExists (h : w.pathExists p = true) :
    ∃ place, w.locate .through p = .ok place ∧ ∀ parent last, place ≠ .vacant parent last := by
  unfold pathExists stat at h
  cases hlocate : w.locate .through p with
  | error fault => simp [hlocate] at h
  | ok place =>
    refine ⟨place, rfl, ?_⟩
    rintro parent last rfl
    simp [hlocate] at h

/-- Where there is nothing there is nothing in it. -/
theorem Bare.of_not_pathExists (h : w.pathExists p = false) : w.Bare p := by
  intro loc facts entries hlocate
  rw [pathExists, stat, hlocate] at h
  cases h

/-- A path that has lost its last entry leads to nothing any more. -/
theorem not_pathExists_takeAway {entry : Entry} (h : w.pathEnd p = .ok (.entry entry)) :
    (w.takeAway entry).pathExists p = false := by
  obtain ⟨-, start, facts, entries, hsteps, hparent, -⟩ := pathEnd_entry h
  obtain ⟨⟨changed, hchanged⟩, hextends, hcwd⟩ := takeAway_spec (Disk.followFrom_node? hparent)
  have hbase : ((w.takeAway entry).baseOf p).path = (w.baseOf p).path ∧
      (w.baseOf p).lost.length ≤ ((w.takeAway entry).baseOf p).lost.length := by
    unfold baseOf
    split
    · exact ⟨rfl, Nat.le_refl _⟩
    · rw [hcwd]
      exact Foothold.path_removed entry.loc w.cwd
  rw [← Bool.not_eq_true]
  intro hexists
  obtain ⟨place, hlocate, htaken⟩ := locate_of_pathExists hexists
  obtain ⟨-, hfollow⟩ := locate_ok hlocate
  rw [hsteps] at hfollow
  obtain ⟨mid, left, hwalk, hleads, -⟩ := Disk.followFrom_last hfollow
  obtain ⟨child, hchild⟩ := (Disk.entering hwalk).2.2.exists_child htaken
  -- The way to the entry has stayed the same, so the entry would have to be there still.
  obtain ⟨upper, siblings, hmid⟩ := hleads (Disk.holds_of_child hchild) true
  rw [← List.append_nil start] at hparent
  obtain ⟨left', hwalk'⟩ :=
    Disk.followFrom_beyond hextends (.inl rfl) hbase.1 hbase.2 hmid hparent
  obtain ⟨node, -, hplace⟩ := Disk.walk_nil_ok hwalk'
  cases hplace
  rw [Disk.node?_child hchanged, Entries.find?_erase_self] at hchild
  cases hchild

theorem not_pathExists_of_removeEmptied (hsteps : p.route.steps = start ++ [.enter name])
    (h : w.removeEmptied p = (.ok (), next)) : next.pathExists p = false := by
  unfold removeEmptied at h
  split at h
  · rename_i last hremove
    cases h
    unfold removeDirectory at hremove
    split at hremove
    · rename_i entry hend
      split at hremove
      · cases hremove
      split at hremove
      · cases hremove
      split at hremove
      · cases hremove
        exact not_pathExists_takeAway hend
      · cases hremove
      · cases hremove
    all_goals cases hremove
  · rename_i hremove
    cases h
    -- Something that is there would not be reported missing.
    rw [← Bool.not_eq_true]
    intro hexists
    obtain ⟨place, hlocate, htaken⟩ := locate_of_pathExists hexists
    obtain ⟨entry, hend, hsome⟩ := pathEnd_of_locate hsteps hlocate htaken
    obtain ⟨node, hnode⟩ := Option.isSome_iff_exists.1 hsome
    unfold removeDirectory at hremove
    rw [hend] at hremove
    simp only [hnode] at hremove
    split at hremove
    · cases hremove
    split at hremove <;> cases hremove
  · cases h

/-- What has been removed is not there any more. -/
theorem not_pathExists_of_removeTree (hsteps : p.route.steps = start ++ [.enter name])
    (h : w.removeTree p = (.ok (), next)) : next.pathExists p = false := by
  unfold removeTree at h
  split at h
  · split at h
    · rename_i last hremove
      cases h
      unfold removeFile at hremove
      split at hremove
      · rename_i entry hend
        split at hremove
        · cases hremove
        split at hremove
        · cases hremove
        split at hremove
        · cases hremove
        split at hremove
        · cases hremove
        cases hremove
        exact not_pathExists_takeAway hend
      · cases hremove
      · cases hremove
    · cases h
  · split at h
    · cases h
    split at h
    · cases h
    · exact not_pathExists_of_removeEmptied hsteps h
  · exact not_pathExists_of_removeEmptied hsteps h
  · cases h
  · cases h

/-! ## Making what is missing -/

/-- There is nothing below a bare directory. -/
theorem Bare.below {q : Pathname} (h : w.Bare q) (hroute : routeOf q = .ok q.route)
    (hentered : ∃ name, .enter name ∈ q.route.steps) {stays rest : List RouteStep}
    (hsteps : p.route.steps = q.route.steps ++ (stays ++ .enter name :: rest))
    (hstays : ∀ step ∈ stays, step = .stay) (habsolute : q.isAbsolute = p.isAbsolute) :
    w.Bare p := by
  intro loc found inside hlocate
  obtain ⟨-, hfollow⟩ := locate_ok hlocate
  rw [hsteps] at hfollow
  obtain ⟨mid, left, hwalk, hleads, hholds⟩ := Disk.followFrom_split hstays hfollow
  obtain ⟨facts, entries, hmid⟩ := hleads (hholds hentered) q.route.toDirectory
  have hbase : w.baseOf q = w.baseOf p := by rw [baseOf, habsolute, baseOf]
  rw [← hbase, ← locate_of_followFrom hroute] at hmid
  have hempty := h mid facts entries hmid
  subst hempty
  obtain ⟨child, hchild⟩ := (Disk.entering (Disk.walk_stays_ok hstays hwalk)).2.2.exists_child (by simp)
  rw [Disk.node?_child (node?_of_locate hmid)] at hchild
  cases hchild

/-- What is in a bare directory has been made with it. -/
theorem Bare.ofParent {q : Pathname} (hplain : p.NeverReturns) (hparent : p.parent? = some q)
    (hbare : w.Bare q) (hroute : routeOf q = .ok q.route)
    (hentered : ∃ name, .enter name ∈ q.route.steps) :
    w.Bare p ∧ ∃ name, .enter name ∈ p.route.steps := by
  rcases Pathname.parent?_spec hparent with
    hempty | ⟨stays, step, rest, hsteps, hstays, hgoes, -, habsolute⟩
  · exact absurd hempty (routeOf_spelling hroute)
  obtain ⟨first, hfirst⟩ := hentered
  cases step with
  | stay => exact absurd rfl hgoes
  | ascend =>
    -- The directory of the path has been descended to.
    refine absurd ?_ (hplain (q.route.steps ++ stays) rest (by simp [hsteps]) first)
    exact List.mem_append_left _ hfirst
  | enter name =>
    refine ⟨hbare.below hroute ⟨first, hfirst⟩ hsteps hstays habsolute, first, ?_⟩
    rw [hsteps]
    exact List.mem_append_left _ hfirst

/-- Making the directories that are missing changes nothing, or it makes the directory that the
    path leads to. The induction follows the path upwards. -/
theorem bare_of_makeDirectoriesUpTo {depth : Nat} (hplain : p.NeverReturns)
    (h : makeDirectoriesUpTo depth w p = (.ok (), next)) :
    next = w ∨
      next.Bare p ∧ routeOf p = .ok p.route ∧ ∃ name, .enter name ∈ p.route.steps := by
  fun_induction makeDirectoriesUpTo depth w p generalizing next with
  | case1 =>
    cases h
    exact .inl rfl
  | case2 depth w p _ made hmake =>
    cases h
    exact .inr (bare_of_makeDirectory hmake)
  | case3 => cases h
  | case4 w p _ _ depth q hparent middle hmiddle made hmake ih =>
    cases h
    exact .inr (bare_of_makeDirectory hmake)
  | case5 w p _ _ depth q hparent middle hmiddle fault hmake hdirectory ih =>
    cases h
    rcases ih (hplain.parent? hparent) hmiddle with hsame | ⟨hbare, hroute, hentered⟩
    · exact .inl hsame
    · obtain ⟨hbelow, hname⟩ := hbare.ofParent hplain hparent hroute hentered
      exact .inr ⟨hbelow, routeOf_of_isDirectory hdirectory, hname⟩
  | case6 => cases h
  | case7 => cases h
  | case8 =>
    cases h
    exact .inl rfl
  | case9 => cases h

/-- What is done in order to make a directory afresh. -/
theorem renew_ok (h : Pages.renew p w = (.ok (), next)) :
    ∃ middle, middle.makeDirectories p = (.ok (), next) ∧
      (w.pathExists p = false ∧ middle = w ∨ w.removeTree p = (.ok (), middle)) := by
  unfold Pages.renew at h
  cases hexists : w.pathExists p with
  | false =>
    rcases hmake : w.makeDirectories p with ⟨made, last⟩
    simp only [hexists, hmake, Bool.false_eq_true, if_false] at h
    cases made with
    | error fault => cases h
    | ok value =>
      cases h
      exact ⟨w, hmake, .inl ⟨rfl, rfl⟩⟩
  | true =>
    rcases hremove : w.removeTree p with ⟨removed, middle⟩
    simp only [hexists, hremove, if_true] at h
    cases removed with
    | error fault => cases h
    | ok value =>
      rcases hmake : middle.makeDirectories p with ⟨made, last⟩
      simp only [hmake] at h
      cases made with
      | error fault => cases h
      | ok value =>
        cases h
        exact ⟨middle, hmake, .inr rfl⟩

/-- Made afresh, a directory is bare, unless its path returns to where it has been. -/
theorem bare_renew (hplain : p.NeverReturns) (hsteps : p.route.steps = start ++ [.enter name])
    (h : Pages.renew p w = (.ok (), next)) : next.Bare p := by
  obtain ⟨middle, hmake, hmiddle⟩ := renew_ok h
  rcases bare_of_makeDirectoriesUpTo hplain hmake with hsame | ⟨hbare, -, -⟩
  · subst hsame
    rcases hmiddle with ⟨hexists, rfl⟩ | hremove
    · exact .of_not_pathExists hexists
    · exact .of_not_pathExists (not_pathExists_of_removeTree hsteps hremove)
  · exact hbare

/-! ## What was there before -/

/-- It does not matter whether anything was there: it might have been removed before. -/
theorem renew_removed (hsteps : p.route.steps = start ++ [.enter name])
    (hexists : w.pathExists p = true) (h : Pages.renew p w = (.ok (), next)) :
    ∃ without, w.removeTree p = (.ok (), without) ∧ without.pathExists p = false ∧
      Pages.renew p without = (.ok (), next) := by
  obtain ⟨without, hmake, ⟨hnone, -⟩ | hremove⟩ := renew_ok h
  · rw [hexists] at hnone
    cases hnone
  · have hgone := not_pathExists_of_removeTree hsteps hremove
    refine ⟨without, hremove, hgone, ?_⟩
    rw [Pages.renew, hgone]
    simp only [Bool.false_eq_true, if_false, hmake]
    rfl

/-- The world with other entries in the directory at a location. -/
def refilled (w : World) (loc : Location) (entries : Entries) : World :=
  { w with disk := w.disk.change loc fun _ => entries }

/-- It does not matter what was in a directory that is cleared. -/
theorem clear_refilled (w : World) (loc : Location) (entries : Entries) :
    (w.refilled loc entries).clear loc = w.clear loc := by
  rw [clear, clear, refilled, Disk.change_change]
  rfl

/-- A path leads to the directory at a location, and not through a link at its end. -/
def LeadsTo (w : World) (p : Pathname) (loc : Location) (facts : Facts) (entries : Entries) :
    Prop :=
  ∀ approach, w.locate approach p = .ok (.present loc (.directory facts entries))

/-- A directory is made afresh by clearing it, removing it and making it again. -/
theorem renew_leadsTo {next : World} (hleads : w.LeadsTo p loc facts entries)
    (h : Pages.renew p w = (.ok (), next)) :
    ∃ middle, (w.clear loc).removeEmptied p = (.ok (), middle) ∧
      middle.makeDirectories p = (.ok (), next) := by
  obtain ⟨middle, hmake, ⟨hexists, -⟩ | hremove⟩ := renew_ok h
  · rw [pathExists, stat, hleads .through] at hexists
    cases hexists
  · refine ⟨middle, ?_, hmake⟩
    simp only [removeTree, hleads .upTo] at hremove
    split at hremove
    · cases hremove
    split at hremove
    · cases hremove
    · exact hremove

end World
end SuiteCoverage
