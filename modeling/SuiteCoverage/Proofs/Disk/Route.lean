import SuiteCoverage.Proofs.Disk.Tree

/-!
# Where paths lead when the tree changes

Two questions come up again and again. Where does a path lead in a tree that extends the one in
which it was followed before? To the same place, if it leads anywhere: a node of another kind
cannot come in its way, but a directory that may no longer be gone through can. And where does a
path with further steps behind it lead? First to where the path leads by itself.

`followFrom_beyond` answers both at once, and `followFrom_split` tells that a path which leads
somewhere can be stopped half-way. Neither needs to know that the directory worked in is on the
disk, so nothing has to be assumed of the world in which a path is followed.
-/

set_option autoImplicit false

namespace SuiteCoverage
namespace Disk

variable {disk small large : Disk} {again : Location → Route → Except Fault Place}
  {approach : Approach} {toDirectory : Bool} {loc : Location} {name : String}
  {steps rest more : List RouteStep} {place : Place}

/-! ## One step -/

/-- The directory that the target of a link is followed from. -/
def linkBase (loc : Location) (target : String) : Location :=
  if target.toList.head? == some '/' then [] else loc

/-- What is left to be followed once a link has been read. -/
def linkRoute (toDirectory : Bool) (rest : List RouteStep) (target : String) : Route :=
  ⟨(Route.ofText target).steps ++ rest,
    toDirectory || (rest.isEmpty && (Route.ofText target).toDirectory)⟩

/-- The ways in which a name can be entered that lead somewhere. -/
inductive Entering (disk : Disk) (again : Location → Route → Except Fault Place)
    (approach : Approach) (toDirectory : Bool) (loc : Location) (name : String)
    (rest : List RouteStep) : Place → Prop
  /-- The name is free, and nothing comes behind it. -/
  | vacant (hnode : disk.node? (loc ++ [name]) = none) (hrest : rest = []) :
      Entering disk again approach toDirectory loc name rest (.vacant loc name)
  /-- It is a directory, from which the path goes on. -/
  | directory {facts : Facts} {entries : Entries} {place : Place}
      (hnode : disk.node? (loc ++ [name]) = some (.directory facts entries))
      (hwalk : disk.walk again approach toDirectory (loc ++ [name]) rest = .ok place) :
      Entering disk again approach toDirectory loc name rest place
  /-- It is a link, at which the path stops. -/
  | stopped {target : String} (hnode : disk.node? (loc ++ [name]) = some (.link target))
      (hrest : rest = []) (happroach : approach = .upTo) :
      Entering disk again approach toDirectory loc name rest
        (.present (loc ++ [name]) (.link target))
  /-- It is a link, which is followed. -/
  | followed {target : String} {place : Place}
      (hnode : disk.node? (loc ++ [name]) = some (.link target)) (htarget : target.isEmpty = false)
      (hagain : again (linkBase loc target) (linkRoute toDirectory rest target) = .ok place) :
      Entering disk again approach toDirectory loc name rest place
  /-- It is anything else, and nothing comes behind it. -/
  | found {node : Node} (hnode : disk.node? (loc ++ [name]) = some node)
      (hkind : node.kind = .other) (hrest : rest = []) :
      Entering disk again approach toDirectory loc name rest (.present (loc ++ [name]) node)

/-- A name that leads somewhere is short enough, in a directory that may be gone through, and
    entered in one of the ways. -/
theorem entering (h : disk.walk again approach toDirectory loc (.enter name :: rest) = .ok place) :
    (disk.factsAt loc).isExecutable = true ∧ ¬ longestName < name.utf8ByteSize ∧
      Entering disk again approach toDirectory loc name rest place := by
  rw [walk] at h
  split at h
  · cases h
  rename_i hexecutable
  split at h
  · cases h
  split at h
  · cases h
  rename_i hlength
  refine ⟨by simpa using hexecutable, hlength, ?_⟩
  split at h
  · rename_i hnode
    split at h
    · rename_i hrest
      cases h
      exact .vacant hnode (List.isEmpty_iff.1 hrest)
    · cases h
  · rename_i facts entries hnode
    exact .directory hnode h
  · rename_i target hnode
    split at h
    · rename_i hstop
      simp only [Bool.and_eq_true, List.isEmpty_iff, beq_iff_eq] at hstop
      cases h
      exact .stopped hnode hstop.1.1 hstop.1.2
    · simp only at h
      split at h
      · cases h
      · rename_i htarget
        exact .followed hnode (by simpa using htarget) h
  · rename_i node hdirectory hlink hnode
    split at h
    · rename_i hrest
      simp only [Bool.and_eq_true, List.isEmpty_iff] at hrest
      cases h
      refine .found hnode ?_ hrest.1
      cases node with
      | directory facts entries => exact (hdirectory facts entries rfl).elim
      | link target => exact (hlink target rfl).elim
      | _ => rfl
    · cases h

/-- A step that stays leads somewhere only in a directory that may be gone through. -/
theorem walk_stay_ok
    (h : disk.walk again approach toDirectory loc (.stay :: rest) = .ok place) :
    (disk.factsAt loc).isExecutable = true ∧
      disk.walk again approach toDirectory loc rest = .ok place := by
  rw [walk] at h
  split at h
  · exact ⟨‹_›, h⟩
  · cases h

theorem walk_stays_ok {stays : List RouteStep} (hstays : ∀ step ∈ stays, step = .stay)
    (h : disk.walk again approach toDirectory loc (stays ++ rest) = .ok place) :
    disk.walk again approach toDirectory loc rest = .ok place := by
  induction stays with
  | nil => exact h
  | cons step stays ih =>
    have hstep : step = .stay := hstays step (by simp)
    subst hstep
    exact ih (fun step hmem => hstays step (by simp [hmem])) (walk_stay_ok h).2

theorem walk_ascend_ok
    (h : disk.walk again approach toDirectory loc (.ascend :: rest) = .ok place) :
    (disk.factsAt loc).isExecutable = true ∧
      disk.walk again approach toDirectory loc.dropLast rest = .ok place := by
  rw [walk] at h
  split at h
  · exact ⟨‹_›, h⟩
  · cases h

theorem walk_nil_ok (h : disk.walk again approach toDirectory loc [] = .ok place) :
    ∃ node, disk.node? loc = some node ∧ place = .present loc node := by
  rw [walk] at h
  split at h
  · rename_i node hnode
    cases h
    exact ⟨node, hnode, rfl⟩
  · cases h

/-- Goes through a directory. -/
theorem walk_enter_directory {facts : Facts} {entries : Entries}
    (hexecutable : (disk.factsAt loc).isExecutable = true)
    (hlength : ¬ longestName < name.utf8ByteSize)
    (hnode : disk.node? (loc ++ [name]) = some (.directory facts entries)) :
    disk.walk again .through toDirectory loc (.enter name :: rest)
      = disk.walk again .through toDirectory (loc ++ [name]) rest := by
  rw [walk]
  simp [hexecutable, hlength, hnode]

/-- Follows a link. -/
theorem walk_enter_link {target : String} (hexecutable : (disk.factsAt loc).isExecutable = true)
    (hlength : ¬ longestName < name.utf8ByteSize)
    (hnode : disk.node? (loc ++ [name]) = some (.link target)) (htarget : target.isEmpty = false) :
    disk.walk again .through toDirectory loc (.enter name :: rest)
      = again (linkBase loc target) (linkRoute toDirectory rest target) := by
  rw [walk]
  simp [hexecutable, hlength, hnode, htarget, linkBase, linkRoute]

namespace Entering

variable {target : String}

/-- A directory is entered by going on from it. -/
theorem ofDirectory (h : Entering disk again approach toDirectory loc name rest place)
    (hkind : disk.kind? (loc ++ [name]) = some .directory) :
    disk.walk again approach toDirectory (loc ++ [name]) rest = .ok place := by
  cases h with
  | vacant hnode hrest => simp [kind?, hnode] at hkind
  | directory hnode hwalk => exact hwalk
  | stopped hnode hrest happroach => simp [kind?, hnode, Node.kind] at hkind
  | followed hnode htarget hagain => simp [kind?, hnode, Node.kind] at hkind
  | found hnode hother hrest => simp [kind?, hnode, hother] at hkind

/-- A link is entered by following it, unless it is what is asked for. -/
theorem ofLink (h : Entering disk again approach toDirectory loc name rest place)
    (hkind : disk.kind? (loc ++ [name]) = some (.link target)) :
    (rest = [] ∧ approach = .upTo) ∨
      again (linkBase loc target) (linkRoute toDirectory rest target) = .ok place := by
  cases h with
  | vacant hnode hrest => simp [kind?, hnode] at hkind
  | directory hnode hwalk => simp [kind?, hnode, Node.kind] at hkind
  | stopped hnode hrest happroach => exact .inl ⟨hrest, happroach⟩
  | @followed first place hnode htarget hagain =>
    have hfirst : first = target := by simpa [kind?, hnode, Node.kind] using hkind
    rw [hfirst] at hagain
    exact .inr hagain
  | found hnode hother hrest => simp [kind?, hnode, hother] at hkind

/-- Anything else is entered by stopping at it. -/
theorem ofOther (h : Entering disk again approach toDirectory loc name rest place)
    (hkind : disk.kind? (loc ++ [name]) = some .other) :
    rest = [] ∧ ∃ node, disk.node? (loc ++ [name]) = some node ∧
      place = .present (loc ++ [name]) node := by
  cases h with
  | vacant hnode hrest => simp [kind?, hnode] at hkind
  | directory hnode hwalk => simp [kind?, hnode, Node.kind] at hkind
  | stopped hnode hrest happroach => simp [kind?, hnode, Node.kind] at hkind
  | followed hnode htarget hagain => simp [kind?, hnode, Node.kind] at hkind
  | found hnode hother hrest => exact ⟨hrest, _, hnode, rfl⟩

/-- Entering a name that does not lead to a free one takes notice of something under the name. -/
theorem exists_child (h : Entering disk again approach toDirectory loc name rest place)
    (htaken : ∀ parent last, place ≠ .vacant parent last) :
    ∃ child, disk.node? (loc ++ [name]) = some child := by
  cases h with
  | vacant hnode hrest => exact absurd rfl (htaken _ _)
  | directory hnode hwalk => exact ⟨_, hnode⟩
  | stopped hnode hrest happroach => exact ⟨_, hnode⟩
  | followed hnode htarget hagain => exact ⟨_, hnode⟩
  | found hnode hkind hrest => exact ⟨_, hnode⟩

end Entering

/-! ## What the way goes by -/

/-- The directory at a location is there. -/
def Holds (disk : Disk) (loc : Location) : Prop :=
  ∃ facts entries, disk.node? loc = some (.directory facts entries)

theorem holds_nil (disk : Disk) : disk.Holds [] := ⟨_, _, rfl⟩

theorem nodeIn_of_append {top : Facts} {tree : Entries} {a : Location} {node : Node}
    (h : nodeIn top tree (a ++ [name]) = some node) :
    ∃ facts entries, nodeIn top tree a = some (.directory facts entries) := by
  induction a generalizing top tree with
  | nil => exact ⟨_, _, rfl⟩
  | cons first rest ih =>
    rw [List.cons_append, nodeIn] at h
    rw [nodeIn]
    split at h
    · exact ih h
    · simp at h
    · cases h

/-- What has something in it is a directory. -/
theorem holds_of_child {node : Node} (h : disk.node? (loc ++ [name]) = some node) :
    disk.Holds loc :=
  nodeIn_of_append h

/-- Above a directory there is a directory. -/
theorem Holds.dropLast (h : disk.Holds loc) : disk.Holds loc.dropLast := by
  rcases loc.eq_nil_or_concat with rfl | ⟨above, last, rfl⟩
  · exact h
  · obtain ⟨facts, entries, hnode⟩ := h
    rw [List.concat_eq_append] at hnode ⊢
    rw [List.dropLast_concat]
    exact holds_of_child hnode

/-! ## Going on in a tree that extends another -/

theorem kind?_of_node? {node : Node} (h : disk.node? loc = some node) :
    disk.kind? loc = some node.kind := by
  rw [kind?, h]
  rfl

theorem follow_node? {links : Nat} {route : Route} {mid : Location} {node : Node}
    (h : disk.follow approach links loc route = .ok (.present mid node)) :
    disk.node? mid = some node := by
  induction links generalizing loc route with
  | zero => cases h
  | succ links ih =>
    obtain ⟨steps, toDirectory⟩ := route
    rw [follow] at h
    induction steps generalizing loc with
    | nil =>
      obtain ⟨other, hnode, hplace⟩ := walk_nil_ok h
      cases hplace
      exact hnode
    | cons step rest ihsteps =>
      cases step with
      | stay => exact ihsteps (walk_stay_ok h).2
      | ascend => exact ihsteps (walk_ascend_ok h).2
      | enter name =>
        cases (entering h).2.2 with
        | directory hnode hwalk => exact ihsteps hwalk
        | stopped hnode hrest happroach => exact hnode
        | followed hnode htarget hagain => exact ih hagain
        | found hnode hkind hrest => exact hnode

/-- No path leads to a directory that has been removed, if it starts in one that is there. -/
theorem follow_ne_removed {links : Nat} {route : Route} {f : Foothold} :
    disk.follow approach links loc route ≠ .ok (.removed f) := by
  intro h
  induction links generalizing loc route with
  | zero => cases h
  | succ links ih =>
    obtain ⟨steps, toDirectory⟩ := route
    rw [follow] at h
    induction steps generalizing loc with
    | nil =>
      obtain ⟨node, -, hplace⟩ := walk_nil_ok h
      cases hplace
    | cons step rest ihsteps =>
      cases step with
      | stay => exact ihsteps (walk_stay_ok h).2
      | ascend => exact ihsteps (walk_ascend_ok h).2
      | enter name =>
        cases (entering h).2.2 with
        | directory hnode hwalk => exact ihsteps hwalk
        | followed hnode htarget hagain => exact ih hagain

/-- Where a path leads to a place in one tree, the path with more behind it goes on from that place
    in a tree that extends it, if it leads anywhere there. With nothing behind it, it leads to the
    same place. The induction is on the links that may be followed, and for each number of them on
    the steps. -/
theorem follow_beyond (hextends : Extends small large)
    (hmore : approach = .through ∨ more ≠ []) {links : Nat} {ends : Bool} {mid : Location}
    {node : Node}
    (hsmall : small.follow .through links loc ⟨steps, ends⟩ = .ok (.present mid node))
    (hlarge : large.follow approach links loc ⟨steps ++ more, toDirectory⟩ = .ok place) :
    ∃ left, large.walk (large.follow approach left) approach toDirectory mid more = .ok place := by
  induction links generalizing loc steps ends toDirectory with
  | zero => cases hsmall
  | succ links ih =>
    rw [follow] at hsmall hlarge
    simp only at hsmall hlarge
    induction steps generalizing loc with
    | nil =>
      obtain ⟨other, hnode, hplace⟩ := walk_nil_ok hsmall
      cases hplace
      exact ⟨links, hlarge⟩
    | cons step rest ihsteps =>
      rw [List.cons_append] at hlarge
      cases step with
      | stay => exact ihsteps (walk_stay_ok hsmall).2 (walk_stay_ok hlarge).2
      | ascend => exact ihsteps (walk_ascend_ok hsmall).2 (walk_ascend_ok hlarge).2
      | enter name =>
        -- What the name stands for in the two trees is of one kind, so it is entered in one way.
        have hlarge := (entering hlarge).2.2
        cases (entering hsmall).2.2 with
        | directory hnode hwalk =>
          exact ihsteps hwalk (hlarge.ofDirectory (hextends _ _ (kind?_of_node? hnode)))
        | stopped hnode hrest happroach => cases happroach
        | followed hnode htarget hagain =>
          rcases hlarge.ofLink (hextends _ _ (kind?_of_node? hnode)) with ⟨hrest, hstop⟩ | hagain'
          · obtain ⟨-, hnone⟩ := List.append_eq_nil_iff.1 hrest
            exact absurd hmore (by simp [hstop, hnone])
          · rw [linkRoute, ← List.append_assoc] at hagain'
            obtain ⟨left, hleft⟩ := ih hagain hagain'
            refine ⟨left, ?_⟩
            -- Whether a separator stands at the end of the link matters only if nothing follows.
            cases more with
            | nil => simpa [walk] using hleft
            | cons first after =>
              have hfull : (rest ++ first :: after).isEmpty = false := by simp
              simpa [hfull] using hleft
        | found hnode hkind hrest =>
          have hother := hextends _ _ (kind?_of_node? hnode)
          rw [hkind] at hother
          obtain ⟨hnone, found, hfound, hplace⟩ := hlarge.ofOther hother
          obtain ⟨-, rfl⟩ := List.append_eq_nil_iff.1 hnone
          exact ⟨links, by rw [walk, hfound, hplace]⟩

/-- A path that leads somewhere can be stopped half-way, and goes on from there. It can be stopped
    in a directory, if some name is entered before or the path starts in a directory. -/
theorem follow_split (hmore : more ≠ []) {links : Nat}
    (h : disk.follow approach links loc ⟨steps ++ more, toDirectory⟩ = .ok place) :
    ∃ mid left,
      disk.walk (disk.follow approach left) approach toDirectory mid more = .ok place ∧
      (disk.Holds mid → ∀ ends, ∃ facts entries,
        disk.follow .through links loc ⟨steps, ends⟩
          = .ok (.present mid (.directory facts entries))) ∧
      ((∃ name, .enter name ∈ steps) ∨ disk.Holds loc → disk.Holds mid) := by
  induction links generalizing loc steps toDirectory with
  | zero => cases h
  | succ links ih =>
    simp only [follow] at h ⊢
    induction steps generalizing loc with
    | nil =>
      refine ⟨loc, links, h, ?_, by simp⟩
      rintro ⟨facts, entries, hnode⟩ ends
      exact ⟨facts, entries, by rw [walk, hnode]⟩
    | cons step rest ihsteps =>
      rw [List.cons_append] at h
      cases step with
      | stay =>
        obtain ⟨hexecutable, h⟩ := walk_stay_ok h
        obtain ⟨mid, left, hwalk, hleads, hholds⟩ := ihsteps h
        refine ⟨mid, left, hwalk, fun hmid ends => ?_, fun hstart => hholds ?_⟩
        · rw [walk, if_pos hexecutable]
          exact hleads hmid ends
        · simpa using hstart
      | ascend =>
        obtain ⟨hexecutable, h⟩ := walk_ascend_ok h
        obtain ⟨mid, left, hwalk, hleads, hholds⟩ := ihsteps h
        refine ⟨mid, left, hwalk, fun hmid ends => ?_, fun hstart => hholds ?_⟩
        · rw [walk, if_pos hexecutable]
          exact hleads hmid ends
        · rcases hstart with ⟨name, hname⟩ | hloc
          · exact .inl ⟨name, by simpa using hname⟩
          · exact .inr hloc.dropLast
      | enter name =>
        obtain ⟨hexecutable, hlength, hentering⟩ := entering h
        cases hentering with
        | vacant hnode hrest => exact absurd (List.append_eq_nil_iff.1 hrest).2 hmore
        | @directory facts entries _ hnode hwalk =>
          obtain ⟨mid, left, hwalk, hleads, hholds⟩ := ihsteps hwalk
          refine ⟨mid, left, hwalk, fun hmid ends => ?_,
            fun _ => hholds (.inr ⟨facts, entries, hnode⟩)⟩
          rw [walk_enter_directory hexecutable hlength hnode]
          exact hleads hmid ends
        | stopped hnode hrest happroach => exact absurd (List.append_eq_nil_iff.1 hrest).2 hmore
        | @followed target _ hnode htarget hagain =>
          have hfull : (rest ++ more).isEmpty = false := by simp [hmore]
          rw [linkRoute, ← List.append_assoc, hfull, Bool.false_and, Bool.or_false] at hagain
          obtain ⟨mid, left, hwalk, hleads, hholds⟩ := ih hagain
          -- A link is in a directory, and so is what it leads on from.
          have hbase : disk.Holds (linkBase loc target) := by
            unfold linkBase
            split
            · exact holds_nil disk
            · exact holds_of_child hnode
          refine ⟨mid, left, hwalk, fun hmid ends => ?_, fun _ => hholds (.inr hbase)⟩
          rw [walk_enter_link hexecutable hlength hnode htarget]
          exact hleads hmid _
        | found hnode hkind hrest => exact absurd (List.append_eq_nil_iff.1 hrest).2 hmore

end Disk

/-! ## Starting where a program works

A directory that has been removed can be left upwards, and nothing else. Two footholds are compared
by the names on the way to them, whether these are still there or not.
-/

namespace Foothold

/-- The foothold above a foothold. -/
def above (f : Foothold) : Foothold :=
  if f.lost = [] then ⟨f.standing.dropLast, []⟩ else ⟨f.standing, f.lost.dropLast⟩

/-- All names on the way to a foothold. -/
def path (f : Foothold) : Location := f.standing ++ f.lost

theorem path_above (f : Foothold) : f.above.path = f.path.dropLast := by
  unfold above path
  split
  · rename_i h
    simp [h]
  · rename_i h
    exact (List.dropLast_append_of_ne_nil h).symm

theorem length_lost_above (f : Foothold) : f.above.lost.length = f.lost.length - 1 := by
  unfold above
  split
  · rename_i h
    simp [h]
  · simp

theorem path_cleared (loc : Location) (f : Foothold) :
    (f.cleared loc).path = f.path ∧ f.lost.length ≤ (f.cleared loc).lost.length := by
  unfold cleared
  split
  · rename_i hp
    obtain ⟨rest, hrest⟩ := List.isPrefixOf_iff_prefix.1 hp
    simp [path, ← hrest]
  · exact ⟨rfl, Nat.le_refl _⟩

/-- Whoever works in a directory that is removed is still in the same place. -/
theorem path_removed (loc : Location) (f : Foothold) :
    (f.removed loc).path = f.path ∧ f.lost.length ≤ (f.removed loc).lost.length := by
  unfold removed
  split
  · exact path_cleared loc.dropLast f
  · exact ⟨rfl, Nat.le_refl _⟩

end Foothold

namespace Disk

variable {disk small large : Disk} {approach : Approach} {toDirectory : Bool} {f g : Foothold}
  {links : Nat} {name : String} {steps stays rest more : List RouteStep} {place : Place}

theorem followFrom_of_lost_nil (h : f.lost = []) :
    disk.followFrom approach links toDirectory f steps
      = disk.follow approach links f.standing ⟨steps, toDirectory⟩ := by
  obtain ⟨loc, lost⟩ := f
  cases h
  rw [followFrom]

theorem followFrom_nil_of_lost (h : f.lost ≠ []) :
    disk.followFrom approach links toDirectory f [] = .ok (.removed f) := by
  obtain ⟨loc, lost⟩ := f
  cases lost with
  | nil => exact absurd rfl h
  | cons first lost => rfl

theorem followFrom_stay_of_lost (h : f.lost ≠ []) :
    disk.followFrom approach links toDirectory f (.stay :: rest)
      = disk.followFrom approach links toDirectory f rest := by
  obtain ⟨loc, lost⟩ := f
  cases lost with
  | nil => exact absurd rfl h
  | cons first lost => rfl

theorem followFrom_ascend_of_lost (h : f.lost ≠ []) :
    disk.followFrom approach links toDirectory f (.ascend :: rest)
      = disk.followFrom approach links toDirectory f.above rest := by
  obtain ⟨loc, lost⟩ := f
  cases lost with
  | nil => exact absurd rfl h
  | cons first lost => rfl

theorem followFrom_enter_of_lost (h : f.lost ≠ []) :
    disk.followFrom approach links toDirectory f (.enter name :: rest) = .error .notFound := by
  obtain ⟨loc, lost⟩ := f
  cases lost with
  | nil => exact absurd rfl h
  | cons first lost => rfl

theorem followFrom_stay_ok
    (h : disk.followFrom approach links toDirectory f (.stay :: rest) = .ok place) :
    disk.followFrom approach links toDirectory f rest = .ok place := by
  by_cases hlost : f.lost = []
  · rw [followFrom_of_lost_nil hlost] at h ⊢
    cases links with
    | zero => cases h
    | succ links => exact (walk_stay_ok h).2
  · rwa [followFrom_stay_of_lost hlost] at h

theorem followFrom_ascend_ok
    (h : disk.followFrom approach links toDirectory f (.ascend :: rest) = .ok place) :
    disk.followFrom approach links toDirectory f.above rest = .ok place := by
  by_cases hlost : f.lost = []
  · have habove : f.above = ⟨f.standing.dropLast, []⟩ := if_pos hlost
    rw [followFrom_of_lost_nil hlost] at h
    rw [habove, followFrom_of_lost_nil rfl]
    cases links with
    | zero => cases h
    | succ links => exact (walk_ascend_ok h).2
  · rwa [followFrom_ascend_of_lost hlost] at h

theorem followFrom_node? {mid : Location} {node : Node}
    (h : disk.followFrom approach links toDirectory f steps = .ok (.present mid node)) :
    disk.node? mid = some node := by
  induction steps generalizing f with
  | nil =>
    by_cases hlost : f.lost = []
    · rw [followFrom_of_lost_nil hlost] at h
      exact follow_node? h
    · rw [followFrom_nil_of_lost hlost] at h
      cases h
  | cons step rest ih =>
    by_cases hlost : f.lost = []
    · rw [followFrom_of_lost_nil hlost] at h
      exact follow_node? h
    · cases step with
      | stay => exact ih (followFrom_stay_ok h)
      | ascend => exact ih (followFrom_ascend_ok h)
      | enter name =>
        rw [followFrom_enter_of_lost hlost] at h
        cases h

theorem followFrom_removed (h : disk.followFrom approach links toDirectory f steps
    = .ok (.removed g)) : g.lost ≠ [] := by
  induction steps generalizing f with
  | nil =>
    by_cases hlost : f.lost = []
    · rw [followFrom_of_lost_nil hlost] at h
      exact absurd h follow_ne_removed
    · rw [followFrom_nil_of_lost hlost] at h
      cases h
      exact hlost
  | cons step rest ih =>
    by_cases hlost : f.lost = []
    · rw [followFrom_of_lost_nil hlost] at h
      exact absurd h follow_ne_removed
    · cases step with
      | stay => exact ih (followFrom_stay_ok h)
      | ascend => exact ih (followFrom_ascend_ok h)
      | enter name =>
        rw [followFrom_enter_of_lost hlost] at h
        cases h

/-- The same as `follow_beyond`, where the place to start from has perhaps been removed from the
    smaller tree. -/
theorem followFrom_beyond (hextends : Extends small large)
    (hmore : approach = .through ∨ more ≠ []) (hpath : f.path = g.path)
    (hlost : g.lost.length ≤ f.lost.length) {ends : Bool} {mid : Location} {node : Node}
    (hsmall : small.followFrom .through links ends f steps = .ok (.present mid node))
    (hlarge : large.followFrom approach links toDirectory g (steps ++ more) = .ok place) :
    ∃ left, large.walk (large.follow approach left) approach toDirectory mid more = .ok place := by
  induction steps generalizing f g with
  | nil =>
    by_cases hf : f.lost = []
    · have hg : g.lost = [] := List.length_eq_zero_iff.1 (by simpa [hf] using hlost)
      have hstanding : f.standing = g.standing := by simpa [Foothold.path, hf, hg] using hpath
      rw [followFrom_of_lost_nil hf] at hsmall
      rw [followFrom_of_lost_nil hg, ← hstanding] at hlarge
      exact follow_beyond hextends hmore hsmall hlarge
    · rw [followFrom_nil_of_lost hf] at hsmall
      cases hsmall
  | cons step rest ih =>
    by_cases hf : f.lost = []
    · have hg : g.lost = [] := List.length_eq_zero_iff.1 (by simpa [hf] using hlost)
      have hstanding : f.standing = g.standing := by simpa [Foothold.path, hf, hg] using hpath
      rw [followFrom_of_lost_nil hf] at hsmall
      rw [followFrom_of_lost_nil hg, ← hstanding] at hlarge
      exact follow_beyond hextends hmore hsmall hlarge
    · rw [List.cons_append] at hlarge
      cases step with
      | stay => exact ih hpath hlost (followFrom_stay_ok hsmall) (followFrom_stay_ok hlarge)
      | ascend =>
        refine ih ?_ ?_ (followFrom_ascend_ok hsmall) (followFrom_ascend_ok hlarge)
        · rw [Foothold.path_above, Foothold.path_above, hpath]
        · rw [Foothold.length_lost_above, Foothold.length_lost_above]
          omega
      | enter name =>
        rw [followFrom_enter_of_lost hf] at hsmall
        cases hsmall

/-- Nothing is entered from a directory that has been removed, wherever one stays before. -/
theorem followFrom_stays_enter (hstays : ∀ step ∈ stays, step = .stay) (hlost : f.lost ≠ []) :
    disk.followFrom approach links toDirectory f (stays ++ .enter name :: rest)
      = .error .notFound := by
  induction stays with
  | nil => exact followFrom_enter_of_lost hlost
  | cons step stays ih =>
    have hstep : step = .stay := hstays step (by simp)
    subst hstep
    rw [List.cons_append, followFrom_stay_of_lost hlost]
    exact ih fun step hmem => hstays step (by simp [hmem])

/-- The same as `follow_split`, for a path that goes on by entering a name. -/
theorem followFrom_split (hstays : ∀ step ∈ stays, step = .stay)
    (h : disk.followFrom approach links toDirectory f (steps ++ (stays ++ .enter name :: rest))
      = .ok place) :
    ∃ mid left,
      disk.walk (disk.follow approach left) approach toDirectory mid (stays ++ .enter name :: rest)
        = .ok place ∧
      (disk.Holds mid → ∀ ends, ∃ facts entries,
        disk.followFrom .through links ends f steps
          = .ok (.present mid (.directory facts entries))) ∧
      ((∃ first, .enter first ∈ steps) → disk.Holds mid) := by
  by_cases hlost : f.lost = []
  · rw [followFrom_of_lost_nil hlost] at h
    simp only [followFrom_of_lost_nil hlost]
    obtain ⟨mid, left, hwalk, hleads, hholds⟩ := follow_split (by simp) h
    exact ⟨mid, left, hwalk, hleads, fun hentered => hholds (.inl hentered)⟩
  induction steps generalizing f with
  | nil =>
    rw [List.nil_append, followFrom_stays_enter hstays hlost] at h
    cases h
  | cons step rest ih =>
    rw [List.cons_append] at h
    cases step with
    | stay =>
      simp only [followFrom_stay_of_lost hlost] at h ⊢
      simpa using ih h hlost
    | ascend =>
      simp only [followFrom_ascend_of_lost hlost] at h ⊢
      by_cases habove : f.above.lost = []
      · rw [followFrom_of_lost_nil habove] at h
        simp only [followFrom_of_lost_nil habove]
        obtain ⟨mid, left, hwalk, hleads, hholds⟩ := follow_split (by simp) h
        refine ⟨mid, left, hwalk, hleads, fun hentered => hholds (.inl ?_)⟩
        simpa using hentered
      · simpa using ih h habove
    | enter first =>
      rw [followFrom_enter_of_lost hlost] at h
      cases h

/-- A path that ends in a name leads first to the directory of the name. -/
theorem followFrom_last
    (h : disk.followFrom approach links toDirectory f (steps ++ [.enter name]) = .ok place) :
    ∃ mid left,
      disk.walk (disk.follow approach left) approach toDirectory mid [.enter name] = .ok place ∧
      (disk.Holds mid → ∀ ends, ∃ facts entries,
        disk.followFrom .through links ends f steps
          = .ok (.present mid (.directory facts entries))) ∧
      ((∃ first, .enter first ∈ steps) → disk.Holds mid) := by
  have hstays : ∀ step ∈ ([] : List RouteStep), step = .stay := by simp
  exact followFrom_split hstays h

end Disk
end SuiteCoverage
