import SuiteCoverage.Proofs.World.Renewal

/-!
# Reading what has been written

A path is followed once in order to write, and once more in order to read what has been written. In
between the disk has changed, and the path is followed in another way: a link to nothing can be
written through and cannot be read through. If it leads to a file the second time, it is the file
that was written (`content_of_write`), also where the file has several names, or had none before.
-/

set_option autoImplicit false

namespace SuiteCoverage

/-! ## Files with several names -/

section Renewed

variable {identity : Nat} {content : ByteArray} {facts : Facts}

theorem Node.kind_renewed (node : Node) : (node.renewed identity content facts).kind = node.kind := by
  cases node with
  | file old kept =>
    rw [Node.renewed]
    split <;> rfl
  | _ => rfl

theorem Entries.find?_renewed (name : String) (entries : Entries) :
    Entries.find? name (Entries.renewed identity content facts entries)
      = (entries.find? name).map (Node.renewed identity content facts) := by
  induction entries with
  | nil => rfl
  | cons entry rest ih =>
    obtain ⟨first, node⟩ := entry
    rw [Entries.renewed, Entries.find?, Entries.find?]
    split
    · rfl
    · exact ih

theorem Disk.nodeIn_renewed (top : Facts) (entries : Entries) (loc : Location) :
    nodeIn top (Entries.renewed identity content facts entries) loc
      = (nodeIn top entries loc).map (Node.renewed identity content facts) := by
  induction loc generalizing top entries with
  | nil => rfl
  | cons name rest ih =>
    rw [nodeIn, nodeIn, Entries.find?_renewed]
    cases Entries.find? name entries with
    | none => rfl
    | some node =>
      cases node with
      | directory below inner => exact ih below inner
      | file old kept =>
        obtain ⟨now, known, hfile⟩ : ∃ now known,
            Node.renewed identity content facts (.file old kept) = .file now known := by
          rw [Node.renewed]
          split <;> exact ⟨_, _, rfl⟩
        rw [Option.map_some, hfile]
        cases rest with
        | nil => exact congrArg some hfile.symm
        | cons first more => rfl
      | _ => cases rest <;> rfl

theorem Disk.node?_renew (disk : Disk) (loc : Location) :
    (disk.renew identity content facts).node? loc
      = (disk.node? loc).map (Node.renewed identity content facts) :=
  nodeIn_renewed rootFacts disk.root loc

/-- No node becomes one of another kind. -/
theorem Disk.extends_renew (disk : Disk) : Extends disk (disk.renew identity content facts) := by
  intro loc kind h
  rw [kind?, Option.map_eq_some_iff] at h
  obtain ⟨node, hnode, hkind⟩ := h
  rw [kind?, node?_renew, hnode, Option.map_some, Option.map_some, Node.kind_renewed, hkind]

end Renewed

/-! ## Changes that come to nothing -/

theorem Entries.put_of_find? {name : String} {node : Node} {entries : Entries}
    (h : entries.find? name = some node) : entries.put name node = entries := by
  induction entries with
  | nil => cases h
  | cons entry rest ih =>
    obtain ⟨first, old⟩ := entry
    rw [Entries.find?] at h
    rw [Entries.put]
    split at h
    · rename_i hfirst
      cases h
      rw [if_pos hfirst]
    · rename_i hfirst
      rw [if_neg hfirst, ih h]

theorem Disk.changeIn_of_not_directory {top : Facts} {entries : Entries} {loc : Location}
    (h : ∀ facts inner, nodeIn top entries loc ≠ some (.directory facts inner))
    (change : Entries → Entries) : changeIn change entries loc = entries := by
  induction loc generalizing top entries with
  | nil => exact absurd rfl (h top entries)
  | cons name rest ih =>
    rw [changeIn]
    split
    · rename_i facts below hfind
      rw [nodeIn, hfind] at h
      rw [ih h, Entries.put_of_find? hfind]
    · rfl

/-- Nothing is changed in a directory that is not there. -/
theorem Disk.change_of_not_holds {disk : Disk} {loc : Location} (h : ¬ disk.Holds loc)
    (change : Entries → Entries) : disk.change loc change = disk := by
  rw [Disk.change, changeIn_of_not_directory fun facts inner hnode => h ⟨facts, inner, hnode⟩]

/-! ## Files that are written again -/

namespace World

variable {w next : World} {p : Pathname} {loc : Location} {old content : ByteArray}
  {facts known : Facts}

/-- A file that has been written again is there in place of what it was, and all nodes are of the
    kind that they were of. -/
theorem replace_file_spec (h : w.disk.node? loc = some (.file old facts))
    (hidentity : known.identity = facts.identity)
    (hnext : next = w.replace loc (.file content known)) :
    next.disk.node? loc = some (.file content known) ∧ Disk.Extends w.disk next.disk ∧
      next.cwd = w.cwd := by
  subst hnext
  cases hid : known.identity with
  | some identity =>
    have hreplace : w.replace loc (.file content known)
        = { w with disk := w.disk.renew identity content known } := by
      simp [replace, Node.facts, hid]
    rw [hreplace]
    refine ⟨?_, w.disk.extends_renew, rfl⟩
    show (w.disk.renew identity content known).node? loc = _
    rw [Disk.node?_renew, h, Option.map_some, Node.renewed, ← hidentity, hid]
    simp
  | none =>
    rcases loc.eq_nil_or_concat with rfl | ⟨above, name, rfl⟩
    · cases h
    · rw [List.concat_eq_append] at h ⊢
      have hreplace : w.replace (above ++ [name]) (.file content known)
          = { w with disk := w.disk.put above name (.file content known) } := by
        simp [replace, Node.facts, hid]
      rw [hreplace]
      obtain ⟨upper, siblings, habove⟩ := Disk.holds_of_child h
      have hfind : Entries.find? name siblings = some (.file old facts) := by
        rw [← Disk.node?_child habove, h]
      refine ⟨?_, Disk.extends_put habove fun before hbefore => ?_, rfl⟩
      · show (w.disk.put above name (.file content known)).node? _ = _
        rw [Disk.put, Disk.node?_child (Disk.node?_change_self habove _), Entries.find?_put_self]
      · rw [hfind] at hbefore
        cases hbefore
        exact ⟨rfl, rfl⟩

end World

/-! ## The same path once more -/

/-- Where the name is that a path leads to, whether there is anything under it or not. -/
def Place.location? : Place → Option Location
  | present loc _ => some loc
  | vacant parent name => some (parent ++ [name])
  | removed _ => none

namespace Disk

variable {small large : Disk} {again again' : Location → Route → Except Fault Place}
  {toDirectory : Bool} {loc mid mid' : Location} {name : String} {steps : List RouteStep}
  {place : Place} {node : Node} {links : Nat} {f : Foothold}

theorem follow_vacant {approach : Approach} {parent : Location}
    (h : small.follow approach links loc ⟨steps, toDirectory⟩ = .ok (.vacant parent name)) :
    small.node? (parent ++ [name]) = none := by
  induction links generalizing loc steps toDirectory with
  | zero => cases h
  | succ links ih =>
    rw [follow] at h
    simp only at h
    induction steps generalizing loc with
    | nil =>
      obtain ⟨found, -, hfound⟩ := walk_nil_ok h
      cases hfound
    | cons step rest ihsteps =>
      cases step with
      | stay => exact ihsteps (walk_stay_ok h).2
      | ascend => exact ihsteps (walk_ascend_ok h).2
      | enter first =>
        cases (entering h).2.2 with
        | vacant hnode hrest => exact hnode
        | directory hnode hwalk => exact ihsteps hwalk
        | followed hnode htarget hagain => exact ih hagain

/-- A path that has led to a name for writing leads to the same name for reading in any disk that
    extends the first, if it leads anywhere there and the name does not stand for a link that was
    not there before. -/
theorem follow_again {ends : Bool} (hextends : Extends small large)
    (hsmall : small.follow .writing links loc ⟨steps, toDirectory⟩ = .ok place)
    (hmid : place.location? = some mid)
    (hlink : ∀ parent name target, place = .vacant parent name →
      large.kind? (parent ++ [name]) ≠ some (.link target))
    (hlarge : large.follow .through links loc ⟨steps, ends⟩ = .ok (.present mid' node)) :
    mid' = mid := by
  induction links generalizing loc steps toDirectory ends with
  | zero => cases hsmall
  | succ links ih =>
    rw [follow] at hsmall hlarge
    simp only at hsmall hlarge
    induction steps generalizing loc with
    | nil =>
      obtain ⟨found, -, rfl⟩ := walk_nil_ok hsmall
      obtain ⟨found', -, hfound⟩ := walk_nil_ok hlarge
      cases hfound
      cases hmid
      rfl
    | cons step rest ihsteps =>
      cases step with
      | stay => exact ihsteps (walk_stay_ok hsmall).2 (walk_stay_ok hlarge).2
      | ascend => exact ihsteps (walk_ascend_ok hsmall).2 (walk_ascend_ok hlarge).2
      | enter name =>
        have hlarge := (entering hlarge).2.2
        cases (entering hsmall).2.2 with
        | vacant hnode hrest =>
          cases hmid
          subst hrest
          cases hlarge with
          | directory hnode' hwalk =>
            obtain ⟨found, -, hfound⟩ := walk_nil_ok hwalk
            cases hfound
            rfl
          | stopped hnode' hrest' happroach => cases happroach
          | followed hnode' htarget hagain =>
            exact absurd (kind?_of_node? hnode') (hlink loc name _ rfl)
          | found hnode' hkind hrest' => rfl
        | directory hnode hwalk =>
          exact ihsteps hwalk (hlarge.ofDirectory (hextends _ _ (kind?_of_node? hnode)))
        | stopped hnode hrest happroach => cases happroach
        | followed hnode htarget hagain =>
          rcases hlarge.ofLink (hextends _ _ (kind?_of_node? hnode)) with ⟨-, hstop⟩ | hagain'
          · cases hstop
          · exact ih hagain hagain'
        | found hnode hkind hrest =>
          have hother := hextends _ _ (kind?_of_node? hnode)
          rw [hkind] at hother
          obtain ⟨-, found, -, hfound⟩ := hlarge.ofOther hother
          cases hfound
          cases hmid
          rfl

/-- From where a program works a path goes on from a directory that is there, whatever else is on
    the disk, or it leads to nothing that has a name. -/
theorem followFrom_eq_follow (f : Foothold) (steps : List RouteStep) :
    (∃ loc rest, ∀ (disk : Disk) (approach : Approach) (links : Nat) (toDirectory : Bool),
      disk.followFrom approach links toDirectory f steps
        = disk.follow approach links loc ⟨rest, toDirectory⟩) ∨
    ∀ (disk : Disk) (approach : Approach) (links : Nat) (toDirectory : Bool) (place : Place),
      disk.followFrom approach links toDirectory f steps = .ok place → place.location? = none := by
  induction steps generalizing f with
  | nil =>
    by_cases hlost : f.lost = []
    · exact .inl ⟨f.standing, [], fun _ _ _ _ => followFrom_of_lost_nil hlost⟩
    · refine .inr fun disk approach links toDirectory place h => ?_
      rw [followFrom_nil_of_lost hlost] at h
      cases h
      rfl
  | cons step rest ih =>
    by_cases hlost : f.lost = []
    · exact .inl ⟨f.standing, step :: rest, fun _ _ _ _ => followFrom_of_lost_nil hlost⟩
    · cases step with
      | stay => simpa only [followFrom_stay_of_lost hlost] using ih f
      | ascend => simpa only [followFrom_ascend_of_lost hlost] using ih f.above
      | enter name =>
        refine .inr fun disk approach links toDirectory place h => ?_
        rw [followFrom_enter_of_lost hlost] at h
        cases h

theorem followFrom_vacant {approach : Approach} {parent : Location}
    (h : small.followFrom approach links toDirectory f steps = .ok (.vacant parent name)) :
    small.node? (parent ++ [name]) = none := by
  rcases followFrom_eq_follow f steps with ⟨loc, rest, hfollow⟩ | hnowhere
  · rw [hfollow] at h
    exact follow_vacant h
  · cases hnowhere _ _ _ _ _ h

/-- The same as `follow_again`, from where a program works. -/
theorem followFrom_again {ends : Bool} (hextends : Extends small large)
    (hsmall : small.followFrom .writing links toDirectory f steps = .ok place)
    (hmid : place.location? = some mid)
    (hlink : ∀ parent name target, place = .vacant parent name →
      large.kind? (parent ++ [name]) ≠ some (.link target))
    (hlarge : large.followFrom .through links ends f steps = .ok (.present mid' node)) :
    mid' = mid := by
  rcases followFrom_eq_follow f steps with ⟨loc, rest, hfollow⟩ | hnowhere
  · rw [hfollow] at hsmall hlarge
    exact follow_again hextends hsmall hmid hlink hlarge
  · cases hnowhere _ _ _ _ _ hlarge

end Disk

namespace World

variable {w next : World} {p : Pathname} {loc : Location} {content : ByteArray} {node : Node}
  {place : Place}

/-- Something that a path leads to in a world with more on its disk is where the path has led to
    for writing. -/
theorem node?_of_stat (hextends : Disk.Extends w.disk next.disk) (hcwd : next.cwd = w.cwd)
    (hplace : w.locate .writing p = .ok place) (hloc : place.location? = some loc)
    (hlink : ∀ parent name target, place = .vacant parent name →
      next.disk.kind? (parent ++ [name]) ≠ some (.link target))
    (hnode : node.isRegular = true) (hstat : next.stat p = .ok node) :
    next.disk.node? loc = some node := by
  unfold stat at hstat
  split at hstat
  · rename_i mid found hlocate
    cases hstat
    obtain ⟨-, hfollow⟩ := locate_ok hlocate
    rw [baseOf_congr hcwd] at hfollow
    rw [← Disk.followFrom_again hextends (locate_ok hplace).2 hloc hlink hfollow]
    exact node?_of_locate hlocate
  · cases hstat
    cases hnode
  · cases hstat
  · cases hstat

/-- A free name stands for nothing. -/
theorem node?_of_vacant {parent : Location} {name : String}
    (hplace : w.locate .writing p = .ok (.vacant parent name)) :
    w.disk.node? (parent ++ [name]) = none :=
  Disk.followFrom_vacant (locate_ok hplace).2

/-- Where nothing has been changed, a path leads to the node that it has led to for writing. -/
theorem eq_of_stat (hplace : w.locate .writing p = .ok (.present loc node)) {other : Node}
    (hother : other.isRegular = true) (hstat : w.stat p = .ok other) : node = other := by
  have hnode := node?_of_stat (Disk.Extends.refl _) rfl hplace rfl (fun _ _ _ h => by cases h)
    hother hstat
  rw [node?_of_locate hplace] at hnode
  exact Option.some.inj hnode

/-- A new file is put into a directory. Where there is none nothing is changed. -/
theorem content_of_vacant {parent : Location} {name : String} {known : Facts}
    (hplace : w.locate .writing p = .ok (.vacant parent name))
    (hnext : next = { w with
      disk := w.disk.put parent name (.file content known) }.touched parent)
    {found : ByteArray} {facts : Facts} (hstat : next.stat p = .ok (.file found facts)) :
    found = content := by
  by_cases hholds : w.disk.Holds parent
  · obtain ⟨upper, siblings, hparent⟩ := hholds
    have hvacant : Entries.find? name siblings = none := by
      rw [← Disk.node?_child hparent]
      exact node?_of_vacant hplace
    obtain ⟨⟨changed, hchanged⟩, hextends, hcwd⟩ :=
      placed_spec hparent (fun old hold => by simp [hvacant] at hold) hnext
    have hnode : next.disk.node? (parent ++ [name]) = some (.file content known) := by
      rw [Disk.node?_child hchanged, Entries.find?_put_self]
    have hfound := node?_of_stat hextends hcwd hplace rfl
      (fun _ _ target h => by cases h; simp [Disk.kind?, hnode, Node.kind]) rfl hstat
    rw [hnode] at hfound
    cases hfound
    rfl
  · have hput : w.disk.put parent name (.file content known) = w.disk :=
      Disk.change_of_not_holds hholds _
    have hsame : next = w := by
      rw [hnext, hput]
      unfold touched
      split
      · rename_i upper siblings hparent
        exact (hholds ⟨upper, siblings, hparent⟩).elim
      · rfl
    subst hsame
    have hfound := node?_of_stat (Disk.Extends.refl _) rfl hplace rfl
      (fun _ _ target h => by cases h; simp [Disk.kind?, node?_of_vacant hplace]) rfl hstat
    rw [node?_of_vacant hplace] at hfound
    cases hfound

/-- What has been written at a path is what is in the file that the path leads to, if it leads to
    a file. -/
theorem content_of_write (h : w.write p content = .ok next) {found : ByteArray} {facts : Facts}
    (hstat : next.stat p = .ok (.file found facts)) : found = content := by
  unfold write writeWith at h
  split at h
  · rename_i loc old known hplace
    split at h
    · obtain ⟨hnode, hextends, hcwd⟩ := replace_file_spec (node?_of_locate hplace) (by rfl)
        (Except.ok.inj h).symm
      have hfound := node?_of_stat hextends hcwd hplace rfl (fun _ _ _ h => by cases h) rfl hstat
      rw [hnode] at hfound
      cases hfound
      rfl
    · cases h
  · cases h
  · rename_i hplace
    split at h
    · cases h
      cases eq_of_stat hplace rfl hstat
    · cases h
  · cases h
  · rename_i node hfile _ _ _ hplace
    split at h
    · cases h
      exact (hfile _ _ (eq_of_stat hplace rfl hstat)).elim
    · cases h
  · cases h
  · rename_i parent name hplace
    split at h
    · cases h
      exact content_of_vacant hplace rfl hstat
    · cases h
  · cases h

/-- A path leads to a file that may be read. -/
def HasReadable (w : World) (p : Pathname) : Prop :=
  ∃ content facts, w.stat p = .ok (.file content facts) ∧ facts.isReadable = true

/-- Whether a node is a file that may be read. -/
def isReadableFile : Node → Bool
  | .file _ facts => facts.isReadable
  | _ => false

theorem hasReadable_of_any (h : (w.stat p).toOption.any isReadableFile = true) :
    w.HasReadable p := by
  cases hstat : w.stat p with
  | error fault =>
    rw [hstat] at h
    cases h
  | ok node =>
    rw [hstat] at h
    cases node with
    | file content facts => exact ⟨content, facts, hstat, h⟩
    | _ => cases h

/-- A text that has been written at a path is read from it, if it leads to a file that may be
    read. -/
theorem readText_of_writeText {text : String} (h : w.writeText p text = .ok next)
    (hreadable : next.HasReadable p) : next.readText p = .ok text := by
  obtain ⟨found, facts, hstat, hmay⟩ := hreadable
  have hfound : found = text.toUTF8 := content_of_write h hstat
  have htext : String.fromUTF8? text.toUTF8 = some text := dif_pos text.isValidUTF8
  rw [readText, readBytes, hstat]
  simp only [hmay, if_true, hfound, htext]

end World
end SuiteCoverage
