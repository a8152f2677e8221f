import SuiteCoverage.Proofs.World.Rereading

/-!
# What a write reaches

A text that is written at a path changes one file: the file that the path leads to, under all the
names that it has, or a new one. So it reaches what is at a location only if the path leads there or
below, or to a file that has another name there (`World.Reaches`). Whatever it does not reach stays
as it is, with all that is below it (`node?_of_write`).

A path that is a mere name leads to that name, unless a link goes by it.
-/

set_option autoImplicit false

namespace SuiteCoverage

/-! ## Changes elsewhere -/

namespace Disk

variable {disk : Disk} {a b loc : Location} {facts : Facts} {entries : Entries} {name : String}

/-- A change of one directory is not seen at a location that is neither above nor below. -/
theorem nodeIn_changeIn_of_apart (hab : ¬ a <+: b) (hba : ¬ b <+: a) (change : Entries → Entries)
    (top : Facts) (tree : Entries) :
    nodeIn top (changeIn change tree a) b = nodeIn top tree b := by
  induction a generalizing top tree b with
  | nil => exact absurd List.nil_prefix hab
  | cons name rest ih =>
    cases b with
    | nil => exact absurd List.nil_prefix hba
    | cons first more =>
      rw [changeIn]
      split
      · rename_i facts below hfind
        by_cases hname : first = name
        · subst hname
          simp only [nodeIn, Entries.find?_put_self, hfind]
          exact ih (fun h => hab ((List.prefix_cons_inj first).2 h))
            (fun h => hba ((List.prefix_cons_inj first).2 h)) facts below
        · simp only [nodeIn, Entries.find?_put_of_ne hname]
      · rfl

/-- A name that is put into a directory is seen at the name and above, and nowhere else if nothing
    is below it that was not there before. -/
theorem node?_put_of_not_prefix {node : Node} (h : disk.node? a = some (.directory facts entries))
    (hloc : ¬ loc <+: a ++ [name])
    (hbelow : ∀ first more, nodeIn facts (entries.put name node) (name :: first :: more)
      = nodeIn facts entries (name :: first :: more)) :
    (disk.put a name node).node? loc = disk.node? loc := by
  by_cases hp : a <+: loc
  · obtain ⟨rest, rfl⟩ := hp
    rw [put, node?_change_append h, node?_append h]
    cases rest with
    | nil => exact absurd (by simp) hloc
    | cons first more =>
      by_cases hfirst : first = name
      · subst hfirst
        cases more with
        | nil => exact absurd List.prefix_rfl hloc
        | cons second others => exact hbelow second others
      · simp only [nodeIn, Entries.find?_put_of_ne hfirst]
  · have hnot : ¬ loc <+: a := fun hl => hloc (hl.trans (List.prefix_append a [name]))
    exact nodeIn_changeIn_of_apart hp hnot _ rootFacts disk.root

end Disk

/-! ## Files with several names elsewhere -/

section Renewed

variable {identity : Nat} {content : ByteArray} {facts : Facts}

mutual

theorem Node.renewed_of_not_mem {node : Node} (h : identity ∉ node.identities) :
    node.renewed identity content facts = node := by
  match node with
  | .file old kept =>
    have hother : ¬ kept.identity = some identity := by
      simpa [Node.identities, eq_comm] using h
    simp [Node.renewed, hother]
  | .directory kept entries =>
    rw [Node.renewed, Entries.renewed_of_not_mem (by simpa [Node.identities] using h)]
  | .link _ | .device _ | .queue .. | .program _ => rfl

theorem Entries.renewed_of_not_mem {entries : List (String × Node)}
    (h : identity ∉ Entries.identities entries) :
    Entries.renewed identity content facts entries = entries := by
  match entries with
  | [] => rfl
  | (name, node) :: rest =>
    rw [Entries.identities, List.mem_append, not_or] at h
    rw [Entries.renewed, Node.renewed_of_not_mem h.1, Entries.renewed_of_not_mem h.2]

end

end Renewed

/-! ## Writing elsewhere -/

namespace World

variable {w next : World} {p : Pathname} {loc at_ : Location} {content : ByteArray} {name : String}

/-- Writing at a path reaches what is at a location: the path leads there or below, or to a file
    that has another name there. -/
def Reaches (w : World) (p : Pathname) (loc : Location) : Prop :=
  ∃ place, w.locate .writing p = .ok place ∧
    ((∃ target, place.location? = some target ∧ loc <+: target) ∨
      ∃ target content facts identity node, place = .present target (.file content facts) ∧
        facts.identity = some identity ∧ w.disk.node? loc = some node ∧
        identity ∈ node.identities)

/-- A directory that has been touched is another, and so are those above it. -/
theorem node?_touched (hloc : ¬ loc <+: at_) :
    (w.touched at_).disk.node? loc = w.disk.node? loc := by
  cases hnode : w.disk.node? at_ with
  | none => simp [touched, hnode]
  | some node =>
    cases node with
    | directory facts entries =>
      rcases at_.eq_nil_or_concat with rfl | ⟨above, last, rfl⟩
      · rw [touched_root]
      rw [List.concat_eq_append] at hnode hloc ⊢
      obtain ⟨upper, siblings, habove⟩ := Disk.holds_of_child hnode
      have hfind : Entries.find? last siblings = some (.directory facts entries) := by
        rw [← Disk.node?_child habove, hnode]
      rw [touched_child hnode]
      refine Disk.node?_put_of_not_prefix habove hloc fun first more => ?_
      -- What is known of a directory is not seen below it.
      simp only [Disk.nodeIn, Entries.find?_put_self, hfind]
    | _ => simp [touched, hnode]

/-- A file that is written again is another under all its names, and so are the directories above
    them. -/
theorem node?_replace_file {old : ByteArray} {facts known : Facts}
    (h : w.disk.node? at_ = some (.file old facts)) (hidentity : known.identity = facts.identity)
    (hloc : ¬ loc <+: at_)
    (hnames : ∀ identity node, facts.identity = some identity → w.disk.node? loc = some node →
      identity ∉ node.identities) :
    (w.replace at_ (.file content known)).disk.node? loc = w.disk.node? loc := by
  cases hid : known.identity with
  | some identity =>
    have hreplace : (w.replace at_ (.file content known)).disk
        = w.disk.renew identity content known := by
      simp [replace, Node.facts, hid]
    rw [hreplace, Disk.node?_renew]
    cases hnode : w.disk.node? loc with
    | none => rfl
    | some node =>
      rw [Option.map_some,
        Node.renewed_of_not_mem (hnames identity node (hidentity ▸ hid) hnode)]
  | none =>
    rcases at_.eq_nil_or_concat with rfl | ⟨above, last, rfl⟩
    · cases h
    rw [List.concat_eq_append] at h hloc ⊢
    obtain ⟨upper, siblings, habove⟩ := Disk.holds_of_child h
    have hfind : Entries.find? last siblings = some (.file old facts) := by
      rw [← Disk.node?_child habove, h]
    have hreplace : (w.replace (above ++ [last]) (.file content known)).disk
        = w.disk.put above last (.file content known) := by
      simp [replace, Node.facts, hid]
    rw [hreplace]
    refine Disk.node?_put_of_not_prefix habove hloc fun first more => ?_
    simp [Disk.nodeIn, Entries.find?_put_self, hfind]

/-- A new file is seen at its name and above. -/
theorem node?_put_file {parent : Location} {facts : Facts}
    (hvacant : w.disk.node? (parent ++ [name]) = none) (hloc : ¬ loc <+: parent ++ [name]) :
    ({ w with disk := w.disk.put parent name (.file content facts) }.touched parent).disk.node? loc
      = w.disk.node? loc := by
  have hparent : ¬ loc <+: parent := fun h => hloc (h.trans (List.prefix_append parent [name]))
  rw [node?_touched hparent]
  show (w.disk.put parent name (.file content facts)).node? loc = _
  by_cases hholds : w.disk.Holds parent
  · obtain ⟨upper, siblings, habove⟩ := hholds
    have hfind : Entries.find? name siblings = none := by
      rw [← Disk.node?_child habove, hvacant]
    refine Disk.node?_put_of_not_prefix habove hloc fun first more => ?_
    simp [Disk.nodeIn, Entries.find?_put_self, hfind]
  · rw [Disk.put, Disk.change_of_not_holds hholds]

/-- Writing leaves alone what it does not reach, and all that is below. -/
theorem node?_of_write (h : w.write p content = .ok next) (hloc : ¬ w.Reaches p loc) :
    next.disk.node? loc = w.disk.node? loc := by
  have hplace {place : Place} {target : Location} (hlocate : w.locate .writing p = .ok place)
      (htarget : place.location? = some target) : ¬ loc <+: target :=
    fun hp => hloc ⟨place, hlocate, .inl ⟨target, htarget, hp⟩⟩
  unfold write writeWith at h
  split at h
  · rename_i target old known hlocate
    split at h
    · cases h
      refine node?_replace_file (node?_of_locate hlocate) rfl (hplace hlocate rfl) ?_
      intro identity node hidentity hnode hmem
      exact hloc ⟨_, hlocate,
        .inr ⟨target, old, known, identity, node, rfl, hidentity, hnode, hmem⟩⟩
    · cases h
  · cases h
  · split at h <;> cases h
    rfl
  · cases h
  · split at h <;> cases h
    rfl
  · cases h
  · rename_i parent name hlocate
    split at h
    · cases h
      exact node?_put_file (node?_of_vacant hlocate) (hplace hlocate rfl)
    · cases h
  · cases h

/-! ## A mere name -/

/-- A mere name leads to that name in the directory worked in, unless it is the name of a link. -/
theorem location?_of_locate_name {here : Location} {place : Place}
    (hroute : p.route = ⟨[.enter name], false⟩) (hrelative : p.isAbsolute = false)
    (hcwd : w.cwd = .ofLocation here)
    (hlink : ∀ target, w.disk.node? (here ++ [name]) ≠ some (.link target))
    (h : w.locate .writing p = .ok place) : place.location? = some (here ++ [name]) := by
  have hfollow := (locate_ok h).2
  rw [baseOf, hrelative, if_neg (by simp), hcwd, hroute, Disk.followFrom_of_lost_nil rfl] at hfollow
  rw [linkLimit, Disk.follow] at hfollow
  obtain ⟨_, _, hentering⟩ := Disk.entering hfollow
  cases hentering with
  | vacant hnode _ => rfl
  | directory hnode hwalk =>
    obtain ⟨_, _, rfl⟩ := Disk.walk_nil_ok hwalk
    rfl
  | stopped hnode _ _ => exact absurd hnode (hlink _)
  | followed hnode _ _ => exact absurd hnode (hlink _)
  | found hnode _ _ => rfl

/-- What is at a location, if anything is, is no link and has no other name. -/
def IsPlain (w : World) (loc : Location) : Prop :=
  ∀ node, w.disk.node? loc = some node → node.isLink = false ∧ node.facts.identity = none

/-- What is written at a mere name does not reach what is beside it, unless a link or a file with
    several names goes by that name. -/
theorem not_reaches_beside {here : Location} {other : String}
    (hroute : p.route = ⟨[.enter name], false⟩) (hrelative : p.isAbsolute = false)
    (hcwd : w.cwd = .ofLocation here) (hplain : w.IsPlain (here ++ [name]))
    (hother : other ≠ name) : ¬ w.Reaches p (here ++ [other]) := by
  rintro ⟨place, hlocate, hreached⟩
  have hlocation := location?_of_locate_name hroute hrelative hcwd
    (fun target htarget => by cases (hplain _ htarget).1) hlocate
  rcases hreached with ⟨target, htarget, hbelow⟩ | ⟨target, content, facts, identity, node, rfl,
    hidentity, _, _⟩
  · rw [hlocation] at htarget
    cases htarget
    obtain ⟨rest, hrest⟩ := hbelow
    rw [List.append_assoc, List.append_cancel_left_eq] at hrest
    cases hrest
    exact hother rfl
  · cases hlocation
    have hnone := (hplain _ (node?_of_locate hlocate)).2
    rw [Node.facts, hidentity] at hnone
    cases hnone

end World

end SuiteCoverage
