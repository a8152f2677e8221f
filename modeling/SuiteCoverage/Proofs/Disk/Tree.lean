import SuiteCoverage.Disk.Route

/-!
# What a change does to a tree

A change of one directory is seen at the directory and below it; everywhere else the tree is as it
was, except that the directories on the way down hold the changed one.

Paths are followed by taking notice of very little: whether a node is a directory, where it leads
if it is a link, and that it is there. That is its *kind*, and `Extends` compares trees by it. A
tree with a name put into it extends the one before, and a tree extends what is left of it after a
name has been taken out; so both kinds of change come down to one relation.
-/

set_option autoImplicit false

namespace SuiteCoverage

/-! ## Entries -/

namespace Entries

variable {name other : String} {node : Node} {entries : Entries}

theorem find?_put_self (name : String) (node : Node) (entries : Entries) :
    (entries.put name node).find? name = some node := by
  induction entries with
  | nil => simp [put, find?]
  | cons entry rest ih =>
    obtain ⟨first, old⟩ := entry
    unfold put
    split
    · rename_i h
      simp [find?, h]
    · rename_i h
      simpa [find?, h] using ih

theorem find?_put_of_ne (h : other ≠ name) :
    (entries.put name node).find? other = entries.find? other := by
  induction entries with
  | nil => simp [put, find?, h.symm]
  | cons entry rest ih =>
    obtain ⟨first, old⟩ := entry
    unfold put
    split
    · rename_i hfirst
      subst hfirst
      simp [find?, h.symm]
    · by_cases hother : first = other
      · simp [find?, hother]
      · simpa [find?, hother] using ih

theorem find?_erase_self (name : String) (entries : Entries) :
    (entries.erase name).find? name = none := by
  induction entries with
  | nil => rfl
  | cons entry rest ih =>
    by_cases h : entry.1 = name
    · simpa [erase, h] using ih
    · simpa [erase, find?, h] using ih

theorem find?_erase_of_ne (h : other ≠ name) :
    (entries.erase name).find? other = entries.find? other := by
  induction entries with
  | nil => rfl
  | cons entry rest ih =>
    by_cases hname : entry.1 = name
    · simpa [erase, find?, hname, h.symm] using ih
    · by_cases hother : entry.1 = other
      · simp [erase, find?, hother, h]
      · simpa [erase, find?, hname, hother] using ih

theorem put_put (name : String) (node next : Node) (entries : Entries) :
    (entries.put name node).put name next = entries.put name next := by
  induction entries with
  | nil => simp [put]
  | cons entry rest ih =>
    obtain ⟨first, old⟩ := entry
    by_cases h : first = name
    · simp [put, h]
    · simpa [put, h] using ih

/-- The names in a directory, in order. -/
def names (entries : Entries) : List String := entries.map (·.1)

theorem find?_eq_none_iff : entries.find? name = none ↔ name ∉ entries.names := by
  induction entries with
  | nil => simp [find?, names]
  | cons entry rest ih =>
    obtain ⟨first, old⟩ := entry
    rw [find?, names, List.map_cons, List.mem_cons, not_or]
    split
    · rename_i h
      simp [h]
    · rename_i h
      rw [ih]
      exact ⟨fun hmem => ⟨Ne.symm h, hmem⟩, fun hmem => hmem.2⟩

theorem names_put_of_mem (h : name ∈ entries.names) :
    (entries.put name node).names = entries.names := by
  induction entries with
  | nil => simp [names] at h
  | cons entry rest ih =>
    obtain ⟨first, old⟩ := entry
    unfold put
    split
    · rfl
    · rename_i hfirst
      have hrest : name ∈ Entries.names rest := by
        simpa [names, Ne.symm hfirst] using h
      simpa [names] using ih hrest

theorem names_put_of_not_mem (h : name ∉ entries.names) :
    (entries.put name node).names = entries.names ++ [name] := by
  induction entries with
  | nil => rfl
  | cons entry rest ih =>
    obtain ⟨first, old⟩ := entry
    have hfirst : first ≠ name := fun he => h (by simp [names, he])
    have hrest : name ∉ Entries.names rest := fun hmem => h (List.mem_cons_of_mem _ hmem)
    simpa [put, hfirst, names] using ih hrest

/-- No name is put twice into a directory. -/
theorem nodup_names_put (h : entries.names.Nodup) : (entries.put name node).names.Nodup := by
  by_cases hmem : name ∈ entries.names
  · rwa [names_put_of_mem hmem]
  · rw [names_put_of_not_mem hmem]
    refine List.nodup_append.2 ⟨h, by simp, fun first hfirst last hlast => ?_⟩
    rw [List.mem_singleton] at hlast
    exact fun he => hmem (hlast ▸ he ▸ hfirst)

end Entries

/-! ## Kinds -/

/-- What a path takes notice of when it comes by a node. -/
inductive Kind where
  | directory
  | link (target : String)
  | other
deriving DecidableEq

/-- The kind of a node. -/
def Node.kind : Node → Kind
  | directory .. => .directory
  | link target => .link target
  | _ => .other

namespace Disk

variable {disk : Disk} {loc : Location} {facts : Facts} {entries : Entries}

/-- The kind of the node at a location. -/
def kind? (disk : Disk) (loc : Location) : Option Kind := (disk.node? loc).map Node.kind

/-- Whatever is on one disk is on the other one too, as a node of the same kind. -/
def Extends (small large : Disk) : Prop :=
  ∀ loc kind, small.kind? loc = some kind → large.kind? loc = some kind

theorem Extends.refl (disk : Disk) : Extends disk disk := fun _ _ h => h

theorem Extends.trans {a b c : Disk} (hab : Extends a b) (hbc : Extends b c) : Extends a c :=
  fun loc kind h => hbc loc kind (hab loc kind h)

/-! ## Changes below a directory -/

theorem nodeIn_append {top : Facts} {tree : Entries} {a : Location}
    (h : nodeIn top tree a = some (.directory facts entries)) (b : Location) :
    nodeIn top tree (a ++ b) = nodeIn facts entries b := by
  induction a generalizing top tree with
  | nil =>
    cases h
    rfl
  | cons name rest ih =>
    rw [List.cons_append, nodeIn]
    rw [nodeIn] at h
    split at h
    · exact ih h
    · rename_i node hnot hfind
      split at h
      · cases h
        exact (hnot _ _ rfl).elim
      · cases h
    · cases h

theorem nodeIn_changeIn_append {top : Facts} {tree : Entries} {a : Location}
    (h : nodeIn top tree a = some (.directory facts entries)) (change : Entries → Entries)
    (b : Location) :
    nodeIn top (changeIn change tree a) (a ++ b) = nodeIn facts (change entries) b := by
  induction a generalizing top tree with
  | nil =>
    cases h
    rfl
  | cons name rest ih =>
    rw [nodeIn] at h
    rw [changeIn, List.cons_append, nodeIn]
    split at h
    · rename_i below inner hfind
      rw [hfind]
      simp only [Entries.find?_put_self]
      exact ih h
    · rename_i node hnot hfind
      split at h
      · cases h
        exact (hnot _ _ rfl).elim
      · cases h
    · cases h

theorem kind_nodeIn_changeIn {a b : Location} (h : ¬ a <+: b) (change : Entries → Entries)
    (top : Facts) (tree : Entries) :
    (nodeIn top (changeIn change tree a) b).map Node.kind = (nodeIn top tree b).map Node.kind := by
  induction a generalizing top tree b with
  | nil => exact absurd (List.nil_prefix) h
  | cons name rest ih =>
    cases b with
    | nil => rfl
    | cons first more =>
      rw [changeIn]
      split
      · rename_i facts below hfind
        by_cases hname : first = name
        · subst hname
          have hrest : ¬ rest <+: more := fun hp => h ((List.prefix_cons_inj first).2 hp)
          simp only [nodeIn, Entries.find?_put_self, hfind]
          exact ih hrest facts below
        · simp only [nodeIn, Entries.find?_put_of_ne hname]
      · rfl

theorem changeIn_changeIn (first second : Entries → Entries) (tree : Entries) (a : Location) :
    changeIn second (changeIn first tree a) a = changeIn (second ∘ first) tree a := by
  induction a generalizing tree with
  | nil => rfl
  | cons name rest ih =>
    cases hfind : tree.find? name with
    | none => simp [changeIn, hfind]
    | some node =>
      cases node with
      | directory facts below =>
        simp only [changeIn, hfind, Entries.find?_put_self, Entries.put_put, ih]
      | _ => simp [changeIn, hfind]

/-- Of two changes to a directory the second is made to what the first has left. -/
theorem change_change (first second : Entries → Entries) :
    (disk.change loc first).change loc second = disk.change loc (second ∘ first) := by
  rw [change, change, changeIn_changeIn, change]

/-- What is at and below a directory that has been changed. -/
theorem node?_change_append (h : disk.node? loc = some (.directory facts entries))
    (change : Entries → Entries) (rest : Location) :
    (disk.change loc change).node? (loc ++ rest) = nodeIn facts (change entries) rest :=
  nodeIn_changeIn_append h change rest

theorem node?_append (h : disk.node? loc = some (.directory facts entries)) (rest : Location) :
    disk.node? (loc ++ rest) = nodeIn facts entries rest :=
  nodeIn_append h rest

theorem kind?_change_of_not_below {other : Location} (h : ¬ loc <+: other)
    (change : Entries → Entries) : (disk.change loc change).kind? other = disk.kind? other :=
  kind_nodeIn_changeIn h change rootFacts disk.root

/-- The directory itself after it has been changed. -/
theorem node?_change_self (h : disk.node? loc = some (.directory facts entries))
    (change : Entries → Entries) :
    (disk.change loc change).node? loc = some (.directory facts (change entries)) := by
  have hself := node?_change_append h change []
  rwa [List.append_nil] at hself

/-- A name in a directory. -/
theorem node?_child (h : disk.node? loc = some (.directory facts entries)) (name : String) :
    disk.node? (loc ++ [name]) = entries.find? name := by
  rw [node?_append h, nodeIn]
  split
  · rename_i below inner hfind
    rw [hfind]
    rfl
  · rename_i node hnot hfind
    rw [hfind]
    rfl
  · rename_i hfind
    rw [hfind]

/-! ## Trees that extend others -/

/-- Changing a directory gives more, if it gives more within the directory. -/
theorem extends_change (h : disk.node? loc = some (.directory facts entries))
    {change : Entries → Entries}
    (hmore : ∀ rest kind, (nodeIn facts entries rest).map Node.kind = some kind →
      (nodeIn facts (change entries) rest).map Node.kind = some kind) :
    Extends disk (disk.change loc change) := by
  intro other kind hkind
  by_cases hp : loc <+: other
  · obtain ⟨rest, rfl⟩ := hp
    unfold kind? at hkind ⊢
    rw [node?_append h] at hkind
    rw [node?_change_append h]
    exact hmore rest kind hkind
  · rwa [kind?_change_of_not_below hp]

/-- Changing a directory gives less, if it gives less within the directory. -/
theorem change_extends (h : disk.node? loc = some (.directory facts entries))
    {change : Entries → Entries}
    (hless : ∀ rest kind, (nodeIn facts (change entries) rest).map Node.kind = some kind →
      (nodeIn facts entries rest).map Node.kind = some kind) :
    Extends (disk.change loc change) disk := by
  intro other kind hkind
  by_cases hp : loc <+: other
  · obtain ⟨rest, rfl⟩ := hp
    unfold kind? at hkind ⊢
    rw [node?_append h]
    rw [node?_change_append h] at hkind
    exact hless rest kind hkind
  · rwa [kind?_change_of_not_below hp] at hkind

/-- A disk with a name put into a directory extends the one before, if the name was free or stood
    for a node of no interest and does so still. -/
theorem extends_put (h : disk.node? loc = some (.directory facts entries)) {name : String}
    {node : Node}
    (hold : ∀ old, entries.find? name = some old → old.kind = .other ∧ node.kind = .other) :
    Extends disk (disk.put loc name node) := by
  refine extends_change h fun rest kind hkind => ?_
  cases rest with
  | nil => exact hkind
  | cons first more =>
    by_cases hname : first = name
    · subst hname
      cases hfind : entries.find? first with
      | none => simp [nodeIn, hfind] at hkind
      | some old =>
        obtain ⟨hother, hnode⟩ := hold old hfind
        cases more with
        | nil => cases old <;> cases node <;> simp_all [nodeIn, Entries.find?_put_self, Node.kind]
        | cons next after => cases old <;> simp_all [nodeIn, Node.kind]
    · rwa [nodeIn, Entries.find?_put_of_ne hname]

/-- A disk extends what is left of it after a name has been taken out of a directory. -/
theorem erase_extends (h : disk.node? loc = some (.directory facts entries)) (name : String) :
    Extends (disk.erase loc name) disk := by
  refine change_extends h fun rest kind hkind => ?_
  cases rest with
  | nil => exact hkind
  | cons first more =>
    by_cases hname : first = name
    · subst hname
      simp [nodeIn, Entries.find?_erase_self] at hkind
    · rwa [nodeIn, Entries.find?_erase_of_ne hname] at hkind

end Disk
end SuiteCoverage
