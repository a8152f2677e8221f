import SuiteCoverage.Proofs.Report.Names
import SuiteCoverage.Proofs.World.Renewal

/-!
# Filling a directory with files

Files are written into a directory, one after the other and always by the same path. `Filled` says
what is there by then: under every name the text that was written last under it, and under any
other name what was there to begin with. That the path leads to the same directory every time is
not assumed; writing a file succeeds only if the path leads somewhere, and then it leads where it
led before (`Filled.put`). All that is asked of the directory is that a name to be written is free
or stands for a file of its own: a link would lead the writing somewhere else.
-/

set_option autoImplicit false

namespace SuiteCoverage
namespace Pages

variable {v w next : World} {directory : Pathname} {loc : Location} {name text : String}
  {written : List (String × String)} {base entries : Entries}

/-! ## What has been written -/

/-- The text that was written last under a name. -/
def lastText? (written : List (String × String)) (name : String) : Option String :=
  (written.reverse.find? fun entry => entry.1 == name).map (·.2)

theorem lastText?_concat_self (written : List (String × String)) (name text : String) :
    lastText? (written ++ [(name, text)]) name = some text := by
  simp [lastText?]

theorem lastText?_concat_of_ne {other : String} (h : other ≠ name) :
    lastText? (written ++ [(name, text)]) other = lastText? written other := by
  simp [lastText?, h.symm]

theorem lastText?_isSome_iff :
    (lastText? written name).isSome = true ↔ name ∈ written.map (·.1) := by
  simp [lastText?]

/-- If no name was used twice, whatever was written is there. -/
theorem lastText?_of_mem (hnodup : (written.map (·.1)).Nodup) (h : (name, text) ∈ written) :
    lastText? written name = some text := by
  induction written with
  | nil => cases h
  | cons entry rest ih =>
    obtain ⟨first, old⟩ := entry
    rw [List.map_cons, List.nodup_cons] at hnodup
    rw [lastText?, List.reverse_cons, List.find?_append, Option.map_or]
    rcases List.mem_cons.1 h with hhead | hrest
    · cases hhead
      have hnone : lastText? rest name = none :=
        Option.not_isSome_iff_eq_none.1 fun hsome => hnodup.1 (lastText?_isSome_iff.1 hsome)
      rw [← lastText?, hnone]
      simp
    · rw [← lastText?, ih hnodup.2 hrest]
      rfl

/-- A name is free, or stands for a file that has no other name. -/
def Direct (base : Entries) (name : String) : Prop :=
  ∀ node, base.find? name = some node →
    ∃ content facts, node = .file content facts ∧ facts.identity = none

theorem direct_nil (name : String) : Direct [] name := by
  intro node h
  cases h

/-- The entries of a directory that had other entries to begin with, with what has been written. -/
structure Shows (base : Entries) (written : List (String × String)) (entries : Entries) : Prop where
  nodup : entries.names.Nodup
  texts : ∀ name text, lastText? written name = some text →
    ∃ facts, facts.identity = none ∧ entries.find? name = some (.file text.toUTF8 facts)
  rest : ∀ name, lastText? written name = none → entries.find? name = base.find? name

theorem shows_nil (h : base.names.Nodup) : Shows base [] base := by
  constructor
  · exact h
  · intro name text h
    cases h
  · exact fun _ _ => rfl

theorem Shows.put (h : Shows base written entries) {facts : Facts}
    (hidentity : facts.identity = none) :
    Shows base (written ++ [(name, text)])
      (Entries.put name (.file text.toUTF8 facts) entries) := by
  constructor
  · exact Entries.nodup_names_put h.nodup
  · intro other found hfound
    by_cases hother : other = name
    · subst hother
      rw [lastText?_concat_self] at hfound
      cases hfound
      exact ⟨facts, hidentity, Entries.find?_put_self _ _ _⟩
    · rw [lastText?_concat_of_ne hother] at hfound
      rw [Entries.find?_put_of_ne hother]
      exact h.texts other found hfound
  · intro other hnone
    have hother : other ≠ name := by
      rintro rfl
      rw [lastText?_concat_self] at hnone
      cases hnone
    rw [lastText?_concat_of_ne hother] at hnone
    rw [Entries.find?_put_of_ne hother]
    exact h.rest other hnone

/-- A name that was direct to begin with is so still. -/
theorem Shows.direct (h : Shows base written entries) (hname : Direct base name) :
    Direct entries name := by
  intro node hnode
  cases hlast : lastText? written name with
  | none =>
    rw [h.rest name hlast] at hnode
    exact hname node hnode
  | some text =>
    obtain ⟨facts, hidentity, hfind⟩ := h.texts name text hlast
    rw [hfind] at hnode
    cases hnode
    exact ⟨_, facts, rfl, hidentity⟩

/-- The names in the directory are those that have been written and those that were there. -/
theorem Shows.mem_names_iff (h : Shows base written entries) :
    name ∈ entries.names ↔ name ∈ base.names ∨ name ∈ written.map (·.1) := by
  rw [← lastText?_isSome_iff]
  cases hlast : lastText? written name with
  | none =>
    have hsame := h.rest name hlast
    by_cases hmem : name ∈ base.names
    · simp only [hmem, true_or, iff_true]
      refine Decidable.byContradiction fun hnot => ?_
      rw [Entries.find?_eq_none_iff.2 hnot] at hsame
      exact Entries.find?_eq_none_iff.1 hsame.symm hmem
    · rw [Entries.find?_eq_none_iff.2 hmem] at hsame
      simp [hmem, Entries.find?_eq_none_iff.1 hsame]
  | some text =>
    obtain ⟨facts, -, hthere⟩ := h.texts name text hlast
    refine ⟨fun _ => .inr rfl, fun _ => Decidable.byContradiction fun hnot => ?_⟩
    rw [Entries.find?_eq_none_iff.2 hnot] at hthere
    cases hthere

/-! ## Writing one more file -/

/-- A directory that holds what has been written, in a world that has come about from `v` by
    writing it. -/
structure Filled (v : World) (loc : Location) (base : Entries) (written : List (String × String))
    (w : World) : Prop where
  larger : Disk.Extends v.disk w.disk
  cwd : w.cwd = v.cwd
  held : ∃ facts entries, w.disk.node? loc = some (.directory facts entries) ∧
    Shows base written entries

/-- Before anything has been written. -/
theorem filled_nil {facts : Facts} (h : w.disk.node? loc = some (.directory facts base))
    (hnodup : base.names.Nodup) : Filled w loc base [] w :=
  ⟨Disk.Extends.refl w.disk, rfl, facts, base, h, shows_nil hnodup⟩

/-- Where a name is looked up that is put behind the path of the directory. -/
theorem Filled.walk {node : Node} (hloc : v.locate .through directory = .ok (.present loc node))
    (h : Filled v loc base written w) (hname : Pathname.IsEntry name) {place : Place}
    (hplace : w.locate .writing (directory.join ⟨name⟩) = .ok place) :
    ∃ left, w.disk.walk (w.disk.follow .writing left) .writing false loc [.enter name]
      = .ok place := by
  have hfollow := (World.locate_ok hplace).2
  rw [Pathname.route_join hname] at hfollow
  have hbase : w.baseOf (directory.join ⟨name⟩) = v.baseOf directory := by
    rw [World.baseOf, Pathname.isAbsolute_join hname, h.cwd, World.baseOf]
  rw [hbase] at hfollow
  exact Disk.followFrom_beyond h.larger (.inr (by simp)) rfl (Nat.le_refl _)
    (World.locate_ok hloc).2 hfollow

/-- A new file. -/
theorem writeText_vacant {p : Pathname} (hplace : w.locate .writing p = .ok (.vacant loc name))
    (h : w.writeText p text = .ok next) :
    next = { w with
      disk := w.disk.put loc name (.file text.toUTF8 (w.newFacts ⟨0o666⟩)) }.touched loc := by
  unfold World.writeText World.write World.writeWith at h
  rw [hplace] at h
  simp only at h
  split at h
  · cases h
    rfl
  · cases h

/-- A file that is written anew, if it has no other name. -/
theorem writeText_present {p : Pathname} {content : ByteArray} {facts : Facts}
    (hplace : w.locate .writing p = .ok (.present (loc ++ [name]) (.file content facts)))
    (hidentity : facts.identity = none) (h : w.writeText p text = .ok next) :
    next = { w with
      disk := w.disk.put loc name
        (.file text.toUTF8 { facts with changed := w.fileTime }) } := by
  unfold World.writeText World.write World.writeWith at h
  rw [hplace] at h
  simp only at h
  split at h
  · cases h
    simp [World.replace, hidentity, Node.facts]
  · cases h

theorem writeText_located {p : Pathname} (h : w.writeText p text = .ok next) :
    ∃ place, w.locate .writing p = .ok place := by
  unfold World.writeText World.write World.writeWith at h
  cases hplace : w.locate .writing p with
  | ok place => exact ⟨place, rfl⟩
  | error fault =>
    rw [hplace] at h
    cases h

theorem put_ok (h : put directory name text w = (.ok (), next)) :
    w.writeText (directory.join ⟨name⟩) text = .ok next := by
  unfold put at h
  cases hwrite : w.writeText (directory.join ⟨name⟩) text with
  | ok last =>
    simp only [hwrite] at h
    cases h
    rfl
  | error fault =>
    simp only [hwrite] at h
    cases h

/-- What comes of writing a file into the directory. -/
theorem Filled.put {node : Node} (hloc : v.locate .through directory = .ok (.present loc node))
    (h : Filled v loc base written w) (hname : Pathname.IsEntry name) (hdirect : Direct base name)
    (hput : put directory name text w = (.ok (), next)) :
    Filled v loc base (written ++ [(name, text)]) next := by
  obtain ⟨facts, entries, hnode, hshows⟩ := h.held
  have hwrite := put_ok hput
  obtain ⟨place, hplace⟩ := writeText_located hwrite
  obtain ⟨left, hwalk⟩ := h.walk hloc hname hplace
  have hchild := Disk.node?_child hnode name
  -- Under the name there is nothing or a file, so no link leads the writing astray.
  have hfile {node : Node} (hnode : w.disk.node? (loc ++ [name]) = some node) :
      ∃ content facts, node = .file content facts ∧ facts.identity = none :=
    hshows.direct hdirect node (hchild.symm.trans hnode)
  cases (Disk.entering hwalk).2.2 with
  | vacant hfree hrest =>
    have hvacant : Entries.find? name entries = none := hchild.symm.trans hfree
    obtain ⟨⟨changed, hchanged⟩, hextends, hcwd⟩ := World.placed_spec hnode
      (fun old hold => by simp [hvacant] at hold) (writeText_vacant hplace hwrite)
    exact ⟨h.larger.trans hextends, hcwd.trans h.cwd, changed, _, hchanged, hshows.put rfl⟩
  | directory hdirectory hrest =>
    obtain ⟨content, found, hfound, -⟩ := hfile hdirectory
    cases hfound
  | stopped hlink hrest happroach => cases happroach
  | followed hlink htarget hagain =>
    obtain ⟨content, found, hfound, -⟩ := hfile hlink
    cases hfound
  | found hthere hkind hrest =>
    obtain ⟨content, found, rfl, hidentity⟩ := hfile hthere
    have hnext := writeText_present hplace hidentity hwrite
    subst hnext
    refine ⟨h.larger.trans (Disk.extends_put hnode fun old hold => ?_), h.cwd, facts, _,
      Disk.node?_change_self hnode _, hshows.put hidentity⟩
    obtain ⟨_, _, rfl, -⟩ := hshows.direct hdirect old hold
    exact ⟨rfl, rfl⟩

/-- The path of the directory still leads to it, if it leads anywhere. -/
theorem Filled.leads {node : Node} (hloc : v.locate .through directory = .ok (.present loc node))
    (h : Filled v loc base written w) {place : Place}
    (hplace : w.locate .through directory = .ok place) :
    ∃ facts entries, place = .present loc (.directory facts entries) := by
  have hfollow := (World.locate_ok hplace).2
  rw [World.baseOf_congr h.cwd, ← List.append_nil directory.route.steps] at hfollow
  obtain ⟨left, hwalk⟩ := Disk.followFrom_beyond h.larger (.inl rfl) rfl (Nat.le_refl _)
    (World.locate_ok hloc).2 hfollow
  obtain ⟨found, hfound, rfl⟩ := Disk.walk_nil_ok hwalk
  obtain ⟨facts, entries, hnode, -⟩ := h.held
  rw [hnode] at hfound
  cases hfound
  exact ⟨facts, entries, rfl⟩

end Pages
end SuiteCoverage
