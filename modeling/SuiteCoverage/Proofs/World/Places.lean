import SuiteCoverage.Proofs.Disk.Route
import SuiteCoverage.Proofs.Pathname
import SuiteCoverage.World.Writing

/-!
# Paths in a world

What a path that leads somewhere tells about the world: that the system takes it as a path, and
what is on the way to its last name. And what a world looks like in which one directory has been
touched: as it did before, but for what is known of that directory.
-/

set_option autoImplicit false

namespace SuiteCoverage
namespace World

variable {w : World} {p : Pathname} {approach : Approach} {place : Place} {name : String}
  {start : List RouteStep}

/-- Where a path is followed from. -/
def baseOf (w : World) (p : Pathname) : Foothold :=
  if p.isAbsolute then .ofLocation [] else w.cwd

theorem baseOf_congr {other : World} (h : other.cwd = w.cwd) : other.baseOf p = w.baseOf p := by
  rw [baseOf, h, baseOf]

/-! ## What the system takes as a path -/

theorem routeOf_ok {route : Route} (h : routeOf p = .ok route) : route = p.route := by
  unfold routeOf at h
  split at h
  · cases h
  split at h
  · cases h
  split at h
  · cases h
  · cases h
    rfl

/-- A part of what the system takes as a path, if there is anything to it. -/
theorem routeOf_of_append {q : Pathname} {text : String}
    (hspelling : p.spelling = q.spelling ++ text) (hne : q.spelling ≠ "")
    (h : ∃ route, routeOf p = .ok route) : routeOf q = .ok q.route := by
  obtain ⟨route, h⟩ := h
  unfold routeOf at h ⊢
  split at h
  · cases h
  rename_i hnul
  split at h
  · cases h
  split at h
  · cases h
  rename_i hlimit
  rw [hspelling] at hnul hlimit
  rw [if_neg, if_neg, if_neg]
  · rfl
  · rw [String.utf8ByteSize_append] at hlimit
    omega
  · simpa using hne
  · simp only [String.toList_append, List.contains_eq_mem, List.mem_append, decide_eq_true_eq,
      not_or] at hnul ⊢
    exact hnul.1

theorem locate_ok (h : w.locate approach p = .ok place) :
    routeOf p = .ok p.route ∧
      w.disk.followFrom approach linkLimit p.route.toDirectory (w.baseOf p) p.route.steps
        = .ok place := by
  unfold locate at h
  split at h
  · rename_i route hroute
    have hsame := routeOf_ok hroute
    subst hsame
    exact ⟨hroute, h⟩
  · cases h

theorem locate_of_followFrom (hroute : routeOf p = .ok p.route) :
    w.locate approach p
      = w.disk.followFrom approach linkLimit p.route.toDirectory (w.baseOf p) p.route.steps := by
  rw [locate, hroute]
  rfl

theorem routeOf_of_isDirectory (h : w.isDirectory p = true) : routeOf p = .ok p.route := by
  unfold isDirectory stat at h
  cases hlocate : w.locate .through p with
  | ok place => exact (locate_ok hlocate).1
  | error fault =>
    rw [hlocate] at h
    cases h

theorem routeOf_spelling {route : Route} (h : routeOf p = .ok route) : p.spelling ≠ "" := by
  intro hempty
  unfold routeOf at h
  simp [hempty] at h

/-- What a path leads to is on the disk. -/
theorem node?_of_locate {loc : Location} {node : Node}
    (h : w.locate approach p = .ok (.present loc node)) : w.disk.node? loc = some node :=
  Disk.followFrom_node? (locate_ok h).2

/-! ## What a path ends in -/

theorem parentOf_ok {steps : List RouteStep} {f : Foothold}
    (h : w.parentOf p.isAbsolute steps = .ok f) (hlost : f.isRemoved = false) :
    ∃ facts entries, facts.isExecutable = true ∧
      w.disk.followFrom .through linkLimit true (w.baseOf p) steps
        = .ok (.present f.standing (.directory facts entries)) ∧ f = .ofLocation f.standing := by
  unfold parentOf at h
  split at h
  · rename_i loc facts entries hfollow
    split at h
    · rename_i hexecutable
      cases h
      exact ⟨facts, entries, hexecutable, hfollow, rfl⟩
    · cases h
  · cases h
  · rename_i g hfollow
    cases h
    exact absurd (Disk.followFrom_removed hfollow) (by simpa [Foothold.isRemoved] using hlost)
  · cases h
  · cases h

theorem entryIn_ok {parent : Foothold} {toDirectory : Bool} {entry : Entry}
    (h : w.entryIn parent name toDirectory = .ok entry) :
    parent.isRemoved = false ∧ entry.parent = parent.standing ∧ entry.name = name ∧
      entry.node = w.disk.node? (parent.standing ++ [name]) := by
  unfold entryIn at h
  split at h
  · cases h
  rename_i hremoved
  split at h
  · cases h
  · cases h
    exact ⟨by simpa using hremoved, rfl, rfl, rfl⟩

/-- A path that ends in an entry: the way to the directory of the entry, and the name. -/
theorem pathEnd_entry {entry : Entry} (h : w.pathEnd p = .ok (.entry entry)) :
    routeOf p = .ok p.route ∧ ∃ start facts entries,
      p.route.steps = start ++ [.enter entry.name] ∧
      w.disk.followFrom .through linkLimit true (w.baseOf p) start
        = .ok (.present entry.parent (.directory facts entries)) ∧
      entry.node = w.disk.node? (entry.parent ++ [entry.name]) := by
  unfold pathEnd at h
  cases hroute : routeOf p with
  | error fault =>
    rw [hroute] at h
    cases h
  | ok route =>
    have hsame := routeOf_ok hroute
    subst hsame
    refine ⟨rfl, ?_⟩
    cases hparent : w.parentOf p.isAbsolute p.route.steps.dropLast with
    | error fault =>
      simp only [hroute, hparent, bind, Except.bind] at h
      cases h
    | ok parent =>
      simp only [hroute, hparent, bind, Except.bind] at h
      split at h
      · cases h
      · cases h
      · cases h
      · rename_i name hlast
        split at h
        · cases h
        · rename_i found hentry
          cases h
          obtain ⟨hremoved, hloc, hname, hnode⟩ := entryIn_ok hentry
          obtain ⟨facts, entries, -, hfollow, -⟩ := parentOf_ok hparent hremoved
          refine ⟨p.route.steps.dropLast, facts, entries, ?_, ?_, ?_⟩
          · obtain ⟨start, hsteps⟩ := List.getLast?_eq_some_iff.1 hlast
            rw [hname, hsteps, List.dropLast_concat]
          · rwa [hloc]
          · rw [hnode, hloc, hname]

/-- A path that leads to something and ends in a name ends in an entry that is there. -/
theorem pathEnd_of_locate (hsteps : p.route.steps = start ++ [.enter name])
    (h : w.locate approach p = .ok place) (htaken : ∀ parent last, place ≠ .vacant parent last) :
    ∃ entry, w.pathEnd p = .ok (.entry entry) ∧ entry.node.isSome = true := by
  obtain ⟨hroute, hfollow⟩ := locate_ok h
  rw [hsteps] at hfollow
  obtain ⟨mid, left, hwalk, hleads, -⟩ := Disk.followFrom_last hfollow
  obtain ⟨hexecutable, hlength, hentering⟩ := Disk.entering hwalk
  obtain ⟨child, hchild⟩ := hentering.exists_child htaken
  obtain ⟨facts, entries, hmid⟩ := hleads (Disk.holds_of_child hchild) true
  have hparent : w.parentOf p.isAbsolute start = .ok (.ofLocation mid) := by
    have hnode := Disk.followFrom_node? hmid
    have hfacts : w.disk.factsAt mid = facts := by
      rw [Disk.factsAt, hnode]
      rfl
    rw [hfacts] at hexecutable
    unfold parentOf
    rw [show w.follow .through p.isAbsolute ⟨start, true⟩ = _ from hmid]
    simp [hexecutable]
  refine ⟨⟨mid, name, some child, p.route.toDirectory⟩, ?_, rfl⟩
  unfold pathEnd
  rw [hroute]
  simp only [bind, Except.bind, hsteps, List.dropLast_concat, hparent, List.getLast?_concat]
  rw [entryIn, if_neg (by simp [Foothold.isRemoved, Foothold.ofLocation]), if_neg hlength]
  simp only [Foothold.ofLocation, hchild]
  rfl

end World
end SuiteCoverage
