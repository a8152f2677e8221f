import Mathlib.Data.List.Forall2
import Mathlib.Data.Nat.PSub
import SuiteCoverage.Proofs.Pathname
import SuiteCoverage.Scope

/-!
# What is in scope

A scope is told by components alone: an absolute target has those of the path at its front, a
relative one stands among those of the directories (`Names`). From that description follow the laws
that make a scope usable: spelling does not matter, what is below a measured directory is measured,
the files of one directory are measured together, and a shorter run of steps names more.

The search for a relative target takes slices of two lists, whose bounds come from the lengths of
both. `covers?` is the search with every bound checked, and it never meets one that is not there.
-/

set_option autoImplicit false

namespace SuiteCoverage

/-! ## Components of paths -/

namespace Pathname

theorem meaning_ne_root (piece : List Char) : meaning piece ≠ some .root := by
  unfold meaning
  split
  · simp
  · split <;> simp

/-- A path is absolute if its first component is the root. -/
theorem isAbsolute_iff_head? {p : Pathname} :
    p.isAbsolute = true ↔ p.components.head? = some .root := by
  have hbody (body : List (List Char)) : (body.filterMap meaning).head? ≠ some .root := by
    intro hhead
    obtain ⟨piece, -, hpiece⟩ := List.mem_filterMap.1 (List.mem_of_head? hhead)
    exact meaning_ne_root piece hpiece
  unfold isAbsolute components
  rcases split_cases p with ⟨rest, htext, hsplit⟩ | ⟨hhead, ⟨more, -, hsplit⟩ | hsplit⟩
  · simp [htext, hsplit]
  · simp [hsplit, hhead]
  · rw [hsplit, Option.toList_none, List.nil_append, beq_iff_eq]
    exact ⟨fun hroot => absurd hroot hhead, fun hroot => absurd hroot (hbody _)⟩

theorem isAbsolute_congr {p q : Pathname} (h : p.same q = true) : p.isAbsolute = q.isAbsolute := by
  rw [Bool.eq_iff_iff, isAbsolute_iff_head?, isAbsolute_iff_head?, same_iff.1 h]

/-- A path that does not start at the root is taken apart by its pieces. -/
theorem split_of_pieces {p : Pathname} {piece : List Char} {more : List (List Char)}
    (hhead : p.spelling.toList.head? ≠ some '/') (h : pieces p.spelling.toList = piece :: more) :
    p.split = if piece = ['.'] then (some .here, more) else (none, piece :: more) := by
  unfold split
  split
  · rename_i rest htext
    exact absurd (by rw [htext]; rfl) hhead
  · rw [h]
    split
    · rename_i other heq
      cases heq
      rfl
    · rename_i hother
      rw [if_neg fun hpiece => hother more (by rw [hpiece])]

/-- What is spelled behind a separator comes behind the pieces. -/
theorem split_append_separator {p q : Pathname} {text : List Char}
    (hp : p.spelling.toList ≠ []) (hq : q.spelling.toList = p.spelling.toList ++ '/' :: text) :
    q.split = (p.split.1, p.split.2 ++ pieces text) := by
  obtain ⟨c, rest, hc⟩ := List.exists_cons_of_ne_nil hp
  by_cases hroot : c = '/'
  · simp only [split, hq, hc, hroot, List.cons_append, pieces_append_separator]
  · obtain ⟨piece, more, hpieces⟩ := List.exists_cons_of_ne_nil (pieces_ne_nil p.spelling.toList)
    have hlong : pieces q.spelling.toList = piece :: (more ++ pieces text) := by
      rw [hq, pieces_append_separator, hpieces, List.cons_append]
    rw [split_of_pieces (by simpa [hq, hc] using hroot) hlong,
      split_of_pieces (by simpa [hc] using hroot) hpieces]
    split <;> rfl

/-- What is spelled behind a separator comes behind the components. -/
theorem components_append_separator {p q : Pathname} {text : List Char}
    (hp : p.spelling.toList ≠ []) (hq : q.spelling.toList = p.spelling.toList ++ '/' :: text) :
    q.components = p.components ++ (pieces text).filterMap meaning := by
  rw [components, components, split_append_separator hp hq, List.filterMap_append,
    List.append_assoc]

/-- A relative path behind a path that is not empty leaves the components of that path in front. -/
theorem components_join {p q : Pathname} (hp : p.components ≠ []) (hq : q.isAbsolute = false) :
    (p.join q).components = p.components ++ (pieces q.spelling.toList).filterMap meaning := by
  have hne : p.spelling.toList ≠ [] := by
    intro hempty
    refine hp ?_
    rw [components, split, hempty]
    rfl
  have hspelling : p.spelling.isEmpty = false := by
    simpa using fun he => hne (String.toList_eq_nil_iff.2 he)
  rw [join, if_neg (by simp [hq])]
  by_cases hlast : p.spelling.toList.getLast? = some '/'
  · obtain ⟨text, htext⟩ := List.getLast?_eq_some_iff.1 hlast
    rw [if_pos (by simp [hlast])]
    by_cases hroot : text = []
    · -- The path is the root alone, and its separator is not one behind something.
      rw [components, components, split, split, String.toList_append, htext, hroot]
      rfl
    · have hshort : p.components = (⟨String.ofList text⟩ : Pathname).components := by
        have hwhole : p.spelling.toList
            = (⟨String.ofList text⟩ : Pathname).spelling.toList ++ '/' :: [] := by
          rw [htext, String.toList_ofList]
        rw [components_append_separator (by simpa using hroot) hwhole]
        simp [pieces, meaning]
      rw [hshort]
      exact components_append_separator (by simpa using hroot) (by simp [htext])
  · rw [if_neg (by simp [hspelling, hlast])]
    exact components_append_separator hne (by simp)

end Pathname

/-! ## A search with its bounds checked -/

section Bounds

variable {α : Type}

/-- The items from one bound to another, if these are bounds in the list. -/
def slice? (items : List α) (first last : Nat) : Option (List α) :=
  if first ≤ last ∧ last ≤ items.length then some ((items.drop first).take (last - first)) else none

/-- All runs of `size` items, each of them a slice; there are none of size zero to ask for. -/
def windows? (size : Nat) (items : List α) : Option (List (List α)) :=
  if size = 0 then none
  else (List.range (items.length + 1 - size)).mapM fun i => slice? items i (i + size)

/-- Slices within the bounds are all there. -/
theorem windows?_eq {size : Nat} (hsize : size ≠ 0) (items : List α) :
    windows? size items
      = some ((List.range (items.length + 1 - size)).map fun i => (items.drop i).take size) := by
  have hmap {positions : List Nat} (h : ∀ i ∈ positions, i + size ≤ items.length) :
      positions.mapM (fun i => slice? items i (i + size))
        = some (positions.map fun i => (items.drop i).take size) := by
    induction positions with
    | nil => rfl
    | cons i rest ih =>
      have hslice : slice? items i (i + size) = some ((items.drop i).take size) := by
        rw [slice?, if_pos ⟨Nat.le_add_right i size, h i List.mem_cons_self⟩, Nat.add_sub_cancel_left]
      rw [List.mapM_cons, hslice, ih fun j hj => h j (List.mem_cons_of_mem _ hj)]
      rfl
  rw [windows?, if_neg hsize]
  refine hmap fun i hi => ?_
  have := List.mem_range.1 hi
  omega

/-- A run stands in a list if it is one of the runs of its size. -/
theorem isInfix_iff_window {wanted items : List α} :
    wanted <:+: items ↔
      ∃ i < items.length + 1 - wanted.length, (items.drop i).take wanted.length = wanted := by
  constructor
  · rintro ⟨before, behind, rfl⟩
    refine ⟨before.length, by simp; omega, ?_⟩
    rw [List.append_assoc, List.drop_left, List.take_left]
  · rintro ⟨i, -, hwindow⟩
    exact hwindow ▸ (List.take_prefix _ _).isInfix.trans (List.drop_suffix _ _).isInfix

theorem dropLast_prefix_dropLast {items more : List α} (h : items <+: more) :
    items.dropLast <+: more.dropLast := by
  obtain ⟨behind, rfl⟩ := h
  by_cases hbehind : behind = []
  · simp [hbehind]
  · rw [List.dropLast_append_of_ne_nil hbehind]
    exact (List.dropLast_prefix items).trans (List.prefix_append items _)

end Bounds

namespace Scope

/-- Whether `path` belongs to what `target` names, with every bound of the search checked. -/
def reaches? (target path : Pathname) : Option Bool :=
  if target.isAbsolute then some (path.startsWith target)
  else
    let wanted := target.components
    let parts := path.components
    if wanted.isEmpty || parts.length ≤ wanted.length then some false
    else do
      let last ← parts.length.ppred
      let directories ← slice? parts 0 last
      let windows ← windows? wanted.length directories
      some (windows.any (· == wanted))

/-- Whether `path` is measured, with every bound of the search checked. -/
def covers? (scope : Scope) (path : Pathname) : Option Bool :=
  scope.targets.anyM fun target => reaches? target path

/-- The search stays within its bounds, and finds what there is to find. -/
theorem reaches?_eq (target path : Pathname) :
    reaches? target path = some (reaches target path) := by
  unfold reaches? reaches
  split
  · rfl
  by_cases hempty : target.components = []
  · simp [hempty]
  have hfilled := List.length_pos_iff.2 hempty
  by_cases hlong : path.components.length ≤ target.components.length
  · -- There is no room for the target once the file itself is left out.
    have hnone : standsIn target.components path.components.dropLast = false := by
      rw [← Bool.not_eq_true, standsIn_iff]
      intro hamong
      have hlength := hamong.length_le
      rw [List.length_dropLast] at hlength
      omega
    simp [hlong, hnone]
  · obtain ⟨last, hlast⟩ : ∃ last, path.components.length = last + 1 :=
      Nat.exists_eq_succ_of_ne_zero (by omega)
    have hbound : path.components.length.ppred = some last := by
      rw [hlast, Nat.ppred_succ]
    have hslice : slice? path.components 0 last = some path.components.dropLast := by
      rw [slice?, if_pos ⟨Nat.zero_le _, by omega⟩, List.dropLast_eq_take, hlast]
      rfl
    rw [if_neg (by simp [hempty, hlong]), hbound]
    simp only [Option.bind_eq_bind, Option.bind_some, hslice, windows?_eq (Nat.ne_of_gt hfilled)]
    rw [Option.some_inj, Bool.eq_iff_iff, Bool.and_eq_true, standsIn_iff, isInfix_iff_window]
    simp [hempty]

/-- The search over all targets stays within its bounds. -/
theorem covers?_eq (scope : Scope) (path : Pathname) :
    scope.covers? path = some (scope.covers path) := by
  obtain ⟨targets⟩ := scope
  unfold covers? covers
  induction targets with
  | nil => rfl
  | cons target rest ih =>
    rw [List.anyM_cons, reaches?_eq, List.any_cons]
    cases reaches target path with
    | false => exact ih
    | true => rfl

/-! ## What a target names -/

/-- A target names a path: as one of the directories that it is in, if the target is absolute, and
    else as steps that stand among its directories one after the other. -/
def Names (target path : Pathname) : Prop :=
  (target.isAbsolute = true ∧ target.components <+: path.components) ∨
    (target.isAbsolute = false ∧ target.components ≠ [] ∧
      target.components <:+: path.components.dropLast)

theorem reaches_iff {target path : Pathname} : reaches target path = true ↔ Names target path := by
  unfold reaches Names Pathname.startsWith
  cases target.isAbsolute with
  | true => simp
  | false => simp [standsIn_iff]

theorem covers_iff {scope : Scope} {path : Pathname} :
    scope.covers path = true ↔ ∃ target ∈ scope.targets, Names target path := by
  simp only [covers, List.any_eq_true, reaches_iff]

variable {target path other : Pathname}

/-- Another spelling of a target names the same. -/
theorem Names.ofTarget (h : Names target path) (hsame : target.same other = true) :
    Names other path := by
  rw [Names, ← Pathname.same_iff.1 hsame, ← Pathname.isAbsolute_congr hsame]
  exact h

/-- A path with more components behind those of another is named if that one is. -/
theorem Names.ofPrefix (h : Names target path) (hbelow : path.components <+: other.components) :
    Names target other := by
  rcases h with ⟨habsolute, hfront⟩ | ⟨hrelative, hne, hamong⟩
  · exact .inl ⟨habsolute, hfront.trans hbelow⟩
  · exact .inr ⟨hrelative, hne, hamong.trans (dropLast_prefix_dropLast hbelow).isInfix⟩

/-- A relative target asks for the directories of a path only. -/
theorem Names.ofDirectory (h : Names target path) (hrelative : target.isAbsolute = false)
    (hdirectory : path.components.dropLast = other.components.dropLast) : Names target other := by
  rcases h with ⟨habsolute, -⟩ | ⟨-, hne, hamong⟩
  · exact absurd habsolute (by simp [hrelative])
  · exact .inr ⟨hrelative, hne, hdirectory ▸ hamong⟩

/-- Part of a relative target names what the whole does. -/
theorem Names.ofPart {part : Pathname} (h : Names target path)
    (hrelative : target.isAbsolute = false) (hpart : part.isAbsolute = false)
    (hne : part.components ≠ []) (hamong : part.components <:+: target.components) :
    Names part path := by
  rcases h with ⟨habsolute, -⟩ | ⟨-, -, hstands⟩
  · exact absurd habsolute (by simp [hrelative])
  · exact .inr ⟨hpart, hne, hamong.trans hstands⟩

/-- What is named has a component. -/
theorem Names.components_ne_nil (h : Names target path) : path.components ≠ [] := by
  intro hempty
  rcases h with ⟨habsolute, hfront⟩ | ⟨-, hne, hamong⟩
  · rw [hempty, List.prefix_nil] at hfront
    rw [Pathname.isAbsolute_iff_head?, hfront] at habsolute
    cases habsolute
  · rw [hempty, List.dropLast_nil, List.infix_nil] at hamong
    exact hne hamong

/-! ## The laws of a scope -/

/-- Scopes cover alike if each target of one names what some target of the other names. -/
theorem covers_mono {scope larger : Scope}
    (h : ∀ target ∈ scope.targets, Names target path → ∃ t ∈ larger.targets, Names t other)
    (hcovers : scope.covers path = true) : larger.covers other = true := by
  obtain ⟨target, htarget, hnames⟩ := covers_iff.1 hcovers
  exact covers_iff.2 (h target htarget hnames)

/-- A scope covers a path whatever the spelling of either. -/
theorem covers_of_respelled {scope respelled : Scope}
    (htargets : List.Forall₂ (fun t u => t.same u = true) scope.targets respelled.targets)
    (hpath : path.same other = true) (hcovers : scope.covers path = true) :
    respelled.covers other = true := by
  have hcomponents := Pathname.same_iff.1 hpath
  refine covers_mono (fun target htarget hnames => ?_) hcovers
  obtain ⟨i, hi, rfl⟩ := List.mem_iff_getElem.1 htarget
  have hother : i < respelled.targets.length := htargets.length_eq ▸ hi
  refine ⟨respelled.targets[i], List.getElem_mem hother, ?_⟩
  exact (hnames.ofTarget (htargets.get hi hother)).ofPrefix (hcomponents ▸ List.prefix_refl _)

/-- What a scope covers is told by components: the search for it never leaves its bounds, and the
    answer is whether some target names the path. So spelling does not matter, what is below a
    covered path is covered, relative targets do not tell the files of one directory apart, and a
    part of a relative target covers all that the whole does. -/
theorem covers_by_components (scope : Scope) (path : Pathname) :
    scope.covers? path = some (scope.covers path) ∧
    (scope.covers path = true ↔ ∃ target ∈ scope.targets,
      (target.isAbsolute = true ∧ target.components <+: path.components) ∨
      (target.isAbsolute = false ∧ target.components ≠ [] ∧
        target.components <:+: path.components.dropLast)) ∧
    (∀ (respelled : Scope) (other : Pathname),
      List.Forall₂ (fun t u => t.same u = true) scope.targets respelled.targets →
      path.same other = true → scope.covers path = respelled.covers other) ∧
    (scope.covers path = true →
      ∀ behind : Pathname, behind.isAbsolute = false → scope.covers (path.join behind) = true) ∧
    ((∀ target ∈ scope.targets, target.isAbsolute = false) →
      ∀ other : Pathname, path.components.dropLast = other.components.dropLast →
        scope.covers path = scope.covers other) ∧
    (∀ part target : Pathname, part.isAbsolute = false → target.isAbsolute = false →
      part.components ≠ [] → part.components <:+: target.components →
      (⟨[target]⟩ : Scope).covers path = true → (⟨[part]⟩ : Scope).covers path = true) := by
  refine ⟨covers?_eq scope path, covers_iff, ?_, ?_, ?_, ?_⟩
  · intro respelled other htargets hpath
    have hback : List.Forall₂ (fun t u => t.same u = true) respelled.targets scope.targets :=
      htargets.flip.imp fun t u htu => Pathname.same_symm htu
    exact Bool.eq_iff_iff.2 ⟨covers_of_respelled htargets hpath,
      covers_of_respelled hback (Pathname.same_symm hpath)⟩
  · intro hcovers behind hbehind
    refine covers_mono (fun target htarget hnames => ⟨target, htarget, ?_⟩) hcovers
    refine hnames.ofPrefix ?_
    rw [Pathname.components_join hnames.components_ne_nil hbehind]
    exact List.prefix_append _ _
  · intro hrelative other hdirectory
    have hcovers {p q : Pathname} (h : p.components.dropLast = q.components.dropLast) :
        scope.covers p = true → scope.covers q = true :=
      covers_mono fun target htarget hnames =>
        ⟨target, htarget, hnames.ofDirectory (hrelative target htarget) h⟩
    exact Bool.eq_iff_iff.2 ⟨hcovers hdirectory, hcovers hdirectory.symm⟩
  · intro part target hpart hrelative hne hamong
    refine covers_mono fun t ht hnames => ⟨part, List.mem_singleton_self part, ?_⟩
    rw [List.mem_singleton.1 ht] at hnames
    exact hnames.ofPart hrelative hpart hne hamong

/-- The file itself is none of its directories, and a target without steps names nothing. -/
example :
    (Scope.ofTexts ["core/util", ""]).covers ⟨"/w/src/core/util"⟩ = false ∧
      (Scope.ofTexts ["core/util"]).covers ⟨"/w/src//core/./util/a.c"⟩ = true := by
  decide

end Scope
end SuiteCoverage
