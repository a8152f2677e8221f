import Mathlib.Data.List.Induction
import Mathlib.Data.List.Lex
import Mathlib.Data.List.Nodup
import Mathlib.Data.String.Basic
import SuiteCoverage.Proofs.Disk.Tree
import SuiteCoverage.Proofs.Scope
import SuiteCoverage.Proofs.World.Places
import SuiteCoverage.World.Walk

/-!
# What a walk comes to

A walk comes to a node below a directory exactly if no directory on the way to it bears a name that
is passed over, and neither does the node if it is a directory (`visits_iff`). It comes to each of
them once, a directory right before what is in it, and the entries of one directory in the order of
the bytes of their names (`isWalk_descendants`).

Names are compared as texts. The encoding of a text keeps the order of its characters, so that is
the order of the bytes (`lt_iff_bytesOf_lt`).

What is found bears the path from the directory on, with the names on the way put behind it one
after the other. They come back as the components that are behind those of the directory
(`components_at`), and as what is left when the directory is taken off (`below?_at`).
-/

set_option autoImplicit false

namespace SuiteCoverage

/-! ## The order of bytes -/

/-- The bytes of a text. -/
def bytesOf (text : String) : List UInt8 := text.toUTF8.data.toList

theorem bytesOf_eq (text : String) : bytesOf text = text.toList.flatMap String.utf8EncodeChar := by
  have hencoded : text.toByteArray = text.toList.utf8Encode := String.utf8Encode_toList.symm
  rw [bytesOf, String.toUTF8_eq_toByteArray, hencoded, List.utf8Encode, List.data_toByteArray]

theorem toNat_val_lt (c : Char) : c.val.toNat < 0x110000 := by
  have hvalid := c.valid
  simp only [UInt32.isValidChar, Nat.isValidChar] at hvalid
  omega

theorem ofNat_cons_lt {j k : Nat} {a b : List UInt8} (hle : j ≤ k) (hk : k < 256)
    (h : j = k → a < b) : UInt8.ofNat j :: a < UInt8.ofNat k :: b := by
  rw [List.cons_lt_cons_iff]
  rcases Nat.lt_or_eq_of_le hle with hlt | heq
  · left
    rw [UInt8.lt_iff_toNat_lt, UInt8.toNat_ofNat', UInt8.toNat_ofNat', Nat.mod_eq_of_lt hk,
      Nat.mod_eq_of_lt (Nat.lt_trans hlt hk)]
    exact hlt
  · exact .inr ⟨congrArg UInt8.ofNat heq, h heq⟩

/-- Of two characters the one in front is told by a byte that both have, and nothing behind. -/
theorem utf8EncodeChar_append_lt {c d : Char} (h : c < d) (a b : List UInt8) :
    String.utf8EncodeChar c ++ a < String.utf8EncodeChar d ++ b := by
  have hlt : c.val.toNat < d.val.toNat := h
  have hd := toNat_val_lt d
  unfold String.utf8EncodeChar
  generalize c.val.toNat = m at *
  generalize d.val.toNat = n at *
  -- The character in front has no more bytes, and with fewer it has a lower byte first.
  dsimp only
  split
  · repeat' split
    all_goals exact ofNat_cons_lt (by omega) (by omega) fun _ => by omega
  split
  · split
    · omega
    split
    · exact ofNat_cons_lt (by omega) (by omega) fun _ =>
        ofNat_cons_lt (by omega) (by omega) fun _ => by omega
    split <;> exact ofNat_cons_lt (by omega) (by omega) fun _ => by omega
  split
  · split
    · omega
    split
    · omega
    split
    · exact ofNat_cons_lt (by omega) (by omega) fun _ => ofNat_cons_lt (by omega) (by omega) fun _ =>
        ofNat_cons_lt (by omega) (by omega) fun _ => by omega
    · exact ofNat_cons_lt (by omega) (by omega) fun _ => by omega
  · split
    · omega
    split
    · omega
    split
    · omega
    · exact ofNat_cons_lt (by omega) (by omega) fun _ => ofNat_cons_lt (by omega) (by omega) fun _ =>
        ofNat_cons_lt (by omega) (by omega) fun _ => ofNat_cons_lt (by omega) (by omega) fun _ =>
          by omega

theorem flatMap_utf8EncodeChar_lt {a b : List Char} (h : a < b) :
    a.flatMap String.utf8EncodeChar < b.flatMap String.utf8EncodeChar := by
  have hlex : List.Lex (· < ·) a b := h
  induction hlex with
  | @nil c rest =>
    obtain ⟨byte, more, hbytes⟩ := List.exists_cons_of_ne_nil (String.utf8EncodeChar_ne_nil (c := c))
    rw [List.flatMap_nil, List.flatMap_cons, hbytes]
    exact .nil
  | @rel c x d y hcd =>
    rw [List.flatMap_cons, List.flatMap_cons]
    exact utf8EncodeChar_append_lt hcd _ _
  | @cons c x y hxy ih =>
    rw [List.flatMap_cons, List.flatMap_cons]
    exact List.Lex.append_left _ (ih hxy) _

/-- Names are in the order of their characters just if they are in the order of their bytes. -/
theorem lt_iff_bytesOf_lt {a b : String} : a < b ↔ bytesOf a < bytesOf b := by
  have hmono {a b : String} (h : a < b) : bytesOf a < bytesOf b := by
    rw [bytesOf_eq, bytesOf_eq]
    exact flatMap_utf8EncodeChar_lt (String.lt_iff_toList_lt.1 h)
  refine ⟨hmono, fun h => ?_⟩
  rcases lt_trichotomy a b with hlt | rfl | hgt
  · exact hlt
  · exact absurd h (List.lt_irrefl _)
  · exact absurd (hmono hgt) (List.lt_asymm h)

theorem isLE_compare_iff {a b : String} : (compare a b).isLE = true ↔ a ≤ b := by
  show (compareOfLessAndEq a b).isLE = true ↔ a ≤ b
  unfold compareOfLessAndEq
  rcases lt_trichotomy a b with h | rfl | h
  · simp [h, h.le]
  · simp
  · simp [h, h.not_gt, h.ne']

/-- What is sorted by names is in the order of the names. -/
theorem pairwise_mergeSort_compare {α : Type} (name : α → String) (items : List α) :
    (items.mergeSort fun a b => (compare (name a) (name b)).isLE).Pairwise
      fun a b => name a ≤ name b := by
  refine (List.pairwise_mergeSort ?_ ?_ items).imp isLE_compare_iff.1
  · intro a b c hab hbc
    exact isLE_compare_iff.2 ((isLE_compare_iff.1 hab).trans (isLE_compare_iff.1 hbc))
  · intro a b
    rw [Bool.or_eq_true, isLE_compare_iff, isLE_compare_iff]
    exact le_total (name a) (name b)

/-! ## Paths below a directory -/

/-- The path of a location below a path. -/
def Pathname.at (p : Pathname) (loc : Location) : Pathname :=
  loc.foldl (fun path name => path.join ⟨name⟩) p

namespace Pathname

variable {p : Pathname} {loc : Location} {name : String}

theorem meaning_of_isEntry (h : IsEntry name) : meaning name.toList = some (.name name) := by
  have hsome : ¬ (name.toList = [] ∨ name.toList = ['.']) := by
    rw [not_or]
    exact ⟨h.filled, h.ne_here⟩
  rw [meaning, if_neg hsome, if_neg h.ne_up, String.ofList_toList]

theorem at_concat (p : Pathname) (loc : Location) (name : String) :
    p.at (loc ++ [name]) = (p.at loc).join ⟨name⟩ :=
  List.foldl_concat ..

/-- A name is the last piece of a path that it is put behind, in place of an empty one. -/
theorem split_join (hp : p.spelling.toList ≠ []) (h : IsEntry name) :
    ∃ body, (p.join ⟨name⟩).split = (p.split.1, body ++ [name.toList]) ∧
      (p.split.2 = body ∨ p.split.2 = body ++ [[]]) := by
  have hname : pieces name.toList = [name.toList] := pieces_of_not_mem h.single
  rcases join_cases h p with ⟨hempty, -⟩ | ⟨text, ⟨rfl, -⟩ | htext, hjoin⟩
  · exact absurd hempty hp
  · refine ⟨p.split.2, ?_, .inl rfl⟩
    rw [split_append_separator hp hjoin, hname]
  · by_cases hroot : text = []
    · -- The path is the root alone, and its separator is not one behind something.
      subst hroot
      refine ⟨[], ?_, .inr ?_⟩
      · simp [split, hjoin, htext, hname]
      · simp [split, htext, pieces]
    · have hshort : (⟨String.ofList text⟩ : Pathname).spelling.toList ≠ [] := by simpa using hroot
      have hlong : p.split = ((⟨String.ofList text⟩ : Pathname).split.1,
          (⟨String.ofList text⟩ : Pathname).split.2 ++ [[]]) :=
        split_append_separator hshort (by rw [htext, String.toList_ofList])
      have hsplit : (p.join ⟨name⟩).split = ((⟨String.ofList text⟩ : Pathname).split.1,
          (⟨String.ofList text⟩ : Pathname).split.2 ++ [name.toList]) := by
        rw [← hname]
        exact split_append_separator hshort (by rw [hjoin, String.toList_ofList])
      exact ⟨_, by rw [hsplit, hlong], .inr (by rw [hlong])⟩

/-- Names that are put behind a path are its last pieces, and before them are those of the path. -/
theorem split_at (hp : p.spelling.toList ≠ []) (hloc : ∀ name ∈ loc, IsEntry name) :
    ∃ body, (p.at loc).split = (p.split.1, body ++ loc.map String.toList) ∧
      body.filterMap meaning = p.split.2.filterMap meaning ∧ (p.at loc).spelling.toList ≠ [] := by
  induction loc using List.reverseRecOn with
  | nil => exact ⟨p.split.2, by simp [Pathname.at], rfl, hp⟩
  | append_singleton loc name ih =>
    have hname : IsEntry name := hloc name (by simp)
    obtain ⟨body, hsplit, hbody, hne⟩ := ih fun other hother => hloc other (by simp [hother])
    obtain ⟨front, hjoin, hfront⟩ := split_join hne hname
    simp only [hsplit] at hjoin hfront
    have hspelling : ((p.at loc).join ⟨name⟩).spelling.toList ≠ [] := by
      obtain ⟨text, htext⟩ := join_spelling hname (p.at loc)
      rw [htext, String.toList_append]
      exact List.append_ne_nil_of_left_ne_nil hne _
    rw [at_concat]
    rcases hfront with rfl | hfront
    · exact ⟨body, by rw [hjoin]; simp, hbody, hspelling⟩
    · -- The last name is not empty, so it is a piece of the path that is.
      rcases loc.eq_nil_or_concat with rfl | ⟨upper, last, rfl⟩
      · rw [List.map_nil, List.append_nil] at hfront
        refine ⟨front, by rw [hjoin]; rfl, ?_, hspelling⟩
        rw [← hbody, hfront]
        simp [meaning]
      · rw [List.concat_eq_append, List.map_append, ← List.append_assoc] at hfront
        have hlast : last.toList = [] := by simpa using (List.append_inj' hfront rfl).2
        exact absurd hlast (hloc last (by simp)).filled

theorem single_of_isEntry (hloc : ∀ name ∈ loc, IsEntry name) :
    ∀ piece ∈ loc.map String.toList, '/' ∉ piece := by
  intro piece hpiece
  obtain ⟨name, hname, rfl⟩ := List.mem_map.1 hpiece
  exact (hloc name hname).single

theorem filterMap_meaning (hloc : ∀ name ∈ loc, IsEntry name) :
    (loc.map String.toList).filterMap meaning = loc.map Component.name := by
  induction loc with
  | nil => rfl
  | cons name rest ih =>
    rw [List.forall_mem_cons] at hloc
    rw [List.map_cons, List.filterMap_cons, meaning_of_isEntry hloc.1, ih hloc.2, List.map_cons]

theorem components_at (hp : p.spelling.toList ≠ []) (hloc : ∀ name ∈ loc, IsEntry name) :
    (p.at loc).components = p.components ++ loc.map Component.name := by
  obtain ⟨body, hsplit, hbody, -⟩ := split_at hp hloc
  rw [components, components, hsplit, List.filterMap_append, hbody, filterMap_meaning hloc,
    List.append_assoc]

/-- Different locations have different paths. -/
theorem nodup_map_at {locs : List Location} (hp : p.spelling.toList ≠ [])
    (hlocs : ∀ loc ∈ locs, ∀ name ∈ loc, IsEntry name) (hnodup : locs.Nodup) :
    (locs.map p.at).Nodup := by
  refine List.Nodup.map_on ?_ hnodup
  intro a ha b hb heq
  have hcomponents := congrArg components heq
  rw [components_at hp (hlocs a ha), components_at hp (hlocs b hb)] at hcomponents
  exact List.map_injective_iff.2 (fun _ _ h => Component.name.inj h)
    (List.append_cancel_left hcomponents)

/-- A location has the extension of its last name. -/
theorem extension?_at (hp : p.spelling.toList ≠ []) (hloc : ∀ name ∈ loc, IsEntry name)
    (hname : loc.getLast? = some name) : (p.at loc).extension? = extensionOf? name := by
  have hlast : (p.at loc).components.getLast? = some (.name name) := by
    rw [components_at hp hloc, List.getLast?_append, List.getLast?_map, hname]
    rfl
  rw [extension?, fileName?, hlast]
  rfl

/-- What is left of a body behind its own components is what stands for something behind it. -/
theorem dropComponents_append (body rest : List (List Char)) :
    ∃ junk, dropComponents (body.filterMap meaning) (body ++ rest) = some (junk ++ rest) ∧
      ∀ piece ∈ junk, meaning piece = none := by
  induction body with
  | nil => exact ⟨[], by simp [dropComponents], by simp⟩
  | cons piece body ih =>
    obtain ⟨junk, hdrop, hjunk⟩ := ih
    rw [List.filterMap_cons]
    cases hpiece : meaning piece with
    | some component =>
      refine ⟨junk, ?_, hjunk⟩
      rw [List.cons_append, dropComponents, hpiece]
      simpa using hdrop
    | none =>
      cases hwanted : body.filterMap meaning with
      | nil =>
        refine ⟨piece :: body, rfl, List.forall_mem_cons.2 ⟨hpiece, ?_⟩⟩
        simpa [List.filterMap_eq_nil_iff] using hwanted
      | cons component wanted =>
        refine ⟨junk, ?_, hjunk⟩
        rw [hwanted] at hdrop
        rw [List.cons_append, dropComponents, hpiece]
        exact hdrop

theorem trimFront_append {junk body : List (List Char)} (hjunk : ∀ piece ∈ junk, meaning piece = none)
    (hbody : ∀ piece ∈ body, meaning piece ≠ none) : trimFront (junk ++ body) = body := by
  have hdropped : ∀ piece ∈ junk, (meaning piece).isNone = true := by
    intro piece hpiece
    rw [hjunk piece hpiece]
    rfl
  rw [trimFront, List.dropWhile_append_of_pos hdropped]
  cases body with
  | nil => rfl
  | cons piece rest =>
    refine List.dropWhile_cons_of_neg ?_
    simpa using hbody piece (by simp)

theorem trimBack_eq_self {body : List (List Char)} (hbody : ∀ piece ∈ body, meaning piece ≠ none) :
    trimBack body = body := by
  have hreverse : ∀ piece ∈ body.reverse, meaning piece ≠ none := by
    intro piece hpiece
    exact hbody piece (List.mem_reverse.1 hpiece)
  rw [trimBack, ← List.nil_append body.reverse, trimFront_append (by simp) hreverse,
    List.reverse_reverse]

theorem components_ne_nil (hp : p.spelling.toList ≠ []) : p.components ≠ [] := by
  obtain ⟨c, rest, hc⟩ := List.exists_cons_of_ne_nil hp
  by_cases hroot : c = '/'
  · simp [components, split, hc, hroot]
  · obtain ⟨piece, more, -, hpieces⟩ := pieces_cons hroot rest
    rw [← hc] at hpieces
    have hsplit := split_of_pieces (by simpa [hc] using hroot) hpieces
    rw [components, hsplit]
    split
    · simp
    · rename_i hdot
      have hsome : (meaning (c :: piece)).isSome := by
        unfold meaning
        rw [if_neg (by simpa using hdot)]
        split <;> rfl
      obtain ⟨component, hcomponent⟩ := Option.isSome_iff_exists.1 hsome
      simp [hcomponent]

/-- The names on the way from a directory to a path below it are what is left of the path. -/
theorem below?_at (hp : p.spelling.toList ≠ []) (hloc : ∀ name ∈ loc, IsEntry name) :
    (p.at loc).below? p
      = some ⟨String.ofList (List.intercalate ['/'] (loc.map String.toList))⟩ := by
  obtain ⟨body, hsplit, hbody, -⟩ := split_at hp hloc
  have hnames : ∀ piece ∈ loc.map String.toList, meaning piece ≠ none := by
    intro piece hpiece
    obtain ⟨name, hname, rfl⟩ := List.mem_map.1 hpiece
    rw [meaning_of_isEntry (hloc name hname)]
    simp
  obtain ⟨junk, hdrop, hjunk⟩ := dropComponents_append body (loc.map String.toList)
  have hrest : (dropComponents (p.split.2.filterMap meaning) (body ++ loc.map String.toList)).map
        (fun rest => spell none (trimBack (trimFront rest)))
      = some ⟨String.ofList (List.intercalate ['/'] (loc.map String.toList))⟩ := by
    rw [← hbody, hdrop, Option.map_some, trimFront_append hjunk hnames, trimBack_eq_self hnames]
    rfl
  have hcomponents := components_ne_nil hp
  unfold below?
  rw [hsplit]
  unfold components at hcomponents ⊢
  cases hstart : p.split.1 with
  | some start =>
    simp only [Option.toList_some, List.singleton_append, if_true]
    exact hrest
  | none =>
    rw [hstart, Option.toList_none, List.nil_append] at hcomponents
    obtain ⟨c, wanted, hwanted⟩ := List.exists_cons_of_ne_nil hcomponents
    simp only [Option.toList_none, List.nil_append, hwanted]
    rw [← hwanted]
    exact hrest

/-- What stands in a piece stands in the text. -/
theorem mem_of_mem_pieces {text piece : List Char} {c : Char} (hpiece : piece ∈ pieces text)
    (hc : c ∈ piece) : c ∈ text := by
  induction text generalizing piece with
  | nil =>
    have hempty : piece = [] := by simpa [pieces] using hpiece
    rw [hempty] at hc
    exact hc
  | cons d rest ih =>
    by_cases hd : d = '/'
    · rw [hd, pieces, List.mem_cons] at hpiece
      rcases hpiece with rfl | hpiece
      · cases hc
      · exact List.mem_cons_of_mem _ (ih hpiece hc)
    · obtain ⟨first, more, hpieces, hcons⟩ := pieces_cons hd rest
      rw [hcons, List.mem_cons] at hpiece
      rcases hpiece with rfl | hpiece
      · rcases List.mem_cons.1 hc with rfl | hc
        · exact List.mem_cons_self
        · exact List.mem_cons_of_mem _ (ih (by simp [hpieces]) hc)
      · exact List.mem_cons_of_mem _ (ih (by simp [hpieces, hpiece]) hc)

theorem mem_of_mem_meaning {text : List Char} {c : Char}
    (h : .name name ∈ (pieces text).filterMap meaning) (hc : c ∈ name.toList) : c ∈ text := by
  obtain ⟨piece, hpiece, hmeaning⟩ := List.mem_filterMap.1 h
  unfold meaning at hmeaning
  split at hmeaning
  · cases hmeaning
  split at hmeaning
  · cases hmeaning
  · cases hmeaning
    rw [String.toList_ofList] at hc
    exact mem_of_mem_pieces hpiece hc

/-- What stands in a component stands in the path. -/
theorem mem_of_mem_components {c : Char} (h : .name name ∈ p.components) (hc : c ∈ name.toList) :
    c ∈ p.spelling.toList := by
  unfold components at h
  rcases split_cases p with ⟨rest, htext, hsplit⟩ | ⟨-, ⟨more, hpieces, hsplit⟩ | hsplit⟩
  · rw [hsplit] at h
    rw [htext]
    exact List.mem_cons_of_mem _ (mem_of_mem_meaning (by simpa using h) hc)
  · rw [hsplit] at h
    have hname : .name name ∈ (pieces p.spelling.toList).filterMap meaning := by
      rw [hpieces]
      simpa [meaning] using h
    exact mem_of_mem_meaning hname hc
  · rw [hsplit] at h
    exact mem_of_mem_meaning (by simpa using h) hc

end Pathname

/-! ## Trees -/

/-- The entries of a directory as a file system has them: in it and in all directories below it,
    the names are different and each of them is one that an entry can have. -/
inductive Entries.IsProper : Entries → Prop
  | of {entries : Entries} (distinct : entries.names.Nodup)
      (named : ∀ name ∈ entries.names, Pathname.IsEntry name)
      (below : ∀ name facts inner, (name, Node.directory facts inner) ∈ entries →
        IsProper inner) : IsProper entries

/-- Entries are as a disk has them if no name stands twice and the directories among them are. -/
theorem isProper_of_names {entries : Entries} (distinct : entries.names.Nodup)
    (named : ∀ name ∈ entries.names, name.toList ≠ [] ∧ '/' ∉ name.toList ∧
      name.toList ≠ ['.'] ∧ name.toList ≠ ['.', '.'])
    (below : ∀ name facts inner, (name, Node.directory facts inner) ∈ entries →
      Entries.IsProper inner) : entries.IsProper :=
  .of distinct (fun name hname =>
    ⟨(named name hname).1, (named name hname).2.1, (named name hname).2.2.1,
      (named name hname).2.2.2⟩) below

/-- What a walk comes to that stays out of directories with certain names. -/
inductive Visits (skip : String → Bool) : Entries → Location → Node → Prop
  | entry {entries : Entries} {name : String} {node : Node} (hmem : (name, node) ∈ entries)
      (hskip : (node.isDirectory && skip name) = false) : Visits skip entries [name] node
  | inside {entries inner : Entries} {name : String} {facts : Facts} {loc : Location} {node : Node}
      (hmem : (name, .directory facts inner) ∈ entries) (hskip : skip name = false)
      (hinner : Visits skip inner loc node) : Visits skip entries (name :: loc) node

/-- The order of locations in a walk: a directory comes right before what is in it, and what is in
    one directory comes in the order of the bytes of the names. -/
def Location.Before : Location → Location → Prop :=
  List.Lex fun name other => bytesOf name < bytesOf other

theorem Location.not_before_self (loc : Location) : ¬ loc.Before loc := by
  induction loc with
  | nil => exact nofun
  | cons name rest ih =>
    intro h
    cases h with
    | rel hlt => exact List.lt_irrefl _ hlt
    | cons hrest => exact ih hrest

section Walking

variable {skip : String → Bool} {p : Pathname} {facts : Facts} {entries : Entries}
  {name : String} {loc : Location} {node : Node}

theorem Entries.find?_eq_some_iff (h : entries.names.Nodup) :
    entries.find? name = some node ↔ (name, node) ∈ entries := by
  induction entries with
  | nil => simp [Entries.find?]
  | cons entry rest ih =>
    obtain ⟨first, other⟩ := entry
    obtain ⟨hfirst, hrest⟩ := List.nodup_cons.1 h
    rw [Entries.find?, List.mem_cons, Prod.mk.injEq]
    split
    case isTrue heq =>
      subst heq
      rw [Option.some.injEq, eq_comm (a := other)]
      refine ⟨fun hnode => .inl ⟨rfl, hnode⟩, ?_⟩
      rintro (⟨-, hnode⟩ | hmem)
      · exact hnode
      · exact absurd (List.mem_map_of_mem hmem) hfirst
    case isFalse hne =>
      rw [ih hrest]
      refine ⟨.inr, ?_⟩
      rintro (⟨heq, -⟩ | hmem)
      · exact absurd heq.symm hne
      · exact hmem

theorem Visits.ne_nil (h : Visits skip entries loc node) : loc ≠ [] := by
  cases h <;> simp

theorem Visits.isEntry (h : Visits skip entries loc node) (hproper : entries.IsProper) :
    ∀ name ∈ loc, Pathname.IsEntry name := by
  induction hproper generalizing loc with
  | @of entries distinct named below ih =>
    cases h with
    | entry hmem hskip =>
      exact List.forall_mem_singleton.2 (named _ (List.mem_map_of_mem hmem))
    | inside hmem hskip hinner =>
      exact List.forall_mem_cons.2 ⟨named _ (List.mem_map_of_mem hmem), ih _ _ _ hmem hinner⟩

theorem Visits.mono {others : Entries} (h : Visits skip entries loc node)
    (hsub : ∀ entry ∈ entries, entry ∈ others) : Visits skip others loc node := by
  cases h with
  | entry hmem hskip => exact .entry (hsub _ hmem) hskip
  | inside hmem hskip hinner => exact .inside (hsub _ hmem) hskip hinner

theorem nodeIn_singleton (facts : Facts) (entries : Entries) (name : String) :
    Disk.nodeIn facts entries [name] = entries.find? name := by
  rw [Disk.nodeIn]
  split <;> exact Eq.symm ‹_›

/-- A walk comes to every node at a location on the way to which it stays out of no directory. -/
theorem visits_iff (hproper : entries.IsProper) (facts : Facts) :
    Visits skip entries loc node ↔
      loc ≠ [] ∧ Disk.nodeIn facts entries loc = some node ∧
        (∀ name ∈ loc.dropLast, skip name = false) ∧
        (node.isDirectory = true → ∀ name, loc.getLast? = some name → skip name = false) := by
  induction hproper generalizing loc facts with
  | @of entries distinct named below ih =>
    constructor
    · intro h
      cases h with
      | @entry _ name _ hmem hskip =>
        have hfind := (Entries.find?_eq_some_iff distinct).2 hmem
        refine ⟨List.cons_ne_nil _ _, by rw [nodeIn_singleton, hfind], by simp, ?_⟩
        intro hdirectory last hlast
        cases hlast
        rw [hdirectory, Bool.true_and] at hskip
        exact hskip
      | @inside _ inner name top loc _ hmem hskip hinner =>
        have hfind := (Entries.find?_eq_some_iff distinct).2 hmem
        obtain ⟨hne, hnode, hdirs, hlast⟩ := (ih name top inner hmem top).1 hinner
        refine ⟨List.cons_ne_nil _ _, ?_, ?_, ?_⟩
        · rw [Disk.nodeIn, hfind]
          exact hnode
        · rw [List.dropLast_cons_of_ne_nil hne, List.forall_mem_cons]
          exact ⟨hskip, hdirs⟩
        · intro hdirectory last hget
          rw [List.getLast?_cons_of_ne_nil hne] at hget
          exact hlast hdirectory last hget
    · rintro ⟨hne, hnode, hdirs, hlast⟩
      obtain ⟨name, rest, rfl⟩ := List.exists_cons_of_ne_nil hne
      by_cases hrest : rest = []
      · subst hrest
        rw [nodeIn_singleton] at hnode
        refine .entry ((Entries.find?_eq_some_iff distinct).1 hnode) ?_
        rw [Bool.and_eq_false_imp]
        exact fun hdirectory => hlast hdirectory name rfl
      · rw [List.dropLast_cons_of_ne_nil hrest, List.forall_mem_cons] at hdirs
        rw [List.getLast?_cons_of_ne_nil hrest] at hlast
        rw [Disk.nodeIn] at hnode
        split at hnode
        case h_1 top inner hfind =>
          have hmem := (Entries.find?_eq_some_iff distinct).1 hfind
          exact .inside hmem hdirs.1 ((ih name top inner hmem top).2 ⟨hrest, hnode, hdirs.2, hlast⟩)
        case h_2 =>
          rw [List.isEmpty_eq_false_iff.2 hrest] at hnode
          cases hnode
        case h_3 => cases hnode

/-! ## Walks -/

/-- What a walk from a path finds at a location. -/
def Found.at (p : Pathname) (site : Location × Node) : Found :=
  ⟨p.at site.1, site.1.getLastD "", site.2⟩

@[simp] theorem Found.name_at (p : Pathname) (site : Location × Node) :
    (Found.at p site).name = site.1.getLastD "" := rfl

/-- What is found is all that a walk comes to, once each, and in order. -/
def IsWalk (skip : String → Bool) (p : Pathname) (entries : Entries) (found : List Found) : Prop :=
  ∃ sites : List (Location × Node), found = sites.map (Found.at p) ∧
    sites.Pairwise (fun a b => Location.Before a.1 b.1) ∧
    ∀ loc node, (loc, node) ∈ sites ↔ Visits skip entries loc node

theorem IsWalk.congr {others : Entries} {found : List Found} (h : IsWalk skip p entries found)
    (hsame : ∀ entry, entry ∈ entries ↔ entry ∈ others) : IsWalk skip p others found := by
  obtain ⟨sites, hfound, horder, hsites⟩ := h
  refine ⟨sites, hfound, horder, fun loc node => (hsites loc node).trans ⟨?_, ?_⟩⟩
  · exact fun hvisits => hvisits.mono fun entry => (hsame entry).1
  · exact fun hvisits => hvisits.mono fun entry => (hsame entry).2

/-- What a walk finds at and below an entry. -/
def Found.under (skip : String → Bool) (p : Pathname) (entry : String × Node) : List Found :=
  if entry.2.isDirectory && skip entry.1 then []
  else ⟨p.join ⟨entry.1⟩, entry.1, entry.2⟩
    :: Node.descendants skip (p.join ⟨entry.1⟩) entry.2

theorem descendantsOfEach_eq (skip : String → Bool) (p : Pathname) (entries : Entries) :
    Node.descendantsOfEach skip p entries
      = entries.map fun entry => (entry.1, Found.under skip p entry) := by
  induction entries with
  | nil => rfl
  | cons entry rest ih =>
    obtain ⟨name, node⟩ := entry
    rw [Node.descendantsOfEach, ih]
    rfl

/-- The entries of a directory in the order of a walk. -/
def Entries.inOrder (entries : Entries) : Entries :=
  entries.mergeSort fun a b => (compare a.1 b.1).isLE

theorem descendants_directory (skip : String → Bool) (p : Pathname) (facts : Facts)
    (entries : Entries) :
    Node.descendants skip p (.directory facts entries)
      = entries.inOrder.flatMap (Found.under skip p) := by
  rw [Node.descendants, descendantsOfEach_eq, Found.inOrder, Entries.inOrder,
    ← List.map_mergeSort (r := fun a b => (compare a.1 b.1).isLE) fun _ _ _ _ => rfl,
    List.flatMap_map]

/-- No two entries have the same name, so the order is strict. -/
theorem pairwise_inOrder (h : entries.names.Nodup) :
    entries.inOrder.Pairwise fun a b => bytesOf a.1 < bytesOf b.1 := by
  have hsorted : entries.inOrder.Pairwise fun a b => a.1 ≤ b.1 :=
    pairwise_mergeSort_compare Prod.fst entries
  have hdistinct : entries.inOrder.Pairwise fun a b => a.1 ≠ b.1 := by
    have hperm : entries.inOrder.names.Perm entries.names :=
      (List.mergeSort_perm entries _).map Prod.fst
    exact List.pairwise_map.1 (hperm.nodup_iff.2 h)
  refine (hsorted.and hdistinct).imp ?_
  rintro a b ⟨hle, hne⟩
  exact lt_iff_bytesOf_lt.1 (lt_of_le_of_ne hle hne)

theorem Visits.exists_head (h : Visits skip entries loc node) :
    ∃ entry ∈ entries, ∃ rest, loc = entry.1 :: rest := by
  cases h with
  | entry hmem hskip => exact ⟨_, hmem, [], rfl⟩
  | inside hmem hskip hinner => exact ⟨_, hmem, _, rfl⟩

theorem visits_cons {entry : String × Node} {rest : Entries} :
    Visits skip (entry :: rest) loc node ↔
      Visits skip [entry] loc node ∨ Visits skip rest loc node := by
  constructor
  · rintro (⟨hmem, hskip⟩ | ⟨hmem, hskip, hinner⟩)
    · rcases List.mem_cons.1 hmem with rfl | hrest
      · exact .inl (.entry List.mem_cons_self hskip)
      · exact .inr (.entry hrest hskip)
    · rcases List.mem_cons.1 hmem with rfl | hrest
      · exact .inl (.inside List.mem_cons_self hskip hinner)
      · exact .inr (.inside hrest hskip hinner)
  · rintro (hfirst | hrest)
    · exact hfirst.mono (by simp)
    · exact hrest.mono fun _ => List.mem_cons_of_mem _

theorem isWalk_cons {entry : String × Node} {rest : Entries} {first others : List Found}
    (hfirst : IsWalk skip p [entry] first) (hothers : IsWalk skip p rest others)
    (hlt : ∀ other ∈ rest, bytesOf entry.1 < bytesOf other.1) :
    IsWalk skip p (entry :: rest) (first ++ others) := by
  obtain ⟨here, rfl, hhere, hin⟩ := hfirst
  obtain ⟨there, rfl, hthere, hout⟩ := hothers
  refine ⟨here ++ there, List.map_append.symm, List.pairwise_append.2 ⟨hhere, hthere, ?_⟩, ?_⟩
  · rintro ⟨loc, node⟩ hsite ⟨other, last⟩ hother
    obtain ⟨a, ha, tail, rfl⟩ := ((hin loc node).1 hsite).exists_head
    obtain ⟨b, hb, rear, rfl⟩ := ((hout other last).1 hother).exists_head
    rw [List.mem_singleton.1 ha]
    exact .rel (hlt b hb)
  · intro loc node
    rw [List.mem_append, hin, hout]
    exact visits_cons.symm

/-- A directory with a name that is passed over is not come to, and nothing in it is. -/
theorem isWalk_skipped (hskip : (node.isDirectory && skip name) = true) :
    IsWalk skip p [(name, node)] [] := by
  refine ⟨[], rfl, .nil, fun loc last => ⟨nofun, ?_⟩⟩
  rintro (⟨hmem, hout⟩ | ⟨hmem, hout, -⟩)
  · cases List.mem_singleton.1 hmem
    rw [hskip] at hout
    cases hout
  · cases List.mem_singleton.1 hmem
    rw [hout] at hskip
    cases hskip

/-- Nothing is below anything but a directory. -/
theorem isWalk_leaf (hleaf : node.isDirectory = false) :
    IsWalk skip p [(name, node)] [⟨p.join ⟨name⟩, name, node⟩] := by
  refine ⟨[([name], node)], rfl, List.pairwise_singleton _ _, fun loc last => ?_⟩
  rw [List.mem_singleton]
  constructor
  · intro heq
    cases heq
    exact .entry List.mem_cons_self (by rw [hleaf, Bool.false_and])
  · rintro (⟨hmem, -⟩ | ⟨hmem, -, -⟩)
    · cases List.mem_singleton.1 hmem
      rfl
    · cases List.mem_singleton.1 hmem
      cases hleaf

/-- A directory is come to right before what is in it. -/
theorem isWalk_directory {inner : Entries} {found : List Found} (hname : skip name = false)
    (h : IsWalk skip (p.join ⟨name⟩) inner found) :
    IsWalk skip p [(name, .directory facts inner)]
      (⟨p.join ⟨name⟩, name, .directory facts inner⟩ :: found) := by
  obtain ⟨sites, rfl, horder, hsites⟩ := h
  have hfilled (site : Location × Node) (hsite : site ∈ sites) : site.1 ≠ [] :=
    ((hsites site.1 site.2).1 hsite).ne_nil
  refine ⟨([name], .directory facts inner) :: sites.map fun site => (name :: site.1, site.2),
    ?_, List.pairwise_cons.2 ⟨?_, ?_⟩, fun loc last => ?_⟩
  · rw [List.map_cons, List.map_map]
    refine congrArg₂ List.cons rfl (List.map_congr_left ?_)
    rintro ⟨loc, last⟩ hsite
    obtain ⟨first, rest, rfl⟩ := List.exists_cons_of_ne_nil (hfilled _ hsite)
    rfl
  · intro site hsite
    obtain ⟨⟨loc, last⟩, hmem, rfl⟩ := List.mem_map.1 hsite
    obtain ⟨first, rest, rfl⟩ := List.exists_cons_of_ne_nil (hfilled _ hmem)
    exact .cons .nil
  · exact List.pairwise_map.2 (horder.imp fun hbefore => .cons hbefore)
  · rw [List.mem_cons, List.mem_map]
    constructor
    · rintro (heq | ⟨⟨below, found⟩, hsite, heq⟩)
      · cases heq
        exact .entry List.mem_cons_self (by rw [hname, Bool.and_false])
      · cases heq
        exact .inside List.mem_cons_self hname ((hsites below found).1 hsite)
    · rintro (⟨hmem, -⟩ | ⟨hmem, -, hinner⟩)
      · cases List.mem_singleton.1 hmem
        exact .inl rfl
      · cases List.mem_singleton.1 hmem
        exact .inr ⟨(_, last), (hsites _ _).2 hinner, rfl⟩

theorem isWalk_entry {entry : String × Node}
    (h : ∀ facts inner, entry.2 = .directory facts inner →
      IsWalk skip (p.join ⟨entry.1⟩) inner (Node.descendants skip (p.join ⟨entry.1⟩) entry.2)) :
    IsWalk skip p [entry] (Found.under skip p entry) := by
  obtain ⟨name, node⟩ := entry
  unfold Found.under
  by_cases hskip : (node.isDirectory && skip name) = true
  · rw [if_pos hskip]
    exact isWalk_skipped hskip
  rw [if_neg hskip]
  rw [Bool.not_eq_true] at hskip
  cases node with
  | directory facts inner =>
    rw [Node.isDirectory, Bool.true_and] at hskip
    exact isWalk_directory hskip (h facts inner rfl)
  | _ =>
    rw [Node.descendants]
    · exact isWalk_leaf rfl
    · simp

/-- A walk through a directory finds all that it comes to. -/
theorem isWalk_descendants (hproper : entries.IsProper) (p : Pathname) (facts : Facts) :
    IsWalk skip p entries (Node.descendants skip p (.directory facts entries)) := by
  induction hproper generalizing p facts with
  | @of entries distinct named below ih =>
    have hmem (entry : String × Node) : entry ∈ entries.inOrder ↔ entry ∈ entries :=
      List.mem_mergeSort
    suffices hsorted : IsWalk skip p entries.inOrder (Node.descendants skip p _) from
      hsorted.congr hmem
    rw [descendants_directory]
    have horder := pairwise_inOrder distinct
    have hunder : ∀ entry ∈ entries.inOrder,
        IsWalk skip p [entry] (Found.under skip p entry) := by
      intro entry hentry
      refine isWalk_entry fun top inner hnode => ?_
      rw [hnode]
      exact ih entry.1 top inner (hnode ▸ (hmem entry).1 hentry) _ top
    -- One entry after the other, in order.
    generalize entries.inOrder = sorted at horder hunder
    induction sorted with
    | nil => exact ⟨[], rfl, .nil, fun loc node => ⟨nofun, fun h => by cases h <;> contradiction⟩⟩
    | cons entry rest ihrest =>
      obtain ⟨hlt, hrest⟩ := List.pairwise_cons.1 horder
      rw [List.flatMap_cons]
      exact isWalk_cons (hunder entry List.mem_cons_self)
        (ihrest hrest fun other hother => hunder other (List.mem_cons_of_mem _ hother)) hlt

end Walking

/-! ## What is below a directory -/

namespace World

variable {w : World} {p : Pathname}

/-- The path of a location does not return. -/
theorem neverReturns_pathOf {loc : Location} (hloc : ∀ name ∈ loc, Pathname.IsEntry name) :
    (pathOf loc).NeverReturns := by
  refine Pathname.neverReturns_of_not_mem fun hascend => ?_
  have hspelling : (pathOf loc).spelling.toList
      = '/' :: List.intercalate ['/'] (loc.map String.toList) := by
    rw [pathOf, String.toList_append, String.toList_intercalate]
    rfl
  rw [Pathname.steps_route, hspelling, ← List.nil_append ('/' :: _),
    Pathname.pieces_append_separator, List.filterMap_append, List.mem_append] at hascend
  rcases hascend with hroot | hrest
  · cases hroot
  cases loc with
  | nil => cases hrest
  | cons first rest =>
    rw [Pathname.pieces_intercalate (by simp) (Pathname.single_of_isEntry hloc),
      List.mem_filterMap] at hrest
    obtain ⟨piece, hpiece, hstep⟩ := hrest
    obtain ⟨name, hname, rfl⟩ := List.mem_map.1 hpiece
    rw [(hloc name hname).step?] at hstep
    cases hstep

/-- Below the directory that a path leads to, there is a node at a location. -/
def HasBelow (w : World) (p : Pathname) (loc : Location) (node : Node) : Prop :=
  ∃ facts entries, w.stat p = .ok (.directory facts entries) ∧ loc ≠ [] ∧
    Disk.nodeIn facts entries loc = some node

/-- What is in the directory that a path leads to is as a file system has it. -/
def IsProperAt (w : World) (p : Pathname) : Prop :=
  ∀ facts entries, w.stat p = .ok (.directory facts entries) → Entries.IsProper entries

/-- A walk that passes over nothing comes to all that is below a directory. -/
theorem exists_sites (h : w.IsProperAt p) : ∃ sites : List (Location × Node),
    w.walk (fun _ => false) p = sites.map (Found.at p) ∧ (sites.map Prod.fst).Nodup ∧
      (∀ site ∈ sites, ∀ name ∈ site.1, Pathname.IsEntry name) ∧
      ∀ loc node, (loc, node) ∈ sites ↔ w.HasBelow p loc node := by
  by_cases hdirectory : ∃ facts entries, w.stat p = .ok (.directory facts entries)
  · obtain ⟨facts, entries, hstat⟩ := hdirectory
    have hproper := h facts entries hstat
    obtain ⟨sites, hfound, horder, hsites⟩ : IsWalk (fun _ => false) p entries _ :=
      isWalk_descendants hproper p facts
    refine ⟨sites, by simpa only [walk, hstat] using hfound, ?_, ?_, fun loc node => ?_⟩
    · refine List.pairwise_map.2 (horder.imp fun {a b} hbefore heq => ?_)
      rw [heq] at hbefore
      exact Location.not_before_self _ hbefore
    · intro site hsite
      exact ((hsites site.1 site.2).1 hsite).isEntry hproper
    · rw [hsites, visits_iff hproper facts]
      constructor
      · rintro ⟨hne, hnode, -⟩
        exact ⟨facts, entries, hstat, hne, hnode⟩
      · rintro ⟨facts', entries', hstat', hne, hnode⟩
        rw [hstat] at hstat'
        cases hstat'
        exact ⟨hne, hnode, fun _ _ => rfl, fun _ _ _ => rfl⟩
  · refine ⟨[], ?_, .nil, nofun, fun loc node => ⟨nofun, ?_⟩⟩
    · unfold walk
      split
      · rename_i node hstat
        cases node with
        | directory facts entries => exact absurd ⟨facts, entries, hstat⟩ hdirectory
        | _ => rfl
      · rfl
    · rintro ⟨facts, entries, hstat, -⟩
      exact absurd ⟨facts, entries, hstat⟩ hdirectory

end World
end SuiteCoverage
