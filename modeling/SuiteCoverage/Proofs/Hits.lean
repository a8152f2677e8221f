import Mathlib
import SuiteCoverage.Hits
import SuiteCoverage.Proofs.Ordered

/-!
# What counts add up to

Counts are merged twice, line by line within a file and file by file within a table. Both times
the outcome is told by what was put in: a line of the sum has a count if some summand has one, and
then it is the sum of those (`get?_foldl_sum`); a table has an entry for a path if some file with
that path was added, under the first spelling and with all counts of those files
(`held?_foldl_add`).
-/

set_option autoImplicit false

namespace SuiteCoverage

/-! ## Lines -/

namespace LineCounts

theorem get?_eq_some_iff {counts : LineCounts} {n : LineNumber} {count : Nat} :
    OrderedMap.get? counts n = some count ↔ (n, count) ∈ counts.entries := by
  rw [OrderedMap.mem_entries_iff, OrderedMap.get?_eq, Option.map_eq_some_iff]
  constructor
  · rintro ⟨⟨k, c⟩, hfind, rfl⟩
    have hk : compare n k = .eq := by simpa using List.find?_some hfind
    rw [Std.LawfulEqCmp.compare_eq_iff_eq.1 hk] at hfind ⊢
    exact hfind
  · exact fun h => ⟨_, h, rfl⟩

theorem get?_add (n k : LineNumber) (count : Nat) (counts : LineCounts) :
    OrderedMap.get? (counts.add k count) n
      = if n = k then (OrderedMap.get? counts n).merge (· + ·) (some count)
        else OrderedMap.get? counts n := by
  rw [OrderedMap.get?_eq, add, OrderedMap.held?_upsert]
  by_cases hn : n = k
  · subst hn
    rw [if_pos (Std.ReflCmp.compare_self), if_pos rfl, OrderedMap.get?_eq]
    cases counts.held? n with
    | none => rfl
    | some e => rfl
  · rw [if_neg (fun h => hn (Std.LawfulEqCmp.compare_eq_iff_eq.1 h)), if_neg hn, OrderedMap.get?_eq]

/-- Adding up along a list of entries without a line twice. -/
theorem get?_foldl_add (n : LineNumber) {entries : List (LineNumber × Nat)}
    (h : entries.Pairwise fun a b => compare a.1 b.1 = .lt) (counts : LineCounts) :
    OrderedMap.get? (entries.foldl (fun (sum : LineCounts) e => sum.add e.1 e.2) counts) n
      = (OrderedMap.get? counts n).merge (· + ·)
          ((entries.find? fun e => compare n e.1 == .eq).map (·.2)) := by
  induction entries generalizing counts with
  | nil => simp
  | cons head rest ih =>
    obtain ⟨k, count⟩ := head
    obtain ⟨hhead, hrest⟩ := List.pairwise_cons.1 h
    rw [List.foldl_cons, ih hrest, get?_add]
    by_cases hn : n = k
    · subst hn
      rw [if_pos rfl, OrderedMap.find?_eq_none_of_lt hhead,
        List.find?_cons_of_pos (by simp)]
      simp
    · rw [if_neg hn, List.find?_cons_of_neg (by simpa using hn)]

theorem get?_sum (n : LineNumber) (a b : LineCounts) :
    OrderedMap.get? (a.sum b) n
      = (OrderedMap.get? a n).merge (· + ·) (OrderedMap.get? b n) :=
  get?_foldl_add n b.ascending a

/-- The count of a line in a sum: the sum of its counts, if there are any. -/
theorem get?_foldl_sum (n : LineNumber) (summands : List LineCounts) (counts : LineCounts) :
    OrderedMap.get? (summands.foldl sum counts) n
      = (summands.filterMap fun summand => OrderedMap.get? summand n).foldl
          (fun total count => total.merge (· + ·) (some count)) (OrderedMap.get? counts n) := by
  induction summands generalizing counts with
  | nil => rfl
  | cons summand rest ih =>
    rw [List.foldl_cons, ih, get?_sum]
    cases hcount : OrderedMap.get? summand n with
    | none => rw [List.filterMap_cons, hcount, Option.merge_none_right]
    | some count => rw [List.filterMap_cons, hcount, List.foldl_cons]

end LineCounts

/-- Merging counts into one is adding them up, unless there are none. -/
theorem foldl_merge_add (counts : List Nat) (total : Option Nat) :
    counts.foldl (fun total count => total.merge (· + ·) (some count)) total
      = if total.isNone && counts.isEmpty then none else some (total.getD 0 + counts.sum) := by
  induction counts generalizing total with
  | nil =>
    cases total with
    | none => rfl
    | some t => simp
  | cons count rest ih =>
    rw [List.foldl_cons, ih]
    cases total with
    | none => simp
    | some t => simp [Nat.add_assoc]

/-! ## Files -/

namespace HitTable

/-- The counts that files give for a line of one of them. -/
def countsAt (files : List FileHits) (p : Pathname) (n : LineNumber) : List Nat :=
  (files.filter fun file => file.path.same p).filterMap fun file => OrderedMap.get? file.lines n

theorem order_eq_iff_same {p q : Pathname} : Pathname.order p q = .eq ↔ q.same p = true := by
  rw [Pathname.order_eq_iff, Pathname.same_iff, eq_comm]

/-- What an entry becomes when a file is added to it. -/
def absorb (entry : Option (Pathname × LineCounts)) (file : FileHits) :
    Option (Pathname × LineCounts) :=
  some (entry.elim (file.path, file.lines) fun e => (e.1, e.2.sum file.lines))

/-- The entry that files leave for a path. Its spelling is that of the first of them. -/
theorem held?_foldl_add (files : List FileHits) (table : HitTable) (p : Pathname) :
    OrderedMap.held? (files.foldl (fun table file => add file.path file.lines table) table) p
      = (files.filter fun file => file.path.same p).foldl absorb
          (OrderedMap.held? table p) := by
  induction files generalizing table with
  | nil => rfl
  | cons file rest ih =>
    -- A file with another path leaves the entry alone.
    rw [List.foldl_cons, ih, add, OrderedMap.held?_upsert]
    by_cases hsame : file.path.same p = true
    · have horder := order_eq_iff_same.2 hsame
      rw [List.filter_cons, if_pos hsame, List.foldl_cons, if_pos horder,
        OrderedMap.held?_congr horder]
      rfl
    · rw [List.filter_cons, if_neg hsame, if_neg (fun h => hsame (order_eq_iff_same.1 h))]

theorem foldl_absorb (files : List FileHits) (entry : Pathname × LineCounts) :
    files.foldl absorb (some entry)
      = some (entry.1, (files.map (·.lines)).foldl LineCounts.sum entry.2) := by
  induction files generalizing entry with
  | nil => rfl
  | cons file rest ih =>
    rw [List.foldl_cons, List.map_cons, List.foldl_cons]
    exact ih (entry.1, entry.2.sum file.lines)

/-- The table that files make. -/
def ofFiles (files : List FileHits) : HitTable :=
  files.foldl (fun table file => add file.path file.lines table) OrderedMap.empty

/-- The entries of the table are told by the files: the path is spelled as the first of the files
    spells it, and a line has the sum of all its counts. -/
theorem held?_ofFiles_eq_some {files : List FileHits} {p : Pathname}
    {e : Pathname × LineCounts} (h : (ofFiles files).held? p = some e) :
    ((files.find? fun file => file.path.same p).map (·.path) = some e.1) ∧
      ∀ n, OrderedMap.get? e.2 n
        = if (countsAt files p n).isEmpty then none else some (countsAt files p n).sum := by
  rw [ofFiles, held?_foldl_add, OrderedMap.held?_empty] at h
  unfold countsAt
  rw [← List.head?_filter]
  cases hfiles : files.filter fun file => file.path.same p with
  | nil =>
    rw [hfiles] at h
    cases h
  | cons first rest =>
    rw [hfiles, List.foldl_cons] at h
    obtain rfl := Option.some.inj (h.symm.trans (foldl_absorb rest _))
    refine ⟨rfl, fun n => ?_⟩
    show OrderedMap.get? ((rest.map (·.lines)).foldl LineCounts.sum first.lines) n = _
    rw [LineCounts.get?_foldl_sum, foldl_merge_add, List.filterMap_map, List.filterMap_cons]
    cases hcount : OrderedMap.get? first.lines n with
    | none => simp
    | some count => simp

theorem isSome_held?_ofFiles {files : List FileHits} {p : Pathname} :
    ((ofFiles files).held? p).isSome ↔ ∃ file ∈ files, file.path.same p = true := by
  rw [ofFiles, held?_foldl_add, OrderedMap.held?_empty]
  cases hfiles : files.filter fun file => file.path.same p with
  | nil => simpa using hfiles
  | cons first rest =>
    rw [List.foldl_cons]
    have hfirst : first ∈ files.filter fun file => file.path.same p := by simp [hfiles]
    rw [List.mem_filter] at hfirst
    refine ⟨fun _ => ⟨first, hfirst⟩, fun _ => ?_⟩
    rw [absorb, foldl_absorb]
    rfl

end HitTable
end SuiteCoverage

/-!
## The same counts in other lists

Counts may come in one list or in several, in this order or in that, some of them added up before
the others. `SameCounts` says of two lists of files that none of this tells them apart: they have
the same paths, and for every line of a path counts of the same sum, or none. It is kept by putting
lists together, by reordering them, by leaving out the paths that are out of scope, and by adding a
list up in a table and listing that (`sameCounts_files`). Tables of lists with the same counts have
the same entries, up to the spelling of paths (`SameCounts.entries`).
-/

namespace SuiteCoverage

deriving instance DecidableEq for FileHits

/-- No line is in a set twice. -/
theorem LineSet.nodup (s : LineSet) : s.lines.Nodup :=
  s.ascending.imp fun hlt => UInt32.ne_of_lt hlt

/-- Sets with the same lines are the same. -/
theorem LineSet.ext_mem {s t : LineSet} (h : ∀ n, n ∈ s ↔ n ∈ t) : s = t := by
  have hperm : s.lines.Perm t.lines := (List.perm_ext_iff_of_nodup s.nodup t.nodup).2 h
  obtain ⟨lines, hlines⟩ := s
  obtain ⟨others, hothers⟩ := t
  have hsame : lines = others :=
    hperm.eq_of_pairwise (fun a b _ _ hab hba => absurd hba (UInt32.lt_asymm hab)) hlines hothers
  subst hsame
  rfl

namespace LineCounts

theorem held?_eq (counts : LineCounts) (n : LineNumber) :
    OrderedMap.held? counts n = (OrderedMap.get? counts n).map (n, ·) := by
  rw [OrderedMap.get?_eq]
  cases hheld : OrderedMap.held? counts n with
  | none => rfl
  | some e =>
    have hn : compare n e.1 = .eq := by simpa using List.find?_some hheld
    rw [Std.LawfulEqCmp.compare_eq_iff_eq.1 hn]
    rfl

/-- Counts are told by the count of every line. -/
theorem ext_get? {a b : LineCounts} (h : ∀ n, OrderedMap.get? a n = OrderedMap.get? b n) :
    a = b := by
  refine OrderedMap.ext_entries (List.forall₂_eq_eq_eq ▸ OrderedMap.forall₂_entries fun n => ?_)
  rw [held?_eq, held?_eq, h]
  cases OrderedMap.get? b n with
  | none => exact .none
  | some count => exact .some rfl

end LineCounts

namespace HitTable

/-! ## Counts of a line -/

theorem countsAt_append (files other : List FileHits) (p : Pathname) (n : LineNumber) :
    countsAt (files ++ other) p n = countsAt files p n ++ countsAt other p n := by
  rw [countsAt, List.filter_append, List.filterMap_append, countsAt, countsAt]

/-- A file without counts has none for any line. -/
theorem countsAt_bare (path p : Pathname) (n : LineNumber) :
    countsAt [⟨path, OrderedMap.empty⟩] p n = [] := by
  rw [countsAt, List.filterMap_eq_nil_iff]
  intro file hfile
  rw [List.mem_singleton.1 (List.mem_filter.1 hfile).1]
  rfl

/-- The counts of a file with one line. -/
theorem countsAt_single {path p : Pathname} {n k : LineNumber} {count : Nat} :
    countsAt [⟨path, LineCounts.add n count OrderedMap.empty⟩] p k
      = if path.same p = true ∧ k = n then [count] else [] := by
  have hget : OrderedMap.get? (LineCounts.add n count OrderedMap.empty) k
      = if k = n then some count else none := by
    rw [LineCounts.get?_add]
    rfl
  unfold countsAt
  by_cases hsame : path.same p = true
  · by_cases hk : k = n
    · rw [if_pos hk] at hget
      rw [if_pos ⟨hsame, hk⟩]
      simp [hsame, hget]
    · rw [if_neg hk] at hget
      simp [hsame, hget, hk]
  · simp [hsame]

theorem countsAt_filter {keep : Pathname → Bool} (hkeep : ∀ p q, p.same q = true → keep p = keep q)
    (files : List FileHits) (p : Pathname) (n : LineNumber) :
    countsAt (files.filter fun file => keep file.path) p n
      = if keep p = true then countsAt files p n else [] := by
  unfold countsAt
  rw [List.filter_filter]
  split
  · rename_i hp
    congr 1
    refine List.filter_congr fun file _ => ?_
    cases hsame : file.path.same p with
    | false => rfl
    | true => rw [hkeep file.path p hsame, hp, Bool.and_self]
  · rename_i hp
    rw [List.filterMap_eq_nil_iff]
    intro file hfile
    obtain ⟨-, hboth⟩ := List.mem_filter.1 hfile
    rw [Bool.and_eq_true] at hboth
    exact absurd (hkeep file.path p hboth.1 ▸ hboth.2) hp

/-! ## Lists with the same counts -/

/-- Two lists of files have the same paths, and the same sums of counts. -/
structure SameCounts (files other : List FileHits) : Prop where
  listed : ∀ p, (∃ file ∈ files, file.path.same p = true) ↔
    ∃ file ∈ other, file.path.same p = true
  recorded : ∀ p n, countsAt files p n = [] ↔ countsAt other p n = []
  counted : ∀ p n, (countsAt files p n).sum = (countsAt other p n).sum

namespace SameCounts

variable {files other more further : List FileHits}

theorem refl (files : List FileHits) : SameCounts files files :=
  ⟨fun _ => Iff.rfl, fun _ _ => Iff.rfl, fun _ _ => rfl⟩

theorem symm (h : SameCounts files other) : SameCounts other files :=
  ⟨fun p => (h.listed p).symm, fun p n => (h.recorded p n).symm, fun p n => (h.counted p n).symm⟩

theorem trans (h : SameCounts files other) (hmore : SameCounts other more) :
    SameCounts files more :=
  ⟨fun p => (h.listed p).trans (hmore.listed p),
    fun p n => (h.recorded p n).trans (hmore.recorded p n),
    fun p n => (h.counted p n).trans (hmore.counted p n)⟩

/-- Lists put together. -/
theorem append (h : SameCounts files other) (hmore : SameCounts more further) :
    SameCounts (files ++ more) (other ++ further) := by
  constructor
  · intro p
    simp only [List.mem_append, or_and_right, exists_or, h.listed p, hmore.listed p]
  · intro p n
    rw [countsAt_append, countsAt_append, List.append_eq_nil_iff, List.append_eq_nil_iff,
      h.recorded p n, hmore.recorded p n]
  · intro p n
    rw [countsAt_append, countsAt_append, List.sum_append, List.sum_append, h.counted p n,
      hmore.counted p n]

/-- A list in another order. -/
theorem ofPerm (h : files.Perm other) : SameCounts files other := by
  have hcounts (p : Pathname) (n : LineNumber) : (countsAt files p n).Perm (countsAt other p n) :=
    (h.filter _).filterMap _
  constructor
  · intro p
    simp only [h.mem_iff]
  · intro p n
    rw [← List.length_eq_zero_iff, (hcounts p n).length_eq, List.length_eq_zero_iff]
  · intro p n
    exact (hcounts p n).sum_eq

/-- Lists without some of the paths, in whatever spelling these are. -/
theorem filter (h : SameCounts files other) {keep : Pathname → Bool}
    (hkeep : ∀ p q, p.same q = true → keep p = keep q) :
    SameCounts (files.filter fun file => keep file.path)
      (other.filter fun file => keep file.path) := by
  have hlisted (list : List FileHits) (p : Pathname) :
      (∃ file ∈ list.filter fun file => keep file.path, file.path.same p = true) ↔
        keep p = true ∧ ∃ file ∈ list, file.path.same p = true := by
    constructor
    · rintro ⟨file, hfile, hsame⟩
      obtain ⟨hmem, hkept⟩ := List.mem_filter.1 hfile
      exact ⟨hkeep file.path p hsame ▸ hkept, file, hmem, hsame⟩
    · rintro ⟨hkept, file, hmem, hsame⟩
      exact ⟨file, List.mem_filter.2 ⟨hmem, (hkeep file.path p hsame).trans hkept⟩, hsame⟩
  constructor
  · intro p
    rw [hlisted, hlisted, h.listed p]
  · intro p n
    rw [countsAt_filter hkeep, countsAt_filter hkeep]
    split
    · exact h.recorded p n
    · rfl
  · intro p n
    rw [countsAt_filter hkeep, countsAt_filter hkeep]
    split
    · exact h.counted p n
    · rfl

end SameCounts

/-! ## Tables of the same counts -/

/-- What a table holds for a path, as a list of files. -/
theorem filter_files (table : HitTable) (p : Pathname) :
    table.files.filter (fun file => file.path.same p)
      = (OrderedMap.held? table p).toList.map fun e => ⟨e.1, e.2⟩ := by
  have hsame (e : Pathname × LineCounts) :
      e.1.same p = (Pathname.order p e.1 == .eq) := by
    rw [Bool.eq_iff_iff, beq_iff_eq, order_eq_iff_same]
  rw [files, List.filter_map, OrderedMap.held?, ← OrderedMap.filter_eq_toList_find? table.ascending]
  congr 1
  exact List.filter_congr fun e _ => hsame e

theorem held?_ofFiles_eq_none {files : List FileHits} {p : Pathname} :
    (ofFiles files).held? p = none ↔ ∀ file ∈ files, ¬ file.path.same p = true := by
  rw [← Option.not_isSome_iff_eq_none, isSome_held?_ofFiles]
  simp

/-- A table spells a path as the first of the files does. -/
theorem map_held?_ofFiles (files : List FileHits) (p : Pathname) :
    ((ofFiles files).held? p).map (·.1)
      = (files.find? fun file => file.path.same p).map (·.path) := by
  cases hheld : (ofFiles files).held? p with
  | none => rw [List.find?_eq_none.2 (held?_ofFiles_eq_none.1 hheld)]; rfl
  | some e => exact (held?_ofFiles_eq_some hheld).1.symm

theorem countsAt_eq_nil {files : List FileHits} {p : Pathname}
    (h : ∀ file ∈ files, ¬ file.path.same p = true) (n : LineNumber) : countsAt files p n = [] := by
  rw [countsAt, List.filter_eq_nil_iff.2 h, List.filterMap_nil]

/-- Adding up changes nothing about the counts. -/
theorem sameCounts_files (list : List FileHits) : SameCounts (ofFiles list).files list := by
  have hlisted (p : Pathname) : (∃ file ∈ (ofFiles list).files, file.path.same p = true) ↔
      ∃ file ∈ list, file.path.same p = true := by
    refine Iff.trans ?_ isSome_held?_ofFiles
    constructor
    · rintro ⟨file, hfile, hsame⟩
      have hmem : file ∈ (ofFiles list).files.filter fun file => file.path.same p :=
        List.mem_filter.2 ⟨hfile, hsame⟩
      rw [filter_files] at hmem
      cases hheld : (ofFiles list).held? p with
      | none =>
        rw [hheld] at hmem
        cases hmem
      | some e => rfl
    · intro hsome
      obtain ⟨e, he⟩ := Option.isSome_iff_exists.1 hsome
      have hmem : (⟨e.1, e.2⟩ : FileHits) ∈
          (ofFiles list).files.filter fun file => file.path.same p := by
        rw [filter_files, he]
        exact List.mem_singleton.2 rfl
      exact ⟨⟨e.1, e.2⟩, List.mem_filter.1 hmem⟩
  -- What is left of the counts of a line is their sum.
  have hcounts (p : Pathname) (n : LineNumber) : countsAt (ofFiles list).files p n
      = if (countsAt list p n).isEmpty then [] else [(countsAt list p n).sum] := by
    rw [countsAt, filter_files]
    cases hheld : (ofFiles list).held? p with
    | none =>
      rw [countsAt_eq_nil (held?_ofFiles_eq_none.1 hheld)]
      rfl
    | some e =>
      have hcount := (held?_ofFiles_eq_some hheld).2 n
      simp only [Option.toList_some, List.map_cons, List.map_nil, List.filterMap_cons,
        List.filterMap_nil, hcount]
      split <;> simp_all
  constructor
  · exact hlisted
  · intro p n
    rw [hcounts]
    cases countsAt list p n <;> simp
  · intro p n
    rw [hcounts]
    cases countsAt list p n <;> simp

/-- The entries of tables of the same counts are for the same paths and have the same counts. -/
theorem SameCounts.entries {files other : List FileHits} (h : SameCounts files other) :
    List.Forall₂ (fun a b => a.1.same b.1 = true ∧ a.2 = b.2) (ofFiles files).entries
      (ofFiles other).entries := by
  refine OrderedMap.forall₂_entries fun p => ?_
  cases hheld : (ofFiles files).held? p with
  | none =>
    have hnone : (ofFiles other).held? p = none := by
      rw [held?_ofFiles_eq_none] at hheld ⊢
      intro file hfile hsame
      obtain ⟨first, hfirst, hp⟩ := (h.listed p).2 ⟨file, hfile, hsame⟩
      exact hheld first hfirst hp
    rw [hnone]
    exact .none
  | some e =>
    have hsome : ((ofFiles other).held? p).isSome := by
      rw [isSome_held?_ofFiles, ← h.listed p, ← isSome_held?_ofFiles, hheld]
      rfl
    obtain ⟨e', he'⟩ := Option.isSome_iff_exists.1 hsome
    rw [he']
    refine .some ⟨?_, LineCounts.ext_get? fun n => ?_⟩
    · have hp : e.1.same p = true :=
        order_eq_iff_same.1 (by simpa using List.find?_some hheld)
      have hp' : e'.1.same p = true :=
        order_eq_iff_same.1 (by simpa using List.find?_some he')
      exact Pathname.same_trans hp (Pathname.same_symm hp')
    · rw [(held?_ofFiles_eq_some hheld).2 n, (held?_ofFiles_eq_some he').2 n, h.counted p n]
      have hrecorded := h.recorded p n
      simp only [List.isEmpty_iff, hrecorded]

/-! ## Lists that a table gives back -/

section Ascending

variable {files : List FileHits}
  (hascending : files.Pairwise fun a b => Pathname.order a.path b.path = .lt)

/-- The table that lists files as they are, which ascend already. -/
def ofAscending : HitTable where
  entries := files.map fun file => (file.path, file.lines)
  ascending := by
    rw [List.pairwise_map]
    exact hascending

theorem files_ofAscending : (ofAscending hascending).files = files := by
  rw [HitTable.files, ofAscending, List.map_map]
  exact List.map_id' files

theorem held?_ofAscending {file : FileHits} (hfile : file ∈ files) :
    OrderedMap.held? (ofAscending hascending) file.path = some (file.path, file.lines) := by
  have hmem : (file.path, file.lines) ∈ (ofAscending hascending).entries :=
    List.mem_map.2 ⟨file, hfile, rfl⟩
  exact OrderedMap.mem_entries_iff.1 hmem

theorem held?_ofAscending_eq_none {p : Pathname} (h : ∀ file ∈ files, ¬ file.path.same p = true) :
    OrderedMap.held? (ofAscending hascending) p = none := by
  rw [OrderedMap.held?, List.find?_eq_none]
  intro e he
  obtain ⟨file, hfile, rfl⟩ := List.mem_map.1 he
  rw [beq_iff_eq, order_eq_iff_same]
  exact h file hfile

include hascending in
/-- Of files that ascend no two have the same path. -/
theorem path_eq_of_same {file other : FileHits} (hfile : file ∈ files) (hother : other ∈ files)
    (hsame : other.path.same file.path = true) : other.path = file.path := by
  have hentry := held?_ofAscending hascending hother
  rw [OrderedMap.held?_congr (Pathname.order_eq_iff.2 (Pathname.same_iff.1 hsame)),
    held?_ofAscending hascending hfile] at hentry
  exact (congrArg Prod.fst (Option.some.inj hentry)).symm

include hascending in
/-- Files in ascending order are what the table of other files lists, if those have the same paths
    in the same spelling, and the same counts altogether. -/
theorem files_ofFiles_eq {added : List FileHits}
    (hknown : ∀ a ∈ added, ∃ file ∈ files, a.path = file.path)
    (hadded : ∀ file ∈ files, ∃ a ∈ added, a.path = file.path)
    (hcounts : ∀ file ∈ files, ∀ n, OrderedMap.get? file.lines n
      = if (countsAt added file.path n).isEmpty then none
        else some (countsAt added file.path n).sum) :
    (ofFiles added).files = files := by
  have hentries : (ofFiles added).entries = (ofAscending hascending).entries := by
    refine List.forall₂_eq_eq_eq ▸ OrderedMap.forall₂_entries fun p => ?_
    by_cases hp : ∃ file ∈ files, file.path.same p = true
    · obtain ⟨file, hfile, hsame⟩ := hp
      have horder : Pathname.order p file.path = .eq := order_eq_iff_same.2 hsame
      rw [OrderedMap.held?_congr horder, OrderedMap.held?_congr horder,
        held?_ofAscending hascending hfile]
      obtain ⟨a, ha, hpath⟩ := hadded file hfile
      have hself : a.path.same file.path = true := hpath ▸ Pathname.same_iff.2 rfl
      obtain ⟨e, he⟩ := Option.isSome_iff_exists.1 (isSome_held?_ofFiles.2 ⟨a, ha, hself⟩)
      obtain ⟨hspelled, hlines⟩ := held?_ofFiles_eq_some he
      -- What is found for the path is one of the files, and so spelled as it is there.
      obtain ⟨first, hfirst, hfirstpath⟩ := Option.map_eq_some_iff.1 hspelled
      obtain ⟨other, hother, hotherpath⟩ := hknown first (List.mem_of_find?_eq_some hfirst)
      have hfirstsame : first.path.same file.path = true := by simpa using List.find?_some hfirst
      have hspelling : e.1 = file.path := by
        rw [← hfirstpath, hotherpath]
        exact path_eq_of_same hascending hfile hother (hotherpath ▸ hfirstsame)
      have hsum : e.2 = file.lines :=
        LineCounts.ext_get? fun n => (hlines n).trans (hcounts file hfile n).symm
      rw [he, ← hspelling, ← hsum]
      exact .some rfl
    · have hnone (file : FileHits) (hfile : file ∈ files) : ¬ file.path.same p = true :=
        fun hsame => hp ⟨file, hfile, hsame⟩
      have hnone' : (ofFiles added).held? p = none := by
        rw [held?_ofFiles_eq_none]
        intro a ha
        obtain ⟨file, hfile, hpath⟩ := hknown a ha
        exact hpath ▸ hnone file hfile
      rw [held?_ofAscending_eq_none hascending hnone, hnone']
      exact .none
  rw [← files_ofAscending hascending, HitTable.files, hentries, HitTable.files]

end Ascending

end HitTable
end SuiteCoverage
