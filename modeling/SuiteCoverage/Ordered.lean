/-!
# Maps and sets that list themselves in order

Counts by line and counts by file are listed in ascending order wherever they are shown, so
they are kept that way. A map is a list of entries whose keys strictly ascend; that the keys
ascend is part of the type, and so an entry list determines the map and is determined by it.

The order may regard different keys as equal (two spellings of one path). Then the key that
came first stays, with what later keys add merged into its value.
-/

set_option autoImplicit false

namespace SuiteCoverage

/-- Entries with strictly ascending keys. -/
structure OrderedMap (κ β : Type) (cmp : κ → κ → Ordering) where
  entries : List (κ × β)
  ascending : entries.Pairwise fun a b => cmp a.1 b.1 = .lt

namespace OrderedMap

variable {κ β : Type} {cmp : κ → κ → Ordering}

/-- Equal entries make equal maps. -/
theorem ext_entries {m n : OrderedMap κ β cmp} (h : m.entries = n.entries) : m = n := by
  cases m
  cases n
  cases h
  rfl

/-- The map without entries. -/
def empty : OrderedMap κ β cmp := ⟨[], .nil⟩

instance : Inhabited (OrderedMap κ β cmp) := ⟨empty⟩

/-- Merges `value` into what stands under `key`, or puts it where `key` belongs. -/
def upsertEntries (cmp : κ → κ → Ordering) (merge : β → β → β) (key : κ) (value : β) :
    List (κ × β) → List (κ × β)
  | [] => [(key, value)]
  | (k, v) :: rest =>
    match cmp key k with
    | .lt => (key, value) :: (k, v) :: rest
    | .eq => (k, merge v value) :: rest
    | .gt => (k, v) :: upsertEntries cmp merge key value rest

/-- A key before all of an ascending list's keys and before a new key is still before all keys
    once the new one has been added. -/
theorem forall_lt_upsertEntries {merge : β → β → β} {key k : κ} {value : β}
    {l : List (κ × β)} (hkey : cmp k key = .lt) (h : ∀ e ∈ l, cmp k e.1 = .lt) :
    ∀ e ∈ upsertEntries cmp merge key value l, cmp k e.1 = .lt := by
  induction l with
  | nil =>
    intro e he
    simp only [upsertEntries, List.mem_singleton] at he
    subst he
    exact hkey
  | cons head rest ih =>
    obtain ⟨k', v'⟩ := head
    have hk' : cmp k k' = .lt := h (k', v') (by simp)
    have hrest : ∀ e ∈ rest, cmp k e.1 = .lt := fun e he => h e (List.mem_cons_of_mem _ he)
    intro e he
    unfold upsertEntries at he
    split at he
    · rcases List.mem_cons.1 he with rfl | he
      · exact hkey
      · exact h e he
    · rcases List.mem_cons.1 he with rfl | he
      · exact hk'
      · exact hrest e he
    · rcases List.mem_cons.1 he with rfl | he
      · exact hk'
      · exact ih hrest e he

theorem ascending_upsertEntries [Std.TransCmp cmp] (merge : β → β → β) (key : κ) (value : β)
    {l : List (κ × β)} (h : l.Pairwise fun a b => cmp a.1 b.1 = .lt) :
    (upsertEntries cmp merge key value l).Pairwise fun a b => cmp a.1 b.1 = .lt := by
  induction l with
  | nil => simp [upsertEntries]
  | cons head rest ih =>
    obtain ⟨k, v⟩ := head
    obtain ⟨hhead, hrest⟩ := List.pairwise_cons.1 h
    unfold upsertEntries
    split
    · rename_i hlt
      refine List.pairwise_cons.2 ⟨fun e he => ?_, h⟩
      rcases List.mem_cons.1 he with rfl | he
      · exact hlt
      · exact Std.TransCmp.lt_trans hlt (hhead e he)
    · exact List.pairwise_cons.2 ⟨hhead, hrest⟩
    · rename_i hgt
      exact List.pairwise_cons.2
        ⟨forall_lt_upsertEntries (Std.OrientedCmp.gt_iff_lt.1 hgt) hhead, ih hrest⟩

/-- Merges `value` into what the map holds for `key`; `value` alone if it holds nothing. -/
def upsert [Std.TransCmp cmp] (merge : β → β → β) (key : κ) (value : β)
    (m : OrderedMap κ β cmp) : OrderedMap κ β cmp :=
  ⟨upsertEntries cmp merge key value m.entries, ascending_upsertEntries merge key value m.ascending⟩

/-- What the map holds for `key`. -/
def get? (m : OrderedMap κ β cmp) (key : κ) : Option β :=
  (m.entries.find? fun e => cmp key e.1 == .eq).map (·.2)

/-- The keys in ascending order. -/
def keys (m : OrderedMap κ β cmp) : List κ :=
  m.entries.map (·.1)

end OrderedMap
end SuiteCoverage
