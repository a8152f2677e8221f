import Mathlib.Data.List.Forall2
import SuiteCoverage.Ordered

/-!
# What an ordered map holds

A map is seen here through `held?`, which gives the entry for a key together with the spelling of
the key that the map has kept. Adding to a map is one equation about this view (`held?_upsert`):
the key that came first stays and the values are merged. The list of entries need not be looked at
again after that, since an entry is in it exactly when the view shows it (`mem_entries_iff`).
-/

set_option autoImplicit false

namespace SuiteCoverage
namespace OrderedMap

variable {κ β : Type} {cmp : κ → κ → Ordering}

/-- The entry for `key`, with the key as the map has it. -/
def held? (m : OrderedMap κ β cmp) (key : κ) : Option (κ × β) :=
  m.entries.find? fun e => cmp key e.1 == .eq

theorem get?_eq (m : OrderedMap κ β cmp) (key : κ) : m.get? key = (m.held? key).map (·.2) := rfl

@[simp] theorem held?_empty (key : κ) : (empty : OrderedMap κ β cmp).held? key = none := rfl

/-- A key before all those of a list is not among them. -/
theorem find?_eq_none_of_lt {l : List (κ × β)} {key : κ} (h : ∀ e ∈ l, cmp key e.1 = .lt) :
    l.find? (fun e => cmp key e.1 == .eq) = none := by
  rw [List.find?_eq_none]
  intro e he
  rw [h e he]
  simp

variable [Std.TransCmp cmp]

/-- Keys that the order takes for the same find the same entry. -/
theorem find?_congr {k key : κ} (hk : cmp k key = .eq) (l : List (κ × β)) :
    l.find? (fun e => cmp k e.1 == .eq) = l.find? (fun e => cmp key e.1 == .eq) := by
  simp only [Std.TransCmp.congr_left hk]

theorem held?_congr {k key : κ} (hk : cmp k key = .eq) (m : OrderedMap κ β cmp) :
    m.held? k = m.held? key :=
  find?_congr hk m.entries

/-- The list behind `held?_upsert`. The case of a new key before the head is the only one that
    needs the order of the list: the key cannot stand further back. -/
theorem find?_upsertEntries {merge : β → β → β} {key : κ} {value : β} (k : κ)
    {l : List (κ × β)} (h : l.Pairwise fun a b => cmp a.1 b.1 = .lt) :
    (upsertEntries cmp merge key value l).find? (fun e => cmp k e.1 == .eq)
      = if cmp k key = .eq then
          some ((l.find? fun e => cmp key e.1 == .eq).elim (key, value)
            fun e => (e.1, merge e.2 value))
        else l.find? fun e => cmp k e.1 == .eq := by
  induction l with
  | nil =>
    by_cases hk : cmp k key = .eq
    · simp [upsertEntries, hk]
    · simp [upsertEntries, hk]
  | cons head rest ih =>
    obtain ⟨k', v⟩ := head
    obtain ⟨hhead, hrest⟩ := List.pairwise_cons.1 h
    unfold upsertEntries
    split
    · -- The new key stands in front of all keys, so it was not there.
      rename_i hlt
      have hnone : ((k', v) :: rest).find? (fun e => cmp key e.1 == .eq) = none := by
        refine find?_eq_none_of_lt fun e he => ?_
        rcases List.mem_cons.1 he with rfl | he
        · exact hlt
        · exact Std.TransCmp.lt_trans hlt (hhead e he)
      by_cases hk : cmp k key = .eq
      · rw [if_pos hk, hnone]
        simp [hk]
      · rw [if_neg hk, List.find?_cons_of_neg (by simpa using hk)]
    · rename_i heq
      have hcongr : cmp k key = cmp k k' := Std.TransCmp.congr_right heq
      by_cases hk : cmp k key = .eq
      · have hk' : cmp k k' = .eq := by rw [← hcongr, hk]
        simp [hk, hk', heq]
      · have hk' : cmp k k' ≠ .eq := by rwa [← hcongr]
        simp [hk, hk']
    · rename_i hgt
      have hne : cmp key k' ≠ .eq := by rw [hgt]; simp
      by_cases hk : cmp k key = .eq
      · have hk' : cmp k k' ≠ .eq := by rwa [Std.TransCmp.congr_left hk]
        rw [List.find?_cons_of_neg (by simpa using hk'), ih hrest, if_pos hk, if_pos hk,
          List.find?_cons_of_neg (by simpa using hne)]
      · rw [if_neg hk, List.find?_cons, List.find?_cons, ih hrest, if_neg hk]

/-- After an addition the key that came first stands with the values merged, and nothing else has
    changed. -/
theorem held?_upsert (merge : β → β → β) (key : κ) (value : β) (m : OrderedMap κ β cmp) (k : κ) :
    (m.upsert merge key value).held? k
      = if cmp k key = .eq then
          some ((m.held? key).elim (key, value) fun e => (e.1, merge e.2 value))
        else m.held? k :=
  find?_upsertEntries k m.ascending

/-- An entry is in the list exactly when it is the one for its key. -/
theorem mem_entries_iff {m : OrderedMap κ β cmp} {e : κ × β} :
    e ∈ m.entries ↔ m.held? e.1 = some e := by
  constructor
  · intro he
    obtain ⟨before, behind, hsplit⟩ := List.append_of_mem he
    have hasc := m.ascending
    rw [hsplit] at hasc
    rw [held?, hsplit, List.find?_append]
    have hnone : before.find? (fun e' => cmp e.1 e'.1 == .eq) = none := by
      rw [List.find?_eq_none]
      intro e' he'
      have hlt := (List.pairwise_append.1 hasc).2.2 e' he' e List.mem_cons_self
      rw [Std.OrientedCmp.gt_of_lt hlt]
      simp
    rw [hnone, Option.none_or, List.find?_cons_of_pos (by simp [Std.ReflCmp.compare_self])]
  · intro h
    exact List.mem_of_find?_eq_some h

end OrderedMap
end SuiteCoverage

/-!
## Maps that hold alike

Two maps are compared key by key, through what they hold for it. That is enough to compare their
entries one by one: an ascending list has no choice in what order it lists things
(`forall₂_entries`). How two entries have to compare is a parameter, so the same statement tells
when maps are equal and when they differ in what nobody looks at.
-/

namespace SuiteCoverage

/-- Lists that compare entry by entry compare otherwise too, if the entries that are in them do. -/
theorem forall₂_imp_of_mem {α β : Type} {R S : α → β → Prop} {l : List α} {m : List β}
    (h : List.Forall₂ R l m) (himp : ∀ a ∈ l, ∀ b ∈ m, R a b → S a b) : List.Forall₂ S l m := by
  induction h with
  | nil => exact .nil
  | cons hab hrest ih =>
    refine .cons (himp _ List.mem_cons_self _ List.mem_cons_self hab) (ih fun a ha b hb => ?_)
    exact himp a (List.mem_cons_of_mem _ ha) b (List.mem_cons_of_mem _ hb)

namespace OrderedMap

variable {κ β : Type} {cmp : κ → κ → Ordering}

instance [DecidableEq κ] [DecidableEq β] : DecidableEq (OrderedMap κ β cmp) := fun m n =>
  decidable_of_iff (m.entries = n.entries) ⟨ext_entries, congrArg entries⟩

variable [Std.TransCmp cmp]

/-- At most one entry of an ascending list has a given key. -/
theorem filter_eq_toList_find? {l : List (κ × β)} (h : l.Pairwise fun a b => cmp a.1 b.1 = .lt)
    (key : κ) :
    l.filter (fun e => cmp key e.1 == .eq) = (l.find? fun e => cmp key e.1 == .eq).toList := by
  induction l with
  | nil => rfl
  | cons head rest ih =>
    obtain ⟨hhead, hrest⟩ := List.pairwise_cons.1 h
    by_cases hkey : cmp key head.1 = .eq
    · have hnone : rest.find? (fun e => cmp key e.1 == .eq) = none := by
        rw [find?_congr hkey]
        exact find?_eq_none_of_lt hhead
      rw [List.filter_cons_of_pos (by simpa using hkey), ih hrest, hnone,
        List.find?_cons_of_pos (by simpa using hkey)]
      rfl
    · rw [List.filter_cons_of_neg (by simpa using hkey), ih hrest,
        List.find?_cons_of_neg (by simpa using hkey)]

/-- An ascending list starts with its own first key. -/
theorem find?_head (head : κ × β) (rest : List (κ × β)) :
    (head :: rest).find? (fun e => cmp head.1 e.1 == .eq) = some head :=
  List.find?_cons_of_pos (by simp [Std.ReflCmp.compare_self])

/-- A key that is found in an ascending list does not come before its first key. -/
theorem not_lt_head {head e : κ × β} {rest : List (κ × β)} {key : κ}
    (h : (head :: rest).Pairwise fun a b => cmp a.1 b.1 = .lt)
    (hfind : (head :: rest).find? (fun e => cmp key e.1 == .eq) = some e) :
    cmp key head.1 ≠ .lt := by
  intro hlt
  have hnone : (head :: rest).find? (fun e => cmp key e.1 == .eq) = none := by
    refine find?_eq_none_of_lt fun e he => ?_
    rcases List.mem_cons.1 he with rfl | he
    · exact hlt
    · exact Std.TransCmp.lt_trans hlt ((List.pairwise_cons.1 h).1 e he)
  rw [hnone] at hfind
  cases hfind

/-- What is found behind the first entry of an ascending list. -/
theorem find?_rest {head : κ × β} {rest : List (κ × β)}
    (h : (head :: rest).Pairwise fun a b => cmp a.1 b.1 = .lt) (key : κ) :
    rest.find? (fun e => cmp key e.1 == .eq)
      = if cmp key head.1 = .eq then none
        else (head :: rest).find? fun e => cmp key e.1 == .eq := by
  by_cases hkey : cmp key head.1 = .eq
  · rw [if_pos hkey, find?_congr hkey, find?_eq_none_of_lt (List.pairwise_cons.1 h).1]
  · rw [if_neg hkey, List.find?_cons_of_neg (by simpa using hkey)]

/-- Ascending lists compare entry by entry if they compare key by key. -/
theorem forall₂_of_find? {R : κ × β → κ × β → Prop} {l m : List (κ × β)}
    (hl : l.Pairwise fun a b => cmp a.1 b.1 = .lt) (hm : m.Pairwise fun a b => cmp a.1 b.1 = .lt)
    (h : ∀ key, Option.Rel R (l.find? fun e => cmp key e.1 == .eq)
      (m.find? fun e => cmp key e.1 == .eq)) :
    List.Forall₂ R l m := by
  induction l generalizing m with
  | nil =>
    cases m with
    | nil => exact .nil
    | cons b bs =>
      have hb := h b.1
      rw [find?_head] at hb
      cases hb
  | cons a as ih =>
    cases m with
    | nil =>
      have ha := h a.1
      rw [find?_head] at ha
      cases ha
    | cons b bs =>
      have ha := h a.1
      have hb := h b.1
      rw [find?_head] at ha hb
      generalize hfound : (b :: bs).find? (fun e => cmp a.1 e.1 == .eq) = found at ha
      generalize hother : (a :: as).find? (fun e => cmp b.1 e.1 == .eq) = other at hb
      cases ha with
      | @some _ b' hab =>
        cases hb with
        | some _ =>
          -- Neither list starts before the other, so they start with the same key.
          have hge : cmp a.1 b.1 ≠ .lt := not_lt_head hm hfound
          have hle : cmp b.1 a.1 ≠ .lt := not_lt_head hl hother
          have heq : cmp a.1 b.1 = .eq := by
            cases hcmp : cmp a.1 b.1 with
            | lt => exact absurd hcmp hge
            | eq => rfl
            | gt => exact absurd (Std.OrientedCmp.gt_iff_lt.1 hcmp) hle
          have hsame : b = b' := by
            rw [find?_congr heq, find?_head] at hfound
            exact Option.some.inj hfound
          subst hsame
          refine .cons hab (ih (List.pairwise_cons.1 hl).2 (List.pairwise_cons.1 hm).2 fun key => ?_)
          rw [find?_rest hl, find?_rest hm, Std.TransCmp.congr_right heq]
          split
          · exact .none
          · exact h key

/-- Maps compare entry by entry if what they hold compares key by key. -/
theorem forall₂_entries {R : κ × β → κ × β → Prop} {m n : OrderedMap κ β cmp}
    (h : ∀ key, Option.Rel R (m.held? key) (n.held? key)) :
    List.Forall₂ R m.entries n.entries :=
  forall₂_of_find? m.ascending n.ascending h

end OrderedMap
end SuiteCoverage
