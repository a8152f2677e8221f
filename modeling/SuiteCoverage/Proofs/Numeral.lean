import Mathlib.Data.Nat.Digits.Defs
import SuiteCoverage.Number.Numeral

/-!
# What numerals stand for

A plain numeral is told by its digits (`IsNumeral`), and reading one gives the number that the
digits write, or nothing if there is something else among them. So the digits that a number is
written with are read as that number, also where the number is a count.
-/

set_option autoImplicit false

namespace SuiteCoverage
namespace Numeral

/-! ## How numbers are written -/

theorem toList_toString (n : Nat) : (toString n).toList = Nat.toDigits 10 n := Nat.toList_repr

theorem isDigit_of_mem_toDigits {n : Nat} {c : Char} (h : c ∈ Nat.toDigits 10 n) :
    c.isDigit = true :=
  Nat.isDigit_of_mem_toDigits (by omega) (by omega) h

/-- There is nothing but digits in a written number. -/
theorem not_mem_toDigits {c : Char} (hc : c.isDigit = false) (n : Nat) : c ∉ Nat.toDigits 10 n :=
  fun hmem => by simp [isDigit_of_mem_toDigits hmem] at hc

/-! ## How they are read -/

theorem digit?_of_isDigit {c : Char} (h : c.isDigit = true) :
    digit? c = some (c.toNat - '0'.toNat) := by
  rw [digit?, if_pos h]

/-- Digits write the number that they stand for. -/
theorem readDigits?_eq {digits : List Char} (h : ∀ c ∈ digits, c.isDigit = true) (soFar : Nat) :
    readDigits? soFar digits = some (Nat.ofDigitChars 10 digits soFar) := by
  induction digits generalizing soFar with
  | nil => rfl
  | cons c rest ih =>
    rw [readDigits?, digit?_of_isDigit (h c (by simp)), Nat.ofDigitChars_cons, Nat.mul_comm]
    exact ih (fun d hd => h d (by simp [hd])) _

theorem readDigits?_toDigits (n : Nat) : readDigits? 0 (Nat.toDigits 10 n) = some n := by
  rw [readDigits?_eq fun _ hc => isDigit_of_mem_toDigits hc, Nat.ofDigitChars_ten_toDigits]

/-- Nothing but digits is read as a number. -/
theorem isDigit_of_readDigits? {text : List Char} {soFar n : Nat}
    (h : readDigits? soFar text = some n) : ∀ c ∈ text, c.isDigit = true := by
  induction text generalizing soFar with
  | nil => simp
  | cons c rest ih =>
    rw [readDigits?, digit?] at h
    by_cases hc : c.isDigit = true
    · rw [if_pos hc] at h
      exact List.forall_mem_cons.2 ⟨hc, ih h⟩
    · rw [if_neg hc] at h
      cases h

/-- A text that stands for a number: digits, at least one, and perhaps a plus sign before them. -/
def IsNumeral (text : List Char) (n : Nat) : Prop :=
  ∃ digits, digits ≠ [] ∧ (∀ c ∈ digits, c.isDigit = true) ∧
    (text = digits ∨ text = '+' :: digits) ∧ n = Nat.ofDigitChars 10 digits 0

theorem isNumeral_toDigits (n : Nat) : IsNumeral (Nat.toDigits 10 n) n :=
  ⟨Nat.toDigits 10 n, Nat.toDigits_ne_nil, fun _ hc => isDigit_of_mem_toDigits hc, .inl rfl,
    Nat.ofDigitChars_ten_toDigits.symm⟩

theorem readDigits?_eq_some_iff {text : List Char} {n : Nat} :
    readDigits? 0 text = some n ↔
      (∀ c ∈ text, c.isDigit = true) ∧ n = Nat.ofDigitChars 10 text 0 := by
  constructor
  · intro h
    have hall := isDigit_of_readDigits? h
    rw [readDigits?_eq hall] at h
    exact ⟨hall, (Option.some.inj h).symm⟩
  · rintro ⟨hall, rfl⟩
    exact readDigits?_eq hall 0

/-- Numerals are read, and nothing else is. -/
theorem natural?_eq_some_iff {text : List Char} {n : Nat} :
    natural? text = some n ↔ IsNumeral text n := by
  have hplus : '+'.isDigit = false := by decide
  unfold natural?
  split
  · refine ⟨nofun, ?_⟩
    rintro ⟨digits, hne, -, htext | htext, -⟩
    · exact absurd htext.symm hne
    · cases htext
  · refine ⟨nofun, ?_⟩
    rintro ⟨digits, hne, hall, rfl | htext, -⟩
    · simp [hplus] at hall
    · cases htext
      exact absurd rfl hne
  · -- A sign in front is none of the digits.
    rename_i digits hne
    rw [readDigits?_eq_some_iff]
    constructor
    · rintro ⟨hall, rfl⟩
      exact ⟨digits, hne, hall, .inr rfl, rfl⟩
    · rintro ⟨other, -, hall, rfl | htext, rfl⟩
      · simp [hplus] at hall
      · cases htext
        exact ⟨hall, rfl⟩
  · rename_i hne _ hsign
    rw [readDigits?_eq_some_iff]
    constructor
    · rintro ⟨hall, rfl⟩
      exact ⟨text, hne, hall, .inl rfl, rfl⟩
    · rintro ⟨digits, -, hall, rfl | htext, rfl⟩
      · exact ⟨hall, rfl⟩
      · exact (hsign digits htext).elim

theorem naturalBelow?_eq_some_iff {limit n : Nat} {text : List Char} :
    naturalBelow? limit text = some n ↔ IsNumeral text n ∧ n < limit := by
  rw [naturalBelow?, Option.filter_eq_some_iff, natural?_eq_some_iff, decide_eq_true_iff]

/-- A count is written with its digits. -/
theorem count?_toDigits {n : Nat} (h : n < UInt64.size) : count? (Nat.toDigits 10 n) = some n := by
  rw [count?, naturalBelow?_eq_some_iff.2 ⟨isNumeral_toDigits n, h⟩]

end Numeral
end SuiteCoverage
