import Mathlib.Algebra.Order.Field.Power
import Mathlib.Algebra.Order.Floor.Semifield
import Mathlib.Data.Rat.Floor
import Mathlib.Tactic.FieldSimp
import Mathlib.Tactic.Linarith
import Mathlib.Tactic.NormNum
import Mathlib.Tactic.Positivity
import Mathlib.Tactic.Ring
import SuiteCoverage.Account
import SuiteCoverage.Proofs.Numeral

/-!
# What a percentage shows

A percentage is the quotient of two doubles, rounded, and what is shown is found by comparing and
rounding that. `percentText_exact` says that whole numbers would give the same: `wholePercent` is
the percentage with no double on the way to it.

Doubles are told by their values, which are rational numbers. All that is used of rounding is that
it keeps to the side of any number that has a double (`le_value_round`, `value_round_le`), so
nothing has to be known of how large the error is. What is shown changes at half-way numbers and
next to the extremes. As long as there are at most `2 ^ 40` lines, an exact percentage that is not
on such a place is a whole `1 / 2 ^ 41` away from it, and there is a double in between
(`percent_lt_half_iff`, `half_lt_percent_iff`).
-/

set_option autoImplicit false

namespace SuiteCoverage
namespace Binary64

/-! ## Values -/

/-- The value of a double. -/
def value (x : Binary64) : ℚ := x.mantissa * 2 ^ x.exponent

theorem den_pos (x : Binary64) : 0 < x.den := by
  unfold den
  split
  · exact Nat.one_pos
  · simp [Nat.shiftLeft_eq]

theorem value_nonneg (x : Binary64) : 0 ≤ x.value := by
  unfold value
  positivity

/-- The value is the quotient with which operations reckon. -/
theorem value_eq (x : Binary64) : x.value = (x.num : ℚ) / x.den := by
  unfold value num den
  split
  · rename_i h
    obtain ⟨k, hk⟩ := Int.eq_ofNat_of_zero_le h
    simp [hk, Nat.shiftLeft_eq]
  · rename_i h
    obtain ⟨k, hk⟩ := Int.eq_ofNat_of_zero_le (a := -x.exponent) (by omega)
    have he : x.exponent = -(k : ℤ) := by omega
    simp [he, Nat.shiftLeft_eq, zpow_neg, div_eq_mul_inv]

theorem lt_iff (x y : Binary64) : x.lt y = true ↔ x.value < y.value := by
  have hx : (0 : ℚ) < x.den := by exact_mod_cast x.den_pos
  have hy : (0 : ℚ) < y.den := by exact_mod_cast y.den_pos
  rw [lt, decide_eq_true_iff, value_eq, value_eq, div_lt_div_iff₀ hx hy]
  exact_mod_cast Iff.rfl

/-- The nearest whole number to a value, where half goes up. -/
theorem nearest_eq (x : Binary64) : x.nearest = ⌊x.value + 1 / 2⌋₊ := by
  have hx : (x.den : ℚ) ≠ 0 := by exact_mod_cast x.den_pos.ne'
  have hhalf : x.value + 1 / 2 = ((2 * x.num + x.den : ℕ) : ℚ) / ((2 * x.den : ℕ) : ℚ) := by
    rw [value_eq]
    push_cast
    field_simp
  rw [nearest, hhalf, Nat.floor_div_eq_div]

/-! ## Rounding -/

/-- The nearest whole number is on the same side of other whole numbers. -/
theorem le_nearestEven {n d k : ℕ} (hd : 0 < d) (h : k * d ≤ n) : k ≤ nearestEven n d := by
  have hfloor : k ≤ n / d := (Nat.le_div_iff_mul_le hd).2 h
  unfold nearestEven
  dsimp only
  split
  · exact hfloor
  split
  · omega
  split <;> omega

theorem nearestEven_le {n d k : ℕ} (hd : 0 < d) (h : n ≤ k * d) : nearestEven n d ≤ k := by
  have hfloor : n / d ≤ k := Nat.div_le_of_le_mul (by rwa [Nat.mul_comm] at h)
  have hmod := Nat.div_add_mod n d
  have hstrict : n % d ≠ 0 → n / d < k := by
    intro hne
    rw [Nat.div_lt_iff_lt_mul hd]
    rcases Nat.lt_or_ge n (k * d) with hlt | hge
    · exact hlt
    · have heq : n = k * d := le_antisymm h hge
      exact absurd (by rw [heq, Nat.mul_mod_left]) hne
  unfold nearestEven
  dsimp only
  split
  · exact hfloor
  have hne : n % d ≠ 0 := by omega
  have := hstrict hne
  split
  · omega
  split <;> omega

/-- Scaling divides by a power of two. -/
theorem scaled_spec (num : ℕ) {den : ℕ} (hden : 0 < den) (shift : ℤ) :
    0 < (scaled num den shift).2 ∧
      ((scaled num den shift).1 : ℚ) / (scaled num den shift).2
        = (num : ℚ) / den / 2 ^ shift := by
  have hd : (den : ℚ) ≠ 0 := by exact_mod_cast hden.ne'
  unfold scaled
  split
  · rename_i h
    obtain ⟨k, rfl⟩ := Int.eq_ofNat_of_zero_le h
    refine ⟨?_, ?_⟩
    · simp [Nat.shiftLeft_eq, hden]
    · simp [Nat.shiftLeft_eq, div_div]
  · rename_i h
    obtain ⟨k, hk⟩ := Int.eq_ofNat_of_zero_le (a := -shift) (by omega)
    have he : shift = -(k : ℤ) := by omega
    refine ⟨hden, ?_⟩
    simp [he, Nat.shiftLeft_eq, zpow_neg]
    field_simp

/-- Powers of two next to each other. -/
theorem two_zpow_succ (e : ℤ) : (2 : ℚ) ^ (e + 1) = 2 * 2 ^ e := by
  rw [zpow_add₀ two_ne_zero, zpow_one, mul_comm]

theorem leadingBit_eq : (leadingBit : ℚ) = 2 ^ 52 := by
  norm_num [leadingBit, Nat.shiftLeft_eq]

/-- A quotient is not far below the power of two that its numerator and its denominator tell. -/
theorem two_zpow_lt_quotient {num den : ℕ} (hnum : num ≠ 0) (hden : den ≠ 0) :
    (2 : ℚ) ^ ((num.log2 : ℤ) - den.log2) < 2 * (num / den) := by
  have hd : (0 : ℚ) < den := by exact_mod_cast Nat.pos_of_ne_zero hden
  have hlow : (2 : ℚ) ^ num.log2 ≤ num := by exact_mod_cast Nat.log2_self_le hnum
  have hhigh : (den : ℚ) < 2 ^ den.log2 * 2 := by
    rw [← pow_succ]
    exact_mod_cast Nat.lt_log2_self
  have hpow : (0 : ℚ) < 2 ^ den.log2 := by positivity
  rw [zpow_sub₀ two_ne_zero, zpow_natCast, zpow_natCast, div_lt_iff₀ hpow, mul_assoc,
    div_mul_eq_mul_div, mul_div_assoc', lt_div_iff₀ hd]
  have hn : (0 : ℚ) < num := by exact_mod_cast Nat.pos_of_ne_zero hnum
  calc (2 : ℚ) ^ num.log2 * den ≤ num * den := mul_le_mul_of_nonneg_right hlow hd.le
    _ < num * (2 ^ den.log2 * 2) := mul_lt_mul_of_pos_left hhigh hn
    _ = 2 * (num * 2 ^ den.log2) := by ring

/-- The exponent that the sizes of numerator and denominator suggest. -/
def guess (num den : ℕ) : ℤ := (num.log2 : ℤ) - den.log2 - 52

theorem unit_eq (num den : ℕ) :
    unit num den = max (-1074)
      (if (scaled num den (guess num den)).1 < leadingBit * (scaled num den (guess num den)).2
        then guess num den - 1 else guess num den) := rfl

/-- In the unit of a quotient its mantissa has 53 bits at least, unless there is no smaller
    unit. -/
theorem le_of_unit {num den : ℕ} (hnum : num ≠ 0) (hden : den ≠ 0) (hunit : unit num den ≠ -1074) :
    (2 : ℚ) ^ 52 * 2 ^ unit num den ≤ num / den := by
  have hlow := two_zpow_lt_quotient hnum hden
  obtain ⟨hpos, hscaled⟩ := scaled_spec num (Nat.pos_of_ne_zero hden) (guess num den)
  have hpow : (2 : ℚ) ^ ((num.log2 : ℤ) - den.log2) = 2 ^ 52 * 2 ^ guess num den := by
    rw [show (num.log2 : ℤ) - den.log2 = 52 + guess num den by unfold guess; omega,
      zpow_add₀ two_ne_zero]
    norm_num
  rw [hpow] at hlow
  rw [unit_eq] at hunit ⊢
  generalize guess num den = g at *
  have hp : (0 : ℚ) < (scaled num den g).2 := by exact_mod_cast hpos
  have hg : (0 : ℚ) < 2 ^ g := by positivity
  split at hunit
  · -- The guess was one too large.
    rename_i hsmall
    rw [if_pos hsmall, max_eq_right (by omega)]
    have hstep := two_zpow_succ (g - 1)
    rw [sub_add_cancel] at hstep
    linarith
  · rename_i hlarge
    rw [if_neg hlarge, max_eq_right (by omega), ← le_div_iff₀ hg, ← hscaled, le_div_iff₀ hp,
      ← leadingBit_eq]
    exact_mod_cast not_lt.1 hlarge

/-- A number that has a double: a mantissa of at most 53 bits, and an exponent that is not too
    small. -/
def Fits (q : ℚ) : Prop :=
  ∃ (m : ℕ) (x : ℤ), m < 2 ^ 53 ∧ -1074 ≤ x ∧ q = m * 2 ^ x

/-- The double nearest to a quotient is a whole number of units. -/
theorem value_round {num den : ℕ} (hnum : num ≠ 0) :
    (round num den).value
      = nearestEven (scaled num den (unit num den)).1 (scaled num den (unit num den)).2
        * 2 ^ unit num den := by
  rw [round, if_neg hnum]
  simp only []
  split
  · rename_i heq
    rw [heq, value, two_zpow_succ]
    push_cast
    ring
  · rfl

variable {num den : ℕ} {q : ℚ}

/-- A number that is given in one unit is a whole number of any smaller one. -/
theorem exists_units {m : ℕ} {x e : ℤ} (h : e ≤ x) :
    ∃ k : ℕ, (m : ℚ) * 2 ^ x = k * 2 ^ e := by
  obtain ⟨j, hj⟩ := Int.le.dest h
  refine ⟨m * 2 ^ j, ?_⟩
  rw [← hj, zpow_add₀ two_ne_zero]
  push_cast
  rw [zpow_natCast]
  ring

/-- A number that fits is below every number of 53 bits in a larger unit. -/
theorem lt_of_larger_unit {m : ℕ} {x e : ℤ} (hm : m < 2 ^ 53) (h : x < e) :
    (m : ℚ) * 2 ^ x < 2 ^ 52 * 2 ^ e := by
  have hm' : (m : ℚ) < 2 ^ 53 := by exact_mod_cast hm
  have hx : (0 : ℚ) < 2 ^ x := by positivity
  have hmono : (2 : ℚ) ^ (x + 1) ≤ 2 ^ e := zpow_le_zpow_right₀ one_le_two (by omega)
  rw [two_zpow_succ] at hmono
  nlinarith

theorem round_zero (den : ℕ) : (round 0 den).value = 0 := by
  simp [round, value]

/-- Rounding does not go below a number that fits. -/
theorem le_value_round (hden : den ≠ 0) (hq : Fits q) (h : q ≤ num / den) :
    q ≤ (round num den).value := by
  by_cases hnum : num = 0
  · rw [hnum, round_zero]
    simpa [hnum] using h
  obtain ⟨m, x, hm, hx, rfl⟩ := hq
  obtain ⟨hpos, hscaled⟩ := scaled_spec num (Nat.pos_of_ne_zero hden) (unit num den)
  have hp : (0 : ℚ) < (scaled num den (unit num den)).2 := by exact_mod_cast hpos
  have he : (0 : ℚ) < 2 ^ unit num den := by positivity
  have hunits {k : ℕ} (hk : (k : ℚ) * 2 ^ unit num den ≤ num / den) :
      (k : ℚ) * 2 ^ unit num den ≤ (round num den).value := by
    rw [value_round hnum]
    refine mul_le_mul_of_nonneg_right ?_ he.le
    rw [← le_div_iff₀ he, ← hscaled, le_div_iff₀ hp] at hk
    exact_mod_cast le_nearestEven hpos (by exact_mod_cast hk)
  by_cases hle : unit num den ≤ x
  · obtain ⟨k, hk⟩ := exists_units (m := m) hle
    rw [hk] at h ⊢
    exact hunits h
  · -- In the larger unit even the least mantissa is above the number.
    have hlead : ((2 ^ 52 : ℕ) : ℚ) * 2 ^ unit num den ≤ num / den := by
      exact_mod_cast le_of_unit hnum hden (by omega)
    have hbelow := lt_of_larger_unit hm (not_le.1 hle)
    refine hbelow.le.trans ?_
    exact_mod_cast hunits hlead

/-- Rounding does not go above a number that fits. -/
theorem value_round_le (hden : den ≠ 0) (hq : Fits q) (h : (num : ℚ) / den ≤ q) :
    (round num den).value ≤ q := by
  by_cases hnum : num = 0
  · rw [hnum, round_zero]
    simpa [hnum] using h
  obtain ⟨m, x, hm, hx, rfl⟩ := hq
  obtain ⟨hpos, hscaled⟩ := scaled_spec num (Nat.pos_of_ne_zero hden) (unit num den)
  have hp : (0 : ℚ) < (scaled num den (unit num den)).2 := by exact_mod_cast hpos
  have he : (0 : ℚ) < 2 ^ unit num den := by positivity
  by_cases hle : unit num den ≤ x
  · obtain ⟨k, hk⟩ := exists_units (m := m) hle
    rw [hk] at h ⊢
    rw [value_round hnum]
    refine mul_le_mul_of_nonneg_right ?_ he.le
    rw [← div_le_iff₀ he, ← hscaled, div_le_iff₀ hp] at h
    exact_mod_cast nearestEven_le hpos (by exact_mod_cast h)
  · have hlead := le_of_unit hnum hden (by omega)
    exact absurd (hlead.trans h) (not_le.2 (lt_of_larger_unit hm (not_le.1 hle)))

/-- A quotient that fits is not changed. -/
theorem value_round_eq (hden : den ≠ 0) (hq : Fits q) (h : (num : ℚ) / den = q) :
    (round num den).value = q :=
  le_antisymm (value_round_le hden hq h.le) (le_value_round hden hq h.ge)

theorem fits_natCast {n : ℕ} (h : n < 2 ^ 53) : Fits n :=
  ⟨n, 0, h, by norm_num, by simp⟩

/-! ## Whole numbers, products and quotients -/

theorem value_ofNat {n : ℕ} (h : n < 2 ^ 53) : (ofNat n).value = n :=
  value_round_eq one_ne_zero (fits_natCast h) (by simp)

theorem value_mul (x y : Binary64) (hq : Fits (x.value * y.value)) :
    (x.mul y).value = x.value * y.value := by
  refine value_round_eq (Nat.mul_ne_zero x.den_pos.ne' y.den_pos.ne') hq ?_
  rw [value_eq x, value_eq y, div_mul_div_comm]
  push_cast
  rfl

/-- A quotient of doubles is on the same side of a number that fits as the exact quotient. -/
theorem value_div_spec {x y : Binary64} (hy : y.value ≠ 0) (hq : Fits q) :
    (q ≤ x.value / y.value → q ≤ (x.div y).value) ∧
      (x.value / y.value ≤ q → (x.div y).value ≤ q) := by
  have hden : x.den * y.num ≠ 0 := by
    refine Nat.mul_ne_zero x.den_pos.ne' fun hnum => hy ?_
    rw [value_eq, hnum, Nat.cast_zero, zero_div]
  have hquotient : ((x.num * y.den : ℕ) : ℚ) / ((x.den * y.num : ℕ) : ℚ) = x.value / y.value := by
    rw [value_eq x, value_eq y, div_div_div_eq]
    push_cast
    rfl
  rw [← hquotient]
  exact ⟨le_value_round hden hq, value_round_le hden hq⟩

end Binary64

/-! ## Percentages -/

namespace Totals

open Binary64

variable {t : Totals}

/-- The percentage as a whole number, without any rounding on the way to it. -/
def wholePercent (t : Totals) : ℕ :=
  if t.statements = 0 ∨ t.executed = t.statements then 100
  else if t.executed = 0 then 0
  else if 100 * t.executed < t.statements then 1
  else if 99 * t.statements < 100 * t.executed then 99
  else (200 * t.executed + t.statements) / (2 * t.statements)

theorem value_hundred : hundred.value = 100 := by
  rw [hundred, value_ofNat (by norm_num)]
  norm_num

/-- The percentage is on the same side of a number that fits as the exact one. -/
theorem value_percent_spec (hran : t.executed ≤ t.statements) (hfew : t.statements ≤ 2 ^ 40)
    (hsome : t.statements ≠ 0) {q : ℚ} (hq : Fits q) :
    (q * t.statements ≤ 100 * t.executed → q ≤ t.percent.value) ∧
      (100 * t.executed ≤ q * t.statements → t.percent.value ≤ q) := by
  have hs : (0 : ℚ) < t.statements := by exact_mod_cast Nat.pos_of_ne_zero hsome
  have hexecuted : (ofNat t.executed).value = t.executed := value_ofNat (by omega)
  have hstatements : (ofNat t.statements).value = t.statements := value_ofNat (by omega)
  have hproduct : (mul (ofNat t.executed) hundred).value = 100 * t.executed := by
    have hcast : (ofNat t.executed).value * hundred.value = ((100 * t.executed : ℕ) : ℚ) := by
      rw [hexecuted, value_hundred]
      push_cast
      ring
    rw [value_mul, hcast]
    · push_cast
      rfl
    · rw [hcast]
      exact fits_natCast (by omega)
  have hspec := value_div_spec (x := mul (ofNat t.executed) hundred) (y := ofNat t.statements)
    (by rw [hstatements]; exact hs.ne') hq
  rw [hproduct, hstatements, le_div_iff₀ hs, div_le_iff₀ hs] at hspec
  rwa [percent, if_neg hsome]

/-- What a percentage is shown as, told by its value. -/
theorem shown_eq (p : Binary64) :
    shown p = if 0 < p.value ∧ p.value < 1 then 1
      else if 99 < p.value ∧ p.value < 100 then 99 else ⌊p.value + 1 / 2⌋₊ := by
  have hzero : (ofNat 0).value = 0 := by simpa using value_ofNat (n := 0) (by norm_num)
  have hone : (ofNat 1).value = 1 := by simpa using value_ofNat (n := 1) (by norm_num)
  have hlast : (ofNat 99).value = 99 := by simpa using value_ofNat (n := 99) (by norm_num)
  simp only [shown, Bool.and_eq_true, lt_iff, hzero, hone, hlast, value_hundred, nearest_eq]

/-- Where some lines have run and some have not, the nearest whole number is kept away from the
    extremes. -/
theorem wholePercent_of_some (hsome : 0 < t.executed) (hran : t.executed < t.statements) :
    wholePercent t
      = max 1 (min 99 ((200 * t.executed + t.statements) / (2 * t.statements))) := by
  have hpos : 0 < 2 * t.statements := by omega
  have hlow : 1 ≤ (200 * t.executed + t.statements) / (2 * t.statements) ↔
      t.statements ≤ 200 * t.executed := by
    rw [Nat.le_div_iff_mul_le hpos]
    omega
  have hhigh : (200 * t.executed + t.statements) / (2 * t.statements) < 100 ↔
      200 * t.executed < 199 * t.statements := by
    rw [Nat.div_lt_iff_lt_mul hpos]
    omega
  have hmiddle : (200 * t.executed + t.statements) / (2 * t.statements) < 2 ↔
      200 * t.executed < 3 * t.statements := by
    rw [Nat.div_lt_iff_lt_mul hpos]
    omega
  have hlast : 99 ≤ (200 * t.executed + t.statements) / (2 * t.statements) ↔
      197 * t.statements ≤ 200 * t.executed := by
    rw [Nat.le_div_iff_mul_le hpos]
    omega
  unfold wholePercent
  rw [if_neg (by omega), if_neg (by omega)]
  split_ifs
  all_goals omega

/-- If nothing has run, nothing is shown. -/
theorem wholePercent_of_none (hsome : 0 < t.statements) (hnone : t.executed = 0) :
    wholePercent t = 0 := by
  rw [wholePercent, if_neg (by omega), if_pos hnone]

theorem wholePercent_of_all (hall : t.executed = t.statements) : wholePercent t = 100 := by
  rw [wholePercent, if_pos (.inr hall)]

theorem wholePercent_eq_hundred_iff (hran : t.executed ≤ t.statements)
    (hsome : 0 < t.statements) : wholePercent t = 100 ↔ t.executed = t.statements := by
  refine ⟨fun h => ?_, wholePercent_of_all⟩
  by_contra hpart
  rcases Nat.eq_zero_or_pos t.executed with hnone | hfirst
  · rw [wholePercent_of_none hsome hnone] at h
    cases h
  · rw [wholePercent_of_some hfirst (by omega)] at h
    omega

theorem wholePercent_eq_zero_iff (hran : t.executed ≤ t.statements)
    (hsome : 0 < t.statements) : wholePercent t = 0 ↔ t.executed = 0 := by
  refine ⟨fun h => ?_, wholePercent_of_none hsome⟩
  by_contra hnone
  by_cases hall : t.executed = t.statements
  · rw [wholePercent_of_all hall] at h
    cases h
  · rw [wholePercent_of_some (by omega) (by omega)] at h
    omega

/-- The more lines have run, the larger the whole percentage is. -/
theorem wholePercent_mono {statements executed more : ℕ} (hmore : executed ≤ more)
    (hran : more ≤ statements) :
    wholePercent ⟨statements, executed⟩ ≤ wholePercent ⟨statements, more⟩ := by
  by_cases hall : executed = statements
  · rw [show more = executed by omega]
  rcases Nat.eq_zero_or_pos executed with hnone | hsome
  · rw [wholePercent_of_none (show 0 < statements by omega) hnone]
    exact Nat.zero_le _
  rw [wholePercent_of_some hsome (show executed < statements by omega)]
  by_cases hmost : more = statements
  · rw [wholePercent_of_all (t := ⟨statements, more⟩) hmost]
    omega
  · rw [wholePercent_of_some (t := ⟨statements, more⟩) (show 0 < more by omega)
      (show more < statements by omega)]
    have hquotient : (200 * executed + statements) / (2 * statements)
        ≤ (200 * more + statements) / (2 * statements) := Nat.div_le_div_right (by omega)
    exact max_le_max le_rfl (min_le_min le_rfl hquotient)

section Rounding

/-! ## Half-way numbers

The extremes are among them. Half of `k` has a double, and so have the numbers `1 / 2 ^ 41` above
and below it, with no exact percentage strictly between. -/

variable {k : ℕ}

theorem fits_half (hk : k ≤ 201) : Fits (k / 2) :=
  ⟨k, -1, by omega, by norm_num, by norm_num [div_eq_mul_inv]⟩

theorem fits_above_half (hk : k ≤ 201) : Fits (k / 2 + 1 / 2 ^ 41) := by
  refine ⟨k * 2 ^ 40 + 1, -41, by omega, by norm_num, ?_⟩
  push_cast
  norm_num
  ring

theorem fits_below_half (hpos : 0 < k) (hk : k ≤ 201) : Fits (k / 2 - 1 / 2 ^ 41) := by
  refine ⟨k * 2 ^ 40 - 1, -41, by omega, by norm_num, ?_⟩
  rw [Nat.cast_sub (by omega)]
  push_cast
  norm_num
  ring

variable (hran : t.executed ≤ t.statements) (hfew : t.statements ≤ 2 ^ 40)
  (hsome : t.statements ≠ 0)

include hran hfew hsome

/-- The percentage is below a half-way number just if the exact one is. -/
theorem percent_lt_half_iff (hk : k ≤ 201) :
    t.percent.value < k / 2 ↔ 200 * t.executed < k * t.statements := by
  have hbound : (t.statements : ℚ) ≤ 2 ^ 40 := by exact_mod_cast hfew
  constructor
  · intro hlt
    by_contra hge
    have hle : (k : ℚ) * t.statements ≤ 200 * t.executed := by exact_mod_cast not_lt.1 hge
    have := (value_percent_spec hran hfew hsome (fits_half hk)).1 (by linarith)
    linarith
  · intro hlt
    have hpos : 0 < k := Nat.pos_of_ne_zero fun h => by simp [h] at hlt
    have hle : (200 : ℚ) * t.executed + 1 ≤ k * t.statements := by exact_mod_cast hlt
    have := (value_percent_spec hran hfew hsome (fits_below_half hpos hk)).2 (by linarith)
    linarith

/-- The percentage is above a half-way number just if the exact one is. -/
theorem half_lt_percent_iff (hk : k ≤ 201) :
    k / 2 < t.percent.value ↔ k * t.statements < 200 * t.executed := by
  have hbound : (t.statements : ℚ) ≤ 2 ^ 40 := by exact_mod_cast hfew
  constructor
  · intro hlt
    by_contra hge
    have hle : (200 : ℚ) * t.executed ≤ k * t.statements := by exact_mod_cast not_lt.1 hge
    have := (value_percent_spec hran hfew hsome (fits_half hk)).2 (by linarith)
    linarith
  · intro hlt
    have hle : (k : ℚ) * t.statements + 1 ≤ 200 * t.executed := by exact_mod_cast hlt
    have := (value_percent_spec hran hfew hsome (fits_above_half hk)).1 (by linarith)
    linarith

/-- Rounding a percentage to a whole number gives what rounding the exact one gives. -/
theorem floor_percent :
    ⌊t.percent.value + 1 / 2⌋₊
      = (200 * t.executed + t.statements) / (2 * t.statements) := by
  set n := (200 * t.executed + t.statements) / (2 * t.statements) with hn
  have hpos : 0 < 2 * t.statements := by omega
  have hle : n * (2 * t.statements) ≤ 200 * t.executed + t.statements := Nat.div_mul_le_self _ _
  have hlt : 200 * t.executed + t.statements < (n + 1) * (2 * t.statements) :=
    Nat.lt_mul_of_div_lt (Nat.lt_succ_self n) hpos
  have hlarge : n ≤ 100 := by
    refine Nat.lt_succ_iff.1 ((Nat.div_lt_iff_lt_mul hpos).2 ?_)
    omega
  have habove : t.percent.value < ((2 * n + 1 : ℕ) : ℚ) / 2 :=
    (percent_lt_half_iff hran hfew hsome (by omega)).2 (by nlinarith)
  push_cast at habove
  refine (Nat.floor_eq_iff (by linarith [t.percent.value_nonneg])).2 ⟨?_, by linarith⟩
  by_contra hlow
  have hfilled : 0 < n := Nat.pos_of_ne_zero fun h => hlow (by
    rw [h, Nat.cast_zero]
    linarith [t.percent.value_nonneg])
  have hhalf : t.percent.value < ((2 * n - 1 : ℕ) : ℚ) / 2 := by
    rw [Nat.cast_sub (by omega)]
    push_cast
    linarith
  have hshort := (percent_lt_half_iff hran hfew hsome (by omega)).1 hhalf
  obtain ⟨j, hj⟩ : ∃ j, n = j + 1 := ⟨n - 1, by omega⟩
  rw [show 2 * n - 1 = 2 * j + 1 by omega] at hshort
  rw [hj] at hle
  nlinarith

omit hsome in
/-- What is shown is the whole percentage. -/
theorem shown_percent : shown t.percent = wholePercent t := by
  unfold wholePercent
  by_cases hsome : t.statements = 0
  · rw [percent, if_pos hsome, if_pos (.inl hsome)]
    decide
  have hzero := half_lt_percent_iff hran hfew hsome (k := 0) (by norm_num)
  have hone := percent_lt_half_iff hran hfew hsome (k := 2) (by norm_num)
  have hlast := half_lt_percent_iff hran hfew hsome (k := 198) (by norm_num)
  have hfull := percent_lt_half_iff hran hfew hsome (k := 200) (by norm_num)
  norm_num at hzero hone hlast hfull
  simp only [shown_eq, floor_percent hran hfew hsome, hzero, hone, hlast, hfull]
  by_cases hall : t.executed = t.statements
  · have hwhole : (200 * t.statements + t.statements) / (2 * t.statements) = 100 := by
      rw [Nat.div_eq_iff (by omega)]
      omega
    rw [if_neg (by omega), if_neg (by omega), if_pos (.inr hall), hall, hwhole]
  by_cases hnone : t.executed = 0
  · have hwhole : t.statements / (2 * t.statements) = 0 := Nat.div_eq_of_lt (by omega)
    rw [if_neg (by omega), if_neg (by omega), if_neg (by omega), if_pos hnone, hnone,
      Nat.mul_zero, Nat.zero_add, hwhole]
  rw [if_neg (show ¬(t.statements = 0 ∨ t.executed = t.statements) by omega), if_neg hnone]
  by_cases hfirst : 100 * t.executed < t.statements
  · rw [if_pos (by omega), if_pos hfirst]
  rw [if_neg (by omega), if_neg hfirst]
  by_cases hnearly : 99 * t.statements < 100 * t.executed
  · rw [if_pos (by omega), if_pos hnearly]
  · rw [if_neg (by omega), if_neg hnearly]

end Rounding

/-- Different whole numbers are shown differently. -/
theorem toString_percent_inj {m n : ℕ} : toString m ++ "%" = toString n ++ "%" ↔ m = n := by
  refine ⟨fun h => ?_, fun h => h ▸ rfl⟩
  have hdigits := String.toList_inj.2 ((String.append_left_inj "%").1 h)
  rw [Numeral.toList_toString, Numeral.toList_toString] at hdigits
  have hvalue := congrArg (Nat.ofDigitChars 10 · 0) hdigits
  simpa only [Nat.ofDigitChars_ten_toDigits] using hvalue

/-- What is shown of totals is the exact percentage, rounded to the nearest whole number, with half
    away from zero, and kept away from the extremes. All of it shows as one hundred just if there is
    nothing else, nothing as zero just if there is nothing, and more never shows as less. -/
theorem percentText_exact (t : Totals) (hran : t.executed ≤ t.statements)
    (hfew : t.statements ≤ 2 ^ 40) :
    t.percentText = toString (wholePercent t) ++ "%" ∧
    (0 < t.statements →
      (t.percentText = "100%" ↔ t.executed = t.statements) ∧
      (t.percentText = "0%" ↔ t.executed = 0)) ∧
    ∀ more, t.executed ≤ more → more ≤ t.statements →
      shown t.percent ≤ shown (percent ⟨t.statements, more⟩) := by
  have hshown := shown_percent hran hfew
  have htext : t.percentText = toString (wholePercent t) ++ "%" := by
    rw [percentText, hshown]
  refine ⟨htext, fun hsome => ⟨?_, ?_⟩, fun more hmore hbound => ?_⟩
  · rw [← wholePercent_eq_hundred_iff hran hsome, htext]
    exact toString_percent_inj (n := 100)
  · rw [← wholePercent_eq_zero_iff hran hsome, htext]
    exact toString_percent_inj (n := 0)
  · rw [hshown, shown_percent (t := ⟨t.statements, more⟩) hbound hfew]
    exact wholePercent_mono hmore hbound

/-- A half goes up, and one line of the most there can be makes the difference. -/
theorem percentText_exact_at_limits :
    (125 ≤ 1000 ∧ 1000 ≤ 2 ^ 40 ∧ percentText ⟨1000, 125⟩ = "13%") ∧
      2 ^ 40 - 1 ≤ 2 ^ 40 ∧ percentText ⟨2 ^ 40, 2 ^ 40 - 1⟩ = "99%" := by
  refine ⟨⟨by decide, by decide, ?_⟩, by decide, ?_⟩
  · rw [(percentText_exact ⟨1000, 125⟩ (by decide) (by decide)).1]
    decide
  · rw [(percentText_exact ⟨2 ^ 40, 2 ^ 40 - 1⟩ (by decide) (by decide)).1]
    decide

end Totals
end SuiteCoverage
