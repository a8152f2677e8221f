/-!
# Double precision, computed exactly

Percentages are double-precision numbers and are shown and compared as such, so every
operation on them has to round exactly as the format prescribes. Only finite numbers that are
not negative occur. Such a number is a whole mantissa times a power of two, and an operation
takes the exact quotient of two whole numbers to the nearest double; a value half-way between
two doubles goes to the one with the even mantissa.

Everything is computed on whole numbers of any size, so that what an operation does can be
reasoned about.
-/

set_option autoImplicit false

namespace SuiteCoverage

/-- The finite double `mantissa * 2 ^ exponent`. -/
structure Binary64 where
  mantissa : Nat
  exponent : Int
deriving Repr, DecidableEq

namespace Binary64

/-- The quotient of `num` and `den` to the nearest whole number; half goes to the even one. -/
def nearestEven (num den : Nat) : Nat :=
  let floor := num / den
  let twice := 2 * (num % den)
  if twice < den then floor
  else if den < twice then floor + 1
  else if floor % 2 = 0 then floor
  else floor + 1

/-- `num / (den * 2 ^ shift)` as a quotient of two whole numbers. -/
def scaled (num den : Nat) (shift : Int) : Nat × Nat :=
  if 0 ≤ shift then (num, den <<< shift.toNat) else (num <<< (-shift).toNat, den)

/-- The least mantissa of 53 bits. -/
def leadingBit : Nat := 1 <<< 52

/-- The power of two in which the quotient of `num` and `den` has a mantissa of 53 bits, or the
    least one there is. -/
def unit (num den : Nat) : Int :=
  let guess : Int := (num.log2 : Int) - (den.log2 : Int) - 52
  let (n, d) := scaled num den guess
  max (-1074) (if n < leadingBit * d then guess - 1 else guess)

/-- The double nearest to the quotient of `num` and `den`. -/
def round (num den : Nat) : Binary64 :=
  if num = 0 then ⟨0, 0⟩
  else
    let exponent := unit num den
    let (n, d) := scaled num den exponent
    let mantissa := nearestEven n d
    if mantissa = 2 * leadingBit then ⟨leadingBit, exponent + 1⟩ else ⟨mantissa, exponent⟩

/-- The value as a quotient: its numerator. -/
def num (x : Binary64) : Nat :=
  if 0 ≤ x.exponent then x.mantissa <<< x.exponent.toNat else x.mantissa

/-- The value as a quotient: its denominator. -/
def den (x : Binary64) : Nat :=
  if 0 ≤ x.exponent then 1 else 1 <<< (-x.exponent).toNat

/-- The double nearest to a whole number. -/
def ofNat (n : Nat) : Binary64 :=
  round n 1

/-- The product, rounded once. -/
def mul (x y : Binary64) : Binary64 :=
  round (x.num * y.num) (x.den * y.den)

/-- The quotient, rounded once. -/
def div (x y : Binary64) : Binary64 :=
  round (x.num * y.den) (x.den * y.num)

/-- Strict comparison of the values. -/
def lt (x y : Binary64) : Bool :=
  decide (x.num * y.den < y.num * x.den)

/-- The whole part of the value. -/
def floor (x : Binary64) : Nat :=
  x.num / x.den

/-- The nearest whole number; half goes away from zero. -/
def nearest (x : Binary64) : Nat :=
  (2 * x.num + x.den) / (2 * x.den)

/-- Whether the value is too large for the format, so that it stands for infinity there. -/
def overflows (x : Binary64) : Bool :=
  decide (x.den <<< 1024 ≤ x.num)

/-- The 64 bits of the format: exponent and mantissa, the leading bit of a normal mantissa
    left out. -/
def toBits (x : Binary64) : UInt64 :=
  if x.mantissa < leadingBit then UInt64.ofNat x.mantissa
  else UInt64.ofNat ((x.exponent + 1075).toNat * leadingBit + (x.mantissa - leadingBit))

end Binary64
end SuiteCoverage
