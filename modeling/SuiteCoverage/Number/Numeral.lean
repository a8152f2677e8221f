import SuiteCoverage.Number.Binary64

/-!
# Numerals in traces

Line numbers and hit counts are written as decimal numerals. A plain numeral is one or more
ASCII digits, possibly after a plus sign. A hit count may also be a decimal fraction with an
exponent, as tools write it that keep their counts in double precision; such a count is the
whole part of the nearest double, at most the largest count there is.
-/

set_option autoImplicit false

namespace SuiteCoverage
namespace Numeral

/-- The value of an ASCII digit. -/
def digit? (c : Char) : Option Nat :=
  if c.isDigit then some (c.toNat - '0'.toNat) else none

/-- The number that `digits` write after a number `soFar` has been read, if all are digits. -/
def readDigits? (soFar : Nat) : List Char → Option Nat
  | [] => some soFar
  | c :: rest =>
    match digit? c with
    | some d => readDigits? (soFar * 10 + d) rest
    | none => none

/-- A plain numeral: digits, at least one, with or without a plus sign before them. -/
def natural? : List Char → Option Nat
  | [] => none
  | ['+'] => none
  | '+' :: digits => readDigits? 0 digits
  | digits => readDigits? 0 digits

/-- A plain numeral whose value is below `limit`. -/
def naturalBelow? (limit : Nat) (text : List Char) : Option Nat :=
  (natural? text).filter (· < limit)

/-! ## Decimal fractions -/

/-- The number `mantissa * 10 ^ scale`, negated if `negative`. -/
structure Decimal where
  negative : Bool
  mantissa : Nat
  scale : Int

/-- Splits a sign off: whether it was a minus sign, and what follows. -/
def splitSign : List Char → Bool × List Char
  | '-' :: rest => (true, rest)
  | '+' :: rest => (false, rest)
  | text => (false, text)

/-- An exponent: nothing at all, or `e` and a signed run of digits that goes to the end. -/
def exponent? : List Char → Option Int
  | [] => some 0
  | c :: rest =>
    if c = 'e' ∨ c = 'E' then
      match splitSign rest with
      | (_, []) => none
      | (negative, digits) =>
        (readDigits? 0 digits).map fun n => if negative then -(n : Int) else n
    else none

/-- A decimal fraction: a sign, digits with a point among, before or behind them, and an
    exponent. -/
def Decimal.read? (text : List Char) : Option Decimal :=
  let (negative, text) := splitSign text
  let whole := text.takeWhile Char.isDigit
  let rest := text.dropWhile Char.isDigit
  let (fraction, rest) :=
    match rest with
    | '.' :: rest => (rest.takeWhile Char.isDigit, rest.dropWhile Char.isDigit)
    | rest => ([], rest)
  if whole.isEmpty && fraction.isEmpty then none
  else
    match readDigits? 0 (whole ++ fraction), exponent? rest with
    | some mantissa, some exponent => some ⟨negative, mantissa, exponent - fraction.length⟩
    | _, _ => none

/-- The absolute value as a quotient of two whole numbers. -/
def Decimal.ratio (d : Decimal) : Nat × Nat :=
  if 0 ≤ d.scale then (d.mantissa * Nat.pow 10 d.scale.toNat, 1)
  else (d.mantissa, Nat.pow 10 (-d.scale).toNat)

/-- The power of ten just above the absolute value. It decides the extreme cases without
    writing out a huge power. -/
def Decimal.magnitude (d : Decimal) : Int :=
  (Nat.toDigits 10 d.mantissa).length + d.scale

/-- The largest hit count there is. -/
def maxCount : Nat := UInt64.size - 1

/-- The hit count that a decimal fraction stands for: the whole part of the nearest double.
    A negative number counts only if it is so small that the nearest double is zero, and a
    number whose nearest double would be infinite does not count. -/
def Decimal.count? (d : Decimal) : Option Nat :=
  if d.mantissa = 0 then some 0
  else if d.magnitude < -400 then some 0
  else if d.negative then
    if 0 < d.magnitude then none
    else
      let (num, den) := d.ratio
      if num <<< 1075 ≤ den then some 0 else none
  else if d.magnitude < 0 then some 0
  else if 400 < d.magnitude then none
  else
    let (num, den) := d.ratio
    let value := Binary64.round num den
    if value.overflows then none else some (min value.floor maxCount)

/-- A hit count: a plain numeral that fits 64 bits, or else a decimal fraction. -/
def count? (text : List Char) : Option Nat :=
  match naturalBelow? UInt64.size text with
  | some n => some n
  | none => (Decimal.read? text).bind Decimal.count?

end Numeral
end SuiteCoverage
