import SuiteCoverage.Number.Numeral

/-!
# Quantities

A quantity is a double with a sign, or one of those values that are no numbers. A text starts with
a quantity if its first characters write one: a decimal fraction, a hexadecimal fraction with a
power of two, or the name of a value that is no number.
-/

set_option autoImplicit false

namespace SuiteCoverage

/-- A value of the double precision format. -/
inductive Quantity where
  | finite (negative : Bool) (value : Binary64)
  | infinite (negative : Bool)
  | noNumber (negative : Bool)
deriving DecidableEq, Repr

namespace Quantity

/-- A quantity at the start of a text. -/
structure Found where
  quantity : Quantity
  /-- Whether the format has no value near the one that is written. -/
  isOutOfRange : Bool
  /-- What follows the quantity. -/
  rest : List Char

/-- The quantity nearest to a quotient, and whether the format has none near it. -/
def nearest (negative : Bool) (num den : Nat) : Quantity × Bool :=
  let value := Binary64.round num den
  if value.overflows then (.infinite negative, true)
  else
    let isExact := decide (value.num * den = num * value.den)
    (.finite negative value, value.mantissa < Binary64.leadingBit && !isExact)

/-- The quantity nearest to a decimal fraction. The extreme cases are decided without writing out
    a huge power. -/
def ofDecimal (d : Numeral.Decimal) : Quantity × Bool :=
  if d.mantissa = 0 then (.finite d.negative ⟨0, 0⟩, false)
  else if d.magnitude < -400 then (.finite d.negative ⟨0, 0⟩, true)
  else if 400 < d.magnitude then (.infinite d.negative, true)
  else nearest d.negative d.ratio.1 d.ratio.2

/-- The quantity nearest to a number times a power of two. -/
def ofBinary (negative : Bool) (mantissa : Nat) (exponent : Int) : Quantity × Bool :=
  if mantissa = 0 then (.finite negative ⟨0, 0⟩, false)
  else if exponent + mantissa.log2 < -1200 then (.finite negative ⟨0, 0⟩, true)
  else if 1200 < exponent + mantissa.log2 then (.infinite negative, true)
  else if 0 ≤ exponent then nearest negative (mantissa <<< exponent.toNat) 1
  else nearest negative mantissa (1 <<< (-exponent).toNat)

/-! ## Reading -/

/-- The exponent behind one of two letters, and what follows it. Without digits there is none. -/
def readExponent (lower upper : Char) (text : List Char) : Int × List Char :=
  match text with
  | c :: rest =>
    let (negative, after) := Numeral.splitSign rest
    let digits := after.takeWhile Char.isDigit
    if (c = lower ∨ c = upper) ∧ !digits.isEmpty then
      let size : Int := (Numeral.readDigits? 0 digits).getD 0
      (if negative then -size else size, after.drop digits.length)
    else (0, text)
  | [] => (0, text)

/-- The digits on both sides of a point, and what follows them. -/
def readDigits (isDigit : Char → Bool) (text : List Char) : List Char × List Char × List Char :=
  let whole := text.takeWhile isDigit
  match text.drop whole.length with
  | '.' :: rest =>
    let fraction := rest.takeWhile isDigit
    if whole.isEmpty && fraction.isEmpty then ([], [], text)
    else (whole, fraction, rest.drop fraction.length)
  | rest => (whole, [], rest)

/-- The value of a hexadecimal digit. -/
def hexDigit? (c : Char) : Option Nat :=
  let lower := c.toLower
  if c.isDigit then some (c.toNat - '0'.toNat)
  else if 'a' ≤ lower ∧ lower ≤ 'f' then some (lower.toNat - 'a'.toNat + 10)
  else none

/-- A hexadecimal fraction behind `0x`. -/
def readHexadecimal (negative : Bool) (text : List Char) : Option Found :=
  let (whole, fraction, rest) := readDigits (fun c => (hexDigit? c).isSome) text
  let digits := whole ++ fraction
  if digits.isEmpty then none
  else
    let mantissa := digits.foldl (fun n c => n * 16 + (hexDigit? c).getD 0) 0
    let (exponent, rest) := readExponent 'p' 'P' rest
    let (quantity, isOutOfRange) := ofBinary negative mantissa (exponent - 4 * fraction.length)
    some ⟨quantity, isOutOfRange, rest⟩

/-- A decimal fraction. -/
def readDecimal (negative : Bool) (text : List Char) : Option Found :=
  let (whole, fraction, rest) := readDigits Char.isDigit text
  let digits := whole ++ fraction
  if digits.isEmpty then none
  else
    let (exponent, rest) := readExponent 'e' 'E' rest
    let mantissa := (Numeral.readDigits? 0 digits).getD 0
    let (quantity, isOutOfRange) := ofDecimal ⟨negative, mantissa, exponent - fraction.length⟩
    some ⟨quantity, isOutOfRange, rest⟩

/-- What follows a name at the start of a text, in letters of either case. -/
def afterName? (name : String) (text : List Char) : Option (List Char) :=
  if (text.take name.length).map Char.toLower = name.toList then some (text.drop name.length)
  else none

/-- What may follow the name of no number: characters in parentheses. -/
def afterPayload (text : List Char) : List Char :=
  match text with
  | '(' :: rest =>
    let inside := rest.takeWhile fun c => c.isAlphanum || c == '_'
    match rest.drop inside.length with
    | ')' :: after => after
    | _ => text
  | _ => text

/-- A value that is no number. -/
def readName (negative : Bool) (text : List Char) : Option Found :=
  match afterName? "infinity" text, afterName? "inf" text, afterName? "nan" text with
  | some rest, _, _ => some ⟨.infinite negative, false, rest⟩
  | none, some rest, _ => some ⟨.infinite negative, false, rest⟩
  | none, none, some rest => some ⟨.noNumber negative, false, afterPayload rest⟩
  | none, none, none => none

/-- The quantity at the start of a text, behind blanks. -/
def read? (text : List Char) : Option Found :=
  let (negative, text) :=
    Numeral.splitSign (text.dropWhile " \t\n\x0b\x0c\r".toList.contains)
  let hexadecimal := match text with
    | '0' :: c :: rest => if c = 'x' ∨ c = 'X' then readHexadecimal negative rest else none
    | _ => none
  (hexadecimal.orElse fun _ => readDecimal negative text).orElse fun _ => readName negative text

end Quantity

/-!
## Styles of numbers

A quantity is written with a number of decimals, in powers of ten, in the shorter of these two
forms, or in hexadecimal digits and powers of two. What has to be left out is rounded to the
nearest; half goes to the even digit.
-/

/-- A way to write quantities. -/
inductive NumberStyle where
  /-- With a number of decimals. -/
  | fixed
  /-- In powers of ten. -/
  | exponential
  /-- With a number of digits that count, in the shorter form. -/
  | general
  /-- In hexadecimal digits and powers of two. -/
  | hexadecimal
deriving DecidableEq, Repr

namespace NumberStyle

/-- Digits with zeros in front of them. -/
def widened (width : Nat) (digits : List Char) : List Char :=
  List.replicate (width - digits.length) '0' ++ digits

/-- A point and the digits behind it; `keepsPoint` tells that a point is written anyway. -/
def withPoint (keepsPoint : Bool) (fraction : List Char) : List Char :=
  if fraction.isEmpty && !keepsPoint then [] else '.' :: fraction

/-- Digits without the zeros at their end. -/
def trimmed (digits : List Char) : List Char :=
  (digits.reverse.dropWhile (· == '0')).reverse

/-- The digits before and behind the point of a quotient with a number of decimals. -/
def fixedDigits (decimals num den : Nat) : List Char × List Char :=
  let scaled := Binary64.nearestEven (num * Nat.pow 10 decimals) den
  let digits := widened (decimals + 1) (Nat.toDigits 10 scaled)
  (digits.take (digits.length - decimals), digits.drop (digits.length - decimals))

/-- A quotient divided by a power of ten. -/
def scaledByTen (power : Int) (num den : Nat) : Nat × Nat :=
  if 0 ≤ power then (num, den * Nat.pow 10 power.toNat)
  else (num * Nat.pow 10 (-power).toNat, den)

/-- The largest power of ten that is not above a quotient. -/
def powerOfTen (num den : Nat) : Int :=
  let guess : Int := (Nat.toDigits 10 num).length - (Nat.toDigits 10 den).length
  let (n, d) := scaledByTen guess num den
  if n < d then guess - 1 else guess

/-- The digits that count of a quotient that is not zero, `more` of them behind the first, and the
    power of ten of the first. -/
def leadingDigits (more num den : Nat) : List Char × Int :=
  let power := powerOfTen num den
  let (n, d) := scaledByTen (power - more) num den
  let rounded := Nat.toDigits 10 (Binary64.nearestEven n d)
  if rounded.length ≤ more + 1 then (rounded, power) else (rounded.take (more + 1), power + 1)

/-- The digits that count of any quotient. -/
def digitsOf (more num den : Nat) : List Char × Int :=
  if num = 0 then (List.replicate (more + 1) '0', 0) else leadingDigits more num den

/-- An exponent behind its letter, with its sign and at least as many digits as asked for. -/
def exponentText (letter : Char) (width : Nat) (power : Int) : List Char :=
  [letter, if power < 0 then '-' else '+'] ++ widened width (Nat.toDigits 10 power.natAbs)

/-- A quotient in powers of ten, from its digits. -/
def exponentialText (keepsPoint : Bool) (digits : List Char) (power : Int) : List Char :=
  digits.take 1 ++ withPoint keepsPoint (digits.drop 1) ++ exponentText 'e' 2 power

/-- A quotient with as many digits that count as asked for, in the shorter form. Zeros at the end
    are kept only if a point is written anyway. -/
def generalText (keepsPoint : Bool) (count num den : Nat) : List Char :=
  let (digits, power) := digitsOf (count - 1) num den
  let kept (text : List Char) : List Char := if keepsPoint then text else trimmed text
  if power < -4 ∨ (count : Int) ≤ power then
    exponentialText keepsPoint (digits.take 1 ++ kept (digits.drop 1)) power
  else
    let (whole, fraction) := fixedDigits (count - 1 - power).toNat num den
    whole ++ withPoint keepsPoint (kept fraction)

/-- The number of hexadecimal digits behind the point of a double. -/
def hexadecimalPlaces : Nat := 13

/-- A double in hexadecimal digits: the leading bit, the others behind the point, and the power of
    two. -/
def hexadecimalText (keepsPoint : Bool) (places : Option Nat) (value : Binary64) : List Char :=
  let isNormal := Binary64.leadingBit ≤ value.mantissa
  let power : Int :=
    if value.mantissa = 0 then 0 else if isNormal then value.exponent + 52 else -1022
  let rounded := match places with
    | some n =>
      if n < hexadecimalPlaces then
        Binary64.nearestEven value.mantissa (1 <<< (4 * (hexadecimalPlaces - n)))
          <<< (4 * (hexadecimalPlaces - n))
      else value.mantissa
    | none => value.mantissa
  let first := rounded / Binary64.leadingBit
  let digits := widened hexadecimalPlaces (Nat.toDigits 16 (rounded % Binary64.leadingBit))
  let fraction := match places with
    | some n => digits.take n ++ List.replicate (n - hexadecimalPlaces) '0'
    | none => trimmed digits
  "0x".toList ++ Nat.toDigits 10 first ++ withPoint keepsPoint fraction
    ++ exponentText 'p' 1 power

/-- A number without its sign in a style, with the usual precision unless another is given. -/
def text (keepsPoint : Bool) (precision : Option Nat) (value : Binary64) :
    NumberStyle → List Char
  | fixed =>
    let (whole, fraction) := fixedDigits (precision.getD 6) value.num value.den
    whole ++ withPoint keepsPoint fraction
  | exponential =>
    let (digits, power) := digitsOf (precision.getD 6) value.num value.den
    exponentialText keepsPoint digits power
  | general => generalText keepsPoint (max 1 (precision.getD 6)) value.num value.den
  | hexadecimal => hexadecimalText keepsPoint precision value

end NumberStyle
end SuiteCoverage
