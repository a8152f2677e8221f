import SuiteCoverage.Shell.Format
import SuiteCoverage.Shell.Records.Program

/-!
# Values

A value is a number or a text. What was read counts as a number where it looks like one, and a
variable that nothing was assigned to is an empty text and zero.
-/

set_option autoImplicit false

namespace SuiteCoverage
namespace Shell
namespace Records

/-- A value. -/
inductive Value where
  | nothing
  | number (n : Float)
  | text (text : String)
  /-- A text that was read. -/
  | input (text : String)
deriving Inhabited

/-! ## Numbers -/

/-- The number that a quantity is. -/
def floatOf : Quantity → Float
  | .finite negative value =>
    let n := Float.ofBits value.toBits
    if negative then -n else n
  | .infinite negative => if negative then -1.0 / 0.0 else 1.0 / 0.0
  | .noNumber _ => 0.0 / 0.0

/-- The quantity that a number is. What is no number counts as negative. -/
def quantityOf (n : Float) : Quantity :=
  let bits := n.toBits.toNat
  let negative := bits >>> 63 == 1
  let exponent := (bits >>> 52) % 2048
  let fraction := bits % (1 <<< 52)
  if exponent == 2047 then (if fraction == 0 then .infinite negative else .noNumber true)
  else if exponent == 0 then .finite negative ⟨fraction, -1074⟩
  else .finite negative ⟨fraction + (1 <<< 52), (exponent : Int) - 1075⟩

/-- The whole part of a number, toward zero; the nearest of the largest numbers if there is none. -/
def wholeOf (n : Float) : Int :=
  match quantityOf n with
  | .finite negative value => if negative then -(value.floor : Int) else value.floor
  | .infinite negative => if negative then -9223372036854775808 else 9223372036854775807
  | .noNumber _ => -9223372036854775808

/-- A whole number as a number. -/
def ofWhole (n : Int) : Float :=
  let size := Float.ofBits (Binary64.ofNat n.natAbs).toBits
  if n < 0 then -size else size

/-- The whole number nearest to a number; half goes to the even one. -/
def rounded (n : Float) : Int :=
  match quantityOf n with
  | .finite negative value =>
    let size := Binary64.nearestEven value.num value.den
    if negative then -(size : Int) else size
  | _ => wholeOf n

/-- The remainder of a division toward zero, exactly. -/
def remainder (a b : Float) : Float :=
  match quantityOf a, quantityOf b with
  | .finite negative x, .finite _ y =>
    if y.mantissa == 0 then 0.0 / 0.0
    else
      let num := x.num * y.den
      let den := y.num * x.den
      let rest := num % den
      let size := Float.ofBits (Binary64.round rest (x.den * y.den)).toBits
      if negative then -size else size
  | .finite .., .infinite _ => a
  | _, _ => 0.0 / 0.0

/-- The number at the start of a text, and what follows it. -/
def numberAt (text : List Char) : Option (Float × List Char) :=
  (Quantity.read? text).map fun found => (floatOf found.quantity, found.rest)

/-- Whether a text is a number with nothing but blanks around it. -/
def looksNumeric (text : String) : Bool :=
  match text.toList.dropWhile (·.isWhitespace) with
  | [] => false
  | c :: rest =>
    -- Letters start no number that is worth a look.
    if c.isAlpha && !"iInN".toList.contains c then false
    else
      match numberAt (c :: rest) with
      | some (_, after) => after.all (·.isWhitespace)
      | none => false

/-- The number that a text starts with. -/
def numberIn (text : String) : Float := ((numberAt text.toList).map (·.1)).getD 0.0

/-- The number that a value is. -/
def Value.toNumber : Value → Float
  | nothing => 0.0
  | number n => n
  | text s => numberIn s
  | input s => numberIn s

/-! ## Writing -/

/-- The conversion behind a percent sign, and what follows it. -/
def conversionAt (format : List Char) : Option (Format.Conversion × List Char) :=
  let flags := format.takeWhile "-+ #0".toList.contains
  let afterFlags := format.drop flags.length
  let width := afterFlags.takeWhile Char.isDigit
  let afterWidth := afterFlags.drop width.length
  let number (digits : List Char) : Nat := ((String.ofList digits).toNat?).getD 0
  let (precision, rest) := match afterWidth with
    | '.' :: more =>
      let digits := more.takeWhile Char.isDigit
      (some (number digits), more.drop digits.length)
    | _ => (none, afterWidth)
  match rest.dropWhile "hlLqjzt".toList.contains with
  | kind :: after => some (⟨flags, number width, precision, kind⟩, after)
  | [] => none

/-- A number as a conversion asks for it. -/
def converted (conversion : Format.Conversion) (n : Float) : String :=
  match Format.styleOf? conversion.kind.toLower with
  | some style => conversion.quantity style (quantityOf n)
  | none =>
    let whole := wholeOf n
    let least : Int := -9223372036854775808
    let most : Int := if Format.isSigned conversion.kind then 9223372036854775807
      else 18446744073709551615
    conversion.whole (max least (min most whole))

/-- A number in a format with one directive for it. -/
def inFormat (format : String) (n : Float) : String :=
  let rec go : Nat → List Char → List Char
    | 0, text => text
    | _, [] => []
    | fuel + 1, '%' :: '%' :: rest => '%' :: go fuel rest
    | fuel + 1, '%' :: rest =>
      match conversionAt rest with
      | some (conversion, after) => (converted conversion n).toList ++ go fuel after
      | none => '%' :: rest
    | fuel + 1, c :: rest => c :: go fuel rest
  String.ofList (go (format.length + 1) format.toList)

/-- The text of a number: whole numbers are written in full, others in a format. -/
def numberText (format : String) (n : Float) : String :=
  match quantityOf n with
  | .finite negative value =>
    let whole := value.floor
    let isWhole := value.num == whole * value.den
    let most : Nat := if negative then 9223372036854775808 else 18446744073709551616
    if isWhole && whole ≤ most then
      let size := min whole 18446744073709551615
      if negative && size != 0 then "-" ++ toString size else toString size
    else inFormat format n
  | _ => inFormat format n

/-- The text of a value. -/
def Value.toText (format : String) : Value → String
  | nothing => ""
  | number n => numberText format n
  | text s => s
  | input s => s

/-! ## Asking -/

/-- Whether a value counts as true. -/
def Value.isTrue : Value → Bool
  | nothing => false
  | number n => n != 0.0
  | text s => !s.isEmpty
  | input s => if looksNumeric s then numberIn s != 0.0 else !s.isEmpty

/-- A value whose kind is settled: a text that was read is a number or not. -/
def Value.settled : Value → Value
  | input s => if looksNumeric s then .number (numberIn s) else .text s
  | value => value

/-- Whether a comparison holds of two numbers. -/
def Comparison.ofNumbers (comparison : Comparison) (a b : Float) : Bool :=
  match comparison with
  | .equal => a == b
  | .unequal => a != b
  | .less => a < b
  | .atMost => a ≤ b
  | .more => b < a
  | .atLeast => b ≤ a

/-- Whether a comparison holds of two texts. -/
def Comparison.ofTexts (comparison : Comparison) (a b : String) : Bool :=
  match comparison with
  | .equal => a == b
  | .unequal => a != b
  | .less => a < b
  | .atMost => !(b < a)
  | .more => b < a
  | .atLeast => !(a < b)

/-- Whether a comparison holds. Two values are compared as numbers unless one is a text. -/
def Comparison.holds (comparison : Comparison) (format : String) (a b : Value) : Bool :=
  let a := a.settled
  let b := b.settled
  match a, b with
  | .text text, other => comparison.ofTexts text (other.toText format)
  | other, .text text => comparison.ofTexts (other.toText format) text
  | a, b => comparison.ofNumbers a.toNumber b.toNumber

/-- What is computed from two numbers. -/
def Operation.compute (operation : Operation) (a b : Float) : Float :=
  match operation with
  | .plus => a + b
  | .minus => a - b
  | .times => a * b
  | .over => a / b
  | .modulo => remainder a b
  | .power => Float.pow a b

end Records
end Shell
end SuiteCoverage
