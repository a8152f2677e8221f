import SuiteCoverage.Number.Quantity
import SuiteCoverage.Shell.Utility.Basic

/-!
# Counting

The utility that writes numbers from one to another. Numbers are decimal fractions; all of them are
written with as many decimals as the first and the distance between them have.
-/

set_option autoImplicit false

namespace SuiteCoverage
namespace Shell
namespace Utility

open Effect

/-- A number as it is given: `scaled / 10 ^ places`. -/
structure Bound where
  scaled : Int
  places : Nat
  /-- The number of decimals that it asks for. -/
  precision : Nat
  /-- How wide it is written with that precision. -/
  width : Nat
  /-- Whether it is beyond all numbers. -/
  isInfinite : Bool

namespace Bound

/-- The width that a decimal fraction asks for: the width of its text with a digit on both sides of
    the point if there are any decimals, and with the zeros that an exponent stands for. -/
def widthOf (text : List Char) : Nat :=
  let front := text.takeWhile fun c => c != 'e' && c != 'E'
  let exponent := (Numeral.exponent? (text.drop front.length)).getD 0
  let whole := (front.takeWhile (· != '.')).length
  let fraction := (front.length - whole) - 1
  let hasDigit := (front.takeWhile (· != '.')).any Char.isDigit
  let wholeWidth := if hasDigit then whole else whole + 1
  if 0 ≤ exponent then
    let shifted := exponent.toNat
    let left := fraction - shifted
    wholeWidth + shifted + (if left = 0 then 0 else left + 1)
  else
    let more := exponent.natAbs
    wholeWidth + (fraction + more) + 1

/-- The whole number that hexadecimal digits write. -/
def ofHexadecimal? (text : List Char) : Option Bound :=
  let (negative, digits) := Numeral.splitSign text
  match digits with
  | '0' :: c :: rest =>
    if (c == 'x' || c == 'X') && !rest.isEmpty && rest.all fun d => (Quantity.hexDigit? d).isSome
    then
      let n : Int := (rest.foldl (fun n d => n * 16 + (Quantity.hexDigit? d).getD 0) 0 : Nat)
      some ⟨if negative then -n else n, 0, 0, 0, false⟩
    else none
  | _ => none

/-- The number that a text is. -/
def ofText? (text : String) : Option Bound :=
  let chars := text.toList.dropWhile fun c => c.isWhitespace || c == '+'
  match Numeral.Decimal.read? chars with
  | some d =>
    let n : Int := if d.negative then -d.mantissa else d.mantissa
    if 5000 < d.scale.natAbs then none
    else if 0 ≤ d.scale then
      some ⟨n * (Nat.pow 10 d.scale.toNat : Nat), 0, 0, widthOf chars, false⟩
    else some ⟨n, d.scale.natAbs, d.scale.natAbs, widthOf chars, false⟩
  | none =>
    match ofHexadecimal? chars with
    | some bound => some bound
    | none =>
      let (negative, name) := Numeral.splitSign chars
      if ["inf", "infinity"].contains (String.ofList name).toLower then
        let huge : Int := (Nat.pow 10 300 : Nat)
        some ⟨if negative then -huge else huge, 0, 0, 0, true⟩
      else none

/-- The number with more decimals. -/
def scaledTo (bound : Bound) (places : Nat) : Int :=
  bound.scaled * (Nat.pow 10 (places - bound.places) : Nat)

end Bound

/-! ## How numbers are written -/

/-- The text of `n / 10 ^ places` with as many decimals, and with zeros behind the sign up to a
    width. -/
def decimalText (width places : Nat) (n : Int) : String :=
  let digits := NumberStyle.widened (places + 1) (Nat.toDigits 10 n.natAbs)
  let whole := digits.take (digits.length - places)
  let fraction := digits.drop (digits.length - places)
  let body := whole ++ if fraction.isEmpty then [] else '.' :: fraction
  let sign := if n < 0 then ['-'] else []
  String.ofList (sign ++ NumberStyle.widened (width - sign.length) body)

/-- What is wrong with a format for numbers. -/
inductive FormatFlaw where
  | noDirective
  | severalDirectives
  | unknown (letter : Char)
  | openEnd
deriving DecidableEq, Repr

/-- What is wrong with a format for numbers, in words. -/
def FormatFlaw.complaint (format : String) (flaw : FormatFlaw) : String :=
  "format " ++ Quoting.name format ++
    match flaw with
    | noDirective => " has no % directive"
    | severalDirectives => " has too many % directives"
    | unknown letter => " has unknown %" ++ String.singleton letter ++ " directive"
    | openEnd => " ends in %"

/-- A format for numbers: what is written before and behind a number, and how the number is. -/
structure NumberFormat where
  front : String
  conversion : Format.Conversion
  style : NumberStyle
  back : String

/-- The text up to the next sign of percent that stands for something else, and what follows it. -/
def upToPercent : List Char → List Char × Option (List Char)
  | '%' :: '%' :: rest =>
    let (text, after) := upToPercent rest
    ('%' :: text, after)
  | '%' :: rest => ([], some rest)
  | c :: rest =>
    let (text, after) := upToPercent rest
    (c :: text, after)
  | [] => ([], none)

/-- The format that a text is. -/
def NumberFormat.ofText (text : String) : Except FormatFlaw NumberFormat :=
  match upToPercent text.toList with
  | (_, none) => .error .noDirective
  | (front, some rest) =>
    let flags := rest.takeWhile "-+#0 '".toList.contains
    let width := (rest.drop flags.length).takeWhile Char.isDigit
    let behind := rest.drop (flags.length + width.length)
    let (precision, behind) := match behind with
      | '.' :: more =>
        let digits := more.takeWhile Char.isDigit
        (some ((String.ofList digits).toNat?.getD 0), more.drop digits.length)
      | _ => ((none, behind) : Option Nat × List Char)
    let behind := if behind.head? == some 'L' then behind.drop 1 else behind
    match behind with
    | [] => .error .openEnd
    | kind :: more =>
      match Format.styleOf? kind.toLower with
      | none => .error (.unknown kind)
      | some style =>
        match upToPercent more with
        | (_, some _) => .error .severalDirectives
        | (back, none) =>
          .ok ⟨String.ofList front, ⟨flags, (String.ofList width).toNat?.getD 0, precision, kind⟩,
            style, String.ofList back⟩

/-- A number as a format asks for it. -/
def NumberFormat.apply (format : NumberFormat) (places : Nat) (n : Int) : String :=
  let quantity := (Quantity.nearest (n < 0) n.natAbs (Nat.pow 10 places)).1
  format.front ++ format.conversion.quantity format.style quantity ++ format.back

/-! ## The utility -/

/-- The options of `seq`. -/
def seqFlags : Flags :=
  ⟨['w'], "fs".toList, [("equal-width", 'w'), ("format", 'f'), ("separator", 's')]⟩

/-- Whether an argument looks like a negative number, which is no option. -/
def looksNegative (argument : String) : Bool :=
  match argument.toList with
  | '-' :: c :: _ => c.isDigit || c == '.'
  | _ => false

/-- Reads options up to the first argument that is none. -/
def seqChoice : Nat → List String → Flags.Reading
  | 0, arguments => .ok ⟨[], arguments⟩
  | fuel + 1, arguments => do
    if (arguments.head?.map looksNegative).getD true then return ⟨[], arguments⟩
    let choice ← seqFlags.readFrontUpTo 1 arguments
    if choice.options.isEmpty then return choice
    let after ← seqChoice fuel choice.operands
    return ⟨choice.options ++ after.options, after.operands⟩

/-- How many numbers are written at once. -/
def numbersAtOnce : Nat := 256

/-- Writes a number of numbers, each behind a text except for the first of all. -/
def countOn (shown : Int → String) (separator : String) (step : Int) :
    Nat → Bool → Nat → Int → Effect Unit
  | 0, _, _, _ => pure ()
  | _, _, 0, _ => pure ()
  | fuel + 1, isFirst, count, n => do
    let now := min count numbersAtOnce
    let texts := (List.range now).map fun (k : Nat) => shown (n + step * (k : Int))
    say ((if isFirst then "" else separator) ++ separator.intercalate texts)
    tick (now / 16)
    countOn shown separator step fuel false (count - now) (n + step * (now : Int))

/-- Writes the numbers from a first to a last one. -/
def countBetween (choice : Flags.Choice) (format : Option NumberFormat) (first step last : Bound) :
    Effect Unit := do
  let places := max (max first.places step.places) last.places
  let precision := max first.precision step.precision
  let distance := step.scaledTo places
  let span := last.scaledTo places - first.scaledTo places
  let count := (Int.fdiv span distance + 1).toNat
  let widthWith (bound : Bound) : Nat :=
    let point := if bound.precision = 0 && 0 < precision then 1 else 0
    let dropped := if 0 < bound.precision && precision = 0 then 1 else 0
    bound.width + precision + point - bound.precision - dropped
  let width := if choice.has 'w' then max (widthWith first) (widthWith last) else 0
  let shown (n : Int) : String :=
    match format with
    | some format => format.apply places n
    | none =>
      decimalText width precision (Int.tdiv n (Nat.pow 10 (places - precision) : Nat))
  countOn shown ((choice.value? 's').getD "\n") distance (count / numbersAtOnce + 1) true count
    (first.scaledTo places)
  if 0 < count then say "\n"
  Builtin.answer true

/-- Counts. -/
def seq (arguments : List String) : Effect Unit :=
  match seqChoice (arguments.length + 1) arguments with
  | .error flaw => blameCall flaw.complaint
  | .ok choice =>
    let format := (choice.value? 'f').map fun text =>
      (NumberFormat.ofText text).mapError (FormatFlaw.complaint text)
    let one : Bound := ⟨1, 0, 0, 1, false⟩
    let wrong := (choice.operands.take 3).find? fun text => (Bound.ofText? text).isNone
    let count (first step last : Option Bound) (stepText : String) : Effect Unit :=
      let step := step.getD one
      if step.scaled == 0 then
        blameCall ("invalid Zero increment value: " ++ Quoting.name stepText)
      else
        match format with
        | some (.error complaint) => do
          blame complaint
          setStatus 1
        | some (.ok format) =>
          if choice.has 'w' then
            blameCall "format string may not be specified when printing equal width strings"
          else countBetween choice (some format) (first.getD one) step (last.getD one)
        | none => countBetween choice none (first.getD one) step (last.getD one)
    match choice.operands, wrong with
    | [], _ => blameCall "missing operand"
    | _ :: _ :: _ :: extra :: _, _ => blameCall ("extra operand " ++ Quoting.name extra)
    | _, some text =>
      let isNoNumber := (Numeral.splitSign text.toList).2.map Char.toLower == "nan".toList
      blameCall ("invalid " ++ (if isNoNumber then "'not-a-number'" else "floating point")
        ++ " argument: " ++ Quoting.name text)
    | [last], none => count none none (Bound.ofText? last) ""
    | [first, last], none => count (Bound.ofText? first) none (Bound.ofText? last) ""
    | [first, step, last], none =>
      count (Bound.ofText? first) (Bound.ofText? step) (Bound.ofText? last) step

end Utility
end Shell
end SuiteCoverage
