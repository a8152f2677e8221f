import SuiteCoverage.Number.Quantity
import SuiteCoverage.Calendar
import SuiteCoverage.Shell.Extended.Escape
import SuiteCoverage.Shell.Quoting
import SuiteCoverage.Text.Column

/-!
# Escapes and formats

What `echo` and `printf` make of their arguments. A backslash introduces the characters that
cannot be written otherwise, among them any byte by its octal number. A format is used again as
long as arguments are left.

The shell has these commands of its own, and there are programs of the same names. They differ in
the escapes that they know and in their words for what is wrong.
-/

set_option autoImplicit false

namespace SuiteCoverage
namespace Shell
namespace Format

/-- Who writes. -/
inductive Writer where
  | shell
  | program
  /-- The extended shell. -/
  | extended
deriving DecidableEq, Repr

/-- The character that a letter behind a backslash stands for. -/
def escape? : Char → Option Char
  | 'a' => some '\x07'
  | 'b' => some '\x08'
  | 'e' => some '\x1b'
  | 'f' => some '\x0c'
  | 'n' => some '\n'
  | 'r' => some '\r'
  | 't' => some '\t'
  | 'v' => some '\x0b'
  | '\\' => some '\\'
  | _ => none

/-- The bytes that encode the character with a code. -/
def encoded (code : Nat) : List Char :=
  (String.singleton (Char.ofNat code)).toUTF8.toList.map fun byte => Char.ofNat byte.toNat

/-- The characters behind a backslash and how many characters they take; the backslash itself if
    nothing follows that it belongs to. -/
def escaped (writer : Writer) : List Char → List Char × Nat
  | [] => (['\\'], 0)
  | c :: rest =>
    if writer = .extended then (Extended.Escape.read? .format (c :: rest)).getD (['\\'], 0)
    else if Digits.isOctal c then
      let digits := ((c :: rest).takeWhile Digits.isOctal).take 3
      ([Digits.octal digits], digits.length)
    else
      let byName : List Char × Nat := match escape? c with
        | some meant => ([meant], 1)
        | none => (['\\'], 0)
      let byCode (most : Nat) (encode : Nat → List Char) : List Char × Nat :=
        let (code, count) := Digits.hexadecimal most rest
        if count = 0 then byName else (encode code, count + 1)
      match writer, c with
      | .program, 'x' => byCode 2 fun code => [Char.ofNat code]
      | .program, 'u' => byCode 4 encoded
      | .program, 'U' => byCode 8 encoded
      | .program, '"' => (['"'], 1)
      | _, _ => byName

/-- The text of an argument in which escapes count, and whether writing goes on after it. -/
def expandFrom (writer : Writer) : Nat → List Char → List Char × Bool
  | 0, _ => ([], true)
  | _, [] => ([], true)
  | fuel + 1, '\\' :: rest =>
    if rest.head? == some 'c' then ([], false)
    else
      let leading := rest.head? == some '0' && (rest.drop 1).head?.any Digits.isOctal
      let rest := if leading then rest.drop 1 else rest
      let (meant, length) := escaped writer rest
      let (more, goesOn) := expandFrom writer fuel (rest.drop length)
      (meant ++ more, goesOn)
  | fuel + 1, c :: rest =>
    let (more, goesOn) := expandFrom writer fuel rest
    (c :: more, goesOn)

/-- The text of an argument in which escapes count, and whether writing goes on after it. -/
def expand (writer : Writer) (text : String) : String × Bool :=
  if writer = .extended then Extended.Escape.expand .piece text
  else
  let (chars, goesOn) := expandFrom writer (text.length + 1) text.toList
  (String.ofList chars, goesOn)

/-- What `echo` writes, with a line end behind it or not, and with escapes or as it is. -/
def echoed (writer : Writer) (ends escapes : Bool) (words : List String) : String :=
  let all := " ".intercalate words
  let (text, goesOn) := if escapes then expand writer all else (all, true)
  if ends && goesOn then text ++ "\n" else text

/-- What the `echo` of the shell writes. -/
def echo (arguments : List String) : String :=
  match arguments with
  | "-n" :: rest => echoed .shell false true rest
  | all => echoed .shell true true all

/-- What the program `echo` writes. Escapes count only if it is asked for. -/
def echoProgram (arguments : List String) : String :=
  let isOption (word : String) : Bool :=
    match word.toList with
    | '-' :: c :: rest => (c :: rest).all "neE".toList.contains
    | _ => false
  let options := (arguments.takeWhile isOption).flatMap fun word => word.toList.drop 1
  let escapes := (options.filter (· != 'n')).getLast? == some 'e'
  let words := arguments.dropWhile isOption
  echoed .program (!options.contains 'n') escapes words

/-! ## Formats -/

/-- A width or a precision in a format. -/
inductive Measure where
  | given (n : Nat)
  /-- The next argument. -/
  | argument
deriving DecidableEq, Repr

/-- What a conversion asks for; `width` and `precision` are what a format says about them. -/
structure Directive where
  flags : List Char
  width : Measure
  precision : Option Measure
  kind : Char

/-- A conversion with its measures. -/
structure Conversion where
  flags : List Char
  width : Nat
  precision : Option Nat
  kind : Char

/-- What has been written, the arguments that are left, and how it went. -/
structure Printing where
  output : List Char
  arguments : List String
  /-- Whether any argument has been taken. -/
  used : Bool
  complaints : List String
  goesOn : Bool
  /-- Whether the format was found to be wrong. -/
  isAbandoned : Bool
  /-- Whether any complaint is more than a warning. -/
  isFailed : Bool
  /-- The time, in seconds, for formats that ask for it. -/
  now : Int

/-- The digits of a number in a base. -/
def digitsOf (base : Nat) (upper : Bool) (n : Nat) : String :=
  let text := String.ofList (Nat.toDigits base n)
  if upper then text.toUpper else text

/-- Brings a text to the width that a conversion asks for. -/
def Conversion.pad (conversion : Conversion) (text : String) : String :=
  if conversion.flags.contains '-' then Text.padRight conversion.width text
  else Text.padLeft conversion.width text

/-- Whether numbers of a kind have a sign. -/
def isSigned (kind : Char) : Bool := kind == 'd' || kind == 'i'

/-- The sign in front of a number, as a conversion asks for it. -/
def Conversion.sign (conversion : Conversion) (negative : Bool) : String :=
  if negative then "-"
  else if conversion.flags.contains '+' then "+"
  else if conversion.flags.contains ' ' then " "
  else ""

/-- Zeros up to the width that a conversion asks for, if it asks for zeros. -/
def Conversion.zeros (conversion : Conversion) (taken : Nat) : String :=
  if conversion.flags.contains '0' && !conversion.flags.contains '-' then
    String.ofList (List.replicate (conversion.width - taken) '0')
  else ""

/-- The text of a whole number as a conversion asks for it. -/
def Conversion.whole (conversion : Conversion) (n : Int) : String :=
  let unsigned := (n % (UInt64.size : Nat)).toNat
  let signed := isSigned conversion.kind
  let size := if signed then n.natAbs else unsigned
  let digits := match conversion.kind with
    | 'x' => digitsOf 16 false size
    | 'X' => digitsOf 16 true size
    | 'o' => digitsOf 8 false size
    | _ => toString size
  let digits := if conversion.precision == some 0 && size == 0 then "" else digits
  let sign :=
    if signed then conversion.sign (n < 0)
    else if conversion.flags.contains '#' && size != 0 then
      match conversion.kind with
      | 'x' => "0x"
      | 'X' => "0X"
      | _ => ""
    else ""
  let zeros := match conversion.precision with
    | some p => String.ofList (List.replicate (p - digits.length) '0')
    | none => conversion.zeros (sign.length + digits.length)
  let isPlainOctal := conversion.kind == 'o' && conversion.flags.contains '#'
  let leading := if isPlainOctal && !(zeros ++ digits).startsWith "0" then "0" else ""
  conversion.pad (sign ++ (zeros.drop leading.length).toString ++ leading ++ digits)

/-- A number in the range of its kind. Numbers without a sign may be written with one and then
    wrap around. -/
def inRange? (kind : Char) (n : Int) : Option Int :=
  let size : Int := UInt64.size
  if isSigned kind then if -size ≤ 2 * n ∧ 2 * n < size then some n else none
  else if -size < n ∧ n < size then some n else none

/-- The number nearest to one that is out of the range of its kind. -/
def nearest (kind : Char) (n : Int) : Int :=
  let size : Int := UInt64.size
  if !isSigned kind then size - 1 else if n < 0 then -size / 2 else size / 2 - 1

/-- What is wrong with a number. -/
inductive NumberFlaw where
  | noNumber
  | notWhole
  | outOfRange
deriving DecidableEq, Repr

/-- What is wrong with the number that a text should be, in the words of who writes. -/
def NumberFlaw.complaint (writer : Writer) (text : String) : NumberFlaw → String
  | noNumber => match writer with
    | .shell => text ++ ": expected numeric value"
    | .program => Quoting.name text ++ ": expected a numeric value"
    | .extended => text ++ ": invalid number"
  | notWhole => match writer with
    | .shell => text ++ ": not completely converted"
    | .program => Quoting.name text ++ ": value not completely converted"
    | .extended => text ++ ": invalid number"
  | outOfRange => match writer with
    | .shell => text ++ ": Numerical result out of range"
    | .program => Quoting.name text ++ ": Numerical result out of range"
    | .extended => "warning: " ++ text ++ ": Numerical result out of range"

/-- The code of the character behind a quote at the start of a text. -/
def quotedCode? (text : String) : Option Nat :=
  match text.toList with
  | '\'' :: rest => some (rest.headD '\x00').toNat
  | '"' :: rest => some (rest.headD '\x00').toNat
  | _ => none

/-- The whole number that an argument is, and what is wrong with it. A quoted character counts as
    its code; an argument that starts like a number counts as that. -/
def wholeOf (kind : Char) (text : String) : Int × Option NumberFlaw :=
  match quotedCode? text with
  | some code => (code, none)
  | none =>
    let chars := text.toList.dropWhile Arithmetic.isBlank
    let signed := chars.head? == some '-' || chars.head? == some '+'
    let unsigned := if signed then chars.drop 1 else chars
    let (base, start, digits) := Arithmetic.numeralOf unsigned
    let size : Int := (Arithmetic.digits? base digits).getD 0
    let n := if chars.head? == some '-' then -size else size
    let flaw :=
      if digits.isEmpty then if text.isEmpty then none else some .noNumber
      else if !(unsigned.drop (start + digits.length)).isEmpty then some .notWhole
      else if (inRange? kind n).isNone then some .outOfRange
      else none
    ((inRange? kind n).getD (nearest kind n), flaw)

/-- The style of numbers that are no whole numbers, by the letter of the conversion in lower
    case. -/
def styleOf? : Char → Option NumberStyle
  | 'f' => some .fixed
  | 'e' => some .exponential
  | 'g' => some .general
  | 'a' => some .hexadecimal
  | _ => none

/-- The quantity that an argument is, and what is wrong with it. -/
def quantityOf (text : String) : Quantity × Option NumberFlaw :=
  let zero : Quantity := .finite false ⟨0, 0⟩
  match quotedCode? text with
  | some code => (.finite false (Binary64.ofNat code), none)
  | none =>
    match Quantity.read? text.toList with
    | none => (zero, if text.isEmpty then none else some .noNumber)
    | some found =>
      (found.quantity,
        if !found.rest.isEmpty then some .notWhole
        else if found.isOutOfRange then some .outOfRange
        else none)

/-- The text of a quantity as a conversion asks for it. -/
def Conversion.quantity (conversion : Conversion) (style : NumberStyle) (quantity : Quantity) :
    String :=
  let cased (text : String) : String := if conversion.kind.isUpper then text.toUpper else text
  match quantity with
  | .infinite negative => conversion.pad (conversion.sign negative ++ cased "inf")
  | .noNumber negative => conversion.pad (conversion.sign negative ++ cased "nan")
  | .finite negative value =>
    let sign := conversion.sign negative
    let body :=
      String.ofList (style.text (conversion.flags.contains '#') conversion.precision value)
    let front := if style = .hexadecimal then 2 else 0
    let zeros := conversion.zeros (sign.length + body.length)
    conversion.pad (cased
      (sign ++ (body.take front).toString ++ zeros ++ (body.drop front).toString))

/-- The measure at the start of a text, and what follows it. -/
def measureOf (text : List Char) : Measure × List Char :=
  match text with
  | '*' :: rest => (.argument, rest)
  | _ =>
    let digits := text.takeWhile Char.isDigit
    (.given ((String.ofList digits).toNat?.getD 0), text.drop digits.length)

/-- The letters in front of a kind that say nothing. -/
def sizeLetters (writer : Writer) : List Char :=
  match writer with
  | .shell => []
  | .program => "hlLjzt".toList
  | .extended => "hlLjzt".toList

/-- The directive behind a percent sign, and what follows it. -/
def directiveOf? (writer : Writer) (text : List Char) : Option (Directive × List Char) :=
  let flags := text.takeWhile "-+ 0#".toList.contains
  let (width, text) := measureOf (text.drop flags.length)
  let (precision, text) := match text with
    | '.' :: rest => ((some (measureOf rest).1, (measureOf rest).2) : Option Measure × List Char)
    | _ => (none, text)
  match text.dropWhile (sizeLetters writer).contains with
  | kind :: rest => some (⟨flags, width, precision, kind⟩, rest)
  | [] => none

/-- Takes the next argument. -/
def Printing.take (printing : Printing) : String × Printing :=
  (printing.arguments.head?.getD "",
    { printing with arguments := printing.arguments.drop 1, used := true })

/-- Takes the next argument for a number. -/
def Printing.takeWhole (writer : Writer) (kind : Char) (printing : Printing) : Int × Printing :=
  let (argument, taken) := printing.take
  let (n, flaw) := wholeOf kind argument
  (n, { taken with
    isFailed := printing.isFailed || flaw.any (· != .outOfRange)
    complaints := printing.complaints
      ++ (flaw.map (NumberFlaw.complaint writer argument)).toList })

/-- The value of a measure. -/
def Printing.measure (writer : Writer) (measure : Measure) (printing : Printing) :
    Int × Printing :=
  match measure with
  | .given n => (n, printing)
  | .argument => printing.takeWhole writer 'd'

/-- The conversion that a directive asks for. A negative width puts the blanks behind the text,
    and a negative precision is none. -/
def Printing.conversionOf (writer : Writer) (directive : Directive) (printing : Printing) :
    Conversion × Printing :=
  let (width, printing) := printing.measure writer directive.width
  let (precision, printing) := match directive.precision with
    | none => ((none, printing) : Option Int × Printing)
    | some measure =>
      let (n, after) := printing.measure writer measure
      (if n < 0 then none else some n, after)
  let flags := if width < 0 then '-' :: directive.flags else directive.flags
  (⟨flags, width.natAbs, precision.map Int.toNat, directive.kind⟩, printing)

/-- Writes the next argument as a conversion asks for it. -/
def Printing.convert (writer : Writer) (printing : Printing) (conversion : Conversion) :
    Printing :=
  let (argument, taken) := printing.take
  let write (printing : Printing) (text : String) : Printing :=
    { printing with output := printing.output ++ text.toList }
  let cut (text : String) := match conversion.precision with
    | some p => String.ofList (text.toList.take p)
    | none => text
  match conversion.kind, styleOf? conversion.kind.toLower with
  | 's', _ => write taken (conversion.pad (cut argument))
  | 'q', _ =>
    let quoted := if writer = .extended then Extended.Escape.reusable argument
      else Quoting.nameIfNeeded argument
    write taken (conversion.pad (if writer = .extended then cut quoted else quoted))
  | 'Q', _ => write taken (conversion.pad (Extended.Escape.reusable (cut argument)))
  | 'c', _ =>
    write taken (conversion.pad (String.singleton (argument.toList.headD '\x00')))
  | 'b', _ =>
    let (text, goesOn) := expand writer argument
    { write taken (conversion.pad (cut text)) with goesOn }
  | _, some style =>
    let (quantity, flaw) := quantityOf argument
    let complaints :=
      printing.complaints ++ (flaw.map (NumberFlaw.complaint writer argument)).toList
    { write taken (conversion.quantity style quantity) with
      complaints
      isFailed := printing.isFailed || flaw.any (· != .outOfRange) }
  | kind, none =>
    let (n, after) := printing.takeWhole writer kind
    write after (conversion.whole n)

/-- The kinds that are known to who writes. -/
def kinds (writer : Writer) : List Char :=
  match writer with
  | .shell => "scbdiouxXfFeEgGaA".toList
  | .program => "scbqdiouxXfFeEgGaA".toList
  | .extended => "scbqQdiouxXfFeEgGaA".toList

/-- What is wrong with a directive, of which a text is what stands behind the percent sign. -/
def directiveComplaint (writer : Writer) (text : List Char) : String :=
  let shown := "%" ++ String.ofList text
  match writer with
  | .shell => if text.isEmpty then "%: missing format character" else shown ++ ": invalid directive"
  | .program => shown ++ ": invalid conversion specification"
  | .extended =>
    match text.getLast? with
    | some c => "\u0060" ++ String.singleton c ++ "': invalid format character"
    | none => "\u0060%': missing format character"

/-- Writes the time that the next argument tells, or the present one, as a format asks for it. -/
def Printing.showTime (printing : Printing) (conversion : Conversion) (format : List Char) :
    Printing :=
  let (argument, taken) := printing.take
  let (n, _) := wholeOf 'd' argument
  let seconds := if printing.arguments.isEmpty || n < 0 then printing.now else n
  let format := if format.isEmpty then "%X" else String.ofList format
  let text := (Calendar.Moment.ofSeconds seconds 0).shown 0 "UTC" format
  { taken with output := printing.output ++ (conversion.pad text).toList }

/-- Goes through a format once. -/
def pass (writer : Writer) : Nat → List Char → Printing → Printing
  | 0, _, printing => printing
  | _, [], printing => printing
  | fuel + 1, c :: rest, printing =>
    if !printing.goesOn then printing
    else
      let plain (chars : List Char) := { printing with output := printing.output ++ chars }
      let abandon (text : List Char) : Printing :=
        { printing with
          complaints := printing.complaints ++ [directiveComplaint writer text]
          goesOn := false
          isAbandoned := true
          isFailed := true }
      match c, rest with
      | '\\', 'c' :: more =>
        if writer = .program then { printing with goesOn := false }
        else pass writer fuel ('c' :: more) (plain ['\\'])
      | '\\', rest =>
        let (meant, length) := escaped writer rest
        pass writer fuel (rest.drop length) (plain meant)
      | '%', '%' :: rest => pass writer fuel rest (plain ['%'])
      | '%', rest =>
        match directiveOf? writer rest with
        | some (directive, after) =>
          let timed := after.takeWhile (· != ')')
          if writer = .extended && directive.kind = '(' && (after.drop timed.length).take 2 = [')', 'T']
          then
            let (conversion, ready) := printing.conversionOf writer directive
            pass writer fuel (after.drop (timed.length + 2)) (ready.showTime conversion timed)
          else if (kinds writer).contains directive.kind then
            let (conversion, ready) := printing.conversionOf writer directive
            pass writer fuel after (ready.convert writer conversion)
          else abandon (rest.take (rest.length - after.length))
        | none => abandon (if writer = .program then rest else [])
      | c, rest => pass writer fuel rest (plain [c])

/-- Goes through a format as long as arguments are left for it. -/
def passes (writer : Writer) (format : List Char) : Nat → Printing → Printing
  | 0, printing => printing
  | fuel + 1, printing =>
    let after := pass writer (format.length + 1) format { printing with used := false }
    if after.goesOn && after.used && !after.arguments.isEmpty then passes writer format fuel after
    else after

/-- What `printf` makes of its arguments. -/
def printf (writer : Writer) (now : Int) (format : String) (arguments : List String) : Printing :=
  passes writer format.toList (arguments.length + 1)
    ⟨[], arguments, false, [], true, false, false, now⟩

end Format
end Shell
end SuiteCoverage
