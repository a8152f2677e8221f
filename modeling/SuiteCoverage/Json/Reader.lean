import SuiteCoverage.Json.Value

/-!
# Reading JSON

A text is read as one value with nothing but blanks around it; only the space, the tab and the
two line ends are blanks. The grammar is the strict one: no comma before a closing bracket, no
leading zeros, no control characters in strings, four hexadecimal digits in a `\u` escape.

Every reader takes the text that is left and gives back what it has read and what is left then.
Values nest, so the reader of values is given a number of steps it may take; `Json.read?` gives
it as many as a text of that length can need.
-/

set_option autoImplicit false

namespace SuiteCoverage
namespace Json

/-- Whether `c` may stand around values. -/
def isSpace (c : Char) : Bool :=
  c == ' ' || c == '\t' || c == '\n' || c == '\r'

/-- The text without the blanks at its front. -/
def skip (text : List Char) : List Char :=
  text.dropWhile isSpace

/-! ## Strings -/

/-- The value of a hexadecimal digit. -/
def hexDigit? (c : Char) : Option Nat :=
  if '0' ≤ c ∧ c ≤ '9' then some (c.toNat - '0'.toNat)
  else if 'a' ≤ c ∧ c ≤ 'f' then some (c.toNat - 'a'.toNat + 10)
  else if 'A' ≤ c ∧ c ≤ 'F' then some (c.toNat - 'A'.toNat + 10)
  else none

/-- The number that four hexadecimal digits write. -/
def hexUnit? (a b c d : Char) : Option Nat :=
  match hexDigit? a, hexDigit? b, hexDigit? c, hexDigit? d with
  | some a, some b, some c, some d => some (((a * 16 + b) * 16 + c) * 16 + d)
  | _, _, _, _ => none

/-- What a backslash and one more character stand for. -/
def shortEscape? (c : Char) : Option Char :=
  if c = '"' then some '"'
  else if c = '\\' then some '\\'
  else if c = '/' then some '/'
  else if c = 'b' then some '\x08'
  else if c = 'f' then some '\x0c'
  else if c = 'n' then some '\n'
  else if c = 'r' then some '\r'
  else if c = 't' then some '\t'
  else none

/-- The code points and surrogates of a string up to its closing quote, and what follows that. -/
def readUnits? : List Char → Option (List Nat × List Char)
  | [] => none
  | '"' :: rest => some ([], rest)
  | '\\' :: 'u' :: a :: b :: c :: d :: rest =>
    match hexUnit? a b c d with
    | none => none
    | some unit => (readUnits? rest).map fun (units, after) => (unit :: units, after)
  | '\\' :: c :: rest =>
    match shortEscape? c with
    | none => none
    | some meant => (readUnits? rest).map fun (units, after) => (meant.toNat :: units, after)
  | c :: rest =>
    if c = '\\' ∨ c.toNat < 0x20 then none
    else (readUnits? rest).map fun (units, after) => (c.toNat :: units, after)

/-- The text that code points and surrogates write, if every surrogate is part of a pair. -/
def textOfUnits? : List Nat → Option (List Char)
  | [] => some []
  | unit :: rest =>
    if 0xD800 ≤ unit ∧ unit < 0xDC00 then
      match rest with
      | [] => none
      | low :: after =>
        if 0xDC00 ≤ low ∧ low < 0xE000 then
          (textOfUnits? after).map
            (Char.ofNat (0x10000 + (unit - 0xD800) * 0x400 + (low - 0xDC00)) :: ·)
        else none
    else if 0xDC00 ≤ unit ∧ unit < 0xE000 then none
    else (textOfUnits? rest).map (Char.ofNat unit :: ·)

/-- A string behind its opening quote. -/
def readString? (text : List Char) : Option (Option String × List Char) :=
  (readUnits? text).map fun (units, after) => ((textOfUnits? units).map String.ofList, after)

/-! ## Numbers -/

/-- A run of digits at the front of a text, and what follows it. -/
def spanDigits (text : List Char) : List Char × List Char :=
  (text.takeWhile Char.isDigit, text.dropWhile Char.isDigit)

/-- The part of a number before its point: zero, or digits of which the first is not zero. -/
def readWhole? (text : List Char) : Option (List Char × List Char) :=
  match spanDigits text with
  | ([], _) => none
  | ('0' :: _ :: _, _) => none
  | (digits, rest) => some (digits, rest)

/-- The part of a number behind its point, with the point; nothing if there is none. -/
def readFraction? : List Char → Option (List Char × List Char)
  | '.' :: rest =>
    match spanDigits rest with
    | ([], _) => none
    | (digits, after) => some ('.' :: digits, after)
  | text => some ([], text)

/-- A sign at the front of a text, and what follows it. -/
def spanSign : List Char → List Char × List Char
  | '+' :: rest => (['+'], rest)
  | '-' :: rest => (['-'], rest)
  | text => ([], text)

/-- The exponent of a number; nothing if there is none. -/
def readExponent? : List Char → Option (List Char × List Char)
  | c :: rest =>
    if c = 'e' ∨ c = 'E' then
      match spanDigits (spanSign rest).2 with
      | ([], _) => none
      | (digits, after) => some (c :: (spanSign rest).1 ++ digits, after)
    else some ([], c :: rest)
  | [] => some ([], [])

/-- A number without its sign. -/
def readMagnitude? (text : List Char) : Option (List Char × List Char) := do
  let (whole, text) ← readWhole? text
  let (fraction, text) ← readFraction? text
  let (exponent, text) ← readExponent? text
  pure (whole ++ fraction ++ exponent, text)

/-- A number as it is written, and what follows it. -/
def readNumber? : List Char → Option (List Char × List Char)
  | '-' :: rest => (readMagnitude? rest).map fun (literal, after) => ('-' :: literal, after)
  | text => readMagnitude? text

/-! ## Values -/

/-- What follows `c` and the blanks before it. -/
def expect? (c : Char) (text : List Char) : Option (List Char) :=
  match skip text with
  | d :: rest => if c = d then some rest else none
  | [] => none

mutual

/-- A value, with blanks before it, in at most the given number of steps. -/
def readValue? : Nat → List Char → Option (Json × List Char)
  | 0, _ => none
  | steps + 1, text =>
    match skip text with
    | '\x7b' :: rest =>
      match expect? '\x7d' rest with
      | some after => some (object [], after)
      | none => (readMembers? steps rest).map fun (members, after) => (object members, after)
    | '[' :: rest =>
      match expect? ']' rest with
      | some after => some (array [], after)
      | none => (readItems? steps rest).map fun (items, after) => (array items, after)
    | '"' :: rest => (readString? rest).map fun (text, after) => (string text, after)
    | 'n' :: 'u' :: 'l' :: 'l' :: rest => some (null, rest)
    | 't' :: 'r' :: 'u' :: 'e' :: rest => some (bool true, rest)
    | 'f' :: 'a' :: 'l' :: 's' :: 'e' :: rest => some (bool false, rest)
    | rest => (readNumber? rest).map fun (literal, after) => (number literal, after)

/-- The items of an array, at least one, up to the closing bracket. -/
def readItems? : Nat → List Char → Option (List Json × List Char)
  | 0, _ => none
  | steps + 1, text =>
    match readValue? steps text with
    | none => none
    | some (item, rest) =>
      match expect? ',' rest with
      | some more => (readItems? steps more).map fun (items, after) => (item :: items, after)
      | none => (expect? ']' rest).map fun after => ([item], after)

/-- The members of an object, at least one, up to the closing brace. -/
def readMembers? : Nat → List Char → Option (List (Option String × Json) × List Char)
  | 0, _ => none
  | steps + 1, text =>
    match (expect? '"' text).bind readString? with
    | none => none
    | some (key, rest) =>
      match (expect? ':' rest).bind (readValue? steps) with
      | none => none
      | some (value, rest) =>
        match expect? ',' rest with
        | some more =>
          (readMembers? steps more).map fun (members, after) => ((key, value) :: members, after)
        | none => (expect? '\x7d' rest).map fun after => ([(key, value)], after)

end

/-- The value that a whole text is. -/
def read? (text : List Char) : Option Json :=
  match readValue? (2 * text.length + 2) text with
  | some (value, rest) => if (skip rest).isEmpty then some value else none
  | none => none

end Json
end SuiteCoverage
