/-!
# Quoting in scripts

A text is shown in a form that a script can take for the same text again: in single quotes, with
those quotes that are part of it in double quotes.
-/

set_option autoImplicit false

namespace SuiteCoverage
namespace Shell
namespace Quoting

/-- A text in single quotes; single quotes in it stand in double quotes. With as many steps as
    the text has characters it is quoted whole. -/
def quotedUpTo : Nat → List Char → List Char
  | 0, _ => []
  | fuel + 1, text =>
    let bare := text.takeWhile (· != '\'')
    let rest := text.drop bare.length
    let quotes := rest.takeWhile (· == '\'')
    let after := rest.drop quotes.length
    ('\'' :: bare ++ ['\'']) ++ (if quotes.isEmpty then [] else '"' :: quotes ++ ['"'])
      ++ if after.isEmpty then [] else quotedUpTo fuel after

/-- A text in quotes. -/
def quoted (text : String) : String :=
  String.ofList (quotedUpTo (text.length + 1) text.toList)

/-! ## Names in messages

Programs of the system quote the names in their messages so that each of them can be told from the
text around it: as simply as a name allows, and with escapes for characters that cannot be seen. -/

/-- Whether a character can be seen. -/
def isVisible (c : Char) : Bool := 32 ≤ c.toNat && c.toNat < 127

/-- Whether a character is the same in double quotes. -/
def isPlainInDouble (c : Char) : Bool :=
  c.isAlphanum || " '%+,-./:]_".toList.contains c

/-- Whether a character means nothing to a script wherever it stands in a name. -/
def isHarmless (c : Char) : Bool :=
  c.isAlphanum || "%+,-./:]_@".toList.contains c

/-- The escape for a character that cannot be seen. -/
def escapeOf (c : Char) : List Char :=
  let digits := Nat.toDigits 8 c.toNat
  match c with
  | '\x07' => ['\\', 'a']
  | '\x08' => ['\\', 'b']
  | '\t' => ['\\', 't']
  | '\n' => ['\\', 'n']
  | '\x0b' => ['\\', 'v']
  | '\x0c' => ['\\', 'f']
  | '\r' => ['\\', 'r']
  | _ => '\\' :: List.replicate (3 - digits.length) '0' ++ digits

/-- The characters of a name behind its first quote; `isEscaping` tells that they follow an
    escape. -/
def behindQuote (isEscaping : Bool) : List Char → List Char
  | [] => ['\'']
  | '\'' :: rest => "'\\''".toList ++ behindQuote false rest
  | c :: rest =>
    if isVisible c then
      (if isEscaping then "''".toList else []) ++ c :: behindQuote false rest
    else (if isEscaping then [] else "'$'".toList) ++ escapeOf c ++ behindQuote true rest

/-- A name in quotes. -/
def name (text : String) : String :=
  let chars := text.toList
  if chars.contains '\'' && chars.all isPlainInDouble then "\"" ++ text ++ "\""
  else "'" ++ String.ofList (behindQuote false chars)

/-- A name, in quotes if it needs them. -/
def nameIfNeeded (text : String) : String :=
  let chars := text.toList
  let isHarmlessInside (c : Char) : Bool :=
    isHarmless c || (1 < chars.length && "\x7b\x7d#~".toList.contains c)
  let isBare := chars.all isHarmlessInside && !"#~".toList.contains (chars.headD '#')
  if isBare then text else name text

end Quoting
end Shell
end SuiteCoverage
