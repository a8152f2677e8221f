import SuiteCoverage.Shell.Arithmetic

/-!
# Escapes of the extended shell

What a backslash introduces in `$'…'`, in the arguments of `echo` and in formats, and how texts are
shown so that the shell takes them for the same texts again.
-/

set_option autoImplicit false

/-!
## Digits of codes

The numbers by which escapes tell a character: in octal or hexadecimal digits, a few at most.
-/

namespace SuiteCoverage
namespace Shell
namespace Digits

/-- Whether a character is an octal digit. -/
def isOctal (c : Char) : Bool := '0' ≤ c && c ≤ '7'

/-- The byte that up to three octal digits stand for. -/
def octal (digits : List Char) : Char :=
  Char.ofNat (((Arithmetic.digits? 8 digits).getD 0) % 256)

/-- The value of the hexadecimal digits at the start of a text, at most `most` of them, and how
    many they are. -/
def hexadecimal (most : Nat) (text : List Char) : Nat × Nat :=
  let digits := (text.takeWhile fun c => (Arithmetic.digit? c).isSome).take most
  ((Arithmetic.digits? 16 digits).getD 0, digits.length)

end Digits
end Shell
end SuiteCoverage

namespace SuiteCoverage
namespace Shell
namespace Extended
namespace Escape

/-- Where an escape stands. -/
inductive Site where
  /-- In a quoted word of the script. -/
  | word
  /-- In an argument of `echo`. -/
  | argument
  /-- In an argument that is written as a format asks for it. -/
  | piece
  /-- In a format. -/
  | format
deriving DecidableEq, Repr

/-- A number in a base with at least so many digits. -/
def digits (base width n : Nat) : List Char :=
  let digits := (Nat.toDigits base n).map Char.toUpper
  List.replicate (width - digits.length) '0' ++ digits

/-- The characters for a code, of which only the first hundred and twenty-eight are known. -/
def ofCode (code : Nat) : List Char :=
  if code < 128 then [Char.ofNat code]
  else if code < 65536 then '\\' :: 'u' :: digits 16 4 code
  else '\\' :: 'U' :: digits 16 8 code

/-- The character that a letter behind a backslash stands for. -/
def letter? (c : Char) : Option Char :=
  match c with
  | 'a' => some '\x07'
  | 'b' => some '\x08'
  | 'e' => some '\x1b'
  | 'E' => some '\x1b'
  | 'f' => some '\x0c'
  | 'n' => some '\n'
  | 'r' => some '\r'
  | 't' => some '\t'
  | 'v' => some '\x0b'
  | '\\' => some '\\'
  | _ => none

/-- The characters behind a backslash, and how many characters they take; `none` if they are no
    escape. -/
def read? (site : Site) : List Char → Option (List Char × Nat)
  | [] => none
  | c :: rest =>
    let octal (text : List Char) (most : Nat) : List Char :=
      (text.takeWhile Digits.isOctal).take most
    let byCode (most : Nat) (encode : Nat → List Char) : Option (List Char × Nat) :=
      let (code, count) := Digits.hexadecimal most rest
      if count = 0 then none else some (encode code, count + 1)
    match letter? c with
    | some meant => some ([meant], 1)
    | none =>
      match c with
      | 'x' => byCode 2 fun code => [Char.ofNat code]
      | 'u' => byCode 4 ofCode
      | 'U' => byCode 8 ofCode
      | '\'' => if site = .word || site = .format || site = .piece then some (['\''], 1) else none
      | '"' => if site = .word || site = .format || site = .piece then some (['"'], 1) else none
      | '?' => if site = .word || site = .format || site = .piece then some (['?'], 1) else none
      | 'c' =>
        if site = .word then
          match rest with
          | '\\' :: '\\' :: _ => some ([Char.ofNat 28], 3)
          | d :: _ =>
            let code := if d = '?' then 127 else d.toUpper.toNat % 32
            some ([Char.ofNat code], 2)
          | [] => none
        else none
      | _ =>
        if Digits.isOctal c then
          match site with
          | .argument =>
            if c = '0' then
              let digits := octal rest 3
              some ([Digits.octal digits], digits.length + 1)
            else none
          | .piece =>
            let digits := if c = '0' then '0' :: octal rest 3 else octal (c :: rest) 3
            some ([Digits.octal digits], digits.length)
          | _ =>
            let digits := octal (c :: rest) 3
            some ([Digits.octal digits], digits.length)
        else none

/-- The text in the quotes of a word. -/
def inWord : Nat → List Char → List Char
  | 0, _ => []
  | _, [] => []
  | fuel + 1, '\\' :: rest =>
    match read? .word rest with
    | some (meant, count) => meant ++ inWord fuel (rest.drop count)
    | none => '\\' :: inWord fuel rest
  | fuel + 1, c :: rest => c :: inWord fuel rest

/-- The text in the quotes of a word, up to a character that no text can have. -/
def word (text : List Char) : String :=
  String.ofList ((inWord (text.length + 1) text).takeWhile (· != '\x00'))

/-- The text of an argument in which escapes count, and whether writing goes on after it. -/
def expandFrom (site : Site) : Nat → List Char → List Char × Bool
  | 0, _ => ([], true)
  | _, [] => ([], true)
  | fuel + 1, '\\' :: rest =>
    if rest.head? == some 'c' then ([], false)
    else
      match read? site rest with
      | some (meant, count) =>
        let (more, goesOn) := expandFrom site fuel (rest.drop count)
        (meant ++ more, goesOn)
      | none =>
        let (more, goesOn) := expandFrom site fuel rest
        ('\\' :: more, goesOn)
  | fuel + 1, c :: rest =>
    let (more, goesOn) := expandFrom site fuel rest
    (c :: more, goesOn)

/-- The text of an argument in which escapes count, and whether writing goes on after it. -/
def expand (site : Site) (text : String) : String × Bool :=
  let (chars, goesOn) := expandFrom site (text.length + 1) text.toList
  (String.ofList chars, goesOn)

/-! ## Showing texts -/

/-- Whether a character can be seen. -/
def isVisible (c : Char) : Bool := 32 ≤ c.toNat && c.toNat < 127

/-- A character as it stands in `$'…'`. -/
def shownInDollar (c : Char) : List Char :=
  match c with
  | '\x07' => ['\\', 'a']
  | '\x08' => ['\\', 'b']
  | '\x1b' => ['\\', 'E']
  | '\x0c' => ['\\', 'f']
  | '\n' => ['\\', 'n']
  | '\r' => ['\\', 'r']
  | '\t' => ['\\', 't']
  | '\x0b' => ['\\', 'v']
  | '\\' => ['\\', '\\']
  | '\'' => ['\\', '\'']
  | c => if isVisible c then [c] else '\\' :: digits 8 3 c.toNat

/-- A text as `$'…'`. -/
def dollarQuoted (text : String) : String :=
  "$'" ++ String.ofList (text.toList.flatMap shownInDollar) ++ "'"

/-- Whether a text is shown as `$'…'`. -/
def needsDollar (text : String) : Bool := text.toList.any fun c => !isVisible c

/-- A text in single quotes. -/
def singleQuoted (text : String) : String :=
  if text = "'" then "\\'"
  else "'" ++ String.ofList (text.toList.flatMap fun c =>
    if c = '\'' then "'\\''".toList else [c]) ++ "'"

/-- A text in double quotes. -/
def doubleQuoted (text : String) : String :=
  "\"" ++ String.ofList (text.toList.flatMap fun c =>
    if "\"$\u0060\\".toList.contains c then ['\\', c] else [c]) ++ "\""

/-- Whether a text means something to the shell if it is not quoted. -/
def isMeaningful (text : String) : Bool :=
  let meaning : List Char := " \t\n'\"\\|&;()<>!\x7b\x7d*[?]^$\u0060".toList
  let chars := text.toList
  chars.isEmpty || chars.any meaning.contains
    || chars.head?.any ("~#".toList.contains)
    || (chars.zip (chars.drop 1)).any fun (a, b) => b = '~' && (a = ':' || a = '=')

/-- A text with a backslash in front of each character that means something. -/
def backslashed (text : String) : String :=
  let meaning : List Char := " \t\n'\"\\|&;()<>!\x7b\x7d*[?]^$\u0060,".toList
  let chars := text.toList
  if chars.isEmpty then "''"
  else
    String.ofList (((' ' :: chars).zip chars).mapIdx fun n (before, c) =>
      let isStart := n = 0
      let isTilde := c = '~' && (isStart || before = ':' || before = '=')
      if meaning.contains c || isTilde || (c = '#' && isStart) then ['\\', c] else [c]).flatten

/-- A text as `printf` quotes it. -/
def reusable (text : String) : String :=
  if needsDollar text then dollarQuoted text else backslashed text

/-- A text in quotes, in any case. -/
def quoted (text : String) : String :=
  if needsDollar text then dollarQuoted text else singleQuoted text

/-- A text as it is shown among the words of a command. -/
def traced (text : String) : String :=
  if text.isEmpty then "''"
  else if isMeaningful text then singleQuoted text
  else if needsDollar text then dollarQuoted text
  else text

/-- The value of a variable as it is shown among all variables. -/
def shownValue (text : String) : String :=
  if text.isEmpty then ""
  else if needsDollar text then dollarQuoted text
  else if isMeaningful text then singleQuoted text
  else text

/-- The value of a variable as it is declared. -/
def declared (text : String) : String :=
  if needsDollar text then dollarQuoted text else doubleQuoted text

/-- The key of a table as it is declared. -/
def declaredKey (text : String) : String :=
  if needsDollar text then dollarQuoted text
  else if isMeaningful text || text = "@" || text = "*" then doubleQuoted text
  else text

end Escape
end Extended
end Shell
end SuiteCoverage
