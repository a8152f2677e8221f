import SuiteCoverage.Regex.Reading
import SuiteCoverage.Shell.Records.Value

/-!
# Words of programs for records

The text of a program is taken apart into numbers, texts, names and signs. Whether a slash divides
or starts an expression for texts depends on what stands in front of it; who reads the tokens
decides that.
-/

set_option autoImplicit false

namespace SuiteCoverage
namespace Shell
namespace Records

/-- A part of the text of a program. -/
inductive Token where
  | number (n : Float) (text : String)
  | text (text : String)
  | name (name : String)
  /-- The name of a function that is called: a parenthesis follows at once. -/
  | callee (name : String)
  | word (word : String)
  | known (function : Function) (name : String)
  | sign (sign : String)
  | newline
  | finish
deriving Inhabited

/-- A part as it is shown. -/
def Token.shown : Token → String
  | number _ s => s
  | text s => s
  | name s => s
  | callee s => s
  | word s => s
  | known _ s => s
  | sign s => s
  | newline => "end of line"
  | finish => "end of file"

/-- What is wrong with the text of a program. -/
inductive Flaw where
  /-- A part that cannot stand where it does. -/
  | unexpected (token : String)
  | missing (sign : Char) (place : String)
  | extra (sign : Char)
  | badCharacter (c : Char)
  | openText (start : String)
  | openPattern (start : String)
  | badPattern (text : String) (flaw : Regex.Flaw)
  | told (complaint : String)

/-- What is wrong with an expression for texts, in words. -/
def patternComplaint : Regex.Flaw → String
  | .openGroup => "missing ')'"
  | .closedGroup => "missing '('"
  | .badRepeat => "missing operand"
  | .openBracket => "bad class -- [], [^] or ["
  | .badRange => "bad class -- [], [^] or ["
  | .badClass => "bad class -- [], [^] or ["
  | .emptySet => "bad class -- [], [^] or ["
  | .trailingBackslash => "missing operand"
  | other => other.message

/-- What is wrong with the text of a program, in words. -/
def Flaw.message : Flaw → String
  | unexpected token => "syntax error at or near " ++ token
  | missing sign place => "missing " ++ String.singleton sign ++ " near " ++ place
  | extra sign => "extra '" ++ String.singleton sign ++ "'"
  | badCharacter c => "unexpected character '" ++ String.singleton c ++ "'"
  | openText start => "runaway string constant \"" ++ start ++ " ..."
  | openPattern start => "runaway regular expression /" ++ start ++ " ..."
  | badPattern text flaw =>
    "regular expression compile failed (" ++ patternComplaint flaw ++ ")\n" ++ text
  | told complaint => complaint

namespace Wording

/-- The words with a meaning of their own. -/
def words : List String :=
  ["BEGIN", "END", "break", "continue", "delete", "do", "else", "exit", "for", "function",
    "getline", "if", "in", "next", "nextfile", "print", "printf", "return", "while"]

/-- The functions that are known, by their names. -/
def functions : List (String × Function) :=
  [("length", .length), ("substr", .substr), ("index", .index), ("split", .split), ("sub", .sub),
    ("gsub", .gsub), ("match", .search), ("sprintf", .sprintf), ("sin", .sine), ("cos", .cosine),
    ("atan2", .arctangent), ("exp", .exponential), ("log", .logarithm), ("int", .whole),
    ("sqrt", .squareRoot), ("rand", .random), ("srand", .seed), ("close", .close),
    ("system", .system), ("toupper", .upper), ("tolower", .lower), ("fflush", .flush),
    ("systime", .now), ("strftime", .timeText), ("mktime", .timeOf)]

/-- The signs, longer ones first. -/
def signs : List String :=
  ["+=", "-=", "*=", "/=", "%=", "^=", "==", "<=", ">=", "!=", "!~", "++", "--", "&&", "||", ">>",
    "\x7b", "\x7d", "(", ")", "[", "]", ";", ",", "+", "-", "*", "/", "%", "^", "!", "<", ">", "|",
    "?", ":", "~", "$", "="]

/-- Whether a character can be in a name. -/
def isNameChar (c : Char) : Bool := c.isAlphanum || c == '_'

/-- The character that a letter behind a backslash stands for. -/
def control? (c : Char) : Option Char :=
  match c with
  | 'a' => some '\x07'
  | 'b' => some '\x08'
  | 'f' => some '\x0c'
  | 'n' => some '\n'
  | 'r' => some '\r'
  | 't' => some '\t'
  | 'v' => some '\x0b'
  | '"' => some '"'
  | '\\' => some '\\'
  | _ => none

/-- The text with the characters in place of their escapes. Backslashes in front of other characters
    stay. -/
def unescaped : Nat → List Char → List Char
  | 0, text => text
  | _, [] => []
  | fuel + 1, '\\' :: rest =>
    let octal := (rest.takeWhile fun c => '0' ≤ c && c ≤ '7').take 3
    if !octal.isEmpty then
      let code := octal.foldl (fun n c => n * 8 + (c.toNat - '0'.toNat)) 0
      Char.ofNat (code % 256) :: unescaped fuel (rest.drop octal.length)
    else
      match rest with
      | '\n' :: more => unescaped fuel more
      | 'x' :: more =>
        let digits := (more.takeWhile fun c => (Quantity.hexDigit? c).isSome).take 2
        if digits.isEmpty then '\\' :: 'x' :: unescaped fuel more
        else
          let code := digits.foldl (fun n c => n * 16 + (Quantity.hexDigit? c).getD 0) 0
          Char.ofNat code :: unescaped fuel (more.drop digits.length)
      | c :: more =>
        match control? c with
        | some d => d :: unescaped fuel more
        | none => '\\' :: c :: unescaped fuel more
      | [] => ['\\']
  | fuel + 1, c :: rest => c :: unescaped fuel rest

/-- The text of a constant up to its quote, and what follows the quote. -/
def quoted : List Char → List Char → Option (List Char × List Char)
  | '\\' :: c :: rest, found => quoted rest (c :: '\\' :: found)
  | '"' :: rest, found => some (found.reverse, rest)
  | '\n' :: _, _ => none
  | c :: rest, found => quoted rest (c :: found)
  | [], _ => none

/-- The text of an expression up to its slash, and what follows the slash; `inside` tells that a set
    in brackets is open. -/
def slashed (inside : Bool) : List Char → List Char → Option (List Char × List Char)
  | '\\' :: c :: rest, found => slashed inside rest (c :: '\\' :: found)
  | '[' :: '^' :: ']' :: rest, found =>
    if inside then slashed true (']' :: rest) ('^' :: '[' :: found)
    else slashed true rest (']' :: '^' :: '[' :: found)
  | '[' :: ']' :: rest, found =>
    if inside then slashed false rest (']' :: '[' :: found)
    else slashed true rest (']' :: '[' :: found)
  | '[' :: rest, found => slashed true rest ('[' :: found)
  | ']' :: rest, found => slashed false rest (']' :: found)
  | '/' :: rest, found => if inside then slashed inside rest ('/' :: found) else some (found.reverse, rest)
  | '\n' :: _, _ => none
  | c :: rest, found => slashed inside rest (c :: found)
  | [], _ => none
termination_by text => text.length

/-- What is passed over in front of a part: blanks, remarks, and lines that go on, with the number
    of those. -/
def passed : Nat → List Char → List Char × Nat
  | 0, text => (text, 0)
  | fuel + 1, text =>
    match text with
    | ' ' :: rest => passed fuel rest
    | '\t' :: rest => passed fuel rest
    | '\r' :: rest => passed fuel rest
    | '\x0c' :: rest => passed fuel rest
    | '\x0b' :: rest => passed fuel rest
    | '\\' :: '\n' :: rest =>
      let (rest, lines) := passed fuel rest
      (rest, lines + 1)
    | '\\' :: '\r' :: '\n' :: rest =>
      let (rest, lines) := passed fuel rest
      (rest, lines + 1)
    | '#' :: rest => (rest.dropWhile (· != '\n'), 0)
    | _ => (text, 0)

/-- The part at the start of a text, and what follows it. -/
def read (text : List Char) : Except Flaw (Token × List Char) :=
  match text with
  | [] => .ok (.finish, [])
  | '\n' :: rest => .ok (.newline, rest)
  | '"' :: rest =>
    match quoted rest [] with
    | some (inside, after) =>
      .ok (.text (String.ofList (unescaped (inside.length + 1) inside)), after)
    | none => .error (.openText (String.ofList ((rest.takeWhile (· != '\n')).take 10)))
  | c :: rest =>
    let isNumber := c.isDigit || (c == '.' && rest.head?.any Char.isDigit)
    if isNumber then
      let isHexadecimal := c == '0' && (rest.head? == some 'x' || rest.head? == some 'X')
      let found := if isHexadecimal then some (0.0, rest) else numberAt text
      match found with
      | some (n, after) =>
        .ok (.number n (String.ofList (text.take (text.length - after.length))), after)
      | none => .error (.badCharacter c)
    else if c.isAlpha || c == '_' then
      let name := String.ofList (text.takeWhile isNameChar)
      let after := text.dropWhile isNameChar
      if words.contains name then .ok (.word name, after)
      else
        match functions.find? fun entry => entry.1 == name with
        | some (_, function) => .ok (.known function name, after)
        | none => .ok (if after.head? == some '(' then .callee name else .name name, after)
    else
      match signs.find? fun sign => sign.toList.isPrefixOf text with
      | some sign => .ok (.sign sign, text.drop sign.length)
      | none => .error (.badCharacter c)

end Wording
end Records
end Shell
end SuiteCoverage
