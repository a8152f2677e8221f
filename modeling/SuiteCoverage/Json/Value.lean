/-!
# JSON documents

A document as its form tells it, before anything is expected of it. Numbers are kept as they are
written, since a reader that expects a whole number refuses `1.0`. A string whose escapes leave
half of a surrogate pair over stands for no text; it may occur in a document as long as nobody
looks at it.
-/

set_option autoImplicit false

namespace SuiteCoverage

/-- A JSON value. -/
inductive Json where
  | null
  | bool (value : Bool)
  | number (literal : List Char)
  | string (text : Option String)
  | array (items : List Json)
  /-- Members in the order of the document; a key may occur more than once. -/
  | object (members : List (Option String × Json))

namespace Json

/-- The string that is a given text. -/
def ofText (text : String) : Json := string (some text)

/-- The number that is a given whole number. -/
def ofNat (n : Nat) : Json := number (Nat.toDigits 10 n)

/-- The object with the given members. -/
def record (members : List (String × Json)) : Json :=
  object (members.map fun member => (some member.1, member.2))

/-- The text that a value is. -/
def text? : Json → Option String
  | string text => text
  | _ => none

/-- The items of an array. -/
def items? : Json → Option (List Json)
  | array items => some items
  | _ => none

/-- What is left of a list that is to have one item. -/
def only? {α : Type} : List α → Option α
  | [a] => some a
  | _ => none

/-- The values of a record whose fields have the given names. An object has each of them once,
    in any order and among any other keys; an array has the values alone, in order. -/
def fields? (names : List String) : Json → Option (List Json)
  | array items => if items.length = names.length then some items else none
  | object members =>
    if members.all fun member => member.1.isSome then
      names.mapM fun name => only? ((members.filter fun member => member.1 == some name).map (·.2))
    else none
  | _ => none

end Json
end SuiteCoverage

/-!
## Writing JSON

A value is written for people to read: every item and every member on a line of its own, two
blanks deeper than what it belongs to, and an empty array or object as a pair of brackets. In
strings only what has to be escaped is escaped.
-/

namespace SuiteCoverage
namespace Json

/-- How a character is written in a string. -/
def escapeChar (c : Char) : List Char :=
  if c = '"' then ['\\', '"']
  else if c = '\\' then ['\\', '\\']
  else if c = '\x08' then ['\\', 'b']
  else if c = '\x0c' then ['\\', 'f']
  else if c = '\n' then ['\\', 'n']
  else if c = '\r' then ['\\', 'r']
  else if c = '\t' then ['\\', 't']
  else if c.toNat < 0x20 then
    ['\\', 'u', '0', '0', Nat.digitChar (c.toNat / 16), Nat.digitChar (c.toNat % 16)]
  else [c]

/-- A text as a string; what is no text is written as an empty string. -/
def writeString (text : Option String) : List Char :=
  '"' :: (text.getD "").toList.flatMap escapeChar ++ ['"']

/-- The start of a line at the given depth. -/
def newline (depth : Nat) : List Char :=
  '\n' :: List.replicate (2 * depth) ' '

mutual

/-- A value whose first line is at the given depth. -/
def write (depth : Nat) : Json → List Char
  | null => "null".toList
  | bool true => "true".toList
  | bool false => "false".toList
  | number literal => literal
  | string text => writeString text
  | array [] => ['[', ']']
  | array (item :: items) =>
    '[' :: newline (depth + 1) ++ write (depth + 1) item ++ writeItems (depth + 1) items
      ++ newline depth ++ [']']
  | object [] => ['\x7b', '\x7d']
  | object ((key, value) :: members) =>
    '\x7b' :: newline (depth + 1) ++ writeString key ++ ':' :: ' ' :: write (depth + 1) value
      ++ writeMembers (depth + 1) members ++ newline depth ++ ['\x7d']

/-- Further items, each after a comma. -/
def writeItems (depth : Nat) : List Json → List Char
  | [] => []
  | item :: items => ',' :: newline depth ++ write depth item ++ writeItems depth items

/-- Further members, each after a comma. -/
def writeMembers (depth : Nat) : List (Option String × Json) → List Char
  | [] => []
  | (key, value) :: members =>
    ',' :: newline depth ++ writeString key ++ ':' :: ' ' :: write depth value
      ++ writeMembers depth members

end

/-- The text of a document. -/
def render (value : Json) : String :=
  String.ofList (write 0 value)

end Json
end SuiteCoverage
