import SuiteCoverage.Glob
import SuiteCoverage.Text.Decoding
import SuiteCoverage.World.Basic

/-!
# Fields

Expanding a word gives cells: characters that remember where they come from. What comes from a
value outside quotes is split into fields, and a character may be part of a pattern only if it
is not quoted. A field that is a pattern stands for the paths that match it, and for itself if
none does.
-/

set_option autoImplicit false

namespace SuiteCoverage
namespace Shell

/-- A part of an expanded word. -/
inductive Cell where
  /-- A character of the script. -/
  | plain (c : Char)
  /-- A character that is taken as it is. -/
  | quoted (c : Char)
  /-- A character of a value, where fields may be divided. -/
  | value (c : Char)
  /-- Quotes, which make a field even if there is nothing in them. -/
  | mark
  /-- The border between two fields. -/
  | border
deriving DecidableEq, Repr

namespace Cell

/-- The character of a cell. -/
def char? : Cell → Option Char
  | plain c => some c
  | quoted c => some c
  | value c => some c
  | mark => none
  | border => none

/-- The character of a cell if it may be part of a pattern. -/
def active? : Cell → Option Char
  | plain c => some c
  | value c => some c
  | _ => none

/-- The text of some cells, with a divider between fields. -/
def textWith (divider : String) (cells : List Cell) : String :=
  String.ofList (cells.flatMap fun cell =>
    if cell = border then divider.toList else cell.char?.toList)

/-- The text of the cells of a field. -/
def text (cells : List Cell) : String := textWith "" cells

/-- The cells of a text of the script. -/
def ofScript (text : String) (isQuoted : Bool) : List Cell :=
  if isQuoted then mark :: text.toList.map quoted else text.toList.map plain

/-- The cells of a value. -/
def ofValue (text : String) (isQuoted : Bool) : List Cell :=
  if isQuoted then mark :: text.toList.map quoted else text.toList.map value

end Cell

namespace Field

/-- The characters that divide fields unless a script says otherwise. -/
def usualDividers : String := " \t\n"

/-- What has been seen of a field. -/
inductive Progress where
  | none
  /-- The cells of a field, newest first. -/
  | started (cells : List Cell)
  /-- A field has been ended by a blank, so that another divider next to it does not count. -/
  | ended

/-- Whether a divider is a blank, several of which count as one. -/
def isBlankDivider (c : Char) : Bool := c == ' ' || c == '\t' || c == '\n'

/-- Splits cells into fields. -/
def split (dividers : List Char) : Progress → List Cell → List (List Cell)
  | .started cells, [] => [cells.reverse]
  | _, [] => []
  | progress, cell :: rest =>
    let more (cells : List Cell) := split dividers (.started (cell :: cells)) rest
    match cell, progress with
    | .border, .started cells => cells.reverse :: split dividers .none rest
    | .border, _ => split dividers .none rest
    | .value c, .started cells =>
      if dividers.contains c then
        cells.reverse :: split dividers (if isBlankDivider c then .ended else .none) rest
      else more cells
    | .value c, .none =>
      if dividers.contains c then
        if isBlankDivider c then split dividers .none rest
        else [] :: split dividers .none rest
      else more []
    | .value c, .ended =>
      if dividers.contains c then
        split dividers (if isBlankDivider c then .ended else .none) rest
      else more []
    | _, .started cells => more cells
    | _, _ => more []

/-! ## Fields of a line

A line is divided into as many fields as are asked for. The last of them is all that is left, with
the dividers in it; if a single field is left, the divider at its end is dropped. -/

/-- Whether a cell divides fields. -/
def divides (dividers : List Char) : Cell → Bool
  | .value c => dividers.contains c
  | _ => false

/-- Whether a cell is a blank that divides fields. -/
def isBlank (dividers : List Char) : Cell → Bool
  | .value c => dividers.contains c && isBlankDivider c
  | _ => false

/-- What follows a divider and the blanks around it, if cells start with one. -/
def afterDivider (dividers : List Char) (cells : List Cell) : List Cell :=
  let cells := cells.dropWhile (isBlank dividers)
  if cells.head?.any (divides dividers) then (cells.drop 1).dropWhile (isBlank dividers) else cells

/-- Cells without the blanks at their end. Where only cells that are taken as they are follow a
    blank these are dropped as well. -/
def trimBlanks (dividers : List Char) (cells : List Cell) : List Cell :=
  let isLoose (cell : Cell) := isBlank dividers cell || cell.active?.isNone
  let loose := (cells.reverse.takeWhile isLoose).reverse
  cells.take (cells.length - loose.length) ++ loose.takeWhile fun cell => !isBlank dividers cell

/-- At most a number of fields. -/
def upTo (dividers : List Char) : Nat → List Cell → List (List Cell)
  | 0, _ => []
  | more + 1, cells =>
    let cells := cells.dropWhile (isBlank dividers)
    let field := cells.takeWhile fun cell => !divides dividers cell
    let after := cells.drop field.length
    if 0 < more then
      if cells.isEmpty then [] else field :: upTo dividers more (afterDivider dividers after)
    else if (afterDivider dividers (after.filter (·.active?.isSome))).isEmpty then [field]
    else [trimBlanks dividers cells]

/-! ## Patterns -/

/-- Kinds of characters that a list can name, and the characters of each. -/
def kinds : List (String × List Glob.CharClass) :=
  let digits : List Glob.CharClass := [.range '0' '9']
  let upper : List Glob.CharClass := [.range 'A' 'Z']
  let lower : List Glob.CharClass := [.range 'a' 'z']
  [("alnum", digits ++ upper ++ lower), ("alpha", upper ++ lower),
    ("blank", [.single ' ', .single '\t']), ("cntrl", [.range '\x00' '\x1f', .single '\x7f']),
    ("digit", digits), ("graph", [.range '!' '~']), ("lower", lower), ("print", [.range ' ' '~']),
    ("punct", [.range '!' '/', .range ':' '@', .range '[' '\u0060', .range '\x7b' '~']),
    ("space", [.single ' ', .range '\t' '\r']), ("upper", upper),
    ("xdigit", digits ++ [.range 'A' 'F', .range 'a' 'f'])]

/-- The kind of characters named behind an opening bracket in a list, and how many cells the name
    takes. -/
def kind? (cells : List Cell) : Option (List Glob.CharClass × Nat) :=
  kinds.findSome? fun (name, classes) =>
    let text := ":" ++ name ++ ":]"
    if (cells.take text.length).map Cell.active? = text.toList.map some then
      some (classes, text.length)
    else none

/-- The characters of a list up to its end, and what follows it. A closing bracket is the end
    unless it is `first` in the list. -/
def readChars : Nat → Bool → List Cell → Option (List Glob.CharClass × List Cell)
  | 0, _, _ => none
  | _, _, [] => none
  | fuel + 1, first, cell :: rest =>
    let more (classes : List Glob.CharClass) (after : List Cell) :=
      (readChars fuel false after).map fun (others, last) => (classes ++ others, last)
    if !first && cell.active? = some ']' then some ([], rest)
    else
      match if cell.active? = some '[' then kind? rest else none with
      | some (classes, count) => more classes (rest.drop count)
      | none =>
        match cell.char?, rest with
        | none, _ => (readChars fuel first rest)
        | some c, hyphen :: last :: after =>
          match last.char? with
          | some d =>
            if hyphen.active? = some '-' && last.active? != some ']' then more [.range c d] after
            else more [.single c] rest
          | none => more [.single c] rest
        | some c, _ => more [.single c] rest

/-- The list behind an opening bracket, and what follows it. -/
def readList? (cells : List Cell) : Option (Glob.Token × List Cell) :=
  let negated := match cells with
    | cell :: _ => cell.active? == some '!' || cell.active? == some '^'
    | [] => false
  let inside := if negated then cells.drop 1 else cells
  (readChars (inside.length + 1) true inside).map fun (classes, after) =>
    (if negated then .noneOf classes else .oneOf classes, after)

/-- The tokens of a pattern. -/
def pattern : Nat → List Cell → List Glob.Token
  | 0, _ => []
  | _, [] => []
  | fuel + 1, cell :: rest =>
    match cell.active? with
    | some '*' => .anyText :: pattern fuel rest
    | some '?' => .anyChar :: pattern fuel rest
    | some '[' =>
      match readList? rest with
      | some (token, after) => token :: pattern fuel after
      | none => .char '[' :: pattern fuel rest
    | some c => .char c :: pattern fuel rest
    | none => (cell.char?.map Glob.Token.char).toList ++ pattern fuel rest

/-- The tokens of a pattern. -/
def tokens (cells : List Cell) : List Glob.Token :=
  pattern (cells.length + 1) cells

/-- Whether a field is a pattern. -/
def isPattern (cells : List Cell) : Bool :=
  cells.any fun cell => cell.active?.any "*?[".toList.contains

/-- What is left of a text when a pattern is taken off its front: the most that matches if
    `longest`, else the least. -/
def trimFront (tokens : List Glob.Token) (longest : Bool) (text : List Char) : List Char :=
  let sizes := List.range (text.length + 1)
  match (if longest then sizes.reverse else sizes).find? fun n =>
    Glob.isMatch tokens (text.take n) with
  | some n => text.drop n
  | none => text

/-- What is left of a text when a pattern is taken off its end. -/
def trimEnd (tokens : List Glob.Token) (longest : Bool) (text : List Char) : List Char :=
  let sizes := List.range (text.length + 1)
  match (if longest then sizes else sizes.reverse).find? fun n =>
    Glob.isMatch tokens (text.drop n) with
  | some n => text.take n
  | none => text

/-! ## Paths -/

/-- The cells between separators. -/
def components : List Cell → List (List Cell)
  | [] => [[]]
  | cell :: rest =>
    if cell.char? = some '/' then [] :: components rest
    else
      match components rest with
      | [] => [[cell]]
      | piece :: more => (cell :: piece) :: more

/-- The names in a directory that a component stands for. A name that starts with a point has to
    be asked for. -/
def namesIn (w : World) (directory : String) (component : List Cell) : List String :=
  let here : Pathname := ⟨if directory.isEmpty then "." else toText directory⟩
  match w.list here with
  | .error _ => []
  | .ok entries =>
    let hidden := (component.filterMap Cell.char?).head? == some '.'
    let names := (entries.map fun entry => ofText entry.1).filter fun name =>
      (hidden || name.toList.head? != some '.')
        && Glob.isMatch (tokens component) name.toList
    names.mergeSort fun a b => (compare a b).isLE

/-- The paths that start as given and go on with some components. -/
def pathsFrom (w : World) : List String → List (List Cell) → List String
  | starts, [] => starts
  | starts, component :: rest =>
    let ends := if rest.isEmpty then "" else "/"
    let grown :=
      if isPattern component then
        starts.flatMap fun start =>
          (namesIn w start component).map fun name => start ++ name ++ ends
      else starts.map fun start => start ++ Cell.text component ++ ends
    pathsFrom w grown rest

/-- What a field stands for. -/
def paths (w : World) (cells : List Cell) : List String :=
  if isPattern cells then
    match (pathsFrom w [""] (components cells)).filter fun p => w.pathExists ⟨toText p⟩ with
    | [] => [Cell.text cells]
    | found => found
  else [Cell.text cells]

end Field
end Shell
end SuiteCoverage
