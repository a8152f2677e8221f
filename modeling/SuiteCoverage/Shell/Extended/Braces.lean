/-!
# Braces in words

A word with braces stands for several words: one for each of the texts between commas, or one for
each number or letter of a sequence. What is quoted, and what is put in place of something behind
a dollar sign, is left as it is.
-/

set_option autoImplicit false

namespace SuiteCoverage
namespace Shell
namespace Extended
namespace Braces

/-- The place behind the parenthesis that closes one opened before, or the end of the text. -/
def afterParenthesis (text : Array Char) : Nat → Nat → Nat → Nat
  | 0, _, i => i
  | fuel + 1, depth, i =>
    match text[i]? with
    | none => i
    | some '\\' => afterParenthesis text fuel depth (i + 2)
    | some '(' => afterParenthesis text fuel (depth + 1) (i + 1)
    | some ')' => if depth = 0 then i + 1 else afterParenthesis text fuel (depth - 1) (i + 1)
    | some _ => afterParenthesis text fuel depth (i + 1)

/-- What is sought in a word. -/
inductive Target where
  | opening
  | closing
  | comma
deriving DecidableEq

/-- The character that is sought. -/
def Target.char : Target → Char
  | opening => '{'
  | closing => '}'
  | comma => ','

/-- Where a search is. -/
structure Search where
  place : Nat
  level : Nat
  quote : Option Char
  /-- Whether what has been passed may stand between braces. -/
  isFit : Bool

/-- Whether a character divides words. -/
def isBlank (c : Char) : Bool := c == ' ' || c == '\t' || c == '\n'

/-- The place of what is sought, from a place on. -/
def seek (target : Target) (text : Array Char) : Nat → Search → Option Nat
  | 0, _ => none
  | fuel + 1, s => do
    let i := s.place
    let c ← text[i]?
    let next := text[i + 1]?
    let go (s : Search) : Option Nat := seek target text fuel s
    if c = '\\' && s.quote != some '\'' then go { s with place := i + 2 }
    else if c = '$' && next = some '{' && s.quote != some '\'' then
      go { s with place := i + 2, level := if s.quote.isNone then s.level + 1 else s.level }
    else
      let isSubstitution := next = some '(' && (c = '$' || c = '<' || c = '>')
      match s.quote with
      | some quote =>
        if c = quote then go { s with place := i + 1, quote := none }
        else if quote = '"' && c = '$' && isSubstitution then
          go { s with place := afterParenthesis text text.size 0 (i + 2) }
        else go { s with place := i + 1 }
      | none =>
        if c = '"' || c = '\'' || c = '\u0060' then go { s with place := i + 1, quote := some c }
        else if isSubstitution then go { s with place := afterParenthesis text text.size 0 (i + 2) }
        else
          let isAlone := c = '{' && (i = 0 || text[i - 1]?.any isBlank)
            && (next.any isBlank || next = some '}')
          if c = target.char && s.level = 0 && s.isFit then
            if isAlone then go { s with place := i + 1 } else some i
          else
            let isRange := c = '.' && next = some '.' && text[i + 2]? != some '}'
            let fits := target = .closing && s.level = 0 && (c = ',' || isRange)
            let level := if c = '{' then s.level + 1 else if c = '}' then s.level - 1 else s.level
            go { s with place := i + 1, level, isFit := s.isFit || fits }

/-- The place of what is sought, from a place on. -/
def find? (target : Target) (text : Array Char) (place : Nat) : Option Nat :=
  seek target text (text.size + 1) ⟨place, 0, none, target != .closing⟩

/-- The braces that come first in a word, from a place on: where they open and close. -/
def pair? (text : Array Char) : Nat → Nat → Option (Nat × Nat)
  | 0, _ => none
  | fuel + 1, place => do
    let start ← find? .opening text place
    match find? .closing text (start + 1) with
    | some last => some (start, last)
    | none => pair? text fuel (start + 1)

/-! ## Sequences -/

/-- The number that a text is. -/
def number? (text : List Char) : Option Int :=
  let (negative, digits) := match text with
    | '-' :: rest => (true, rest)
    | '+' :: rest => (false, rest)
    | rest => (false, rest)
  if digits.isEmpty || !digits.all Char.isDigit || 18 < digits.length then none
  else
    let n : Nat := digits.foldl (fun n c => 10 * n + (c.toNat - 48)) 0
    some (if negative then -(n : Int) else n)

/-- The texts between pairs of points. -/
def betweenPoints : List Char → List (List Char)
  | [] => [[]]
  | '.' :: '.' :: rest => [] :: betweenPoints rest
  | c :: rest =>
    match betweenPoints rest with
    | [] => [[c]]
    | piece :: more => (c :: piece) :: more

/-- A number with zeros in front up to a width. -/
def padded (width : Nat) (n : Int) : List Char :=
  let digits := (toString n.natAbs).toList
  let sign := if n < 0 then ['-'] else []
  sign ++ List.replicate (width - sign.length - digits.length) '0' ++ digits

/-- Whether a numeral is to be filled up with zeros. -/
def isFilled : List Char → Bool
  | '0' :: _ :: _ => true
  | '-' :: '0' :: _ :: _ => true
  | _ => false

/-- The numbers from one to another in steps. -/
def steps (first last step : Int) : List Int :=
  let size := if step = 0 then 1 else step.natAbs
  let count := (last - first).natAbs / size
  let signed : Int := if first ≤ last then size else -(size : Int)
  (List.range (count + 1)).map fun (n : Nat) => first + signed * (n : Int)

/-- The members of a sequence. -/
def sequence? (text : List Char) : Option (List (List Char)) := do
  let (first, last, step) ← match betweenPoints text with
    | [first, last] => some (first, last, 1)
    | [first, last, step] => (number? step).map fun step => (first, last, step)
    | _ => none
  match first, last with
  | [a], [b] =>
    if a.isAlpha && b.isAlpha then
      return (steps a.toNat b.toNat step).map fun n => [Char.ofNat n.toNat]
  | _, _ => pure ()
  let m ← number? first
  let n ← number? last
  let width := if isFilled first || isFilled last then max first.length last.length else 0
  return (steps m n step).map (padded width)

/-- The most words that a word may stand for. -/
def limit : Nat := 1000000

/-- All ways to put a text of the first list in front of one of the second. -/
def joined (front back : List (List Char)) : List (List Char) :=
  front.flatMap fun a => back.map fun b => a ++ b

/-- The texts between the commas of a text, which are sought from a place on. -/
def betweenCommas (text : Array Char) : Nat → Nat → List (List Char)
  | 0, _ => []
  | fuel + 1, place =>
    match find? .comma text place with
    | some i => (text.extract place i).toList :: betweenCommas text fuel (i + 1)
    | none => [(text.extract place text.size).toList]

/-- Whether there is a comma in a text that is not quoted by a backslash. -/
def hasComma : List Char → Bool
  | [] => false
  | '\\' :: _ :: rest => hasComma rest
  | ',' :: _ => true
  | _ :: rest => hasComma rest

/-- The words that a word stands for. -/
def expand : Nat → List Char → List (List Char)
  | 0, text => [text]
  | fuel + 1, chars =>
    let text := chars.toArray
    match pair? text (text.size + 1) 0 with
    | none => [chars]
    | some (start, last) =>
      let front := (text.extract 0 start).toList
      let inside := (text.extract (start + 1) last).toList
      let after := (text.extract (last + 1) text.size).toList
      let middle :=
        if hasComma inside then
          (betweenCommas inside.toArray (inside.length + 2) 0).flatMap (expand fuel)
        else (sequence? inside).getD ['{' :: inside ++ ['}']]
      let back := if after.isEmpty then [[]] else expand fuel after
      joined (joined [front] middle) back

/-- Whether a word may stand for several. -/
def mayExpand (text : List Char) : Bool := text.contains '{' && text.contains '}'

/-- The words that a word stands for. -/
def words (text : List Char) : List (List Char) :=
  if mayExpand text then expand (text.length + 1) text else [text]

end Braces
end Extended
end Shell
end SuiteCoverage
