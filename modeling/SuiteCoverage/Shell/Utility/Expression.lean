import SuiteCoverage.Regex.Reading
import SuiteCoverage.Shell.Utility.Basic

/-!
# Expressions

The utility that finds the value of an expression, every part of which is an argument of its own.
Values are texts; those that are whole numbers can be calculated with, however large they are.
Operands that cannot matter any more are read and not evaluated.
-/

set_option autoImplicit false

namespace SuiteCoverage
namespace Shell
namespace Utility

open Effect

/-- What is wrong with an expression. -/
inductive ExpressionFlaw where
  | missing (before : String)
  | closingMissing (before : String)
  | closingInstead (found : String)
  | unexpectedClosing
  | unexpected (argument : String)
  | noInteger
  | divisionByZero
  | pattern (flaw : Regex.Flaw)
deriving DecidableEq, Repr

/-- What is wrong with an expression, in words. -/
def ExpressionFlaw.complaint : ExpressionFlaw → String
  | missing before => "syntax error: missing argument after " ++ Quoting.name before
  | closingMissing before => "syntax error: expecting ')' after " ++ Quoting.name before
  | closingInstead found => "syntax error: expecting ')' instead of " ++ Quoting.name found
  | unexpectedClosing => "syntax error: unexpected ')'"
  | unexpected argument => "syntax error: unexpected argument " ++ Quoting.name argument
  | noInteger => "non-integer argument"
  | divisionByZero => "division by zero"
  | pattern flaw => flaw.message

namespace Expression

/-- The arguments that have been read and those that are left. -/
structure Cursor where
  before : String
  rest : List String

/-- Reads an expression. -/
abbrev Reader := StateT Cursor (Except ExpressionFlaw)

/-- The whole number that a value is. -/
def integer? (value : String) : Option Int :=
  match value.toList with
  | '-' :: digits => (count? (String.ofList digits)).map fun n => -(n : Int)
  | _ => (count? value).map fun n => (n : Int)

/-- Whether a value counts as false: nothing, or a number that is zero. -/
def isNull (value : String) : Bool :=
  value.isEmpty || integer? value == some 0

/-- The value of something that holds or does not. -/
def ofBool (holds : Bool) : String := if holds then "1" else "0"

/-- Takes an argument if it is a certain one. -/
def takes (argument : String) : Reader Bool := do
  match (← get).rest with
  | first :: rest =>
    if first == argument then
      set (⟨first, rest⟩ : Cursor)
      return true
    return false
  | [] => return false

/-- Takes the first of some arguments that is next. -/
def takesOne : List String → Reader (Option String)
  | [] => return none
  | argument :: others => do
    if ← takes argument then return some argument
    takesOne others

/-- Takes any argument. -/
def takeAny : Reader String := do
  let cursor ← get
  match cursor.rest with
  | [] => throw (.missing cursor.before)
  | first :: rest =>
    set (⟨first, rest⟩ : Cursor)
    return first

/-- The start of a text that a pattern matches: what its first group has taken, or else how many
    characters match. -/
def matched (text pattern : String) : Except ExpressionFlaw String := do
  let re ← (Regex.ofText .basic pattern).mapError .pattern
  let subject : Subject := ⟨text.toList.toArray, false, false⟩
  let hasGroup := re.hasGroups
  match re.matchAt? subject 0 with
  | some found =>
    return (if hasGroup then String.ofList (found.taken subject 1)
      else toString (found.last - found.first))
  | none => return (if hasGroup then "" else "0")

/-- Two values as numbers. -/
def numbers (a b : String) : Reader (Int × Int) := do
  match integer? a, integer? b with
  | some m, some n => return (m, n)
  | _, _ => throw .noInteger

/-- The value of an operator between two numbers. -/
def calculated (operator : String) (m n : Int) : Reader Int := do
  match operator with
  | "+" => return m + n
  | "-" => return m - n
  | "*" => return m * n
  | _ =>
    if n == 0 then throw .divisionByZero
    return (if operator == "/" then Int.tdiv m n else Int.tmod m n)

/-- Whether a comparison of two values holds. Two numbers are compared as such. -/
def compared (operator a b : String) : Bool :=
  let ordering := match integer? a, integer? b with
    | some m, some n => compare m n
    | _, _ => compare a b
  match operator with
  | "<" => ordering == .lt
  | "<=" => ordering != .gt
  | "=" => ordering == .eq
  | "==" => ordering == .eq
  | "!=" => ordering != .eq
  | ">=" => ordering != .lt
  | _ => ordering == .gt

/-- The place of the first character of a text that is one of some. -/
def placeOf (text wanted : String) : Nat :=
  let before := text.toList.takeWhile fun c => !wanted.toList.contains c
  if before.length == text.length then 0 else before.length + 1

/-- A part of a text. -/
def partOf (text first length : String) : String :=
  match integer? first, integer? length with
  | some first, some length =>
    if 0 < first && 0 < length then
      String.ofList ((text.toList.drop (first.toNat - 1)).take length.toNat)
    else ""
  | _, _ => ""

/-- Goes on with operators of one kind and their operands. -/
def chained (operators : List String) (operand : Reader String)
    (combine : String → String → String → Reader String) : Nat → String → Reader String
  | 0, value => return value
  | fuel + 1, value => do
    match ← takesOne operators with
    | none => return value
    | some operator =>
      let next ← operand
      chained operators operand combine fuel (← combine operator value next)

/-- The value of a primary: a text, a function, or an expression in parentheses. `whole` reads an
    expression; `counts` tells whether the value matters. -/
def primary (whole : Bool → Reader String) (counts : Bool) : Nat → Reader String
  | 0 => throw (.missing "")
  | fuel + 1 => do
    let next := primary whole counts fuel
    match ← takesOne ["+", "length", "match", "index", "substr", "(", ")"] with
    | some "+" => takeAny
    | some "length" => return toString (← next).length
    | some "match" =>
      let text ← next
      let pattern ← next
      if counts then matched text pattern else return text
    | some "index" =>
      let text ← next
      return toString (placeOf text (← next))
    | some "substr" =>
      let text ← next
      let first ← next
      return partOf text first (← next)
    | some "(" =>
      let value ← whole counts
      let cursor ← get
      match cursor.rest with
      | [] => throw (.closingMissing cursor.before)
      | found :: rest =>
        if found == ")" then
          set (⟨found, rest⟩ : Cursor)
          return value
        throw (.closingInstead found)
    | some _ => throw .unexpectedClosing
    | none => takeAny

/-- Goes on with operators that need not look at what follows them. -/
def shortcut (operator : String) (operand : Bool → Reader String)
    (matters : String → Bool) (combine : String → String → String) (counts : Bool) :
    Nat → String → Reader String
  | 0, value => return value
  | fuel + 1, value => do
    if ← takes operator then
      let next ← operand (counts && matters value)
      shortcut operator operand matters combine counts fuel (combine value next)
    else return value

/-- The value of an expression, in which `counts` tells whether the value matters. -/
def whole : Nat → Bool → Reader String
  | 0, _ => throw (.missing "")
  | fuel + 1, counts => do
    let simple (counts : Bool) : Reader String := primary (whole fuel) counts (fuel + 1)
    let numeric (counts : Bool) (operator a b : String) : Reader String := do
      if !counts then return a
      let (m, n) ← numbers a b
      return toString (← calculated operator m n)
    let found (counts : Bool) : Reader String := do
      chained [":"] (simple counts)
        (fun _ text pattern => if counts then matched text pattern else pure text)
        fuel (← simple counts)
    let product (counts : Bool) : Reader String := do
      chained ["*", "/", "%"] (found counts) (numeric counts) fuel (← found counts)
    let sum (counts : Bool) : Reader String := do
      chained ["+", "-"] (product counts) (numeric counts) fuel (← product counts)
    let comparison (counts : Bool) : Reader String := do
      chained ["<=", "<", "==", "=", "!=", ">=", ">"] (sum counts)
        (fun operator a b => pure (ofBool (compared operator a b))) fuel (← sum counts)
    let both (counts : Bool) : Reader String := do
      shortcut "&" comparison (!isNull ·)
        (fun a b => if isNull a || isNull b then "0" else a) counts fuel (← comparison counts)
    shortcut "|" both isNull
      (fun a b => if !isNull a then a else if isNull b then "0" else b) counts fuel
      (← both counts)

/-- The value of the expression that arguments make up. -/
def evaluate (arguments : List String) : Except ExpressionFlaw String := do
  let (value, cursor) ← (whole (arguments.length + 2) true).run ⟨"", arguments⟩
  match cursor.rest with
  | [] => return value
  | extra :: _ => throw (.unexpected extra)

end Expression

/-- Writes the value of an expression, and tells whether it counts as true. -/
def expr (arguments : List String) : Effect Unit := do
  let words := if arguments.head? == some "--" then arguments.drop 1 else arguments
  if words.isEmpty then blameCallWith 2 "missing operand"
  else
    match Expression.evaluate words with
    | .ok value =>
      say (value ++ "\n")
      Builtin.answer (!Expression.isNull value)
    | .error flaw =>
      blame flaw.complaint
      setStatus 2

end Utility
end Shell
end SuiteCoverage
