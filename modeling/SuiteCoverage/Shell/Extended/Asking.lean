import SuiteCoverage.Regex.Reading
import SuiteCoverage.Shell.Condition
import SuiteCoverage.Shell.Extended.Expansion

/-!
# Questions

What `test` and `[` are asked in their arguments, and what stands in double brackets. The number of
arguments decides what they mean if there are few of them. In double brackets texts are compared
with patterns, and numbers are expressions.
-/

set_option autoImplicit false

namespace SuiteCoverage
namespace Shell
namespace Extended
namespace Asking

open Effect

/-- Whether an argument is an operator that asks about one text. -/
def isSingle (text : String) : Bool :=
  match text.toList with
  | ['-', c] => "abcdefghknoprstuvwxzGLOSNR".toList.contains c
  | _ => false

/-- Whether an argument is an operator that compares two texts. -/
def isDouble (text : String) : Bool := text = "==" || Condition.doubles.contains text

/-- Whether a variable is set, or a place in one. -/
def isVariableSet (text : String) : Effect Bool := do
  let target := Store.Target.ofText text
  let resolved := Store.resolve (← state) target.name
  match Store.find? (← state) resolved.name, target.place.or resolved.place with
  | none, _ => return false
  | some v, none => return v.value.text?.isSome
  | some v, some place =>
    if place = "@" || place = "*" then return !v.value.texts.isEmpty
    match ← Setting.spotOf resolved.name place place with
    | some spot => return (Store.textAt? v spot).isSome
    | none => return false

/-- The answer to a question about one text. -/
def single (operator text : String) : Effect Bool := do
  let s ← state
  match operator with
  | "-o" => return s.own.has text
  | "-v" => isVariableSet text
  | "-R" => return (s.own.scopes.find? text).any fun v => v.has 'n' && v.isSet
  | "-a" => return (Condition.single s.world "-e" text).toOption.getD false
  | "-t" => return false
  | "-N" => return false
  | operator => return (Condition.single s.world operator text).toOption.getD false

/-- Ends a question that has no answer. -/
def refuse {α : Type} (sentence : String) : Effect α := do
  object sentence
  failWith misuse

/-- The number that an argument is. -/
def number (text : String) : Effect Int := do
  match Arithmetic.decimal? text with
  | some n => return n
  | none => refuse (text ++ ": integer expression expected")

/-- Whether two numbers compare as an operator says; `none` if it compares no numbers. -/
def comparison? (operator : String) : Option (Int → Int → Bool) :=
  match operator with
  | "-eq" => some fun m n => m == n
  | "-ne" => some fun m n => m != n
  | "-lt" => some fun m n => decide (m < n)
  | "-le" => some fun m n => decide (m ≤ n)
  | "-gt" => some fun m n => decide (n < m)
  | "-ge" => some fun m n => decide (n ≤ m)
  | _ => none

/-- The answer to a question about two files; a file that is not there is older than any other. -/
def aboutFiles (w : World) (operator a b : String) : Bool :=
  let isThere (p : String) : Bool := Condition.leadsTo w p fun _ => true
  match operator with
  | "-nt" => Condition.isNewer w a b || (isThere a && !isThere b)
  | "-ot" => Condition.isNewer w b a || (isThere b && !isThere a)
  | _ => Condition.isSame w a b

/-- The answer to a question about two arguments. -/
def double (operator a b : String) : Effect Bool := do
  match comparison? operator with
  | some holds => return holds (← number a) (← number b)
  | none =>
    let w := (← state).world
    match operator with
    | "=" => return a == b
    | "==" => return a == b
    | "!=" => return a != b
    | "<" => return a < b
    | ">" => return b < a
    | operator => return aboutFiles w operator a b

/-! ## Arguments -/

/-- The answer to a question about an argument and an operator in front of it. -/
def ofTwo (first second : String) : Effect Bool := do
  if first = "!" then return second.isEmpty
  if isSingle first then
    if first = "-t" then
      let _ ← number second
    single first second
  else refuse (first ++ ": unary operator expected")

/-- The answer to a question of three arguments. -/
def ofThree (first second third : String) : Effect Bool := do
  if isDouble second then double second first third
  else if second = "-a" then return !first.isEmpty && !third.isEmpty
  else if second = "-o" then return !first.isEmpty || !third.isEmpty
  else if first = "!" then return !(← ofTwo second third)
  else if first = "(" && third = ")" then return !second.isEmpty
  else refuse (second ++ ": binary operator expected")

mutual

/-- Questions one of which has to hold, and the arguments that are left. -/
def anyOf : Nat → List String → Effect (Bool × List String)
  | 0, _ => throw .exhausted
  | fuel + 1, arguments => do
    let (left, rest) ← allOf fuel arguments
    match rest with
    | "-o" :: rest =>
      let (right, rest) ← anyOf fuel rest
      return (left || right, rest)
    | rest => return (left, rest)

/-- Questions all of which have to hold, and the arguments that are left. -/
def allOf : Nat → List String → Effect (Bool × List String)
  | 0, _ => throw .exhausted
  | fuel + 1, arguments => do
    let (left, rest) ← term fuel arguments
    match rest with
    | "-a" :: rest =>
      let (right, rest) ← allOf fuel rest
      return (left && right, rest)
    | rest => return (left, rest)

/-- A question, and the arguments that are left. -/
def term : Nat → List String → Effect (Bool × List String)
  | 0, _ => throw .exhausted
  | _, [] => refuse "argument expected"
  | fuel + 1, first :: rest => do
    if first = "!" then
      let (holds, rest) ← term fuel rest
      return (!holds, rest)
    else if first = "(" then
      let (holds, rest) ← anyOf fuel rest
      match rest with
      | ")" :: rest => return (holds, rest)
      | [] => refuse "\u0060)' expected"
      | other :: _ => refuse ("\u0060)' expected, found " ++ other)
    else
      match rest with
      | second :: third :: more =>
        if isDouble second then return (← double second first third, more)
        else if isSingle first then return (← single first second, third :: more)
        else return (!first.isEmpty, rest)
      | [second] =>
        if isSingle first then return (← single first second, [])
        else return (!first.isEmpty, rest)
      | [] => return (!first.isEmpty, [])

end

/-- The answer to arguments that are read one after the other. -/
def ofMany (arguments : List String) : Effect Bool := do
  let (holds, rest) ← anyOf (4 * arguments.length + 4) arguments
  match rest with
  | [] => return holds
  | first :: _ =>
    if first.startsWith "-" then refuse ("syntax error: \u0060" ++ first ++ "' unexpected")
    else refuse "too many arguments"

/-- The answer to arguments. -/
def ofArguments (arguments : List String) : Effect Bool := do
  match arguments with
  | [] => return false
  | [first] => return !first.isEmpty
  | [first, second] => ofTwo first second
  | [first, second, third] => ofThree first second third
  | [first, second, third, fourth] =>
    if first = "!" then return !(← ofThree second third fourth)
    else if first = "(" && fourth = ")" then ofTwo second third
    else ofMany arguments
  | arguments => ofMany arguments

/-- Does what `test` does. -/
def test (arguments : List String) : Effect Unit := do
  answer (← ofArguments arguments)

/-- Does what `[` does. -/
def bracket (arguments : List String) : Effect Unit := do
  if arguments.getLast? == some "]" then test arguments.dropLast
  else refuse "missing \u0060]'"

/-! ## Double brackets -/

/-- A text of cells with a backslash in front of each character that is quoted. -/
def escapedText (cells : List Cell) : String :=
  String.ofList (cells.flatMap fun cell =>
    match cell with
    | .quoted c => ['\\', c]
    | cell => cell.char?.toList)

/-- A regular expression in which what is quoted stands for itself. -/
def expressionText (cells : List Cell) : String :=
  String.ofList (cells.flatMap fun cell =>
    match cell with
    | .quoted c => if "\\[]()\x7b\x7d.*+?^$|".toList.contains c then ['\\', c] else [c]
    | cell => cell.char?.toList)

/-- Shows a question that is being answered, if that is asked for. -/
abbrev Show := String → Effect Unit

/-- Whether a text has a match, whose parts are kept. -/
def isFound (text : String) (expression : List Cell) : Effect Bool := do
  let s ← state
  match Regex.ofText .extendedForm (expressionText expression) with
  | .error _ =>
    setStatus misuse
    throw .failed
  | .ok re =>
    let subject : Subject := ⟨text.toList.toArray, s.own.has "nocasematch", false⟩
    let found := re.find? subject 0
    let parts := found.elim [] fun m =>
      (List.range (re.groupCount + 1)).map fun n => String.ofList (m.taken subject n)
    Setting.putTexts "BASH_REMATCH" parts
    return found.isSome

/-- The answer to a question about two words. -/
def compared (carrier : Carrier) (fuel : Nat) (trace : Show) (operator : String)
    (left right : Word) : Effect Bool := do
  let a ← Expansion.single carrier fuel left
  let shown (text : String) : String := if text.isEmpty then "''" else text
  let s ← state
  let word := Expansion.atHome s false .here right.fragments
  let cells ← Expansion.cells carrier fuel false word
  let isPattern := ["=", "==", "!="].contains operator
  let b := Expansion.textOfCells cells
  trace (shown a ++ " " ++ operator ++ " "
    ++ shown (if isPattern || operator = "=~" then escapedText cells else b))
  match comparison? operator with
  | some holds =>
    match ← calculated "[[" a with
    | none => return false
    | some m =>
      match ← calculated "[[" b with
      | none => return false
      | some n => return holds m n
  | none =>
    let s ← state
    if isPattern then
      let holds := Piece.isMatch (s.own.has "nocasematch") (Piece.ofCells true cells) a
      return holds != (operator = "!=")
    else if operator = "=~" then isFound a cells
    else if operator = "<" then return a < b
    else if operator = ">" then return b < a
    else return aboutFiles s.world operator a b

/-- The answer to a question in double brackets. -/
def answerTo (carrier : Carrier) (trace : Show) : Nat → Question → Effect Bool
  | 0, _ => throw .exhausted
  | fuel + 1, question => do
    match question with
    | .one operator word =>
      let text ← Expansion.single carrier fuel word
      trace (operator ++ " " ++ if text.isEmpty then "''" else text)
      if operator = "-n" then return !text.isEmpty
      else if operator = "-z" then return text.isEmpty
      else single operator text
    | .two operator left right => compared carrier fuel trace operator left right
    | .negation inner =>
      return !(← answerTo carrier (fun text => trace ("! " ++ text)) fuel inner)
    | .both left right =>
      if ← answerTo carrier trace fuel left then answerTo carrier trace fuel right
      else return false
    | .either left right =>
      if ← answerTo carrier trace fuel left then return true
      else answerTo carrier trace fuel right
    | .grouped inner => answerTo carrier trace fuel inner

end Asking
end Extended
end Shell
end SuiteCoverage
