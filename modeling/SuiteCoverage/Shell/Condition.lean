import SuiteCoverage.Shell.Arithmetic
import SuiteCoverage.Text.Decoding
import SuiteCoverage.World.Basic

/-!
# Conditions

What `test` and `[` find out: about texts, numbers and files. With three or four arguments their
number decides what they mean, so that a text may look like an operator.
-/

set_option autoImplicit false

namespace SuiteCoverage
namespace Shell
namespace Condition

/-- Whether a path leads to a node of a kind, links followed. -/
def leadsTo (w : World) (p : String) (kind : Node → Bool) : Bool :=
  match w.stat ⟨toText p⟩ with
  | .ok node => kind node
  | .error _ => false

/-- Whether a path is a link. -/
def isLink (w : World) (p : String) : Bool :=
  match w.locate .upTo ⟨toText p⟩ with
  | .ok (.present _ node) => node.isLink
  | _ => false

/-- Whether a node has any content. -/
def hasContent : Node → Bool
  | .file content _ => content.size != 0
  | .directory .. => true
  | .program _ => true
  | _ => false

/-- The number that a text is. -/
def number (text : String) : Except String Int :=
  match Arithmetic.decimal? text with
  | some n => .ok n
  | none => .error ("Illegal number: " ++ text)

/-- Whether two paths lead to the same: to one place, or to two names of one file. -/
def isSame (w : World) (a b : String) : Bool :=
  match w.locate .through ⟨toText a⟩, w.locate .through ⟨toText b⟩ with
  | .ok (.present one node), .ok (.present other node2) =>
    one == other || (node.facts.identity.isSome && node.facts.identity == node2.facts.identity)
  | _, _ => false

/-- Whether what a path leads to was changed later than what another leads to. -/
def isNewer (w : World) (a b : String) : Bool :=
  match w.stat ⟨toText a⟩, w.stat ⟨toText b⟩ with
  | .ok node, .ok other => other.facts.changed < node.facts.changed
  | _, _ => false

/-- The operators that ask about one text. -/
def singles : List String :=
  ["-n", "-z", "-e", "-f", "-d", "-r", "-w", "-x", "-s", "-h", "-L", "-t", "-b", "-c", "-p",
    "-S", "-u", "-g", "-k", "-O", "-G"]

/-- The operators that compare two texts. -/
def doubles : List String :=
  ["=", "!=", "<", ">", "-eq", "-ne", "-lt", "-le", "-gt", "-ge", "-nt", "-ot", "-ef"]

/-- The answer to a question about one text. -/
def single (w : World) (operator p : String) : Except String Bool :=
  match operator with
  | "-n" => .ok (!p.isEmpty)
  | "-z" => .ok p.isEmpty
  | "-f" => .ok (leadsTo w p Node.isRegular)
  | "-d" => .ok (leadsTo w p Node.isDirectory)
  | "-x" => .ok (leadsTo w p fun node => node.facts.isExecutable)
  | "-s" => .ok (leadsTo w p hasContent)
  | "-h" => .ok (isLink w p)
  | "-L" => .ok (isLink w p)
  | "-c" => .ok (leadsTo w p Node.isDevice)
  | "-p" => .ok (leadsTo w p Node.isQueue)
  | "-t" => (number p).map fun _ => false
  | "-r" => .ok (leadsTo w p Node.isReadable)
  | "-w" => .ok (leadsTo w p Node.isWritable)
  | _ => .ok (["-e", "-O", "-G"].contains operator && leadsTo w p fun _ => true)

/-- A comparison of two numbers. -/
def compareNumbers (holds : Int → Int → Bool) (a b : String) : Except String Bool := do
  return holds (← number a) (← number b)

/-- The answer to a question about two texts. -/
def double (w : World) (operator a b : String) : Except String Bool :=
  match operator with
  | "=" => .ok (a == b)
  | "!=" => .ok (a != b)
  | "<" => .ok (a < b)
  | ">" => .ok (b < a)
  | "-eq" => compareNumbers (fun m n => m == n) a b
  | "-ne" => compareNumbers (fun m n => m != n) a b
  | "-lt" => compareNumbers (fun m n => decide (m < n)) a b
  | "-le" => compareNumbers (fun m n => decide (m ≤ n)) a b
  | "-gt" => compareNumbers (fun m n => decide (n < m)) a b
  | "-ge" => compareNumbers (fun m n => decide (n ≤ m)) a b
  | "-ef" => .ok (isSame w a b)
  | "-nt" => .ok (isNewer w a b)
  | "-ot" => .ok (isNewer w b a)
  | _ => .ok false

/-- What an argument is taken for. -/
inductive Part where
  | operand
  | single
  | double
  | negation
  | opening
  | closing
  /-- Joins two questions, so that both have to hold, or else one. -/
  | join (both : Bool)
deriving DecidableEq, Repr

/-- What the first of some arguments is taken for. One that looks like an operator is a text if
    nothing follows that the operator could be about. -/
def Part.first? : List String → Option Part
  | [] => none
  | text :: rest =>
    some (
      if doubles.contains text then .double
      else if text = "!" then .negation
      else if text = "-a" then .join true
      else if text = "-o" then .join false
      else if text = ")" then .closing
      else if text = "(" then if rest.isEmpty then .operand else .opening
      else if singles.contains text then
        match rest with
        | [] => .operand
        | [_] => .single
        | next :: _ => if doubles.contains next then .operand else .single
      else .operand)

/-- What is wrong with an argument. -/
def blamed (argument complaint : String) : String :=
  if argument.isEmpty then complaint else argument ++ ": " ++ complaint

/-- An answer, and the arguments from the last one on that it was read from. -/
abbrev Reading := Except String (Bool × List String)

/-- A question at the front of the arguments. `whole` answers what stands in parentheses. -/
def question (w : World) (whole : List String → Reading) (part : Option Part) :
    List String → Reading
  | [] => .ok (false, [])
  | first :: rest =>
    match part with
    | some .opening =>
      if Part.first? rest = some .closing then .ok (false, rest)
      else do
        let (holds, after) ← whole rest
        if Part.first? (after.drop 1) = some .closing then return (holds, after.drop 1)
        else throw "closing paren expected"
    | some .single =>
      match rest with
      | [] => .error (blamed first "argument expected")
      | p :: _ => (single w first p).map fun holds => (holds, rest)
    | _ =>
      match rest with
      | operator :: others =>
        if Part.first? rest = some .double then
          match others with
          | [] => .error (blamed operator "argument expected")
          | b :: _ => (double w operator first b).map fun holds => (holds, others)
        else .ok (!first.isEmpty, first :: rest)
      | [] => .ok (!first.isEmpty, [first])

/-- A question that may be negated. -/
def negatable (w : World) (whole : List String → Reading) : List String → Reading
  | [] => .ok (false, [])
  | first :: rest =>
    match Part.first? (first :: rest) with
    | some .negation =>
      if rest.isEmpty then .ok (true, [first])
      else (negatable w whole rest).map fun (holds, after) => (!holds, after)
    | part => question w whole part (first :: rest)

/-- Goes on with questions that are joined to the one before them. -/
def joined (both : Bool) (again : List String → Reading) (before : Reading) : Reading := do
  let (first, after) ← before
  if Part.first? (after.drop 1) = some (.join both) then
    let (second, last) ← again (after.drop 2)
    return (if both then first && second else first || second, last)
  else return (first, after)

/-- Questions all of which have to hold. -/
def allOf (w : World) (whole : List String → Reading) : Nat → List String → Reading
  | 0, _ => .error "too many arguments"
  | fuel + 1, arguments =>
    joined true (allOf w whole fuel) (negatable w whole arguments)

/-- Questions one of which has to hold, with a number of steps to read them in. -/
def anyOf (w : World) : Nat → List String → Reading
  | 0, _ => .error "too many arguments"
  | fuel + 1, arguments =>
    joined false (anyOf w fuel) (allOf w (anyOf w fuel) (fuel + 1) arguments)

/-- The answer once all arguments have been read. -/
def complete (reading : Reading) : Except String Bool := do
  match ← reading with
  | (_, last :: _ :: _) => throw (blamed last "unexpected operator")
  | (holds, _) => return holds

/-- The answer to the arguments of `test`. Their number may decide what they mean; if it does not,
    they are read one after the other. -/
def evaluate (w : World) : List String → Except String Bool
  | [] => .ok false
  | first :: rest =>
    let read (arguments : List String) := complete (anyOf w (arguments.length + 2) arguments)
    match rest with
    | [operator, b] =>
      if doubles.contains operator then double w operator first b
      else if first = "(" ∧ b = ")" then read [operator]
      else if first = "!" then (evaluate w rest).map (!·)
      else read (first :: rest)
    | [b, c, d] =>
      if first = "(" ∧ d = ")" then read [b, c]
      else if first = "!" then (evaluate w rest).map (!·)
      else read (first :: rest)
    | _ => read (first :: rest)

end Condition
end Shell
end SuiteCoverage
