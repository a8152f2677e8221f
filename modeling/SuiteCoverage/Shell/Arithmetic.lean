/-!
# Arithmetic in scripts

An expression has the operators of whole numbers, of comparison, of logic and of single bits,
and can change variables. Numbers have 64 bits; what does not fit wraps around. A variable
without a value counts as zero.
-/

set_option autoImplicit false

namespace SuiteCoverage
namespace Shell
namespace Arithmetic

/-- A token of an expression. -/
inductive Token where
  | number (value : Int)
  | name (text : String)
  | sign (text : String)
deriving DecidableEq, Repr

/-- What is left of an expression, and the variables that it has changed, newest first. -/
structure Calculation where
  tokens : List Token
  changed : List (String × String)

/-- What is wrong with an expression. -/
inductive Flaw where
  /-- Its form, or what it comes to. -/
  | expression (reason : String)
  /-- The value of a variable, which is no number. -/
  | value (text : String)
deriving DecidableEq, Repr

/-- What is wrong with an expression, in words. -/
def Flaw.complaint (expression : String) : Flaw → String
  | .expression reason => "arithmetic expression: " ++ reason ++ ": \"" ++ expression ++ "\""
  | .value text => "Illegal number: " ++ text

/-- Calculates, or tells what is wrong. -/
abbrev Calc := StateT Calculation (Except Flaw)

/-- Tells what is wrong with the form of an expression. -/
def wrong {α : Type} (reason : String) : Calc α := throw (.expression reason)

/-- The value of a digit. -/
def digit? (c : Char) : Option Nat :=
  if c.isDigit then some (c.toNat - '0'.toNat)
  else if 'a' ≤ c ∧ c ≤ 'f' then some (c.toNat - 'a'.toNat + 10)
  else if 'A' ≤ c ∧ c ≤ 'F' then some (c.toNat - 'A'.toNat + 10)
  else none

/-- The number that digits in a base make up. -/
def digits? (base : Nat) (text : List Char) : Option Nat :=
  text.foldl
    (fun total c => do
      let total ← total
      let d ← (digit? c).filter (· < base)
      pure (total * base + d))
    (some 0)

/-- A number without a sign: hexadecimal, octal or decimal. -/
def natural? : List Char → Option Nat
  | [] => none
  | '0' :: 'x' :: c :: rest => digits? 16 (c :: rest)
  | '0' :: 'X' :: c :: rest => digits? 16 (c :: rest)
  | '0' :: rest => digits? 8 rest
  | text => digits? 10 text

/-- A number that may have a sign. -/
def integer? : List Char → Option Int
  | '-' :: rest => (natural? rest).map fun n => -(n : Int)
  | '+' :: rest => (natural? rest).map fun n => (n : Int)
  | text => (natural? text).map fun n => (n : Int)

/-- A number in the range of numbers. -/
def wrap (n : Int) : Int := Int.bmod n UInt64.size

/-- Whether a character is a blank around a number. -/
def isBlank (c : Char) : Bool := " \t\n\x0b\x0c\r".toList.contains c

/-- The number that a text is: decimal, with blanks around it if need be. -/
def decimal? (text : String) : Option Int :=
  let chars := ((text.toList.dropWhile isBlank).reverse.dropWhile isBlank).reverse
  let (negative, digits) := match chars with
    | '-' :: digits => (true, digits)
    | '+' :: digits => (false, digits)
    | digits => (false, digits)
  let value (n : Nat) : Int := if negative then -n else n
  ((if digits.isEmpty then none else digits? 10 digits).map value).filter fun n => wrap n = n

/-- The count that a text is: a decimal number that is not negative and has 31 bits at most. -/
def count? (text : String) : Option Nat :=
  ((decimal? text).filter fun n : Int => 0 ≤ n ∧ n < Int32.size / 2).map Int.toNat

/-- The signs of expressions, longer ones first. -/
def signs : List String :=
  ["<<=", ">>=", "<<", ">>", "<=", ">=", "==", "!=", "&&", "||", "+=", "-=", "*=", "/=", "%=",
    "&=", "|=", "^=", "+", "-", "*", "/", "%", "<", ">", "=", "!", "~", "&", "|", "^", "?", ":",
    "(", ")"]

/-- The digits at the start of a text that make up a number, and its base. A number may start with
    a sign of its base. -/
def numeralOf : List Char → Nat × Nat × List Char
  | '0' :: x :: c :: rest =>
    if (x == 'x' || x == 'X') && (digit? c).isSome then
      (16, 2, (c :: rest).takeWhile fun d => (digit? d).isSome)
    else (8, 0, ('0' :: x :: c :: rest).takeWhile fun d => '0' ≤ d && d ≤ '7')
  | '0' :: rest => (8, 0, ('0' :: rest).takeWhile fun d => '0' ≤ d && d ≤ '7')
  | text => (10, 0, text.takeWhile Char.isDigit)

/-- The tokens of an expression. A character that means nothing is a sign without a meaning. -/
def tokens : Nat → List Char → List Token
  | 0, _ => []
  | _, [] => []
  | fuel + 1, c :: rest =>
    if c == ' ' || c == '\t' || c == '\n' then tokens fuel rest
    else if c.isDigit then
      let (base, start, digits) := numeralOf (c :: rest)
      let n := (digits? base digits).getD 0
      let after := (c :: rest).drop (start + digits.length)
      .number (min n (UInt64.size / 2 - 1)) :: tokens fuel after
    else if c.isAlpha || c == '_' then
      let word := (c :: rest).takeWhile fun d => d.isAlphanum || d == '_'
      .name (String.ofList word) :: tokens fuel ((c :: rest).drop word.length)
    else
      let sign := (signs.find? fun sign => sign.toList.isPrefixOf (c :: rest)).getD
        (String.singleton c)
      .sign sign :: tokens fuel ((c :: rest).drop sign.length)

/-- One for what holds, zero for what does not. -/
def truth (holds : Bool) : Int := if holds then 1 else 0

/-- How tightly an operator binds, if the sign is one that calculates with two numbers. -/
def level? : String → Option Nat
  | "|" => some 1
  | "^" => some 2
  | "&" => some 3
  | "==" => some 4
  | "!=" => some 4
  | "<" => some 5
  | ">" => some 5
  | "<=" => some 5
  | ">=" => some 5
  | "<<" => some 6
  | ">>" => some 6
  | "+" => some 7
  | "-" => some 7
  | "*" => some 8
  | "/" => some 8
  | "%" => some 8
  | _ => none

/-- An operation on the 64 bits of two numbers. -/
def bitwise (f : UInt64 → UInt64 → UInt64) (a b : Int) : Int :=
  wrap (f (UInt64.ofInt a) (UInt64.ofInt b)).toNat

/-- The result of an operator with two sides. -/
def apply (sign : String) (a b : Int) : Except Flaw Int :=
  match sign with
  | "|" => .ok (bitwise (· ||| ·) a b)
  | "^" => .ok (bitwise (· ^^^ ·) a b)
  | "&" => .ok (bitwise (· &&& ·) a b)
  | "==" => .ok (truth (a == b))
  | "!=" => .ok (truth (a != b))
  | "<" => .ok (truth (a < b))
  | ">" => .ok (truth (b < a))
  | "<=" => .ok (truth (a ≤ b))
  | ">=" => .ok (truth (b ≤ a))
  | "<<" => .ok (bitwise (· <<< ·) a b)
  | ">>" => .ok (wrap (a >>> (b % 64).toNat))
  | "+" => .ok (wrap (a + b))
  | "-" => .ok (wrap (a - b))
  | "*" => .ok (wrap (a * b))
  | "/" => if b == 0 then .error (.expression "division by zero") else .ok (wrap (Int.tdiv a b))
  | "%" => if b == 0 then .error (.expression "division by zero") else .ok (wrap (Int.tmod a b))
  | _ => .error (.expression "expecting primary")

/-- The next token, which is taken. -/
def take? : Calc (Option Token) := do
  match (← getThe Calculation).tokens with
  | [] => return none
  | token :: rest =>
    modifyThe Calculation fun c => { c with tokens := rest }
    return some token

/-- The value of a variable. -/
def value (lookup : String → String) (name : String) : Calc Int := do
  let changed := (← getThe Calculation).changed
  let text := match changed.find? fun entry => entry.1 == name with
    | some entry => entry.2
    | none => lookup name
  let chars := text.toList.dropWhile Char.isWhitespace
  if chars.isEmpty then return 0
  match integer? (chars.reverse.dropWhile Char.isWhitespace).reverse with
  | some n => if wrap n = n then return n else throw (.value text)
  | none => throw (.value text)

/-- Gives a variable a value. -/
def assign (name : String) (n : Int) : Calc Int := do
  modifyThe Calculation fun c => { c with changed := (name, toString n) :: c.changed }
  return n

mutual

/-- An expression: an assignment or a choice. What is not `live` is read and not evaluated: it
    changes nothing, nothing can be wrong with its values, and its own value is of no account. -/
def expression (lookup : String → String) : Nat → Bool → Calc Int
  | 0, _ => wrong "expecting primary"
  | fuel + 1, live => do
    match (← getThe Calculation).tokens with
    | .name name :: .sign sign :: rest =>
      let operator := String.ofList sign.toList.dropLast
      if sign = "=" then
        modifyThe Calculation fun c => { c with tokens := rest }
        let new ← expression lookup fuel live
        if live then assign name new else return new
      else if sign.toList.getLast? == some '=' && (level? sign).isNone
          && (level? operator).isSome then
        modifyThe Calculation fun c => { c with tokens := rest }
        let new ← expression lookup fuel live
        if !live then return new
        assign name (← apply operator (← value lookup name) new)
      else choice lookup fuel live
    | _ => choice lookup fuel live

/-- A choice between two expressions, or the condition alone. -/
def choice (lookup : String → String) : Nat → Bool → Calc Int
  | 0, _ => wrong "expecting primary"
  | fuel + 1, live => do
    let condition ← disjunction lookup fuel live
    match (← getThe Calculation).tokens with
    | .sign "?" :: rest =>
      modifyThe Calculation fun c => { c with tokens := rest }
      let yes ← expression lookup fuel (live && condition != 0)
      match ← take? with
      | some (.sign ":") =>
        let no ← choice lookup fuel (live && condition == 0)
        return if condition != 0 then yes else no
      | _ => wrong "expecting ':'"
    | _ => return condition

/-- Expressions one of which has to hold. Those after the first that holds do not count. -/
def disjunction (lookup : String → String) : Nat → Bool → Calc Int
  | 0, _ => wrong "expecting primary"
  | fuel + 1, live => do
    let first ← conjunction lookup fuel live
    match (← getThe Calculation).tokens with
    | .sign "||" :: rest =>
      modifyThe Calculation fun c => { c with tokens := rest }
      let second ← disjunction lookup fuel (live && first == 0)
      return truth (first != 0 || second != 0)
    | _ => return first

/-- Expressions all of which have to hold. Those after the first that does not do not count. -/
def conjunction (lookup : String → String) : Nat → Bool → Calc Int
  | 0, _ => wrong "expecting primary"
  | fuel + 1, live => do
    let first ← operators lookup fuel live 0
    match (← getThe Calculation).tokens with
    | .sign "&&" :: rest =>
      modifyThe Calculation fun c => { c with tokens := rest }
      let second ← conjunction lookup fuel (live && first != 0)
      return truth (first != 0 && second != 0)
    | _ => return first

/-- Operators that bind at least as tightly as a level. -/
def operators (lookup : String → String) : Nat → Bool → Nat → Calc Int
  | 0, _, _ => wrong "expecting primary"
  | fuel + 1, live, level => do
    let first ← operand lookup fuel live
    following lookup fuel live level first

/-- What follows a left side. -/
def following (lookup : String → String) : Nat → Bool → Nat → Int → Calc Int
  | 0, _, _, left => return left
  | fuel + 1, live, level, left => do
    match (← getThe Calculation).tokens with
    | .sign sign :: rest =>
      match level? sign with
      | some tightness =>
        if tightness < level then return left
        modifyThe Calculation fun c => { c with tokens := rest }
        let right ← operators lookup fuel live (tightness + 1)
        following lookup fuel live level (← if live then apply sign left right else pure right)
      | none => return left
    | _ => return left

/-- A number, a variable, or an expression in parentheses, with signs in front of it. -/
def operand (lookup : String → String) : Nat → Bool → Calc Int
  | 0, _ => wrong "expecting primary"
  | fuel + 1, live => do
    match ← take? with
    | some (.number n) => return n
    | some (.name name) => if live then value lookup name else return 0
    | some (.sign "-") => return wrap (-(← operand lookup fuel live))
    | some (.sign "+") => operand lookup fuel live
    | some (.sign "!") => return truth ((← operand lookup fuel live) == 0)
    | some (.sign "~") => return wrap (-(← operand lookup fuel live) - 1)
    | some (.sign "(") =>
      let inner ← expression lookup fuel live
      match ← take? with
      | some (.sign ")") => return inner
      | _ => wrong "expecting ')'"
    | _ => wrong "expecting primary"

end

/-- The value of an expression and the variables that it changes, the last change last. -/
def evaluate (lookup : String → String) (text : String) :
    Except Flaw (Int × List (String × String)) := do
  let all := tokens (text.length + 1) text.toList
  let (n, after) ← (expression lookup (6 * all.length + 8) true).run ⟨all, []⟩
  if after.tokens.isEmpty then return (n, after.changed.reverse)
  throw (.expression "expecting EOF")

end Arithmetic
end Shell
end SuiteCoverage
