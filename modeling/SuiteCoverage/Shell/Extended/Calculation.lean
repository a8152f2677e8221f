import SuiteCoverage.Shell.Extended.Store

/-!
# Calculations

An expression has the operators of whole numbers, of comparison, of logic and of single bits, and
can change variables, also in lists and tables. The value of a variable is an expression itself.
Numbers have 64 bits; what does not fit wraps around.

What is wrong with an expression is told with what is left of it from the token on that was read
last.
-/

set_option autoImplicit false

namespace SuiteCoverage
namespace Shell
namespace Extended
namespace Calculation

/-- A token of an expression. -/
inductive Token where
  | none
  | number
  | name
  | sign (text : String)
  /-- An operator that changes what is on its left. -/
  | changing (operator : String)
  /-- Counting up or down by one before or behind a name. -/
  | before (isUp : Bool)
  | behind (isUp : Bool)
deriving DecidableEq, Repr

/-- What an expression can change: a variable, and the place in it. -/
structure Lvalue where
  name : String
  /-- The text in brackets. -/
  place : Option String
  /-- The place, if it has been found out. -/
  spot : Option Store.Spot

/-- Why an expression has no value. -/
inductive Flaw where
  /-- Its form, or what it comes to: the expression, what is wrong, and the token where. -/
  | expression (text message token : String)
  /-- A variable has no value. -/
  | unset (name : String)
  /-- A variable keeps its value. -/
  | fixed (name : String)
  /-- There is no such place in a variable. -/
  | place (text : String)
  /-- It is nested too deep. -/
  | exhausted
deriving DecidableEq, Repr

/-- How far an expression has been read. -/
structure Progress where
  shell : State
  /-- The whole expression. -/
  text : List Char
  /-- What is left of it. -/
  rest : List Char
  /-- What was left of it at the last token. -/
  lastStart : List Char
  token : Token
  lastToken : Token
  value : Int
  target : Option Lvalue
  /-- Whether what is read is without effect. -/
  isIdle : Bool
  /-- The number of expressions that this one is the value of a variable in. -/
  depth : Nat

/-- Calculates. -/
abbrev Calc := ExceptT Flaw (StateM Progress)

/-- Gives up because of what comes next. -/
def wrong {α : Type} (message : String) : Calc α := do
  let p ← get
  let shown := p.text.dropWhile fun c => c == ' ' || c == '\t' || c == '\n'
  throw (.expression (String.ofList shown) message (String.ofList p.lastStart))

/-- The range of numbers. -/
def size : Int := UInt64.size

/-- The number of 64 bits that a number counts as. -/
def wrap (n : Int) : Int := (n + size / 2) % size - size / 2

/-- The number whose bits are those of a number without a sign. -/
def unsigned (n : Int) : Nat := (n % size).toNat

/-- A truth value as a number. -/
def truth (b : Bool) : Int := if b then 1 else 0

/-- Whether a character may stand in a numeral. -/
def isNumeral (c : Char) : Bool := c.isAlphanum || c == '#' || c == '@' || c == '_'

/-- The value of a digit in a base. -/
def digit (base : Nat) (c : Char) : Nat :=
  if c.isDigit then c.toNat - 48
  else if c.isLower then c.toNat - 97 + 10
  else if c.isUpper then c.toNat - 65 + (if base ≤ 36 then 10 else 36)
  else if c == '@' then 62
  else 63

/-- The value of digits behind those that have been read; `isBased` tells that the base has been
    told. -/
def digits : Bool → Nat → Nat → List Char → Except String Nat
  | _, _, n, [] => .ok n
  | isBased, _, n, '#' :: rest =>
    if isBased then .error "invalid number"
    else if n < 2 || 64 < n then .error "invalid arithmetic base"
    else if rest.head?.all fun c => !(c.isAlphanum || c == '@' || c == '_') then
      .error "invalid integer constant"
    else digits true n 0 rest
  | isBased, base, n, c :: rest =>
    let d := digit base c
    if base ≤ d then .error "value too great for base"
    else digits isBased base (n * base + d) rest

/-- The value of a numeral. -/
def numeral (text : List Char) : Except String Int :=
  let result : Except String Nat := match text with
    | ['0'] => .ok 0
    | '0' :: 'x' :: rest => digits true 16 0 rest
    | '0' :: 'X' :: rest => digits true 16 0 rest
    | '0' :: rest => digits true 8 0 rest
    | text => digits false 10 0 text
  result.map fun (n : Nat) => wrap n

/-- Characters that are operators by themselves. -/
def isOperator (c : Char) : Bool := "=><+-*/%!()&|^~?:,".toList.contains c

/-- Whether a token is an operator or comes before an operand. -/
def Token.isOperator : Token → Bool
  | .none => true
  | .number => false
  | .name => false
  | .sign ")" => true
  | _ => true

/-- The text in brackets at the start of a text, and what follows it. -/
def bracketed? : Nat → Nat → List Char → Option (List Char × List Char)
  | 0, _, _ => none
  | _, _, [] => none
  | fuel + 1, depth, c :: rest =>
    let more (depth : Nat) : Option (List Char × List Char) :=
      (bracketed? fuel depth rest).map fun (inside, after) => (c :: inside, after)
    if c = '[' then more (depth + 1)
    else if c = ']' then if depth = 0 then some ([], rest) else more (depth - 1)
    else more depth

/-- The signs of operators of several characters, in the order in which they are looked for. -/
def longSigns : List String :=
  ["==", "!=", ">=", "<=", "&&", "||", "**"]

/-- A power, by squaring. -/
def raised : Nat → Int → Nat → Int → Int
  | 0, _, _, result => result
  | fuel + 1, base, n, result =>
    if n = 0 then result
    else
      raised fuel (wrap (base * base)) (n / 2) (if n % 2 = 1 then wrap (result * base) else result)

/-- What a binary operator comes to. Dividing by zero is looked after elsewhere. -/
def apply (operator : String) (a b : Int) : Int :=
  let shift := unsigned b % 64
  match operator with
  | "+" => wrap (a + b)
  | "-" => wrap (a - b)
  | "*" => wrap (a * b)
  | "/" => wrap (a.tdiv b)
  | "%" => wrap (a.tmod b)
  | "<<" => wrap ((unsigned a <<< shift : Nat) : Int)
  | ">>" => a / ((1 <<< shift : Nat) : Int)
  | "&" => wrap ((unsigned a &&& unsigned b : Nat) : Int)
  | "|" => wrap ((unsigned a ||| unsigned b : Nat) : Int)
  | "^" => wrap ((unsigned a ^^^ unsigned b : Nat) : Int)
  | "==" => truth (a == b)
  | "!=" => truth (a != b)
  | "<" => truth (decide (a < b))
  | ">" => truth (decide (b < a))
  | "<=" => truth (decide (a ≤ b))
  | ">=" => truth (decide (b ≤ a))
  | _ => 0

/-- The signs of the operators of a level of tightness, the loosest first, between those of logic
    and those that multiply. -/
def levels : List (List String) :=
  [["|"], ["^"], ["&"], ["==", "!="], ["<", ">", "<=", ">="], ["<<", ">>"], ["+", "-"]]

/-- The sign that a token is. -/
def Token.sign? : Token → Option String
  | .sign text => some text
  | _ => Option.none

/-- The most expressions that may be the values of variables in each other. -/
def depthLimit : Nat := 1024

mutual

/-- The value of an expression that is given. -/
def whole : Nat → List Char → Calc Int
  | 0, _ => throw .exhausted
  | fuel + 1, text => do
    if text.all fun c => c == ' ' || c == '\t' || c == '\n' then return 0
    let before ← get
    if depthLimit ≤ before.depth then wrong "expression recursion level exceeded"
    set { before with
      text, rest := text, lastStart := text, token := .none, lastToken := .none, value := 0
      target := Option.none, depth := before.depth + 1 }
    next fuel
    let n ← expression fuel
    if (← get).token != .none then wrong "syntax error in expression"
    modify fun after => { before with shell := after.shell }
    return n

/-- Goes on to the next token. -/
def next : Nat → Calc Unit
  | 0 => throw .exhausted
  | fuel + 1 => do
    let p ← get
    let text := p.rest.dropWhile fun c => c == ' ' || c == '\t' || c == '\n' || c == '\r'
    match text with
    | [] => set { p with rest := [], lastToken := p.token, token := .none }
    | c :: after =>
      set { p with rest := text, lastStart := text }
      if c.isAlpha || c == '_' then nextName fuel text
      else if c.isDigit then
        let taken := text.takeWhile isNumeral
        let following := text.drop taken.length
        match numeral taken with
        | .ok n =>
          modify fun p =>
            { p with rest := following, value := n, lastToken := p.token, token := .number }
        | .error message =>
          let shown := p.text.take (p.text.length - following.length)
          modify fun p => { p with text := shown, lastStart := taken }
          wrong message
      else
        let found (token : Token) (count : Nat) : Calc Unit :=
          modify fun p =>
            { p with rest := text.drop count, lastToken := p.token, token }
        match longSigns.find? fun sign => sign.toList.isPrefixOf text with
        | some sign => found (.sign sign) 2
        | none =>
          match text with
          | '<' :: '<' :: '=' :: _ => found (.changing "<<") 3
          | '>' :: '>' :: '=' :: _ => found (.changing ">>") 3
          | '<' :: '<' :: _ => found (.sign "<<") 2
          | '>' :: '>' :: _ => found (.sign ">>") 2
          | _ =>
            if (c == '+' || c == '-') && after.head? == some c then
              let isUp : Bool := c == '+'
              let operand := (after.drop 1).dropWhile fun c => c == ' ' || c == '\t' || c == '\n'
              let isCounted : Bool := match p.lastToken with
                | .before _ => true
                | _ => false
              if p.token = .name then found (.behind isUp) 2
              else if p.token = .number && isCounted then
                wrong (String.ofList [c, c] ++ ": assignment requires lvalue")
              else if operand.head?.any fun c => c.isAlpha || c == '_' then found (.before isUp) 2
              else found (.sign (String.singleton c)) 1
            else if after.head? == some '=' && "*/%+-&^|".toList.contains c then
              found (.changing (String.singleton c)) 2
            else if !isOperator c then
              if p.token.isOperator then wrong "syntax error: operand expected"
              else wrong "syntax error: invalid arithmetic operator"
            else found (.sign (String.singleton c)) 1

/-- Goes on to the next token, which is a name. -/
def nextName : Nat → List Char → Calc Unit
  | 0, _ => throw .exhausted
  | fuel + 1, text => do
    let name := text.takeWhile fun c => c.isAlphanum || c == '_'
    let after := text.drop name.length
    let (place, after) ← match after with
      | '[' :: inside =>
        match bracketed? (inside.length + 1) 0 inside with
        | some (place, after) => pure (some (String.ofList place), after)
        | none => throw (.place (String.ofList text))
      | _ => pure ((Option.none : Option String), after)
    modify fun p => { p with rest := after }
    let p ← get
    let target : Lvalue := ⟨String.ofList name, place, Option.none⟩
    -- What follows tells whether the value counts.
    let following := after.dropWhile fun c => c == ' ' || c == '\t' || c == '\n'
    let isAssigned : Bool := match following with
      | '=' :: '=' :: _ => false
      | '=' :: _ => true
      | _ => false
    let isCounted : Bool := match p.token with
      | .before _ => true
      | _ => false
    let (n, target) ←
      if isCounted || !isAssigned then valueOf fuel target
      else pure ((0 : Int), target)
    modify fun after =>
      { after with
        rest := p.rest, lastStart := p.lastStart, text := p.text
        value := n, target := some target, lastToken := p.token, token := .name }

/-- The place in a variable. -/
def spotOf : Nat → Lvalue → Calc Store.Spot
  | 0, _ => throw .exhausted
  | fuel + 1, target => do
    match target.spot, target.place with
    | some spot, _ => return spot
    | none, none => return .whole
    | none, some place =>
      let v := Store.variableOr (← get).shell target.name
      if v.has 'A' then return .key place
      let n ← whole fuel place.toList
      if 0 ≤ n then return .number n.toNat
      let count : Int := match v.value with
        | .list entries => Value.nextNumber entries
        | .text _ => 1
        | _ => 0
      if n + count < 0 then throw (.place (target.name ++ "[" ++ place ++ "]"))
      return .number (n + count).toNat

/-- The value of a variable, which is an expression itself. -/
def valueOf : Nat → Lvalue → Calc (Int × Lvalue)
  | 0, _ => throw .exhausted
  | fuel + 1, target => do
    if (← get).isIdle then return (0, target)
    let resolved := Store.resolve (← get).shell target.name
    let target := { target with name := resolved.name, place := target.place.or resolved.place }
    let (v, shell) := Store.fetch (← get).shell target.name
    modify fun p => { p with shell }
    if (v.all fun v => !v.isSet) && shell.own.has "nounset" then throw (.unset target.name)
    let spot ← spotOf fuel target
    let text := (v.bind fun v => Store.textAt? v spot).getD ""
    return (← whole fuel text.toList, { target with spot := some spot })

/-- Gives what an expression can change a value. -/
def assign : Nat → Option Lvalue → Int → Calc Unit
  | 0, _, _ => throw .exhausted
  | fuel + 1, target, n => do
    match target with
    | none => wrong "syntax error in variable assignment"
    | some target =>
      if !(← get).isIdle then
        let resolved := Store.resolve (← get).shell target.name
        let target := { target with name := resolved.name, place := target.place.or resolved.place }
        if Store.isFixed (← get).shell target.name then throw (.fixed target.name)
        let spot ← spotOf fuel target
        modify fun p => { p with shell := Store.putAt p.shell target.name spot (toString n) }

/-- An expression. -/
def expression : Nat → Calc Int
  | 0 => throw .exhausted
  | fuel + 1 => do
    let n ← assignment fuel
    if (← get).token = .sign "," then
      next fuel
      expression fuel
    else return n

/-- An assignment, or an expression without one. -/
def assignment : Nat → Calc Int
  | 0 => throw .exhausted
  | fuel + 1 => do
    let n ← conditional fuel
    let p ← get
    let operator : Option (Option String) := match p.token with
      | .sign "=" => some Option.none
      | .changing operator => some (some operator)
      | _ => Option.none
    match operator with
    | none => return n
    | some operator =>
      if p.lastToken != .name then wrong "attempted assignment to non-variable"
      let target := p.target
      next fuel
      let right ← assignment fuel
      let value ← match operator with
        | none => pure right
        | some operator =>
          if (operator = "/" || operator = "%") && right = 0 then
            if (← get).isIdle then pure (apply operator n 1) else wrong "division by 0"
          else pure (apply operator n right)
      assign fuel target value
      modify fun p => { p with target := Option.none }
      return value

/-- Reads something without effect if that is asked for. -/
def idly : Nat → Bool → Nat → Calc Int
  | 0, _, _ => throw .exhausted
  | fuel + 1, isIdle, kind => do
    let before := (← get).isIdle
    modify fun p => { p with isIdle := before || isIdle }
    let n ←
      if kind = 0 then expression fuel
      else if kind = 1 then conditional fuel
      else if kind = 2 then conjunction fuel
      else binary fuel levels
    modify fun p => { p with isIdle := before }
    return n

/-- One of two expressions, or an expression without a condition. -/
def conditional : Nat → Calc Int
  | 0 => throw .exhausted
  | fuel + 1 => do
    let condition ← disjunction fuel
    if (← get).token != .sign "?" then return condition
    next fuel
    let token := (← get).token
    if token = .none || token = .sign ":" then wrong "expression expected"
    let first ← idly fuel (condition == 0) 0
    if (← get).token != .sign ":" then wrong "\u0060:' expected for conditional expression"
    next fuel
    if (← get).token = .none then wrong "expression expected"
    let second ← idly fuel (condition != 0) 1
    modify fun p => { p with lastToken := .sign "?" }
    return if condition != 0 then first else second

/-- Expressions one of which is not zero. -/
def disjunction : Nat → Calc Int
  | 0 => throw .exhausted
  | fuel + 1 => do
    let first ← conjunction fuel
    disjunctionFrom fuel first

/-- What follows the first of such expressions. -/
def disjunctionFrom : Nat → Int → Calc Int
  | 0, _ => throw .exhausted
  | fuel + 1, first => do
    if (← get).token != .sign "||" then return first
    next fuel
    let second ← idly fuel (first != 0) 2
    modify fun p => { p with lastToken := .sign "||" }
    disjunctionFrom fuel (truth (first != 0 || second != 0))

/-- Expressions none of which is zero. -/
def conjunction : Nat → Calc Int
  | 0 => throw .exhausted
  | fuel + 1 => do
    let first ← binary fuel levels
    conjunctionFrom fuel first

/-- What follows the first of such expressions. -/
def conjunctionFrom : Nat → Int → Calc Int
  | 0, _ => throw .exhausted
  | fuel + 1, first => do
    if (← get).token != .sign "&&" then return first
    next fuel
    let second ← idly fuel (first == 0) 3
    modify fun p => { p with lastToken := .sign "&&" }
    conjunctionFrom fuel (truth (first != 0 && second != 0))

/-- Operators of some levels, the loosest of which is the first. -/
def binary : Nat → List (List String) → Calc Int
  | 0, _ => throw .exhausted
  | fuel + 1, [] => product fuel
  | fuel + 1, signs :: tighter => do
    let first ← binary fuel tighter
    binaryFrom fuel signs tighter first

/-- What follows the left side of an operator of a level. -/
def binaryFrom : Nat → List String → List (List String) → Int → Calc Int
  | 0, _, _, _ => throw .exhausted
  | fuel + 1, signs, tighter, left => do
    match (← get).token.sign? with
    | some sign =>
      if signs.contains sign then
        next fuel
        let right ← binary fuel tighter
        modify fun p => { p with lastToken := .number }
        binaryFrom fuel signs tighter (apply sign left right)
      else return left
    | none => return left

/-- Products and quotients. -/
def product : Nat → Calc Int
  | 0 => throw .exhausted
  | fuel + 1 => do
    let first ← powers fuel
    productFrom fuel first

/-- What follows the first factor. -/
def productFrom : Nat → Int → Calc Int
  | 0, _ => throw .exhausted
  | fuel + 1, left => do
    match (← get).token.sign? with
    | some sign =>
      if sign = "*" || sign = "/" || sign = "%" then
        let start := (← get).rest
        next fuel
        let right ← powers fuel
        let right ←
          if sign != "*" && right = 0 then
            if (← get).isIdle then pure 1
            else
              modify fun p =>
                { p with lastStart := start.dropWhile fun c => c == ' ' || c == '\t' || c == '\n' }
              wrong "division by 0"
          else pure right
        modify fun p => { p with lastToken := .number }
        productFrom fuel (apply sign left right)
      else return left
    | none => return left

/-- Powers. -/
def powers : Nat → Calc Int
  | 0 => throw .exhausted
  | fuel + 1 => do
    let base ← signed fuel
    if (← get).token != .sign "**" then return base
    next fuel
    let exponent ← powers fuel
    modify fun p => { p with lastToken := .number }
    if exponent < 0 then wrong "exponent less than 0"
    return raised 64 base exponent.toNat 1

/-- An operand with signs in front of it. -/
def signed : Nat → Calc Int
  | 0 => throw .exhausted
  | fuel + 1 => do
    let sign := ((← get).token.sign?).getD ""
    if !(["!", "~", "-", "+"].contains sign) then operand fuel
    else
      next fuel
      let n ← signed fuel
      modify fun p => { p with lastToken := .number }
      return match sign with
        | "!" => truth (n == 0)
        | "~" => wrap (-n - 1)
        | "-" => wrap (-n)
        | _ => n

/-- An operand. -/
def operand : Nat → Calc Int
  | 0 => throw .exhausted
  | fuel + 1 => do
    let p ← get
    match p.token with
    | .before isUp =>
      modify fun p => { p with lastToken := p.token }
      next fuel
      let p ← get
      if p.token != .name then
        wrong "identifier expected after pre-increment or pre-decrement"
      let n := wrap (p.value + if isUp then 1 else -1)
      assign fuel p.target n
      modify fun p => { p with token := .number }
      next fuel
      return n
    | .sign "(" =>
      next fuel
      let n ← expression fuel
      if (← get).token != .sign ")" then wrong "missing \u0060)'"
      next fuel
      return n
    | .number =>
      next fuel
      return p.value
    | .name =>
      modify fun p => { p with isIdle := true }
      next fuel
      let following := (← get).token
      match following with
      | .behind isUp =>
        modify fun after => { after with isIdle := p.isIdle, target := p.target }
        assign fuel p.target (wrap (p.value + if isUp then 1 else -1))
        modify fun p => { p with token := .number, lastToken := .name }
        next fuel
        return p.value
      | _ =>
        set { p with shell := (← get).shell }
        next fuel
        modify fun after => if after.token = .sign "=" || (match after.token with
            | .changing _ => true
            | _ => false)
          then { after with target := p.target } else after
        return p.value
    | _ => wrong "syntax error: operand expected"

end

/-- The steps that a calculation is granted. -/
def stepsGranted : Nat := 1000000

/-- The value of an expression, and the state after it. -/
def evaluate (s : State) (text : String) : Except Flaw Int × State :=
  let start : Progress :=
    { shell := s, text := [], rest := [], lastStart := [], token := .none, lastToken := .none
      value := 0, target := Option.none, isIdle := false, depth := 0 }
  let (result, after) := (ExceptT.run (whole stepsGranted text.toList)).run start
  (result, after.shell)

/-- What is wrong with an expression, in a sentence. -/
def Flaw.complaint : Flaw → String
  | expression text message token =>
    text ++ ": " ++ message ++ " (error token is \"" ++ token ++ "\")"
  | unset name => name ++ ": unbound variable"
  | fixed name => name ++ ": readonly variable"
  | place text => text ++ ": bad array subscript"
  | exhausted => "expression recursion level exceeded"

end Calculation
end Extended
end Shell
end SuiteCoverage
