import SuiteCoverage.Shell.Records.Token

/-!
# Reading programs for records

A program is read token by token, with one token ahead. After something that cannot be read, reading
goes on behind the end of the statement, so that what else is wrong is found as well.
-/

set_option autoImplicit false

namespace SuiteCoverage
namespace Shell
namespace Records

/-- How expressions for texts are written. -/
def patternForm : Regex.Form :=
  { Regex.Form.extendedForm with named := false, counted := false, escapes := true }

/-- An expression for texts with the characters in place of their escapes. -/
def patternText : Nat → List Char → List Char
  | 0, text => text
  | _, [] => []
  | fuel + 1, '\\' :: rest =>
    let octal := (rest.takeWhile fun c => '0' ≤ c && c ≤ '7').take 3
    if !octal.isEmpty then
      let code := octal.foldl (fun n c => n * 8 + (c.toNat - '0'.toNat)) 0
      let c := Char.ofNat (code % 256)
      let shown := if c.isAlphanum then [c] else ['\\', c]
      shown ++ patternText fuel (rest.drop octal.length)
    else
      match rest with
      | '/' :: more => '/' :: patternText fuel more
      | '"' :: more => '"' :: patternText fuel more
      | '\\' :: more => '\\' :: '\\' :: patternText fuel more
      | c :: more =>
        match Wording.control? c with
        | some d => d :: patternText fuel more
        | none => '\\' :: c :: patternText fuel more
      | [] => ['\\', '\\']
  | fuel + 1, c :: rest => c :: patternText fuel rest

/-- The expression that a text writes. -/
def patternOf (text : String) : Except Regex.Flaw Regex :=
  Regex.ofChars patternForm (patternText (text.length + 1) text.toList)

/-- What is known about a function while a program is read. -/
structure Named where
  name : String
  definition : Option Definition
deriving Inhabited

/-- A call of a function: its number, how many arguments it has, and where it is. -/
structure Call where
  function : Nat
  arguments : Nat
  line : Nat

/-- How far a program has been read. -/
structure Progress where
  rest : List Char
  line : Nat
  token : Token
  tokenLine : Nat
  /-- What is wrong, the last flaw first. -/
  flaws : List (Nat × Flaw)
  /-- Whether reading cannot go on. -/
  isOver : Bool
  names : Array String
  /-- The shared variables of which it is known whether they are tables. -/
  kinds : List (Nat × Bool)
  functions : Array Named
  calls : List Call
  /-- The parameters of the function that is read. -/
  parameters : List String
  ownKinds : List (Nat × Bool)
  isInFunction : Bool
  /-- Whether what is read belongs to a rule for records. -/
  isInRule : Bool
  loops : Nat
  braces : Nat
  parentheses : Nat
  /-- Whether a sign for more means where output goes. -/
  isPrinting : Bool
  spans : Nat

/-- Reads a program. -/
abbrev Reader := ExceptT Unit (StateM Progress)

namespace Reader

/-- Notes a flaw. -/
def note (flaw : Flaw) : Reader Unit :=
  modify fun p => { p with flaws := (p.tokenLine, flaw) :: p.flaws, isOver := p.isOver || 4 ≤ p.flaws.length }

/-- Stops at a flaw with which reading cannot go on. -/
def stopAt {α : Type} (flaw : Flaw) : Reader α := do
  note flaw
  modify fun p => { p with isOver := true }
  throw ()

/-- Stops at the current token. -/
def unexpected {α : Type} : Reader α := do
  let p ← get
  let isEnd := match p.token with
    | .newline => true
    | .sign ";" => true
    | .sign "\x7d" => true
    | _ => false
  note (if isEnd && 0 < p.parentheses then .missing ')' p.token.shown else .unexpected p.token.shown)
  throw ()

/-- Goes on to the next token. -/
def advanceUpTo : Nat → Reader Unit
  | 0 => return ()
  | fuel + 1 => do
    let p ← get
    let (text, lines) := Wording.passed (p.rest.length + 1) p.rest
    let here := p.line + lines
    modify fun p => { p with line := here, tokenLine := here }
    match Wording.read text with
    | .error flaw => stopAt flaw
    | .ok (token, rest) =>
      let lines := match token with
        | .newline => 1
        | _ => ((text.take (text.length - rest.length)).filter (· == '\n')).length
      modify fun p => { p with rest, token, line := here + lines }
      match token with
      | .sign "(" => modify fun p => { p with parentheses := p.parentheses + 1 }
      | .sign ")" =>
        if p.parentheses == 0 then
          note (.extra ')')
          advanceUpTo fuel
        else modify fun p => { p with parentheses := p.parentheses - 1 }
      | .sign "\x7b" => modify fun p => { p with braces := p.braces + 1 }
      | .sign "\x7d" =>
        if p.braces == 0 then
          note (.extra '\x7d')
          stopAt (.unexpected "end of line")
        else modify fun p => { p with braces := p.braces - 1 }
      | .word "BEGIN" => if 0 < p.braces then stopAt (.missing '\x7d' "BEGIN")
      | .word "END" => if 0 < p.braces then stopAt (.missing '\x7d' "END")
      | .finish =>
        modify fun p => { p with tokenLine := here + 1 }
        if 0 < p.braces then stopAt (.missing '\x7d' "end of file")
      | _ => pure ()

/-- Goes on to the next token. -/
def advance : Reader Unit := do
  advanceUpTo ((← get).rest.length + 1)

/-- Whether the current token is a sign. -/
def isSign (sign : String) : Reader Bool := do
  match (← get).token with
  | .sign s => return s == sign
  | _ => return false

/-- Whether the current token is a word. -/
def isWord (word : String) : Reader Bool := do
  match (← get).token with
  | .word w => return w == word
  | _ => return false

/-- Passes over a sign that has to be there. -/
def expect (sign : String) : Reader Unit := do
  if ← isSign sign then advance else unexpected

/-- Passes over line ends. -/
def skipLines : Nat → Reader Unit
  | 0 => return ()
  | fuel + 1 => do
    match (← get).token with
    | .newline =>
      advance
      skipLines fuel
    | _ => return ()

/-- Passes over line ends. -/
def newlines : Reader Unit := do
  skipLines ((← get).rest.length + 1)

/-- Reads something with the sign for more as a comparison. -/
def inside {α : Type} (reader : Reader α) : Reader α := do
  let before := (← get).isPrinting
  modify fun p => { p with isPrinting := false }
  let result ← reader
  modify fun p => { p with isPrinting := before }
  return result

/-! ## Names -/

/-- The variable with a name. -/
def variableOf (name : String) : Reader Variable := do
  let p ← get
  match p.parameters.idxOf? name with
  | some n => return .own n
  | none =>
    match p.names.toList.idxOf? name with
    | some n => return .shared n
    | none =>
      set { p with names := p.names.push name }
      return .shared p.names.size

/-- Notes whether a variable is used as a table. -/
def use (name : String) (v : Variable) (isTable : Bool) : Reader Unit := do
  let p ← get
  let (known, add) : Option Bool × Progress := match v with
    | .shared n => ((p.kinds.find? (·.1 == n)).map (·.2), { p with kinds := (n, isTable) :: p.kinds })
    | .own n =>
      ((p.ownKinds.find? (·.1 == n)).map (·.2), { p with ownKinds := (n, isTable) :: p.ownKinds })
  match known with
  | none =>
    if p.functions.any fun f => f.name == name then
      note (.told ("illegal reference to function " ++ name))
    else set add
  | some was =>
    if was != isTable then
      let place := match v with
        | .shared _ => ""
        | .own _ => "local "
      note (.told ("illegal reference to " ++ place ++ (if was then "array " else "variable ") ++ name))

/-- The number of the function with a name. -/
def functionOf (name : String) : Reader Nat := do
  let p ← get
  match p.functions.findIdx? fun f => f.name == name with
  | some n => return n
  | none =>
    set { p with functions := p.functions.push ⟨name, none⟩ }
    return p.functions.size

/-! ## Expressions -/

/-- The sign for an assignment that also computes, if a token is one. -/
def operation? : Token → Option Operation
  | .sign "+=" => some .plus
  | .sign "-=" => some .minus
  | .sign "*=" => some .times
  | .sign "/=" => some .over
  | .sign "%=" => some .modulo
  | .sign "^=" => some .power
  | _ => none

/-- The comparison that a token stands for, if it does for one. -/
def comparison? (isPrinting : Bool) : Token → Option Comparison
  | .sign "==" => some .equal
  | .sign "!=" => some .unequal
  | .sign "<" => some .less
  | .sign "<=" => some .atMost
  | .sign ">" => if isPrinting then none else some .more
  | .sign ">=" => some .atLeast
  | _ => none

/-- Whether something can be assigned to. -/
def isTarget : Expr → Bool
  | .variable _ => true
  | .field _ => true
  | .element .. => true
  | _ => false

/-- Whether an operand can start with a token. -/
def startsOperand : Token → Bool
  | .number .. => true
  | .text _ => true
  | .name _ => true
  | .callee _ => true
  | .known .. => true
  | .sign s => ["$", "(", "++", "--", "!"].contains s
  | _ => false

/-- How many arguments a function takes, at least and at most. -/
def counts : Function → Nat × Nat
  | .substr => (2, 3)
  | .split => (2, 3)
  | .sub => (2, 3)
  | .gsub => (2, 3)
  | .index => (2, 2)
  | .search => (2, 2)
  | .arctangent => (2, 2)
  | .sprintf => (1, 255)
  | .random => (0, 0)
  | .seed => (0, 1)
  | .flush => (0, 1)
  | .now => (0, 0)
  | .timeText => (0, 3)
  | .length => (0, 1)
  | _ => (1, 1)

/-- Reads an expression for texts whose slash is the current token; `lead` stands in front of what
    follows it. -/
def patternFrom (lead : List Char) : Reader Expr := do
  let p ← get
  match Wording.slashed false (lead ++ p.rest) [] with
  | none => stopAt (.openPattern (String.ofList (((lead ++ p.rest).takeWhile (· != '\n')).take 10)))
  | some (text, after) =>
    set { p with rest := after }
    match patternOf (String.ofList text) with
    | .error flaw => stopAt (.badPattern (String.ofList text) flaw)
    | .ok regex =>
      advance
      return .pattern regex

mutual

/-- An expression. -/
def expression : Nat → Reader Expr
  | 0 => unexpected
  | fuel + 1 => do
    let condition ← disjunction fuel
    if ← isSign "?" then
      advance
      newlines
      let yes ← expression fuel
      newlines
      expect ":"
      newlines
      return .choice condition yes (← expression fuel)
    else return condition

/-- Expressions of which one has to hold. -/
def disjunction : Nat → Reader Expr
  | 0 => unexpected
  | fuel + 1 => do
    disjunctions fuel (← conjunction fuel)

def disjunctions : Nat → Expr → Reader Expr
  | 0, _ => unexpected
  | fuel + 1, first => do
    if ← isSign "||" then
      advance
      newlines
      disjunctions fuel (.or first (← conjunction fuel))
    else return first

/-- Expressions that have to hold together. -/
def conjunction : Nat → Reader Expr
  | 0 => unexpected
  | fuel + 1 => do
    conjunctions fuel (← membership fuel)

def conjunctions : Nat → Expr → Reader Expr
  | 0, _ => unexpected
  | fuel + 1, first => do
    if ← isSign "&&" then
      advance
      newlines
      conjunctions fuel (.and first (← membership fuel))
    else return first

/-- Whether something is in a table. -/
def membership : Nat → Reader Expr
  | 0 => unexpected
  | fuel + 1 => do
    memberships fuel (← likeness fuel)

def memberships : Nat → Expr → Reader Expr
  | 0, _ => unexpected
  | fuel + 1, first => do
    if ← isWord "in" then
      advance
      match (← get).token with
      | .name name =>
        let v ← variableOf name
        use name v true
        advance
        let indices := match first with
          | .group parts => parts
          | e => [e]
        memberships fuel (.isIn indices v)
      | _ => unexpected
    else
      match first with
      | .group parts => if 1 < parts.length && !(← get).isPrinting then unexpected
      | _ => pure ()
      return first

/-- Whether a text is like a pattern. -/
def likeness : Nat → Reader Expr
  | 0 => unexpected
  | fuel + 1 => do
    likenesses fuel (← comparison fuel)

def likenesses : Nat → Expr → Reader Expr
  | 0, _ => unexpected
  | fuel + 1, first => do
    if ← isSign "~" then
      advance
      likenesses fuel (.likeness false first (← comparison fuel))
    else if ← isSign "!~" then
      advance
      likenesses fuel (.likeness true first (← comparison fuel))
    else return first

/-- A comparison. -/
def comparison : Nat → Reader Expr
  | 0 => unexpected
  | fuel + 1 => do
    comparisons fuel (← joining fuel)

def comparisons : Nat → Expr → Reader Expr
  | 0, _ => unexpected
  | fuel + 1, first => do
    let p ← get
    match comparison? p.isPrinting p.token with
    | some kind =>
      advance
      comparisons fuel (.compare kind first (← joining fuel))
    | none => return first

/-- Texts one behind the other, or an assignment. -/
def joining : Nat → Reader Expr
  | 0 => unexpected
  | fuel + 1 => do
    let first ← sum fuel
    let token := (← get).token
    if isTarget first then
      match operation? token with
      | some operation =>
        advance
        newlines
        return .update operation first (← expression fuel)
      | none =>
        if ← isSign "=" then
          advance
          newlines
          return .assign first (← expression fuel)
        else joinings fuel first
    else joinings fuel first

def joinings : Nat → Expr → Reader Expr
  | 0, _ => unexpected
  | fuel + 1, first => do
    if startsOperand (← get).token then
      match first with
      | .group parts => if 1 < parts.length then unexpected
      | _ => pure ()
      joinings fuel (.join first (← sum fuel))
    else return first

/-- Numbers that are added. -/
def sum : Nat → Reader Expr
  | 0 => unexpected
  | fuel + 1 => do
    sums fuel (← product fuel)

def sums : Nat → Expr → Reader Expr
  | 0, _ => unexpected
  | fuel + 1, first => do
    if ← isSign "+" then
      advance
      sums fuel (.compute .plus first (← product fuel))
    else if ← isSign "-" then
      advance
      sums fuel (.compute .minus first (← product fuel))
    else return first

/-- Numbers that are multiplied. -/
def product : Nat → Reader Expr
  | 0 => unexpected
  | fuel + 1 => do
    products fuel (← signed fuel)

def products : Nat → Expr → Reader Expr
  | 0, _ => unexpected
  | fuel + 1, first => do
    if ← isSign "*" then
      advance
      products fuel (.compute .times first (← signed fuel))
    else if ← isSign "/" then
      advance
      products fuel (.compute .over first (← signed fuel))
    else if ← isSign "%" then
      advance
      products fuel (.compute .modulo first (← signed fuel))
    else return first

/-- An operand with signs in front. -/
def signed : Nat → Reader Expr
  | 0 => unexpected
  | fuel + 1 => do
    if ← isSign "!" then
      advance
      return .not (← signed fuel)
    else if ← isSign "-" then
      advance
      return .negative (← signed fuel)
    else if ← isSign "+" then
      advance
      return .positive (← signed fuel)
    else
      pipes fuel (← power fuel)

/-- What commands write, read from them. -/
def pipes : Nat → Expr → Reader Expr
  | 0, _ => unexpected
  | fuel + 1, command => do
    if (← isSign "|") && !(← get).isPrinting then
      advance
      if !(← isWord "getline") then unexpected
      advance
      pipes fuel (.readCommand command (← target? fuel))
    else return command

/-- A power. -/
def power : Nat → Reader Expr
  | 0 => unexpected
  | fuel + 1 => do
    let base ← stepped fuel
    if ← isSign "^" then
      advance
      return .compute .power base (← exponent fuel)
    else return base

/-- The exponent of a power. -/
def exponent : Nat → Reader Expr
  | 0 => unexpected
  | fuel + 1 => do
    if ← isSign "-" then
      advance
      return .negative (← exponent fuel)
    else if ← isSign "+" then
      advance
      return .positive (← exponent fuel)
    else if ← isSign "!" then
      advance
      return .not (← exponent fuel)
    else power fuel

/-- An operand, with a step behind it. -/
def stepped : Nat → Reader Expr
  | 0 => unexpected
  | fuel + 1 => do
    let e ← operand fuel
    if !isTarget e then return e
    else if ← isSign "++" then
      advance
      return .step true false e
    else if ← isSign "--" then
      advance
      return .step false false e
    else return e

/-- Something that can be assigned to. -/
def target : Nat → Reader Expr
  | 0 => unexpected
  | fuel + 1 => do
    match (← get).token with
    | .name _ => operand fuel
    | .sign "$" => operand fuel
    | .sign "(" => do
      let e ← operand fuel
      match e with
      | .group [e] => if isTarget e then return e else unexpected
      | _ => unexpected
    | _ => unexpected

/-- Something that can be assigned to, if the next token starts it. -/
def target? : Nat → Reader (Option Expr)
  | 0 => return none
  | fuel + 1 => do
    match (← get).token with
    | .name _ => return some (← operand fuel)
    | .sign "$" => return some (← operand fuel)
    | _ => return none

/-- Expressions with commas between them. -/
def list : Nat → Reader (List Expr)
  | 0 => unexpected
  | fuel + 1 => do
    let first ← expression fuel
    if ← isSign "," then
      advance
      newlines
      return first :: (← list fuel)
    else return [first]

/-- The arguments in parentheses, up to the one that closes. -/
def arguments : Nat → Reader (List Expr)
  | 0 => unexpected
  | fuel + 1 => do
    expect "("
    inside do
      newlines
      let found ← if ← isSign ")" then pure ([] : List Expr) else list fuel
      newlines
      if !(← isSign ")") then unexpected
      return found

/-- An operand. -/
def operand : Nat → Reader Expr
  | 0 => unexpected
  | fuel + 1 => do
    let p ← get
    match p.token with
    | .number n _ =>
      advance
      return .number n
    | .text text =>
      advance
      return .text text
    | .sign "/" => patternFrom []
    | .sign "/=" => patternFrom ['=']
    | .sign "(" => do
      advance
      let parts ← inside do
        let parts ← list fuel
        if !(← isSign ")") then unexpected
        return parts
      advance
      return .group parts
    | .sign "$" => do
      advance
      if ← isSign "++" then
        advance
        return .field (.step true true (← target fuel))
      else if ← isSign "--" then
        advance
        return .field (.step false true (← target fuel))
      else if ← isSign "-" then
        advance
        return .field (.negative (← operand fuel))
      else return .field (← operand fuel)
    | .sign "++" => do
      advance
      return .step true true (← target fuel)
    | .sign "--" => do
      advance
      return .step false true (← target fuel)
    | .sign "-" => do
      advance
      return .negative (← signed fuel)
    | .sign "+" => do
      advance
      return .positive (← signed fuel)
    | .sign "!" => do
      advance
      return .not (← signed fuel)
    | .name name => do
      advance
      let v ← variableOf name
      if ← isSign "[" then
        use name v true
        advance
        let indices ← inside do
          let indices ← list fuel
          if !(← isSign "]") then unexpected
          return indices
        advance
        return .element v indices
      else
        use name v false
        return .variable v
    | .callee name => do
      let line := p.tokenLine
      advance
      let n ← functionOf name
      let given ← callArguments fuel
      modify fun p => { p with calls := ⟨n, given.length, line⟩ :: p.calls }
      return .call n given
    | .known .length _ => do
      advance
      if ← isSign "(" then
        advance
        let parts ← inside do
          let parts ← if ← isSign ")" then pure ([] : List Expr) else pure [← tableOrExpression fuel]
          if !(← isSign ")") then unexpected
          return parts
        advance
        return .known .length parts
      else return .known .length []
    | .known function name => do
      let line := p.tokenLine
      advance
      if !(← isSign "(") then unexpected
      let given ← if function == .split then splitArguments fuel else arguments fuel
      advance
      let (least, most) := counts function
      if given.length < least || most < given.length then
        modify fun p => { p with tokenLine := line }
        note (.told ("wrong number of arguments in call to " ++ name))
      return .known function given
    | .word "getline" => do
      advance
      let target ← target? fuel
      if ← isSign "<" then
        advance
        return .readFile (← power fuel) target
      else return .readInput target
    | _ => unexpected

/-- An expression, or a table by its name. -/
def tableOrExpression : Nat → Reader Expr
  | 0 => unexpected
  | fuel + 1 => do
    let p ← get
    match p.token with
    | .name name =>
      advance
      if ← isSign ")" then
        return .variable (← variableOf name)
      else
        set p
        expression fuel
    | _ => expression fuel

/-- The arguments of a call, which may be tables. -/
def callArguments : Nat → Reader (List Expr)
  | 0 => unexpected
  | fuel + 1 => do
    expect "("
    let found ← inside do
      newlines
      let found ← if ← isSign ")" then pure ([] : List Expr) else callList fuel
      newlines
      if !(← isSign ")") then unexpected
      return found
    advance
    return found

def callList : Nat → Reader (List Expr)
  | 0 => unexpected
  | fuel + 1 => do
    let p ← get
    let first ← match p.token with
      | .name name => do
        advance
        if (← isSign ",") || (← isSign ")") then
          pure (Expr.variable (← variableOf name))
        else
          set p
          expression fuel
      | _ => expression fuel
    if ← isSign "," then
      advance
      newlines
      return first :: (← callList fuel)
    else return [first]

/-- The arguments of `split`, of which the second is a table. -/
def splitArguments : Nat → Reader (List Expr)
  | 0 => unexpected
  | fuel + 1 => do
    expect "("
    inside do
      newlines
      let text ← expression fuel
      if !(← isSign ",") then
        if !(← isSign ")") then unexpected
        return [text]
      advance
      newlines
      match (← get).token with
      | .name name =>
        let v ← variableOf name
        use name v true
        advance
        let others ← if ← isSign "," then do
            advance
            newlines
            list fuel
          else pure []
        newlines
        if !(← isSign ")") then unexpected
        return text :: .variable v :: others
      | _ => unexpected

end

/-- How deep expressions are at most, for what is left of a program. -/
def depth : Reader Nat := do
  return 20 * ((← get).rest.length + 20)

/-- An expression. -/
def expr : Reader Expr := do
  expression (← depth)

/-! ## Statements -/

/-- The end of a statement: a semicolon, a line end, or a brace that follows. -/
def separator : Reader Unit := do
  match (← get).token with
  | .sign ";" => advance
  | .newline => advance
  | .sign "\x7d" => pure ()
  | .finish => pure ()
  | _ => unexpected

/-- An expression in parentheses. -/
def condition : Reader Expr := do
  expect "("
  let e ← expr
  expect ")"
  return e

/-- What is printed and where it goes. -/
def printed : Reader (List Expr × Option (Outlet × Expr)) := do
  modify fun p => { p with isPrinting := true }
  let isEmpty := match (← get).token with
    | .sign s => [";", "\x7d", ">", ">>", "|"].contains s
    | .newline => true
    | .finish => true
    | _ => false
  let parts ← if isEmpty then pure ([] : List Expr) else list (← depth)
  modify fun p => { p with isPrinting := false }
  let parts := match parts with
    | [.group inner] => inner
    | parts => parts
  let outlet? := match (← get).token with
    | .sign ">" => some Outlet.file
    | .sign ">>" => some Outlet.end_
    | .sign "|" => some Outlet.command
    | _ => none
  match outlet? with
  | some outlet =>
    advance
    return (parts, some (outlet, ← expr))
  | none => return (parts, none)

/-- Passes over what is left of a statement in which something is wrong. -/
def recover : Nat → Reader Unit
  | 0 => return ()
  | fuel + 1 => do
    modify fun p => { p with parentheses := 0, isPrinting := false }
    match (← get).token with
    | .sign ";" => advance
    | .newline => advance
    | .sign "\x7d" => pure ()
    | .finish => throw ()
    | _ =>
      advance
      recover fuel

/-- Reads something inside a loop. -/
def looping {α : Type} (reader : Reader α) : Reader α := do
  modify fun p => { p with loops := p.loops + 1 }
  let result ← reader
  modify fun p => { p with loops := p.loops - 1 }
  return result

mutual

/-- A statement. -/
def statement : Nat → Reader Statement
  | 0 => unexpected
  | fuel + 1 => do
    let p ← get
    let ended (s : Statement) : Reader Statement := do
      separator
      return s
    match p.token with
    | .sign "\x7b" => block fuel
    | .sign ";" =>
      advance
      return .nothing
    | .newline =>
      advance
      return .nothing
    | .word "if" => do
      advance
      let test ← condition
      newlines
      let yes ← statementOrEnd fuel
      let before ← get
      newlines
      if ← isWord "else" then
        advance
        newlines
        return .branch test yes (← statementOrEnd fuel)
      else
        set before
        return .branch test yes .nothing
    | .word "while" => do
      advance
      let test ← condition
      if ← isSign ";" then
        advance
        return .while_ test .nothing
      newlines
      return .while_ test (← looping (statementOrEnd fuel))
    | .word "do" => do
      advance
      newlines
      let body ← looping (statement fuel)
      newlines
      if !(← isWord "while") then unexpected
      advance
      let test ← condition
      ended (.doWhile body test)
    | .word "for" => loop fuel
    | .word "print" => do
      advance
      let (parts, outlet) ← printed
      ended (.print parts outlet)
    | .word "printf" => do
      advance
      let (parts, outlet) ← printedFormat
      if parts.isEmpty then note (.told "no arguments in call to printf")
      ended (.printf parts outlet)
    | .word "next" => do
      if !p.isInRule then note (.told "improper use of next")
      advance
      ended .next
    | .word "nextfile" => do
      if !p.isInRule then note (.told "improper use of nextfile")
      advance
      ended .nextFile
    | .word "break" => do
      if p.loops == 0 then note (.told "break statement outside of loop")
      advance
      ended .leave
    | .word "continue" => do
      if p.loops == 0 then note (.told "continue statement outside of loop")
      advance
      ended .again
    | .word "exit" => do
      advance
      ended (.exit (← valueBehind))
    | .word "return" => do
      if !p.isInFunction then note (.told "return outside function body")
      advance
      ended (.return_ (← valueBehind))
    | .word "delete" => do
      advance
      match (← get).token with
      | .name name =>
        advance
        let v ← variableOf name
        use name v true
        if ← isSign "[" then
          advance
          let indices ← list (← depth)
          expect "]"
          ended (.delete v indices)
        else ended (.clear v)
      | _ => unexpected
    | _ => do
      let e ← expr
      match e with
      | .group parts => if 1 < parts.length then unexpected
      | _ => pure ()
      ended (.evaluate e)
where
  /-- A value, if one follows. -/
  valueBehind : Reader (Option Expr) := do
    match (← get).token with
    | .sign ";" => return none
    | .sign "\x7d" => return none
    | .newline => return none
    | .finish => return none
    | _ => return some (← expr)
  /-- What is printed in a format; empty parentheses are nothing. -/
  printedFormat : Reader (List Expr × Option (Outlet × Expr)) := do
    let before ← get
    if ← isSign "(" then
      advance
      if ← isSign ")" then
        advance
        return ([], none)
      set before
    printed

/-- A statement, or none in front of a brace that closes. -/
def statementOrEnd : Nat → Reader Statement
  | 0 => unexpected
  | fuel + 1 => do
    if ← isSign "\x7d" then return .nothing else statement fuel

/-- A loop with `for`. -/
def loop : Nat → Reader Statement
  | 0 => unexpected
  | fuel + 1 => do
    advance
    expect "("
    let before ← get
    match ← each? with
    | some (v, table) =>
      newlines
      return .forEach v table (← looping (statementOrEnd fuel))
    | none =>
      set before
      let start ← if ← isSign ";" then pure .nothing else pure (Statement.evaluate (← expr))
      expect ";"
      newlines
      let test ← if ← isSign ";" then pure none else pure (some (← expr))
      expect ";"
      newlines
      let step ← if ← isSign ")" then pure .nothing else pure (Statement.evaluate (← expr))
      expect ")"
      if ← isSign ";" then
        advance
        return .loop start test step .nothing
      newlines
      return .loop start test step (← looping (statementOrEnd fuel))
where
  /-- A variable that goes through a table, if that is what follows. -/
  each? : Reader (Option (Expr × Variable)) := do
    match (← get).token with
    | .name name =>
      advance
      if !(← isWord "in") then return none
      advance
      match (← get).token with
      | .name table =>
        advance
        if !(← isSign ")") then return none
        let v ← variableOf name
        use name v false
        let t ← variableOf table
        use table t true
        advance
        return some (.variable v, t)
      | _ => return none
    | _ => return none

/-- Statements in braces. -/
def block : Nat → Reader Statement
  | 0 => unexpected
  | fuel + 1 => do
    expect "\x7b"
    let found ← statements fuel
    expect "\x7d"
    return .block found

/-- Statements up to a brace that closes. -/
def statements : Nat → Reader (List Statement)
  | 0 => unexpected
  | fuel + 1 => do
    match (← get).token with
    | .sign "\x7d" => return []
    | .finish => unexpected
    | _ =>
      let found ← tryCatch (do return some (← statement fuel)) fun () => do
        if (← get).isOver then throw ()
        recover ((← get).rest.length + 1)
        return none
      let others ← statements fuel
      return match found with
        | none => others
        | some .nothing => others
        | some s => s :: others

end

/-- Statements in braces. -/
def body : Reader Statement := do
  block (20 * ((← get).rest.length + 20))

/-! ## Programs -/

/-- What the parts of a program are. -/
inductive Part where
  | before (body : Statement)
  | after (body : Statement)
  | rule (rule : Rule)
  | nothing

/-- The names of parameters. -/
def parameterNames : Nat → Reader (List String)
  | 0 => unexpected
  | fuel + 1 => do
    match (← get).token with
    | .name name =>
      advance
      if ← isSign "," then
        advance
        newlines
        return name :: (← parameterNames fuel)
      else return [name]
    | _ => unexpected

/-- A function. -/
def definition : Reader Unit := do
  advance
  let name ← match (← get).token with
    | .name name => pure name
    | .callee name => pure name
    | _ => unexpected
  advance
  let isVariable := (← get).names.toList.contains name
  if isVariable then note (.told ("illegal reference to variable " ++ name))
  let n ← functionOf name
  if ((← get).functions[n]?.bind (·.definition)).isSome then
    note (.told ("redefinition of " ++ name))
  expect "("
  let parameters ← if ← isSign ")" then pure ([] : List String)
    else parameterNames ((← get).rest.length + 2)
  expect ")"
  newlines
  if !(← isSign "\x7b") then unexpected
  modify fun p => { p with parameters, ownKinds := [], isInFunction := true }
  let code ← body
  modify fun p =>
    { p with
      parameters := []
      isInFunction := false
      functions := p.functions.set! n ⟨name, some ⟨name, parameters.length, code⟩⟩ }

/-- A part of a program. -/
def part : Reader Part := do
  match (← get).token with
  | .word "BEGIN" =>
    advance
    if !(← isSign "\x7b") then unexpected
    return .before (← body)
  | .word "END" =>
    advance
    if !(← isSign "\x7b") then unexpected
    return .after (← body)
  | .word "function" =>
    definition
    return .nothing
  | .sign "\x7b" => return .rule ⟨.every, ← inRule body⟩
  | _ =>
    let first ← expr
    let pattern ← if ← isSign "," then do
        advance
        newlines
        let last ← expr
        modify fun p => { p with spans := p.spans + 1 }
        pure (Pattern.span ((← get).spans - 1) first last)
      else pure (Pattern.holds first)
    if ← isSign "\x7b" then return .rule ⟨pattern, ← inRule body⟩
    else
      match (← get).token with
      | .newline => pure ()
      | .sign ";" => pure ()
      | .finish => pure ()
      | _ => unexpected
      return .rule ⟨pattern, .print [] none⟩
where
  /-- Reads what belongs to a rule for records. -/
  inRule (reader : Reader Statement) : Reader Statement := do
    modify fun p => { p with isInRule := true }
    let result ← reader
    modify fun p => { p with isInRule := false }
    return result

/-- Passes over tokens up to a brace that opens. -/
def recoverPart : Nat → Reader Unit
  | 0 => return ()
  | fuel + 1 => do
    modify fun p =>
      { p with
        parentheses := 0, isPrinting := false, parameters := [], isInFunction := false
        isInRule := false, loops := 0 }
    match (← get).token with
    | .sign "\x7b" =>
      let _ ← body
      pure ()
    | .finish => throw ()
    | _ =>
      advance
      recoverPart fuel

/-- The parts of a program. -/
def parts : Nat → Reader (List Part)
  | 0 => return []
  | fuel + 1 => do
    newlines
    match (← get).token with
    | .finish => return []
    | _ =>
      let found ← tryCatch part fun () => do
        if (← get).isOver then throw ()
        recoverPart ((← get).rest.length + 1)
        return .nothing
      if ← isSign ";" then advance
      return found :: (← parts fuel)

/-- Notes what is wrong with calls of functions. -/
def checkCalls : Reader Unit := do
  let p ← get
  p.functions.toList.reverse.forM fun f => do
    if f.definition.isNone then note (.told ("function " ++ f.name ++ " never defined"))
  p.calls.reverse.forM fun call => do
    match p.functions[call.function]?.bind (·.definition) with
    | some definition =>
      if definition.parameters < call.arguments then
        modify fun p => { p with tokenLine := call.line }
        note (.told ("too many arguments in call to " ++ definition.name))
    | none => pure ()

/-- A whole program. -/
def program : Reader (List Part) := do
  advance
  let found ← parts ((← get).rest.length + 2)
  checkCalls
  return found

end Reader

/-- The program that a text is, or what is wrong with it, in which lines. -/
def Program.ofText (text : String) : Except (List (Nat × Flaw)) Program :=
  let tables := [Known.environment, Known.arguments]
  let kinds := (List.range knownVariables.length).map fun n => (n, tables.contains n)
  let start : Progress :=
    { rest := text.toList, line := 1, token := .newline, tokenLine := 1, flaws := []
      isOver := false, names := knownVariables.toArray, kinds, functions := #[], calls := []
      parameters := [], ownKinds := [], isInFunction := false, isInRule := false, loops := 0
      braces := 0, parentheses := 0, isPrinting := false, spans := 0 }
  let (found, p) := (Reader.program.run).run start
  match found, p.flaws with
  | .ok parts, [] =>
    .ok
      { names := p.names.toList
        functions := p.functions.map fun f => f.definition.getD ⟨f.name, 0, .nothing⟩
        before := parts.filterMap fun
          | .before body => some body
          | _ => none
        rules := parts.filterMap fun
          | .rule rule => some rule
          | _ => none
        after := parts.filterMap fun
          | .after body => some body
          | _ => none
        spans := p.spans }
  | _, flaws => .error flaws.reverse

end Records
end Shell
end SuiteCoverage
