import SuiteCoverage.Regex.Basic

/-!
# Reading regular expressions

Expressions are written in one of several forms. In the basic form a backslash gives some signs their
meaning, in the extended form it takes their meaning away. A sign that cannot mean anything where
it stands may stand for itself.
-/

set_option autoImplicit false

namespace SuiteCoverage
namespace Regex

/-- What is done with a sign of repetition where there is nothing to repeat. -/
inductive Stray where
  /-- It stands for itself. -/
  | literal
  | skipped
  | refused
deriving DecidableEq, Repr

/-- How expressions are written. -/
structure Form where
  extended : Bool
  /-- Whether a backslash in front of a letter can name a set or an edge. -/
  named : Bool
  /-- Whether numbers of repetitions can be given in braces. -/
  counted : Bool
  /-- Whether a backslash takes the meaning from a character in brackets. -/
  escapes : Bool
  stray : Stray
  /-- Whether more letters behind a backslash name sets, and groups can be marked. -/
  isRich : Bool
  /-- Whether all signs of repetition are written without a backslash. -/
  hasSigns : Bool

namespace Form

/-- The basic form. -/
def basic : Form := ⟨false, true, true, false, .literal, false, false⟩

/-- The extended form. -/
def extendedForm : Form := ⟨true, true, true, false, .refused, false, true⟩

/-- The extended form with more letters that name sets. -/
def rich : Form := ⟨true, true, true, true, .refused, true, true⟩

/-- The basic form with all signs of repetition. -/
def mixed : Form := ⟨false, true, true, false, .literal, false, true⟩

end Form

/-- What is wrong with an expression. -/
inductive Flaw where
  | openBracket
  | openGroup
  | closedGroup
  | openBrace
  | badBrace
  | badRange
  | badClass
  | badRepeat
  | badReference
  | trailingBackslash
  /-- A set of which nothing but the bracket is there. -/
  | emptySet
deriving DecidableEq, Repr

/-- What is wrong with an expression, in words. -/
def Flaw.message : Flaw → String
  | openBracket => "Unmatched [, [^, [:, [., or [="
  | openGroup => "Unmatched ( or \\("
  | closedGroup => "Unmatched ) or \\)"
  | openBrace => "Unmatched \\\x7b"
  | badBrace => "Invalid content of \\\x7b\\\x7d"
  | badRange => "Invalid range end"
  | badClass => "Invalid character class name"
  | badRepeat => "Invalid preceding regular expression"
  | badReference => "Invalid back reference"
  | trailingBackslash => "Trailing backslash"
  | emptySet => "Invalid regular expression"

/-- What is left of an expression that is being read. -/
structure Progress where
  rest : List Char
  /-- How many groups have been opened. -/
  opened : Nat
  /-- The groups that have been closed. -/
  closed : List Nat

/-- Reads from an expression. -/
abbrev Reader := StateT Progress (Except Flaw)

namespace Reader

/-- The characters that are left. -/
def rest : Reader (List Char) := do return (← get).rest

/-- Passes over some characters. -/
def skip (count : Nat) : Reader Unit :=
  modify fun p => { p with rest := p.rest.drop count }

/-! ## Sets -/

/-- Kinds of characters, and the ranges of each. -/
def kinds : List (String × List (Char × Char)) :=
  let digits := [('0', '9')]
  let upper := [('A', 'Z')]
  let lower := [('a', 'z')]
  [("alnum", digits ++ upper ++ lower), ("alpha", upper ++ lower),
    ("blank", [(' ', ' '), ('\t', '\t')]), ("cntrl", [('\x00', '\x1f'), ('\x7f', '\x7f')]),
    ("digit", digits), ("graph", [('!', '~')]), ("lower", lower), ("print", [(' ', '~')]),
    ("punct", [('!', '/'), (':', '@'), ('[', '\u0060'), ('\x7b', '~')]),
    ("space", [(' ', ' '), ('\t', '\r')]), ("upper", upper),
    ("xdigit", digits ++ [('A', 'F'), ('a', 'f')])]

/-- The characters of a word. -/
def wordRanges : List (Char × Char) := [('0', '9'), ('A', 'Z'), ('a', 'z'), ('_', '_')]

/-- The text before a sign followed by a closing bracket, and what follows them. -/
def upToSign (sign : Char) : List Char → Option (List Char × List Char)
  | c :: ']' :: rest =>
    if c == sign then some ([], rest)
    else (upToSign sign (']' :: rest)).map fun (text, after) => (c :: text, after)
  | c :: rest => (upToSign sign rest).map fun (text, after) => (c :: text, after)
  | [] => none

/-- What can be the end of a range: a character, or one named in brackets. -/
def rangeEnd (escapes : Bool) : List Char → Except Flaw (Char × List Char)
  | '[' :: '.' :: rest =>
    match upToSign '.' rest with
    | some ([c], after) => .ok (c, after)
    | _ => .error .openBracket
  | '\\' :: c :: rest => if escapes then .ok (c, rest) else .ok ('\\', c :: rest)
  | c :: rest => .ok (c, rest)
  | [] => .error .openBracket

/-- The character that a letter behind a backslash stands for in brackets. -/
def controlOf (c : Char) : Char :=
  match c with
  | 'n' => '\n'
  | 't' => '\t'
  | 'r' => '\r'
  | 'f' => '\x0c'
  | 'v' => '\x0b'
  | 'a' => '\x07'
  | 'b' => '\x08'
  | c => c

/-- The ranges of a set up to the bracket that closes it. -/
def setRanges (escapes : Bool) :
    Nat → Bool → List Char → Except Flaw (List (Char × Char) × List Char)
  | 0, _, _ => .error .openBracket
  | _, _, [] => .error .openBracket
  | fuel + 1, isFirst, c :: rest => do
    if c == ']' && !isFirst then return ([], rest)
    match c, rest with
    | '[', ':' :: inside =>
      match upToSign ':' inside with
      | none => throw .openBracket
      | some (name, after) =>
        match kinds.find? fun entry => entry.1.toList == name with
        | none => throw .badClass
        | some entry =>
          let (more, last) ← setRanges escapes fuel false after
          return (entry.2 ++ more, last)
    | '[', '=' :: inside =>
      match upToSign '=' inside with
      | some ([d], after) =>
        let (more, last) ← setRanges escapes fuel false after
        return ((d, d) :: more, last)
      | _ => throw .openBracket
    | _, _ =>
      let isEscaped := escapes && c == '\\'
      let (first, after) ← rangeEnd escapes (c :: rest)
      let first := if isEscaped then controlOf first else first
      match after with
      | '-' :: ']' :: _ =>
        let (more, last) ← setRanges escapes fuel false after
        return ((first, first) :: more, last)
      | '-' :: others =>
        let (final, after) ← rangeEnd escapes others
        if final < first then throw .badRange
        let (more, last) ← setRanges escapes fuel false after
        return ((first, final) :: more, last)
      | _ =>
        let (more, last) ← setRanges escapes fuel false after
        return ((first, first) :: more, last)

/-- The set behind an opening bracket. -/
def set (escapes : Bool) : Reader CharSet := do
  let text ← rest
  let negated := text.head? == some '^'
  let inside := if negated then text.drop 1 else text
  if inside.isEmpty then throw .emptySet
  let (ranges, after) ← setRanges escapes (inside.length + 1) true inside
  modify fun p => { p with rest := after }
  return ⟨negated, ranges⟩

/-! ## Repetitions -/

/-- A number at the front. -/
def number? (text : List Char) : Option Nat × List Char :=
  let digits := text.takeWhile Char.isDigit
  (if digits.isEmpty then none else (String.ofList digits).toNat?, text.drop digits.length)

/-- The numbers of repetitions behind an opening brace, if they are some. -/
def counts? (form : Form) (text : List Char) : Option (Nat × Option Nat × List Char) :=
  let closed (after : List Char) : Option (List Char) :=
    match after with
    | '\x7d' :: rest => if form.extended then some rest else none
    | '\\' :: '\x7d' :: rest => if form.extended then none else some rest
    | _ => none
  match number? text with
  | (least, ',' :: rest) =>
    let (most, after) := number? rest
    (closed after).bind fun last =>
      if most.any (· < least.getD 0) then none else some (least.getD 0, most, last)
  | (some n, after) => (closed after).map fun last => (n, some n, last)
  | (none, _) => none

/-- What is wrong with an opening brace that no numbers of repetitions follow, if anything is. -/
def braceFlaw? (form : Form) (text : List Char) : Option Flaw :=
  let inside := text.takeWhile fun c => c.isDigit || c == ','
  if !form.extended then some (if text.contains '\x7d' then .badBrace else .openBrace)
  else if (text.drop inside.length).head? == some '\x7d' && !inside.isEmpty then some .badBrace
  else if form.stray == .refused then some (if text.contains '\x7d' then .badBrace else .openBrace)
  else none

/-- Puts signs of repetition behind what they repeat. -/
def repetitions (form : Form) : Nat → Regex → Reader Regex
  | 0, re => return re
  | fuel + 1, re => do
    let again (count least : Nat) (most : Option Nat) : Reader Regex := do
      skip count
      repetitions form fuel (.repeated least most re)
    match ← rest with
    | '*' :: _ => again 1 0 none
    | '+' :: _ => if form.hasSigns then again 1 1 none else return re
    | '?' :: _ => if form.hasSigns then again 1 0 (some 1) else return re
    | '\x7b' :: text =>
      if form.extended && form.counted then
        match counts? form text with
        | some (least, most, after) =>
          modify fun p => { p with rest := after }
          repetitions form fuel (.repeated least most re)
        | none =>
          match braceFlaw? form text with
          | some flaw => throw flaw
          | none => return re
      else return re
    | '\\' :: '\x7b' :: text =>
      if form.extended then return re
      else
        match counts? form text with
        | some (least, most, after) =>
          modify fun p => { p with rest := after }
          repetitions form fuel (.repeated least most re)
        | none => throw ((braceFlaw? form text).getD .openBrace)
    | '\\' :: '+' :: _ => if form.hasSigns then return re else again 2 1 none
    | '\\' :: '?' :: _ => if form.hasSigns then return re else again 2 0 (some 1)
    | _ => return re

/-! ## Expressions -/

/-- Whether an alternative or a group ends here. -/
def isEnd (form : Form) (depth : Nat) : List Char → Bool
  | [] => true
  | '|' :: _ => form.extended
  | ')' :: _ => form.extended && 0 < depth
  | '\\' :: '|' :: _ => !form.extended
  | '\\' :: ')' :: _ => !form.extended
  | _ => false

/-- What a letter behind a backslash names. -/
def named? (c : Char) : Option Regex :=
  match c with
  | 'w' => some (.chars ⟨false, wordRanges⟩)
  | 'W' => some (.chars ⟨true, wordRanges⟩)
  | 's' => some (.chars ⟨false, [(' ', ' '), ('\t', '\r')]⟩)
  | 'S' => some (.chars ⟨true, [(' ', ' '), ('\t', '\r')]⟩)
  | 'b' => some (.edge .wordEdge)
  | 'B' => some (.edge .noWordEdge)
  | '<' => some (.edge .wordStart)
  | '>' => some (.edge .wordEnd)
  | '\u0060' => some (.edge .textStart)
  | '\'' => some (.edge .textEnd)
  | _ => none

/-- What a letter behind a backslash names in the rich form. -/
def richlyNamed? (c : Char) : Option Regex :=
  match c with
  | 'd' => some (.chars ⟨false, [('0', '9')]⟩)
  | 'D' => some (.chars ⟨true, [('0', '9')]⟩)
  | 'h' => some (.chars ⟨false, [(' ', ' '), ('\t', '\t')]⟩)
  | 'H' => some (.chars ⟨true, [(' ', ' '), ('\t', '\t')]⟩)
  | 'A' => some (.edge .textStart)
  | 'z' => some (.edge .textEnd)
  | 'Z' => some (.edge .textEnd)
  | '<' => none
  | '>' => none
  | '\u0060' => none
  | '\'' => none
  | c => named? c

mutual

/-- Alternatives up to the end of the expression or of a group. -/
def alternatives (form : Form) : Nat → Nat → Reader Regex
  | 0, _ => return .empty
  | fuel + 1, depth => do
    let first ← sequence form fuel depth true
    let others (count : Nat) : Reader Regex := do
      skip count
      return .alt first (← alternatives form fuel depth)
    match ← rest with
    | '|' :: _ => if form.extended then others 1 else return first
    | '\\' :: '|' :: _ => if form.extended then return first else others 2
    | _ => return first

/-- Parts one after the other; `isFirst` tells that none has come before. -/
def sequence (form : Form) : Nat → Nat → Bool → Reader Regex
  | 0, _, _ => return .empty
  | fuel + 1, depth, isFirst => do
    if isEnd form depth (← rest) then return .empty
    match ← part? form fuel depth isFirst with
    | none => sequence form fuel depth isFirst
    | some part =>
      let isAnchor := part == .edge .lineStart && !form.extended
      let part ← if isAnchor && isFirst then pure part
        else repetitions form ((← rest).length + 1) part
      return .seq part (← sequence form fuel depth (isFirst && isAnchor))

/-- A part, unless it is passed over. -/
def part? (form : Form) : Nat → Nat → Bool → Reader (Option Regex)
  | 0, _, _ => return some .empty
  | fuel + 1, depth, isFirst => do
    let literal (count : Nat) (c : Char) : Reader (Option Regex) := do
      skip count
      return some (.chars (.single c))
    let stray (c : Char) : Reader (Option Regex) := do
      match form.stray with
      | .literal => literal 1 c
      | .skipped =>
        skip 1
        return none
      | .refused => throw .badRepeat
    let group (count closing : Nat) : Reader (Option Regex) := do
      skip count
      modify fun p => { p with opened := p.opened + 1 }
      let number := (← get).opened
      let inner ← alternatives form fuel (depth + 1)
      if (← rest).isEmpty then throw .openGroup
      skip closing
      modify fun p => { p with closed := number :: p.closed }
      return some (.group number inner)
    match ← rest with
    | [] => return some .empty
    | '.' :: _ =>
      skip 1
      return some (.chars .all)
    | '[' :: _ =>
      skip 1
      return some (.chars (← set form.escapes))
    | '^' :: _ =>
      if form.extended || isFirst then
        skip 1
        return some (.edge .lineStart)
      literal 1 '^'
    | '$' :: after =>
      if form.extended || isEnd form depth after then
        skip 1
        return some (.edge .lineEnd)
      literal 1 '$'
    | '(' :: '?' :: ':' :: _ =>
      if form.isRich then
        skip 3
        let inner ← alternatives form fuel (depth + 1)
        if (← rest).isEmpty then throw .openGroup
        skip 1
        return some inner
      else group 1 1
    | '(' :: _ => if form.extended then group 1 1 else literal 1 '('
    | ')' :: _ =>
      if form.extended && form.stray == .refused then throw .closedGroup
      literal 1 ')'
    | '*' :: _ =>
      if form.extended && isFirst then stray '*' else literal 1 '*'
    | '+' :: _ => if form.extended && isFirst then stray '+' else literal 1 '+'
    | '?' :: _ => if form.extended && isFirst then stray '?' else literal 1 '?'
    | ['\\'] => throw .trailingBackslash
    | '\\' :: '(' :: _ => if form.extended then literal 2 '(' else group 2 2
    | '\\' :: ')' :: _ => if form.extended then literal 2 ')' else throw .closedGroup
    | '\\' :: '\x7b' :: text =>
      if form.extended then literal 2 '\x7b'
      else if isFirst && (counts? form text).isSome then throw .badRepeat
      else literal 2 '\x7b'
    | '\\' :: 'n' :: _ => literal 2 '\n'
    | '\\' :: 't' :: _ => if form.named then literal 2 '\t' else literal 2 't'
    | '\\' :: c :: _ =>
      if c.isDigit && c != '0' && form.named then
        skip 2
        let number := c.toNat - '0'.toNat
        if !(← get).closed.contains number then throw .badReference
        return some (.again number)
      let meaning? := if form.isRich then richlyNamed? c else named? c
      match meaning?.filter fun _ => form.named with
      | some re =>
        skip 2
        return some re
      | none => literal 2 c
    | c :: _ => literal 1 c

end

end Reader

/-- Reads an expression. -/
def ofChars (form : Form) (text : List Char) : Except Flaw Regex := do
  let (re, after) ← (Reader.alternatives form (4 * text.length + 8) 0).run ⟨text, 0, []⟩
  if after.rest.isEmpty then return re else throw .closedGroup

/-- Reads an expression. -/
def ofText (form : Form) (text : String) : Except Flaw Regex := ofChars form text.toList

end Regex
end SuiteCoverage
