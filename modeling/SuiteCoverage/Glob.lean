/-!
# File name patterns

A pattern matches whole file names. `?` stands for any character, `*` for any number of them,
`[…]` for one of the characters listed and `[!…]` for one that is not; a list may hold ranges
such as `a-z`. `**` must be a whole step of a path by itself and stands for any number of steps.
Nothing is special about a point at the start of a name or about a separator: `*` matches both.

A pattern that cannot be read names the place where reading stopped, counted in characters.
-/

set_option autoImplicit false

namespace SuiteCoverage
namespace Glob

/-- Characters in a list: one character, or all from one to another. -/
inductive CharClass where
  | single (c : Char)
  | range (first last : Char)
deriving DecidableEq, Repr

/-- A part of a pattern. -/
inductive Token where
  | char (c : Char)
  | anyChar
  /-- `*`. -/
  | anyText
  /-- `**`. -/
  | anySteps
  | oneOf (classes : List CharClass)
  | noneOf (classes : List CharClass)
deriving DecidableEq, Repr

/-- Why a pattern cannot be read. -/
inductive FlawKind where
  /-- Three or more `*` in a row. -/
  | wildcards
  /-- `**` beside something other than a separator. -/
  | partialStep
  /-- A list without an end. -/
  | openList
deriving DecidableEq, Repr

/-- What is wrong with a pattern and where. -/
structure Flaw where
  position : Nat
  kind : FlawKind
deriving DecidableEq, Repr

/-- The wording of a flaw. -/
def FlawKind.message : FlawKind → String
  | wildcards => "wildcards are either regular \u0060*\u0060 or recursive \u0060**\u0060"
  | partialStep => "recursive wildcards must form a single path component"
  | openList => "invalid range pattern"

/-- The wording of a flaw, with its place. -/
def Flaw.message (flaw : Flaw) : String :=
  "Pattern syntax error near position " ++ toString flaw.position ++ ": " ++ flaw.kind.message

/-- The characters in a list. A hyphen makes a range only between two characters. -/
def charClasses : List Char → List CharClass
  | a :: '-' :: b :: rest => .range a b :: charClasses rest
  | a :: rest => .single a :: charClasses rest
  | [] => []

/-- The text up to a closing bracket, and what follows the bracket. -/
def splitAtBracket : List Char → Option (List Char × List Char)
  | [] => none
  | ']' :: rest => some ([], rest)
  | c :: rest => (splitAtBracket rest).map fun (inside, after) => (c :: inside, after)

/-- The list that an opening bracket opens, with how many characters it takes after the bracket
    and what follows it. Its first character belongs to the list even if it is a closing
    bracket. -/
def readList? : List Char → Option (Token × Nat × List Char)
  | '!' :: first :: rest =>
    (splitAtBracket rest).map fun (inside, after) =>
      (.noneOf (charClasses (first :: inside)), inside.length + 3, after)
  | '!' :: [] => none
  | first :: rest =>
    (splitAtBracket rest).map fun (inside, after) =>
      (.oneOf (charClasses (first :: inside)), inside.length + 2, after)
  | [] => none

/-- Adds `**` to the tokens read so far, newest first: one right after another adds nothing,
    except at the start of a pattern. -/
def addSteps : List Token → List Token
  | .anySteps :: second :: rest => .anySteps :: second :: rest
  | tokens => .anySteps :: tokens

/-- Reads the rest of a pattern. `position` characters have been read, the last of them
    `before`, and `tokens` are the tokens read so far, newest first. -/
def readFrom : Nat → Nat → Option Char → List Token → List Char → Except Flaw (List Token)
  | 0, _, _, tokens, _ => .ok tokens.reverse
  | _, _, _, tokens, [] => .ok tokens.reverse
  | fuel + 1, position, before, tokens, c :: rest =>
    if c = '?' then readFrom fuel (position + 1) (some c) (.anyChar :: tokens) rest
    else if c = '[' then
      match readList? rest with
      | none => .error ⟨position, .openList⟩
      | some (token, length, after) =>
        readFrom fuel (position + 1 + length) (some ']') (token :: tokens) after
    else if c = '*' then
      match rest with
      | '*' :: '*' :: _ => .error ⟨position + 2, .wildcards⟩
      | '*' :: more =>
        if before = none ∨ before = some '/' then
          match more with
          | [] => .ok (addSteps tokens).reverse
          | '/' :: after => readFrom fuel (position + 3) (some '/') (addSteps tokens) after
          | _ :: _ => .error ⟨position + 2, .partialStep⟩
        else .error ⟨position - 1, .partialStep⟩
      | _ => readFrom fuel (position + 1) (some c) (.anyText :: tokens) rest
    else readFrom fuel (position + 1) (some c) (.char c :: tokens) rest

/-- Reads a pattern. -/
def read (pattern : String) : Except Flaw (List Token) :=
  readFrom pattern.length 0 none [] pattern.toList

/-! ## Matching -/

/-- Whether `c` is among the characters of a list. -/
def CharClass.holds (c : Char) : CharClass → Bool
  | single d => c == d
  | range first last => first.toNat ≤ c.toNat && c.toNat ≤ last.toNat

/-- Whether a token that stands for one character stands for `c`. -/
def Token.accepts (c : Char) : Token → Bool
  | char d => c == d
  | anyChar => true
  | oneOf classes => classes.any (CharClass.holds c)
  | noneOf classes => !classes.any (CharClass.holds c)
  | anyText => false
  | anySteps => false

/-- Every text that is left when some characters are taken off the front. -/
def endings : List Char → List (List Char)
  | [] => [[]]
  | c :: rest => (c :: rest) :: endings rest

/-- Every text that is left when whole steps are taken off the front, and the empty text. -/
def stepEndings : List Char → List (List Char)
  | [] => [[]]
  | c :: rest => if c = '/' then rest :: stepEndings rest else stepEndings rest

/-- Whether tokens match a whole text. -/
def matchesAll : List Token → List Char → Bool
  | [], text => text.isEmpty
  | .anyText :: tokens, text => (endings text).any (matchesAll tokens)
  | .anySteps :: tokens, text => (text :: stepEndings text).any (matchesAll tokens)
  | token :: tokens, c :: text => token.accepts c && matchesAll tokens text
  | _ :: _, [] => false

/-! ## Matching fast

Trying every ending for every `*` anew takes too long if there are many of them. Instead a table
tells for every ending of the text whether the tokens match it, and is built up from the last
token to the first. -/

/-- Given whether something holds of every ending, whether it holds of some ending of each. -/
def anyTable : List Bool → List Bool
  | [] => []
  | here :: rest =>
    let below := anyTable rest
    (here || below.headD false) :: below

/-- The same for endings that whole steps leave. -/
def stepTable : List Char → List Bool → List Bool
  | [], table => [table.headD false]
  | c :: text, table =>
    let below := stepTable text table.tail
    ((c == '/' && table.tail.headD false) || below.headD false) :: below

/-- Given what holds of every ending, whether it holds of what is left of each when a character
    that the token accepts is taken off. -/
def charTable (token : Token) : List Char → List Bool → List Bool
  | [], _ => [false]
  | c :: text, table =>
    (token.accepts c && table.tail.headD false) :: charTable token text table.tail

/-- Whether tokens match each ending of a text. -/
def table (text : List Char) : List Token → List Bool
  | [] => (endings text).map List.isEmpty
  | .anyText :: tokens => anyTable (table text tokens)
  | .anySteps :: tokens =>
    let rest := table text tokens
    List.zipWith (· || ·) rest (stepTable text rest)
  | token :: tokens => charTable token text (table text tokens)

/-- Whether tokens match a whole text, found out by way of the table. -/
def isMatch (tokens : List Token) (text : List Char) : Bool :=
  (table text tokens).headD false

theorem headD_map_endings (text : List Char) (f : List Char → Bool) :
    ((endings text).map f).headD false = f text := by
  cases text <;> rfl

theorem anyTable_endings (text : List Char) (f : List Char → Bool) :
    anyTable ((endings text).map f) = (endings text).map fun e => (endings e).any f := by
  induction text with
  | nil => simp [endings, anyTable]
  | cons c text ih =>
    simp only [endings, List.map_cons, anyTable, ih, headD_map_endings, List.any_cons]

theorem stepTable_endings (text : List Char) (f : List Char → Bool) :
    stepTable text ((endings text).map f) = (endings text).map fun e => (stepEndings e).any f := by
  induction text with
  | nil => simp [endings, stepTable, stepEndings]
  | cons c text ih =>
    simp only [endings, List.map_cons, stepTable, List.tail_cons, ih, headD_map_endings,
      stepEndings]
    by_cases hc : c = '/' <;> simp [hc]

theorem charTable_endings (token : Token) (text : List Char) (f : List Char → Bool) :
    charTable token text ((endings text).map f) =
      (endings text).map fun e =>
        match e with
        | [] => false
        | c :: rest => token.accepts c && f rest := by
  induction text with
  | nil => simp [endings, charTable]
  | cons c text ih =>
    simp only [endings, List.map_cons, charTable, List.tail_cons, ih, headD_map_endings]

/-- The table tells of every ending whether the tokens match it. -/
theorem table_eq (text : List Char) (tokens : List Token) :
    table text tokens = (endings text).map (matchesAll tokens) := by
  induction tokens with
  | nil => simp [table, matchesAll]
  | cons token tokens ih =>
    cases token with
    | anyText =>
      rw [table, ih, anyTable_endings]
      simp [matchesAll]
    | anySteps =>
      rw [table, ih, stepTable_endings]
      simp [matchesAll, List.zipWith_map, List.zipWith_self]
    | char d =>
      rw [table, ih, charTable_endings]
      · exact List.map_congr_left fun e _ => by cases e <;> simp [matchesAll]
      all_goals simp
    | anyChar =>
      rw [table, ih, charTable_endings]
      · exact List.map_congr_left fun e _ => by cases e <;> simp [matchesAll]
      all_goals simp
    | oneOf classes =>
      rw [table, ih, charTable_endings]
      · exact List.map_congr_left fun e _ => by cases e <;> simp [matchesAll]
      all_goals simp
    | noneOf classes =>
      rw [table, ih, charTable_endings]
      · exact List.map_congr_left fun e _ => by cases e <;> simp [matchesAll]
      all_goals simp

/-- Both ways of matching agree. -/
theorem isMatch_eq (tokens : List Token) (text : List Char) :
    isMatch tokens text = matchesAll tokens text := by
  rw [isMatch, table_eq, headD_map_endings]

end Glob
end SuiteCoverage
