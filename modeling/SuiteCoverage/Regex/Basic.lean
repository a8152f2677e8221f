/-!
# Regular expressions

An expression matches parts of a text. Of the matches that a text has the leftmost is taken, and of
those that start there the longest; every part of an expression then takes as much as it can, the
parts further left first. A group remembers what it has taken, and an expression can ask for that
to come again.
-/

set_option autoImplicit false

namespace SuiteCoverage

/-- A set of characters: those in some ranges, or all others. -/
structure CharSet where
  negated : Bool
  ranges : List (Char × Char)
deriving DecidableEq, Repr

namespace CharSet

/-- The set of a single character. -/
def single (c : Char) : CharSet := ⟨false, [(c, c)]⟩

/-- All characters. -/
def all : CharSet := ⟨true, []⟩

/-- Whether a character is in the set. -/
def contains (set : CharSet) (c : Char) : Bool :=
  (set.ranges.any fun range => range.1 ≤ c && c ≤ range.2) != set.negated

/-- Whether a character is in the set, in either case if `folds`. -/
def holds (set : CharSet) (folds : Bool) (c : Char) : Bool :=
  if folds then
    let inRanges := set.ranges.any fun range =>
      [c, c.toLower, c.toUpper].any fun d => range.1 ≤ d && d ≤ range.2
    inRanges != set.negated
  else set.contains c

end CharSet

/-- A place between characters. -/
inductive Edge where
  | lineStart
  | lineEnd
  | textStart
  | textEnd
  | wordStart
  | wordEnd
  /-- The start or the end of a word. -/
  | wordEdge
  | noWordEdge
deriving DecidableEq, Repr

/-- A regular expression. -/
inductive Regex where
  | empty
  | chars (set : CharSet)
  | seq (first second : Regex)
  | alt (first second : Regex)
  | group (number : Nat) (inner : Regex)
  /-- At least so often, and at most so often if there is a limit. -/
  | repeated (least : Nat) (most : Option Nat) (inner : Regex)
  /-- What a group has taken. -/
  | again (group : Nat)
  | edge (edge : Edge)
deriving DecidableEq, Repr

/-- A text that is searched. -/
structure Subject where
  text : Array Char
  /-- Whether letters match in either case. -/
  folds : Bool
  /-- Whether lines end inside the text. -/
  lines : Bool

namespace Subject

/-- Whether a character belongs to words. -/
def isWordChar (c : Char) : Bool := c.isAlphanum || c == '_'

/-- Whether there is a word character at a place. -/
def isWordAt (s : Subject) (i : Nat) : Bool := (s.text[i]?).any isWordChar

/-- Whether there is a word character before a place. -/
def isWordBefore (s : Subject) (i : Nat) : Bool := 0 < i && s.isWordAt (i - 1)

/-- Whether a place is an edge. -/
def isAt (s : Subject) (i : Nat) : Edge → Bool
  | .lineStart => i == 0 || (s.lines && s.text[i - 1]? == some '\n')
  | .lineEnd => i == s.text.size || (s.lines && s.text[i]? == some '\n')
  | .textStart => i == 0
  | .textEnd => i == s.text.size
  | .wordStart => !s.isWordBefore i && s.isWordAt i
  | .wordEnd => s.isWordBefore i && !s.isWordAt i
  | .wordEdge => s.isWordBefore i != s.isWordAt i
  | .noWordEdge => s.isWordBefore i == s.isWordAt i

end Subject

namespace Regex

/-- The groups that have taken something: their numbers, and from where to where. The last taken
    comes first. -/
abbrev Groups := List (Nat × Nat × Nat)

/-- Whether the expression asks for what a group has taken. -/
def refersBack : Regex → Bool
  | seq a b => a.refersBack || b.refersBack
  | alt a b => a.refersBack || b.refersBack
  | group _ a => a.refersBack
  | repeated _ _ a => a.refersBack
  | again _ => true
  | _ => false

/-- Whether the expression has groups. -/
def hasGroups : Regex → Bool
  | seq a b => a.hasGroups || b.hasGroups
  | alt a b => a.hasGroups || b.hasGroups
  | group _ _ => true
  | repeated _ _ a => a.hasGroups
  | _ => false

/-! ## Where matches end

Places are kept in descending order, each once. -/

/-- The places of either of two lists. -/
def union : List Nat → List Nat → List Nat
  | [], ys => ys
  | xs, [] => xs
  | x :: xs, y :: ys =>
    if x == y then x :: union xs ys
    else if y < x then x :: union xs (y :: ys)
    else y :: union (x :: xs) ys

/-- The places that a step leads to from any of some. -/
def stepAll (step : Nat → List Nat) (places : List Nat) : List Nat :=
  places.foldl (fun found i => union found (step i)) []

/-- The places that a number of steps lead to. -/
def stepTimes (step : Nat → List Nat) : Nat → List Nat → List Nat
  | 0, places => places
  | n + 1, places => stepTimes step n (stepAll step places)

/-- The places that at most a number of steps lead to from `fresh`, and those found before. -/
def stepUpTo (step : Nat → List Nat) : Nat → List Nat → List Nat → List Nat
  | 0, found, _ => found
  | n + 1, found, fresh =>
    let next := (stepAll step fresh).filter fun i => !found.contains i
    if next.isEmpty then found else stepUpTo step n (union found next) next

/-- The places that a repeated step leads to. -/
def stepRepeated (step : Nat → List Nat) (size least : Nat) (most : Option Nat) (i : Nat) :
    List Nat :=
  let first := stepTimes step least [i]
  stepUpTo step (most.elim (size + 1) fun most => min (most - least) (size + 1)) first first

/-- The places where matches end that start at a place. -/
def ends (s : Subject) : Regex → Nat → List Nat
  | empty, i => [i]
  | chars set, i => if (s.text[i]?).any (set.holds s.folds) then [i + 1] else []
  | seq a b, i => stepAll (b.ends s) (a.ends s i)
  | alt a b, i => union (a.ends s i) (b.ends s i)
  | group _ a, i => a.ends s i
  | repeated least most a, i => stepRepeated (a.ends s) s.text.size least most i
  | again _, _ => []
  | edge kind, i => if s.isAt i kind then [i] else []

/-! ## What groups take -/

/-- What groups take in a repeated part from one place to another, in a number of rounds at
    most. -/
def groupsRepeated (step : Nat → List Nat) (size : Nat) (inner : Nat → Nat → Groups → Groups)
    (most : Option Nat) : Nat → Nat → Nat → Nat → Groups → Groups
  | 0, _, _, _, groups => groups
  | fuel + 1, least, i, j, groups =>
    if i == j && least == 0 then groups
    else
      let goesOn (k : Nat) : Bool :=
        k ≤ j && (i < k || 0 < least)
          && (stepRepeated step size (least - 1) (most.map (· - 1)) k).contains j
      match (step i).find? goesOn with
      | some k =>
        groupsRepeated step size inner (most.map (· - 1)) fuel (least - 1) k j (inner i k groups)
      | none => groups

/-- What groups take in a match from one place to another. -/
def groups (s : Subject) : Regex → Nat → Nat → Groups → Groups
  | seq a b, i, j, found =>
    match (a.ends s i).find? fun k => (b.ends s k).contains j with
    | some k => b.groups s k j (a.groups s i k found)
    | none => found
  | alt a b, i, j, found =>
    if (a.ends s i).contains j then a.groups s i j found else b.groups s i j found
  | group number a, i, j, found => (number, i, j) :: a.groups s i j found
  | repeated least most a, i, j, found =>
    if i == j && least == 0 && (a.ends s i).contains i then a.groups s i i found
    else groupsRepeated (a.ends s) s.text.size (a.groups s) most (j - i + least + 1) least i j found
  | _, _, _, found => found

/-! ## Matches with references

Where a match ends depends on what groups have taken; all ways are tried. -/

/-- The better of two results: the one that ends later, and the first if both end at one place. -/
def better (a b : Option (Nat × Groups)) : Option (Nat × Groups) :=
  match a, b with
  | some x, some y => if x.1 < y.1 then b else a
  | some _, none => a
  | none, _ => b

/-- Whether a text comes again at a place. -/
def comesAgain (s : Subject) (first last i : Nat) : Bool :=
  (List.range (last - first)).all fun n =>
    match s.text[first + n]?, s.text[i + n]? with
    | some a, some b => a == b || (s.folds && a.toLower == b.toLower)
    | _, _ => false

/-- Tries rounds of a repeated part, a number of them at most. -/
def tryRepeated
    (inner : Nat → Groups → (Nat → Groups → Option (Nat × Groups)) → Option (Nat × Groups))
    (next : Nat → Groups → Option (Nat × Groups)) :
    Nat → Nat → Nat → Groups → Option (Nat × Groups)
  | 0, least, i, found => if least == 0 then next i found else none
  | rounds + 1, least, i, found =>
    let more := inner i found fun j after =>
      if i < j || 0 < least then tryRepeated inner next rounds (least - 1) j after else none
    if least == 0 then better more (next i found) else more

/-- Tries all ways to match from a place on, and to go on after that. -/
def tryAll (s : Subject) :
    Regex → Nat → Groups → (Nat → Groups → Option (Nat × Groups)) → Option (Nat × Groups)
  | empty, i, found, next => next i found
  | chars set, i, found, next =>
    if (s.text[i]?).any (set.holds s.folds) then next (i + 1) found else none
  | seq a b, i, found, next => a.tryAll s i found fun j after => b.tryAll s j after next
  | alt a b, i, found, next => better (a.tryAll s i found next) (b.tryAll s i found next)
  | group number a, i, found, next =>
    a.tryAll s i found fun j after => next j ((number, i, j) :: after)
  | repeated least most a, i, found, next =>
    tryRepeated (a.tryAll s) next (most.getD (s.text.size + 1 + least)) least i found
  | again number, i, found, next =>
    match found.find? fun entry => entry.1 == number with
    | some (_, first, last) =>
      if comesAgain s first last i then next (i + (last - first)) found else none
    | none => none
  | edge kind, i, found, next => if s.isAt i kind then next i found else none

/-! ## Searching -/

/-- The number of groups of an expression. -/
def groupCount : Regex → Nat
  | seq a b => max (groupCount a) (groupCount b)
  | alt a b => max (groupCount a) (groupCount b)
  | group n a => max n (groupCount a)
  | repeated _ _ a => groupCount a
  | _ => 0

/-- A match: from where to where, and what its groups have taken. -/
structure Match where
  first : Nat
  last : Nat
  groups : Groups

/-- The match that starts at a place. -/
def matchAt? (re : Regex) (s : Subject) (i : Nat) : Option Match :=
  if re.refersBack then
    (re.tryAll s i [] fun j found => some (j, found)).map fun result => ⟨i, result.1, result.2⟩
  else
    (re.ends s i).head?.map fun j => ⟨i, j, re.groups s i j []⟩

/-- The first match that starts at one of a number of places. -/
def searchFrom (re : Regex) (s : Subject) : Nat → Nat → Option Match
  | 0, i => re.matchAt? s i
  | count + 1, i =>
    match re.matchAt? s i with
    | some found => some found
    | none => searchFrom re s count (i + 1)

/-- The first match that starts at a place or after it. -/
def find? (re : Regex) (s : Subject) (start : Nat) : Option Match :=
  if s.text.size < start then none else re.searchFrom s (s.text.size - start) start

/-- Whether a text has a match. -/
def isIn (re : Regex) (s : Subject) : Bool :=
  if re.refersBack then (re.find? s 0).isSome
  else (List.range (s.text.size + 1)).any fun i => !(re.ends s i).isEmpty

/-- What a group has taken in a match. Group zero is the match itself. -/
def Match.taken (m : Match) (s : Subject) (number : Nat) : List Char :=
  if number == 0 then (s.text.extract m.first m.last).toList
  else
    match m.groups.find? fun entry => entry.1 == number with
    | some (_, first, last) => (s.text.extract first last).toList
    | none => []

end Regex
end SuiteCoverage
