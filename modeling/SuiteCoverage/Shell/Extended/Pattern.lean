import SuiteCoverage.Shell.Extended.Script
import SuiteCoverage.Shell.Field
import SuiteCoverage.World.Basic

/-!
# Patterns with groups

A pattern of the extended shell may hold groups: alternatives in parentheses, behind a sign that
tells how often one of them may come, or that none of them does. Matching goes through a pattern
with the set of all places that have been reached.
-/

set_option autoImplicit false

namespace SuiteCoverage
namespace Shell
namespace Extended

/-- How often the alternatives of a group may come. -/
inductive Occurrence where
  | once
  | atMostOnce
  | anyTimes
  | atLeastOnce
  /-- The group stands for what is none of its alternatives. -/
  | never
deriving DecidableEq, Repr

/-- What the sign in front of a group means. -/
def Occurrence.ofSign? (c : Char) : Option Occurrence :=
  match c with
  | '@' => some once
  | '?' => some atMostOnce
  | '*' => some anyTimes
  | '+' => some atLeastOnce
  | '!' => some never
  | _ => none

/-- A part of a pattern. -/
inductive Piece where
  /-- What a character of the text has to be. -/
  | token (token : Glob.Token)
  | anyText
  | group (occurrence : Occurrence) (alternatives : List (List Piece))

namespace Piece

/-! ## Reading -/

/-- The piece that a bracket opens, and what follows it. The cells are those behind the bracket. -/
def listAt (rest : List Cell) : Piece × List Cell :=
  match Field.readList? rest with
  | some (found, after) => (.token found, after)
  | none => (.token (.char '['), rest)

/-- The cells up to the parenthesis that closes one opened before, and what follows it. -/
def upToParenthesis : Nat → List Cell → Option (List Cell × List Cell)
  | _, [] => none
  | depth, cell :: rest =>
    let go (depth : Nat) : Option (List Cell × List Cell) :=
      (upToParenthesis depth rest).map fun (inside, after) => (cell :: inside, after)
    match cell.active?, depth with
    | some ')', 0 => some ([], rest)
    | some ')', depth + 1 => go depth
    | some '(', depth => go (depth + 1)
    | _, depth => go depth

/-- The cells between bars that stand in no parentheses. -/
def betweenBars : Nat → List Cell → List (List Cell)
  | _, [] => [[]]
  | depth, cell :: rest =>
    let next := match cell.active? with
      | some '(' => depth + 1
      | some ')' => depth - 1
      | _ => depth
    if depth = 0 && cell.active? = some '|' then [] :: betweenBars 0 rest
    else
      match betweenBars next rest with
      | [] => [[cell]]
      | first :: others => (cell :: first) :: others

/-- The pieces of a pattern, which may have groups or not. -/
def read (hasGroups : Bool) : Nat → List Cell → List Piece
  | 0, _ => []
  | _, [] => []
  | fuel + 1, cell :: rest =>
    let usual : List Piece :=
      match cell.active? with
      | some '*' => .anyText :: read hasGroups fuel rest
      | some '?' => .token .anyChar :: read hasGroups fuel rest
      | some '[' =>
        let (piece, after) := listAt rest
        piece :: read hasGroups fuel after
      | some '\\' =>
        match (rest.dropWhile (· == .mark)) with
        | next :: after =>
          (next.char?.map fun c => Piece.token (.char c)).toList ++ read hasGroups fuel after
        | [] => [.token (.char '\\')]
      | _ => (cell.char?.map fun c => Piece.token (.char c)).toList ++ read hasGroups fuel rest
    let opened := rest.dropWhile (· == .mark)
    match cell.active?.bind Occurrence.ofSign? with
    | some occurrence =>
      if hasGroups && opened.head?.any (fun next => next.active? = some '(') then
        match upToParenthesis 0 (opened.drop 1) with
        | some (inside, after) =>
          .group occurrence ((betweenBars 0 inside).map (read hasGroups fuel))
            :: read hasGroups fuel after
        | none => usual
      else usual
    | none => usual

/-- The pieces of a pattern. -/
def ofCells (hasGroups : Bool) (cells : List Cell) : List Piece :=
  read hasGroups (cells.length + 1) cells

/-! ## Matching -/

/-- Places without those that come again. -/
def distinct (places : List Nat) : List Nat :=
  (places.mergeSort fun a b => decide (a ≤ b)).foldr (fun a rest =>
    if rest.head? == some a then rest else a :: rest) []

/-- Whether a character is accepted, in either case if `folds`. -/
def accepts (folds : Bool) (token : Glob.Token) (c : Char) : Bool :=
  token.accepts c || (folds && (token.accepts c.toLower || token.accepts c.toUpper))

/-- All places that a step leads to from some, again and again. -/
def closure (step : List Nat → List Nat) : Nat → List Nat → List Nat → List Nat
  | 0, found, _ => found
  | fuel + 1, found, new =>
    let next := (step new).filter fun i => !found.contains i
    if next.isEmpty then found else closure step fuel (distinct (found ++ next)) next

mutual

/-- The places that a piece leads to from some places. -/
def step (folds : Bool) (text : Array Char) : Nat → Piece → List Nat → List Nat
  | 0, _, _ => []
  | fuel + 1, piece, places =>
    match piece with
    | .token wanted =>
      places.filterMap fun i =>
        (text[i]?).bind fun c => if accepts folds wanted c then some (i + 1) else none
    | .anyText =>
      match places with
      | [] => []
      | first :: _ => List.range' first (text.size + 1 - first)
    | .group occurrence alternatives =>
      let once (places : List Nat) : List Nat :=
        distinct (alternatives.flatMap fun pieces => run folds text fuel pieces places)
      match occurrence with
      | .once => once places
      | .atMostOnce => distinct (places ++ once places)
      | .anyTimes => closure once (text.size + 1) places places
      | .atLeastOnce =>
        let first := once places
        closure once (text.size + 1) first first
      | .never =>
        distinct (places.flatMap fun i =>
          let matched := once [i]
          (List.range' i (text.size + 1 - i)).filter fun j => !matched.contains j)

/-- The places that pieces lead to from some places. -/
def run (folds : Bool) (text : Array Char) : Nat → List Piece → List Nat → List Nat
  | 0, _, _ => []
  | _, [], places => places
  | fuel + 1, piece :: rest, places =>
    match step folds text fuel piece places with
    | [] => []
    | next => run folds text fuel rest next

end

mutual

/-- The number of steps that matching a piece takes at most. -/
def size : Piece → Nat
  | .token _ => 2
  | .anyText => 2
  | .group _ alternatives => sizeOfEach alternatives + 2

/-- The same for alternatives. -/
def sizeOfEach : List (List Piece) → Nat
  | [] => 1
  | pieces :: rest => sizeOfAll pieces + sizeOfEach rest + 1

/-- The same for pieces in a row. -/
def sizeOfAll : List Piece → Nat
  | [] => 1
  | piece :: rest => size piece + sizeOfAll rest + 1

end

/-- The places that a pattern leads to from a place. -/
def ends (folds : Bool) (pieces : List Piece) (text : Array Char) (start : Nat) : List Nat :=
  run folds text (sizeOfAll pieces + 1) pieces [start]

/-- Whether a pattern matches a text from a place to its end. -/
def reachesEnd (folds : Bool) (pieces : List Piece) (text : Array Char) (start : Nat) : Bool :=
  (ends folds pieces text start).contains text.size

/-- Whether a pattern matches a text. -/
def isMatch (folds : Bool) (pieces : List Piece) (text : String) : Bool :=
  reachesEnd folds pieces text.toList.toArray 0

/-- The end of the longest match at a place. -/
def longest? (folds : Bool) (pieces : List Piece) (text : Array Char) (start : Nat) :
    Option Nat :=
  (ends folds pieces text start).getLast?

/-- What is left of a text when a pattern is taken off its front. -/
def trimFront (folds : Bool) (pieces : List Piece) (longest : Bool) (text : String) : String :=
  let chars := text.toList
  let found := ends folds pieces chars.toArray 0
  match if longest then found.getLast? else found.head? with
  | some n => String.ofList (chars.drop n)
  | none => text

/-- What is left of a text when a pattern is taken off its end. -/
def trimEnd (folds : Bool) (pieces : List Piece) (longest : Bool) (text : String) : String :=
  let chars := text.toList
  let places := List.range (chars.length + 1)
  match (if longest then places else places.reverse).find?
    (reachesEnd folds pieces chars.toArray) with
  | some n => String.ofList (chars.take n)
  | none => text

/-- Where a pattern matches in a text, from a place on: the longest match at the first place that
    has one. -/
def findFrom (folds : Bool) (pieces : List Piece) (text : Array Char) :
    Nat → Nat → Option (Nat × Nat)
  | 0, _ => none
  | fuel + 1, start =>
    if text.size < start then none
    else
      match longest? folds pieces text start with
      | some last => some (start, last)
      | none => findFrom folds pieces text fuel (start + 1)

/-- A text in which what is matched from a place on is replaced. -/
def replaceFrom (folds : Bool) (pieces : List Piece) (replacement : List Char → List Char)
    (everywhere : Bool) (text : Array Char) : Nat → Nat → List Char
  | 0, start => (text.extract start text.size).toList
  | fuel + 1, start =>
    let rest := (text.extract start text.size).toList
    if text.size ≤ start && 0 < text.size then rest
    else
      match findFrom folds pieces text (text.size + 1) start with
      | none => rest
      | some (first, last) =>
        let before := (text.extract start first).toList
        let taken := (text.extract first last).toList
        if !everywhere then before ++ replacement taken ++ (text.extract last text.size).toList
        else if first = last then
          before ++ replacement taken ++ (text[first]?).toList
            ++ replaceFrom folds pieces replacement everywhere text fuel (first + 1)
        else
          before ++ replacement taken
            ++ replaceFrom folds pieces replacement everywhere text fuel last

/-- A text in which what a pattern matches is replaced. -/
def replaceIn (folds : Bool) (pieces : List Piece) (spot : Spot)
    (replacement : List Char → List Char) (text : String) : String :=
  let chars := text.toList
  let array := chars.toArray
  match spot with
  | .first => String.ofList (replaceFrom folds pieces replacement false array (array.size + 2) 0)
  | .everywhere =>
    String.ofList (replaceFrom folds pieces replacement true array (array.size + 2) 0)
  | .front =>
    match longest? folds pieces array 0 with
    | some last => String.ofList (replacement (chars.take last) ++ chars.drop last)
    | none => text
  | .back =>
    match (List.range (chars.length + 1)).find? (reachesEnd folds pieces array) with
    | some first => String.ofList (chars.take first ++ replacement (chars.drop first))
    | none => text

end Piece

/-!
## Patterns of paths

A field that is a pattern stands for the paths that match it. A name that starts with a point has
to be asked for, and what matches nothing is kept as it is, unless the script says otherwise. It may
also have it that two asterisks stand for any number of directories.
-/

/-- How paths are looked for. -/
structure Globbing where
  hasGroups : Bool
  /-- Whether letters match in either case. -/
  folds : Bool
  /-- Whether names that start with a point need not be asked for. -/
  seesHidden : Bool
  /-- Whether two asterisks stand for any number of directories. -/
  descends : Bool

namespace Globbing

/-- Whether cells are a pattern. -/
def isPattern (g : Globbing) : List Cell → Bool
  | [] => false
  | cell :: rest =>
    let next := (rest.dropWhile (· == .mark)).head?.bind Cell.active?
    match cell.active? with
    | some '*' => true
    | some '?' => true
    | some '[' => (rest.any fun other => other.active? == some ']') || isPattern g rest
    | some c =>
      (g.hasGroups && (Occurrence.ofSign? c).isSome && next == some '(') || isPattern g rest
    | none => isPattern g rest

/-- Whether cells stand for any number of directories. -/
def isDeep (g : Globbing) (component : List Cell) : Bool :=
  g.descends && (component.filter (· != .mark)).map Cell.active? == [some '*', some '*']

/-- The names in a directory. -/
def namesIn (w : World) (directory : String) : List String :=
  match w.list ⟨if directory.isEmpty then "." else toText directory⟩ with
  | .ok entries => entries.map fun entry => ofText entry.1
  | .error _ => []

/-- The names in a directory that a pattern matches. -/
def matching (g : Globbing) (w : World) (directory : String) (component : List Cell) :
    List String :=
  let pieces := Piece.ofCells g.hasGroups component
  let asksForHidden := (component.filterMap Cell.char?).head? == some '.'
  (namesIn w directory).filter fun name =>
    (g.seesHidden || asksForHidden || name.toList.head? != some '.')
      && Piece.isMatch g.folds pieces name

/-- Whether a path leads to a directory without a link at its end. -/
def isDirectory (w : World) (p : String) : Bool :=
  match w.locate .upTo ⟨toText p⟩ with
  | .ok (.present _ node) => node.isDirectory
  | _ => false

/-- The paths of all that is below a directory, to some depth. -/
def below (g : Globbing) (w : World) : Nat → String → List String
  | 0, _ => []
  | depth + 1, start =>
    let names := (namesIn w start).filter fun name => g.seesHidden || name.toList.head? != some '.'
    names.flatMap fun name =>
      let p := start ++ name
      p :: (if isDirectory w p then below g w depth (p ++ "/") else [])

/-- How deep directories are looked for. -/
def depthLimit : Nat := 128

/-- The paths that start as given and go on with some components. -/
def pathsFrom (g : Globbing) (w : World) : List String → List (List Cell) → List String
  | starts, [] => starts
  | starts, component :: rest =>
    let ends := if rest.isEmpty then "" else "/"
    let grown :=
      if isDeep g component then
        starts.flatMap fun start =>
          let all := below g w depthLimit start
          if rest.isEmpty then (if start.isEmpty then [] else [start]) ++ all
          else start :: (all.filter (isDirectory w)).map (· ++ "/")
      else if isPattern g component then
        starts.flatMap fun start =>
          (matching g w start component).map fun name => start ++ name ++ ends
      else starts.map fun start => start ++ Cell.text component ++ ends
    pathsFrom g w grown rest

/-- The paths that a pattern stands for, in order. -/
def paths (g : Globbing) (w : World) (cells : List Cell) : List String :=
  let found := (pathsFrom g w [""] (Field.components cells)).filter fun p =>
    w.pathExists ⟨toText p⟩
  found.mergeSort fun a b => (compare a b).isLE

end Globbing
end Extended
end Shell
end SuiteCoverage
