import SuiteCoverage.Number.Quantity
import SuiteCoverage.Shell.Utility.Excerpts
import SuiteCoverage.Text.Column

/-!
# Lines in order

The utilities that put lines in order, and those that rely on lines being in order: those that
leave out repeated lines, and those that compare or join two texts.
-/

set_option autoImplicit false

namespace SuiteCoverage
namespace Shell
namespace Utility

open Effect

/-! ## Keys -/

/-- How texts are compared. -/
structure Comparing where
  /-- `n` by number, `g` by number in any form, `h` by number with a unit, `M` by month, `V` by
      version; none by their characters. -/
  kind : Option Char
  folds : Bool
  /-- Whether only blanks, letters and digits count. -/
  dictionary : Bool
  /-- Whether only characters count that can be seen. -/
  visible : Bool
  skipsBlanks : Bool
  reversed : Bool

namespace Comparing

/-- By their characters. -/
def plain : Comparing := ⟨none, false, false, false, false, false⟩

/-- Takes a letter that tells how texts are compared. -/
def withLetter (c : Char) (way : Comparing) : Option Comparing :=
  match c with
  | 'b' => some { way with skipsBlanks := true }
  | 'd' => some { way with dictionary := true }
  | 'f' => some { way with folds := true }
  | 'i' => some { way with visible := true }
  | 'r' => some { way with reversed := true }
  | c => if "nghMVR".toList.contains c then some { way with kind := some c } else none

/-- Whether anything is asked for besides the order of characters. -/
def isSpecial (way : Comparing) : Bool :=
  way.kind.isSome || way.folds || way.dictionary || way.visible || way.skipsBlanks || way.reversed

/-- A sign, the digits in front of a point, and those behind it. -/
def decimalParts (text : List Char) : Bool × List Char × List Char × List Char :=
  let text := text.dropWhile fun c => c == ' ' || c == '\t'
  let (negative, text) := match text with
    | '-' :: rest => (true, rest)
    | _ => (false, text)
  let whole := text.takeWhile Char.isDigit
  let after := text.drop whole.length
  let fraction := match after with
    | '.' :: rest => rest.takeWhile Char.isDigit
    | _ => []
  let rest := match after with
    | '.' :: rest => rest.drop fraction.length
    | _ => after
  (negative, whole.dropWhile (· == '0'), (fraction.reverse.dropWhile (· == '0')).reverse, rest)

/-- Compares the numbers at the starts of two texts. -/
def compareNumbers (a b : List Char) : Ordering :=
  let (negativeA, wholeA, fractionA, _) := decimalParts a
  let (negativeB, wholeB, fractionB, _) := decimalParts b
  let isZeroA := wholeA.isEmpty && fractionA.isEmpty
  let isZeroB := wholeB.isEmpty && fractionB.isEmpty
  let signA : Int := if isZeroA then 0 else if negativeA then -1 else 1
  let signB : Int := if isZeroB then 0 else if negativeB then -1 else 1
  let sizes := (compare wholeA.length wholeB.length).then
    ((compare (String.ofList wholeA) (String.ofList wholeB)).then
      (compare (String.ofList fractionA) (String.ofList fractionB)))
  (compare signA signB).then (if signA < 0 then sizes.swap else sizes)

/-- The place of a unit in the order of units. -/
def unitOrder (c : Option Char) : Nat :=
  match c with
  | some 'k' => 1
  | some 'K' => 1
  | some 'M' => 2
  | some 'G' => 3
  | some 'T' => 4
  | some 'P' => 5
  | some 'E' => 6
  | some 'Z' => 7
  | some 'Y' => 8
  | _ => 0

/-- Compares numbers with units. -/
def compareUnits (a b : List Char) : Ordering :=
  let signed (text : List Char) : Int :=
    let (negative, whole, fraction, rest) := decimalParts text
    let unit := (unitOrder rest.head? : Int)
    if whole.isEmpty && fraction.isEmpty then 0 else if negative then -unit - 1 else unit + 1
  (compare (signed a) (signed b)).then (compareNumbers a b)

/-- The place of the month that a text starts with; zero if it starts with none. -/
def monthOf (text : List Char) : Nat :=
  let start := ((text.dropWhile fun c => c == ' ' || c == '\t').take 3).map Char.toUpper
  let months := ["JAN", "FEB", "MAR", "APR", "MAY", "JUN", "JUL", "AUG", "SEP", "OCT", "NOV",
    "DEC"]
  ((months.zipIdx 1).find? fun entry => entry.1.toList == start).elim 0 (·.2)

/-- Where a character stands in the order of versions. -/
def versionOrder (c : Option Char) : Int :=
  match c with
  | none => 0
  | some '~' => -1
  | some c => if c.isDigit then 0 else if c.isAlpha then c.toNat else c.toNat + 256

/-- Compares versions: runs of digits by number, what is between them by characters. -/
def compareVersions : Nat → List Char → List Char → Ordering
  | 0, _, _ => .eq
  | fuel + 1, a, b =>
    if a.isEmpty && b.isEmpty then .eq
    else
      let isText (text : List Char) : Bool := (text.head?).any fun c => !c.isDigit
      if isText a || isText b then
        let order := compare (versionOrder a.head?) (versionOrder b.head?)
        let next (text : List Char) := if isText text then text.drop 1 else text
        if order == .eq then compareVersions fuel (next a) (next b) else order
      else
        let digits (text : List Char) := text.takeWhile Char.isDigit
        let value (text : List Char) := (digits text).dropWhile (· == '0')
        let order := (compare (value a).length (value b).length).then
          (compare (String.ofList (value a)) (String.ofList (value b)))
        if order == .eq then
          compareVersions fuel (a.drop (digits a).length) (b.drop (digits b).length)
        else order

/-- Compares texts by their characters, some of which may not count. -/
def compareTexts (way : Comparing) (a b : List Char) : Ordering :=
  let kept (text : List Char) : List Char :=
    let text := if way.dictionary then
        text.filter fun c => c.isAlphanum || c == ' ' || c == '\t'
      else text
    let text := if way.visible then text.filter Quoting.isVisible else text
    if way.folds then text.map Char.toUpper else text
  compare (String.ofList (kept a)) (String.ofList (kept b))

/-- Compares the quantities that two texts start with: a text that starts with none comes first, then
    what is no number. -/
def compareQuantities (a b : List Char) : Ordering :=
  let place (found : Option Quantity.Found) : Nat × Int × Nat :=
    match (found.map (·.quantity) : Option Quantity) with
    | none => (0, 0, 1)
    | some (.noNumber _) => (1, 0, 1)
    | some (.infinite true) => (2, 0, 1)
    | some (.finite negative x) => (3, if negative then -(x.num : Int) else x.num, x.den)
    | some (.infinite false) => (4, 0, 1)
  let (kindA, numA, denA) := place (Quantity.read? a)
  let (kindB, numB, denB) := place (Quantity.read? b)
  (compare kindA kindB).then (compare (numA * denB) (numB * denA))

/-- Compares texts. -/
def compare (way : Comparing) (a b : List Char) : Ordering :=
  let trim (text : List Char) : List Char :=
    if way.skipsBlanks then text.dropWhile fun c => c == ' ' || c == '\t' || c == '\n' else text
  let a := trim a
  let b := trim b
  let order := match way.kind with
    | some 'n' => compareNumbers a b
    | some 'h' => compareUnits a b
    | some 'M' => Ord.compare (monthOf a) (monthOf b)
    | some 'V' => compareVersions (a.length + b.length + 1) a b
    | some 'g' => compareQuantities a b
    | _ => compareTexts way a b
  if way.reversed then order.swap else order

end Comparing

/-- A place in a line: a field, and a character in it. -/
structure KeyPlace where
  field : Nat
  char : Nat
  skipsBlanks : Bool

/-- A part of lines by which they are compared. -/
structure SortKey where
  first : KeyPlace
  last : Option KeyPlace
  /-- How the parts are compared, if the key says so. -/
  comparing : Option Comparing

namespace SortKey

/-- The starts of the fields of a line and where they end. Without a divider, the blanks in front of
    a field belong to it. -/
def fieldBounds (divider : Option Char) (text : List Char) : List (Nat × Nat) :=
  match divider with
  | some c =>
    let fields := splitBy (· == c) text
    (fields.foldl
      (fun (found, start) field =>
        (found ++ [(start, start + field.length)], start + field.length + 1))
      (([] : List (Nat × Nat)), 0)).1
  | none =>
    let isBlank (c : Char) : Bool := c == ' ' || c == '\t' || c == '\n'
    let step (found : List (Nat × Nat) × Nat × Bool × Nat) (c : Char) :
        List (Nat × Nat) × Nat × Bool × Nat :=
      let (done, start, inText, place) := found
      if isBlank c && inText then (done ++ [(start, place)], place, false, place + 1)
      else (done, start, inText || !isBlank c, place + 1)
    let (done, start, _, place) := text.foldl step ([], 0, false, 0)
    done ++ [(start, place)]

/-- The part of a line that a key means. -/
def partOf (divider : Option Char) (key : SortKey) (text : List Char) : List Char :=
  let bounds := fieldBounds divider text
  let size := text.length
  let skip (skips : Bool) (place : Nat) : Nat :=
    if skips then
      place + ((text.drop place).takeWhile fun c => c == ' ' || c == '\t' || c == '\n').length
    else place
  let start := match bounds[key.first.field - 1]? with
    | some (start, _) => min size (skip key.first.skipsBlanks start + (key.first.char - 1))
    | none => size
  let stop := match key.last with
    | none => size
    | some place =>
      match bounds[place.field - 1]? with
      | none => size
      | some (start, stop) =>
        if place.char == 0 then stop else min size (skip place.skipsBlanks start + place.char)
  (text.take stop).drop start

/-- A number at the front of a text, and what follows it. -/
def numberAt (text : List Char) : Option Nat × List Char :=
  let digits := text.takeWhile Char.isDigit
  ((String.ofList digits).toNat?, text.drop digits.length)

/-- A place in a line at the front of a text, with letters behind it. -/
def placeAt (text : List Char) (usual : Nat) : Option (KeyPlace × List Char × List Char) := do
  let (field, rest) := numberAt text
  let field ← field
  let (char, rest) ← match rest with
    | '.' :: more =>
      let (n, after) := numberAt more
      n.map fun n => (n, after)
    | _ => some (usual, rest)
  let letters := rest.takeWhile Char.isAlpha
  return (⟨field, char, letters.contains 'b'⟩, letters, rest.drop letters.length)

/-- What is wrong with a key, or the key. -/
def ofText (text : String) : Except String SortKey :=
  let wrong (reason : String) : Except String SortKey :=
    .error (reason ++ ": invalid field specification " ++ Quoting.name text)
  match placeAt text.toList 1 with
  | none =>
    match numberAt text.toList with
    | (some _, '.' :: rest) => .error ("invalid number after '.': invalid count at start of "
        ++ Quoting.name (String.ofList rest))
    | _ => .error ("invalid number at field start: invalid count at start of "
        ++ Quoting.name text)
  | some (first, letters, rest) =>
    if first.field == 0 then wrong "field number is zero"
    else if first.char == 0 then wrong "character offset is zero"
    else
      let ended : Option (Option KeyPlace × List Char × List Char) :=
        match rest with
        | [] => some (none, [], [])
        | ',' :: more => (placeAt more 0).map fun (place, letters, rest) =>
            (some place, letters, rest)
        | _ => none
      match ended with
      | none =>
        match rest with
        | ',' :: more => .error ("invalid number after ',': invalid count at start of "
            ++ Quoting.name (String.ofList more))
        | _ => wrong "stray character in field spec"
      | some (last, others, rest) =>
        if !rest.isEmpty then wrong "stray character in field spec"
        else if last.any fun place => place.field == 0 then wrong "field number is zero"
        else
          let all := letters ++ others
          let comparing := all.foldl
            (fun (found : Option Comparing) c => found.bind fun found =>
              if c == 'b' then some found else found.withLetter c)
            (some .plain)
          match comparing with
          | none => wrong "stray character in field spec"
          | some comparing =>
            .ok ⟨first, last, if all.isEmpty then none else some comparing⟩

end SortKey

/-! ## Sorting -/

/-- The options of `sort`. -/
def sortFlags : Flags :=
  ⟨"bcCdfghiMmnRrsuVz".toList, "ckoStTPB".toList,
    [("ignore-leading-blanks", 'b'), ("check", 'c'), ("dictionary-order", 'd'),
      ("ignore-case", 'f'), ("general-numeric-sort", 'g'), ("human-numeric-sort", 'h'),
      ("ignore-nonprinting", 'i'), ("month-sort", 'M'), ("merge", 'm'), ("numeric-sort", 'n'),
      ("random-sort", 'R'), ("reverse", 'r'), ("stable", 's'), ("unique", 'u'),
      ("version-sort", 'V'), ("zero-terminated", 'z'), ("key", 'k'), ("output", 'o'),
      ("buffer-size", 'S'), ("field-separator", 't'), ("temporary-directory", 'T'),
      ("parallel", 'P'), ("batch-size", 'B')]⟩

/-- How lines are compared. -/
structure LineOrder where
  overall : Comparing
  divider : Option Char
  keys : List SortKey
  /-- Whether lines that compare as equal stay in their order. -/
  isStable : Bool

/-- Compares lines by their keys alone. -/
def LineOrder.compareKeys (order : LineOrder) (a b : List Char) : Ordering :=
  if order.keys.isEmpty then order.overall.compare a b
  else
    order.keys.foldl
      (fun found key =>
        found.then
          (let inherits := key.comparing.isNone && !key.first.skipsBlanks
            && !(key.last.any (·.skipsBlanks))
          let comparing := key.comparing.getD
            (if inherits then order.overall else .plain)
          let skips := inherits && order.overall.skipsBlanks
          let key := if skips then
              { key with
                first := { key.first with skipsBlanks := true }
                last := key.last.map fun place => { place with skipsBlanks := true } }
            else key
          { comparing with skipsBlanks := false }.compare
            (key.partOf order.divider a) (key.partOf order.divider b)))
      .eq

/-- Compares lines: last of all by all their characters. -/
def LineOrder.compare (order : LineOrder) (a b : List Char) : Ordering :=
  (order.compareKeys a b).then
    (if order.isStable then .eq
    else
      let whole := Ord.compare (String.ofList a) (String.ofList b)
      if order.overall.reversed then whole.swap else whole)

/-- The order that options ask for. -/
def lineOrderOf (choice : Flags.Choice) : Except String LineOrder := do
  let keys ← (choice.options.filter (·.1 == 'k')).mapM fun option => SortKey.ofText option.2
  let overall := choice.options.foldl
    (fun (found : Comparing) option => (found.withLetter option.1).getD found) .plain
  let divider ← match choice.value? 't' with
    | none => pure none
    | some text =>
      match text.toList with
      | [] => throw "empty tab"
      | [c] => pure (some c)
      | ['\\', '0'] => pure (some '\x00')
      | _ => throw ("multi-character tab " ++ Quoting.name text)
  return ⟨overall, divider, keys, choice.has 's' || choice.has 'u'⟩

/-- Lines without those that compare as equal to the one before them. -/
def withoutRepeats (same : List Char → List Char → Bool) :
    List (List Char) → List (List Char)
  | a :: b :: rest =>
    if same a b then withoutRepeats same (a :: rest) else a :: withoutRepeats same (b :: rest)
  | lines => lines
  termination_by lines => lines.length

/-- The first line that is not in order, and its number. -/
def disorder? (holds : List Char → List Char → Bool) :
    Nat → List (List Char) → Option (Nat × List Char)
  | n, a :: b :: rest => if holds a b then disorder? holds (n + 1) (b :: rest) else some (n + 1, b)
  | _, _ => none

/-- Sorts lines, or checks whether they are sorted. -/
def sort (arguments : List String) : Effect Unit :=
  withFlags 2 sortFlags arguments fun choice => do
    match lineOrderOf choice with
    | .error complaint =>
      blame complaint
      setStatus 2
    | .ok order =>
      let ending := if choice.has 'z' then '\x00' else '\n'
      let names := orInput choice.operands
      let read ← names.mapM fun argument => do
        match ← withNamed argument fun channel => readAll (some channel) with
        | .error fault =>
          blame ("cannot read: " ++ Quoting.nameIfNeeded argument ++ ": " ++ fault.reason)
          throw (.exit 2)
        | .ok (.error fault) =>
          blame ("read failed: " ++ Quoting.nameIfNeeded argument ++ ": " ++ fault.reason)
          throw (.exit 2)
        | .ok (.ok text) =>
          let (lines, rest) := piecesOf ending [] text.toList
          return lines ++ (if rest.isEmpty then [] else [String.ofList rest.reverse])
      let texts := read.map fun lines => lines.map String.toList
      let lines := texts.flatten
      let isQuiet := choice.has 'C' || (choice.value? 'c').any (!·.isEmpty)
      if choice.has 'c' || choice.has 'C' then
        if let extra :: _ := choice.operands.drop 1 then
          blame ("extra operand " ++ Quoting.name extra ++ " not allowed with -"
            ++ (if choice.has 'C' then "C" else "c"))
          throw (.exit 2)
        let inOrder (a b : List Char) : Bool :=
          if choice.has 'u' then order.compareKeys a b == .lt else order.compare a b != .gt
        match disorder? inOrder 1 lines with
        | none => Builtin.answer true
        | some (n, line) =>
          if !isQuiet then
            blame (Quoting.nameIfNeeded (names.headD "-") ++ ":" ++ toString n ++ ": disorder: "
              ++ String.ofList line)
          setStatus 1
      else
        let holds (a b : List Char) : Bool := (order.compare a b).isLE
        let sorted := if choice.has 'm' then
            texts.foldl (fun merged lines => List.merge merged lines holds) []
          else lines.mergeSort holds
        let kept := if choice.has 'u' then
            withoutRepeats (fun a b => order.compareKeys a b == .eq) sorted
          else sorted
        let text := String.ofList (kept.flatMap fun line => line ++ [ending])
        match choice.value? 'o' with
        | none =>
          say text
          Builtin.answer true
        | some file =>
          match (← state).world.write (pathOf file) (toBytes text) with
          | .ok world =>
            change fun s => { s with world }
            Builtin.answer true
          | .error fault =>
            blame ("open failed: " ++ Quoting.nameIfNeeded file ++ ": " ++ fault.reason)
            setStatus 2

/-! ## Repeated lines -/

/-- The options of `uniq`. -/
def uniqFlags : Flags :=
  ⟨"cdDuizAG".toList, "fswAG".toList,
    [("count", 'c'), ("repeated", 'd'), ("all-repeated", 'A'), ("unique", 'u'),
      ("ignore-case", 'i'), ("zero-terminated", 'z'), ("skip-fields", 'f'), ("skip-chars", 's'),
      ("check-chars", 'w'), ("group", 'G')]⟩

/-- The part of a line that is compared. -/
def uniqPart (choice : Flags.Choice) (line : String) : List Char :=
  let number (letter : Char) : Nat := ((choice.value? letter).bind count?).getD 0
  let isBlank (c : Char) : Bool := c == ' ' || c == '\t'
  let skipped := (List.range (number 'f')).foldl
    (fun text _ => (text.dropWhile isBlank).dropWhile fun c => !isBlank c) line.toList
  let rest := skipped.drop (number 's')
  let rest := if (choice.value? 'w').isSome then rest.take (number 'w') else rest
  if choice.has 'i' then rest.map Char.toLower else rest

/-- Lines in groups of those next to each other that are the same. -/
def grouped (part : String → List Char) (lines : List String) : List (List String) :=
  let step (groups : List (List String)) (line : String) : List (List String) :=
    match groups with
    | (first :: more) :: others =>
      if part first == part line then (line :: first :: more) :: others
      else [line] :: (first :: more) :: others
    | _ => [line] :: groups
  ((lines.foldl step []).map List.reverse).reverse

/-- What is shown of a group of lines. -/
def uniqShown (choice : Flags.Choice) (group : List String) : List String :=
  let count := group.length
  let numbered (line : String) : String :=
    if choice.has 'c' then Text.padLeft 7 (toString count) ++ " " ++ line else line
  if choice.has 'G' then group
  else if choice.has 'D' || choice.has 'A' then if 1 < count && !choice.has 'u' then group else []
  else if choice.has 'd' && choice.has 'u' then []
  else if choice.has 'd' && count < 2 then []
  else if choice.has 'u' && 1 < count then []
  else [numbered (group.headD "")]

/-- Groups of lines with the empty lines that are asked for in front of them, between them and behind
    them. -/
def separated (choice : Flags.Choice) (groups : List (List String)) : List String :=
  let way := if choice.has 'G' then (choice.value? 'G').filter (!·.isEmpty) |>.getD "separate"
    else (choice.value? 'A').getD "none"
  let before := if way == "prepend" || way == "both" then [""] else []
  let after := if way == "append" || way == "both" then [""] else []
  let inside := if way == "none" then groups.flatten
    else if way == "append" || way == "prepend" || way == "separate" || way == "both" then
      [""].intercalate groups
    else groups.flatten
  if groups.isEmpty then [] else before ++ inside ++ after

/-- What is wrong with the options of `uniq`, if anything is. -/
def uniqFlaw? (choice : Flags.Choice) : Option String :=
  if choice.has 'G' && "cdDuA".toList.any choice.has then
    some "--group is mutually exclusive with -c/-d/-D/-u"
  else if choice.has 'c' && (choice.has 'D' || choice.has 'A') then
    some "printing all duplicated lines and repeat counts is meaningless"
  else none

/-- What is wrong with a number among the options of `uniq`, if anything is. -/
def uniqNumberFlaw? (choice : Flags.Choice) : Option String :=
  (choice.options.find? fun option =>
    "fsw".toList.contains option.1 && (count? option.2).isNone).map fun (letter, text) =>
      text ++ ": " ++ (if letter == 'f' then "invalid number of fields to skip"
        else if letter == 's' then "invalid number of bytes to skip"
        else "invalid number of bytes to compare")

/-- Writes a text as a file, or to the output if none is named. -/
def writeOut (file : Option String) (text : String) : Effect Unit := do
  match file.filter (· != "-") with
  | none =>
    say text
    Builtin.answer true
  | some file =>
    match (← state).world.write (pathOf file) (toBytes text) with
    | .ok world =>
      change fun s => { s with world }
      Builtin.answer true
    | .error fault =>
      blameName file fault
      setStatus 1

/-- Shows lines that are next to each other and the same once. -/
def uniq (arguments : List String) : Effect Unit :=
  withFlags 1 uniqFlags arguments fun choice => do
    match uniqNumberFlaw? choice, uniqFlaw? choice, choice.operands with
    | some flaw, _, _ =>
      blame flaw
      setStatus 1
    | none, some flaw, _ => blameCall flaw
    | none, none, _ :: _ :: extra :: _ => blameCall ("extra operand " ++ Quoting.name extra)
    | none, none, operands =>
      let ending := if choice.has 'z' then '\x00' else '\n'
      let name := operands.headD "-"
      match ← wholeText name with
      | .error fault =>
        blameName name fault
        setStatus 1
      | .ok text =>
        let (lines, rest) := piecesOf ending [] text.toList
        let lines := lines ++ (if rest.isEmpty then [] else [String.ofList rest.reverse])
        let groups := grouped (uniqPart choice) lines
        let shown := separated choice ((groups.map (uniqShown choice)).filter (!·.isEmpty))
        writeOut operands[1]? (String.join (shown.map (·.push ending)))

end Utility
end Shell
end SuiteCoverage
