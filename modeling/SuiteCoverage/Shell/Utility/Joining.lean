import SuiteCoverage.Shell.Utility.Order
import SuiteCoverage.Shell.Utility.Reshaping

/-!
# Two texts in order

The utilities that compare or join two texts whose lines are in order, and the one that puts names
in an order in which each comes before those that have to follow it.
-/

set_option autoImplicit false

namespace SuiteCoverage
namespace Shell
namespace Utility

open Effect

/-! ## Comparing -/

/-- The options of `comm`. -/
def commFlags : Flags :=
  ⟨"123zCNT".toList, ['D'],
    [("check-order", 'C'), ("nocheck-order", 'N'), ("output-delimiter", 'D'), ("total", 'T'),
      ("zero-terminated", 'z')]⟩

/-- What is found when two texts are gone through side by side. -/
inductive Comparison where
  | first (line : String)
  | second (line : String)
  | both (line : String)

/-- Goes through the lines of two texts side by side. -/
def compared : List String → List String → List Comparison
  | [], bs => bs.map .second
  | as, [] => as.map .first
  | a :: as, b :: bs =>
    if a == b then .both a :: compared as bs
    else if compare a b == .lt then .first a :: compared as (b :: bs)
    else .second b :: compared (a :: as) bs
  termination_by as bs => as.length + bs.length

/-- The number of lines at the front that are in order; none if all are. -/
def ordered (lines : List String) : Option Nat :=
  ((lines.zip (lines.drop 1)).findIdx? fun pair => compare pair.1 pair.2 == .gt).map (· + 1)

/-- What is found before a line of either text comes up that is not in order. -/
def upToDisorder : Option Nat → Option Nat → List Comparison → List Comparison
  | _, _, [] => []
  | some 0, _, _ => []
  | _, some 0, _ => []
  | a, b, .first line :: rest => .first line :: upToDisorder (a.map (· - 1)) b rest
  | a, b, .second line :: rest => .second line :: upToDisorder a (b.map (· - 1)) rest
  | a, b, .both line :: rest =>
    .both line :: upToDisorder (a.map (· - 1)) (b.map (· - 1)) rest

/-- Whether lines are in order. -/
def areOrdered (lines : List String) : Bool :=
  (lines.zip (lines.drop 1)).all fun pair => compare pair.1 pair.2 != .gt

/-- The lines of a text that is named, or the end of the program. -/
def demandLines (ending : Char) (name : String) : Effect (List String) := do
  match ← wholeText name with
  | .error fault =>
    blameName name fault
    throw (.exit 1)
  | .ok text =>
    let (lines, rest) := piecesOf ending [] text.toList
    return lines ++ (if rest.isEmpty then [] else [String.ofList rest.reverse])

/-- Says which of two texts are not in order, and whether any is. -/
def blameDisorder (isOrdered : List Bool) : Effect Bool := do
  (isOrdered.zipIdx 1).forM fun (holds, number) =>
    if holds then pure () else blame ("file " ++ toString number ++ " is not in sorted order")
  return isOrdered.any (!·)

/-- Compares two texts line by line. -/
def comm (arguments : List String) : Effect Unit :=
  withFlags 1 commFlags arguments fun choice => do
    match choice.operands with
    | [] => blameCall "missing operand"
    | [one] => blameCall ("missing operand after " ++ Quoting.name one)
    | _ :: _ :: extra :: _ => blameCall ("extra operand " ++ Quoting.name extra)
    | [one, other] =>
      let ending := if choice.has 'z' then '\x00' else '\n'
      let as ← demandLines ending one
      let bs ← demandLines ending other
      let found := compared as bs
      let isPaired := found.all fun
        | .both _ => true
        | _ => false
      let checks := (choice.has 'C' || !isPaired) && !choice.has 'N'
      let isWrong ← if checks then blameDisorder [areOrdered as, areOrdered bs] else pure false
      let found := if choice.has 'C' && isWrong then
          upToDisorder (ordered as) (ordered bs) found
        else found
      let divider := (choice.value? 'D').getD "\t"
      let hides (column : Char) : Bool := choice.has column
      let lead (columns : List Char) : String :=
        String.join (columns.map fun column => if hides column then "" else divider)
      let lines := found.filterMap fun
        | .first line => if hides '1' then none else some line
        | .second line => if hides '2' then none else some (lead ['1'] ++ line)
        | .both line => if hides '3' then none else some (lead ['1', '2'] ++ line)
      say (String.join (lines.map (·.push ending)))
      if choice.has 'T' then
        let count (holds : Comparison → Bool) : String := toString (found.filter holds).length
        let counts :=
          [count fun | .first _ => true | _ => false, count fun | .second _ => true | _ => false,
            count fun | .both _ => true | _ => false, "total"]
        say ((divider.intercalate counts).push ending)
      if isWrong then
        if !choice.has 'C' then blame "input is not in sorted order"
        setStatus 1
      else Builtin.answer true

/-! ## Joining -/

/-- The options of `join`. -/
def joinFlags : Flags :=
  ⟨"izCNH".toList, "aejotv12".toList,
    [("ignore-case", 'i'), ("zero-terminated", 'z'), ("check-order", 'C'), ("nocheck-order", 'N'),
      ("header", 'H')]⟩

/-- A place in a joined line: the key, or a field of one of the texts. -/
inductive JoinPlace where
  | key
  | field (text number : Nat)

/-- How lines are joined. -/
structure Joining where
  divider : Option Char
  folds : Bool
  /-- The fields of both texts that are compared. -/
  keys : Nat × Nat
  /-- Which lines without a partner are shown. -/
  alone : List Nat
  /-- Whether joined lines are shown. -/
  showsPairs : Bool
  missing : String
  places : Option (List JoinPlace)

namespace Joining

/-- The fields of a line. -/
def fields (j : Joining) (line : String) : List String :=
  match j.divider with
  | some c => (splitBy (· == c) line.toList).map String.ofList
  | none =>
    ((splitBy (fun c => c == ' ' || c == '\t') line.toList).filter (!·.isEmpty)).map String.ofList

/-- The key among fields. -/
def keyOf (number : Nat) (fields : List String) : String := fields[number - 1]?.getD ""

/-- Compares two keys. -/
def compareKeys (j : Joining) (a b : String) : Ordering :=
  if j.folds then compare a.toUpper b.toUpper else compare a b

/-- The line that two lines are joined to; one of them may be missing. -/
def joined (j : Joining) (a b : Option (List String)) : String :=
  let key := match a, b with
    | some fields, _ => keyOf j.keys.1 fields
    | none, some fields => keyOf j.keys.2 fields
    | none, none => ""
  let others (number : Nat) (fields : Option (List String)) : List String :=
    let fields := fields.getD []
    fields.take (number - 1) ++ fields.drop number
  let orMissing (text : String) : String := if text.isEmpty then j.missing else text
  let texts := match j.places with
    | none => orMissing key :: (others j.keys.1 a ++ others j.keys.2 b).map orMissing
    | some places => places.map fun
      | .key => orMissing key
      | .field text number =>
        orMissing ((((if text == 1 then a else b).getD [])[number - 1]?).getD "")
  ((j.divider.elim " " String.singleton).intercalate texts)

/-- How far two texts have been joined. -/
structure Progress where
  /-- The joined lines, the last first. -/
  lines : List String
  /-- Whether a line without a partner has come up. -/
  hasLone : Bool
  /-- For both texts, the first line that is not in order, with its number. -/
  flaws : Option (Nat × String) × Option (Nat × String)

/-- A line with its number and its fields. -/
structure JoinLine where
  number : Nat
  text : String
  fields : List String

/-- The lines of a text. -/
def linesOf (j : Joining) (start : Nat) (lines : List String) : List JoinLine :=
  (lines.zipIdx start).map fun (text, number) => ⟨number, text, j.fields text⟩

/-- Looks whether lines are in order, once it matters. -/
def checked (j : Joining) (always isFirst : Bool) (p : Progress) (lines : List JoinLine) :
    Progress :=
  let number := if isFirst then j.keys.1 else j.keys.2
  let bad := (lines.zip (lines.drop 1)).find? fun pair =>
    j.compareKeys (keyOf number pair.1.fields) (keyOf number pair.2.fields) == .gt
  match bad with
  | some (_, line) =>
    if !(always || p.hasLone) then p
    else if isFirst then
      { p with flaws := (p.flaws.1.orElse fun _ => some (line.number, line.text), p.flaws.2) }
    else { p with flaws := (p.flaws.1, p.flaws.2.orElse fun _ => some (line.number, line.text)) }
  | none => p

/-- The lines at the front with the same key as the first, and the others. -/
def sameKey (j : Joining) (number : Nat) : List JoinLine → List JoinLine × List JoinLine
  | [] => ([], [])
  | first :: rest =>
    let isSame (line : JoinLine) : Bool :=
      j.compareKeys (keyOf number line.fields) (keyOf number first.fields) == .eq
    (first :: rest.takeWhile isSame, rest.dropWhile isSame)

/-- Joins the lines of two texts; `always` tells that it matters from the start whether they are in
    order. -/
def run (j : Joining) (always : Bool) :
    Nat → Progress → List JoinLine → List JoinLine → Progress
  | 0, p, _, _ => p
  | fuel + 1, p, as, bs =>
    let withFirst (p : Progress) (as : List JoinLine) : Progress :=
      if j.alone.contains 1 then
        { p with lines := (as.map fun a => j.joined (some a.fields) none).reverse ++ p.lines }
      else p
    let withSecond (p : Progress) (bs : List JoinLine) : Progress :=
      if j.alone.contains 2 then
        { p with lines := (bs.map fun b => j.joined none (some b.fields)).reverse ++ p.lines }
      else p
    let lone (p : Progress) (isLone : Bool) : Progress :=
      if isLone then { p with hasLone := true } else p
    match as, bs with
    | [], [] => p
    | [], bs => withSecond (j.checked always false p bs) bs
    | as, [] => withFirst (j.checked always true p as) as
    | a :: moreA, b :: moreB =>
      match j.compareKeys (keyOf j.keys.1 a.fields) (keyOf j.keys.2 b.fields) with
      | .lt =>
        let p := j.checked always true (withFirst p [a]) ((a :: moreA).take 2)
        j.run always fuel (lone p true) moreA (b :: moreB)
      | .gt =>
        let p := j.checked always false (withSecond p [b]) ((b :: moreB).take 2)
        j.run always fuel (lone p true) (a :: moreA) moreB
      | .eq =>
        let (sameA, restA) := j.sameKey j.keys.1 (a :: moreA)
        let (sameB, restB) := j.sameKey j.keys.2 (b :: moreB)
        let p := j.checked always true p ((a :: moreA).take (sameA.length + 1))
        let p := j.checked always false p ((b :: moreB).take (sameB.length + 1))
        let pairs := if j.showsPairs then
            sameA.flatMap fun a => sameB.map fun b => j.joined (some a.fields) (some b.fields)
          else []
        j.run always fuel { p with lines := pairs.reverse ++ p.lines } restA restB

end Joining

/-- A number of a field, or what is wrong with it. -/
def fieldNumber (text : String) : Except String Nat :=
  match (count? text).filter (0 < ·) with
  | some n => .ok n
  | none => .error ("invalid field number: " ++ Quoting.name text)

/-- The place that a text names, or what is wrong with it. -/
def joinPlace (text : String) : Except String JoinPlace :=
  match text.toList with
  | ['0'] => .ok .key
  | '0' :: _ => .error ("invalid field specifier: " ++ Quoting.name text)
  | c :: '.' :: rest =>
    if c == '1' || c == '2' then
      (fieldNumber (String.ofList rest)).map (.field (c.toNat - '0'.toNat))
    else .error ("invalid file number in field spec: " ++ Quoting.name text)
  | c :: _ =>
    if c == '1' || c == '2' then .error ("invalid field specifier: " ++ Quoting.name text)
    else .error ("invalid file number in field spec: " ++ Quoting.name text)
  | [] => .error ("invalid file number in field spec: " ++ Quoting.name text)

/-- How options ask for lines to be joined, or what is wrong with them. -/
def joiningOf (choice : Flags.Choice) : Except String Joining := do
  let both ← (choice.value? 'j').mapM fieldNumber
  let first ← (choice.value? '1').mapM fieldNumber
  let second ← (choice.value? '2').mapM fieldNumber
  let number (text : String) : Except String Nat :=
    if text == "1" then .ok 1 else if text == "2" then .ok 2
    else .error ("invalid file number: " ++ Quoting.name text)
  let shown ← (choice.options.filter fun option => option.1 == 'a' || option.1 == 'v').mapM
    fun option => number option.2
  let divider ← match (choice.value? 't').map String.toList with
    | none => pure none
    | some [c] => pure (some c)
    | some [] => pure (some '\n')
    | some ['\\', '0'] => pure (some '\x00')
    | some text => throw ("multi-character tab " ++ Quoting.name (String.ofList text))
  let places ← (choice.value? 'o').mapM fun text =>
    ((splitBy (fun c => c == ',' || c == ' ') text.toList).filter (!·.isEmpty)).mapM
      fun part => joinPlace (String.ofList part)
  return {
    divider
    folds := choice.has 'i'
    keys := ((first.orElse fun _ => both).getD 1, (second.orElse fun _ => both).getD 1)
    alone := shown
    showsPairs := !choice.has 'v'
    missing := (choice.value? 'e').getD ""
    places }

/-- Joins the lines of two texts that have the same key. -/
def join (arguments : List String) : Effect Unit :=
  withFlags 1 joinFlags arguments fun choice => do
    match joiningOf choice, choice.operands with
    | .error complaint, _ =>
      blame complaint
      setStatus 1
    | .ok _, [] => blameCall "missing operand"
    | .ok _, [one] => blameCall ("missing operand after " ++ Quoting.name one)
    | .ok _, _ :: _ :: extra :: _ => blameCall ("extra operand " ++ Quoting.name extra)
    | .ok j, [one, other] =>
      let ending := if choice.has 'z' then '\x00' else '\n'
      let linesA ← demandLines ending one
      let linesB ← demandLines ending other
      let header := if choice.has 'H' then 1 else 0
      let titles := if choice.has 'H' && !(linesA.isEmpty && linesB.isEmpty) then
          [j.joined (linesA.head?.map j.fields) (linesB.head?.map j.fields)]
        else []
      let as := j.linesOf (header + 1) (linesA.drop header)
      let bs := j.linesOf (header + 1) (linesB.drop header)
      let p := j.run (choice.has 'C') (as.length + bs.length + 1) ⟨[], false, none, none⟩ as bs
      let flaws := if choice.has 'N' then [] else [(one, p.flaws.1), (other, p.flaws.2)]
      flaws.forM fun (name, flaw) =>
        flaw.forM fun (n, line) =>
          blame (name ++ ":" ++ toString n ++ ": is not sorted: " ++ line)
      say (String.join ((titles ++ p.lines.reverse).map (·.push ending)))
      if flaws.any fun entry => entry.2.isSome then
        blame "input is not in sorted order"
        setStatus 1
      else Builtin.answer true

/-! ## Names that follow each other -/

/-- Names that come before others. -/
structure Precedence where
  /-- The names, in the order in which they have come up. -/
  names : List String
  /-- What comes before what. -/
  pairs : List (String × String)

/-- Takes names from a queue one after the other. A name joins the queue once all that come before it
    have been taken; of those that do so at once the pair named last comes first. -/
def Precedence.takeAll : Nat → List String → Precedence → List String → List String × Precedence
  | 0, _, p, taken => (taken, p)
  | _, [], p, taken => (taken, p)
  | fuel + 1, name :: queue, p, taken =>
    let followers := ((p.pairs.filter fun pair => pair.1 == name).map (·.2)).reverse
    let pairs := p.pairs.filter fun pair => pair.1 != name
    let freed := followers.filter fun next => pairs.all fun pair => pair.2 != next
    takeAll fuel (queue ++ freed) ⟨p.names.filter (· != name), pairs⟩ (taken ++ [name])

/-- A loop among names that all come behind others: each comes behind the next. -/
def Precedence.loop (p : Precedence) : List String :=
  let start := (p.names.mergeSort fun a b => (compare a b).isLE).headD ""
  let rec back : Nat → String → List String → List String
    | 0, _, passed => passed
    | fuel + 1, name, passed =>
      if passed.contains name then
        name :: (passed.takeWhile (· != name))
      else
        match p.pairs.find? fun pair => pair.2 == name with
        | some (before, _) => back fuel before (name :: passed)
        | none => passed
  back (p.names.length + 1) start []

/-- The names in order, and the loops that had to be broken. -/
def Precedence.order : Nat → Precedence → List String × List (List String)
  | 0, p => (p.names, [])
  | fuel + 1, p =>
    let free := p.names.filter fun name => p.pairs.all fun pair => pair.2 != name
    let first := free.mergeSort fun a b => (compare a b).isLE
    let (taken, rest) := p.takeAll (p.names.length + 1) first []
    if rest.names.isEmpty then (taken, [])
    else
      let loop := rest.loop
      let dropped := (loop.headD "", (loop.drop 1).headD (loop.headD ""))
      let (others, loops) := order fuel { rest with pairs := rest.pairs.filter (· != dropped) }
      (taken ++ others, loop :: loops)

/-- Puts names in order. -/
def tsort (arguments : List String) : Effect Unit :=
  withFlags 1 ⟨[], [], []⟩ arguments fun choice => do
    match choice.operands with
    | _ :: extra :: _ => blameCall ("extra operand " ++ Quoting.name extra)
    | operands =>
      let name := operands.headD "-"
      match ← wholeText name with
      | .error fault =>
        blameName name fault
        setStatus 1
      | .ok text =>
        let isBlank (c : Char) : Bool := c == ' ' || c == '\t' || c == '\n'
        let words := ((splitBy isBlank text.toList).filter (!·.isEmpty)).map String.ofList
        if words.length % 2 == 1 then
          blame (name ++ ": input contains an odd number of tokens")
          throw (.exit 1)
        let pairs := (chunksOf 2 words.length words).filterMap fun
          | [a, b] => some (a, b)
          | _ => none
        let p : Precedence := ⟨words.eraseDups, (pairs.filter fun pair => pair.1 != pair.2).eraseDups⟩
        let (order, loops) := p.order (words.length + pairs.length + 1)
        loops.forM fun names => do
          blame (name ++ ": input contains a loop:")
          names.forM blame
        sayLines order
        Builtin.answer loops.isEmpty

/-! ## Lines in any order -/

/-- The options of `shuf`. -/
def shufFlags : Flags :=
  ⟨"erz".toList, "inoR".toList,
    [("echo", 'e'), ("input-range", 'i'), ("head-count", 'n'), ("output", 'o'), ("repeat", 'r'),
      ("random-source", 'R'), ("zero-terminated", 'z')]⟩

/-- Items in an order that looks like none. -/
def shuffled (seed : Nat) (items : List String) : List String :=
  let keyed := items.zipIdx.map fun (item, i) =>
    (((seed + i + 1) * 2654435761 + i * i * 40503) % 4294967291, item)
  (keyed.mergeSort fun a b => a.1 ≤ b.1).map (·.2)

/-- Shows lines in an order that looks like none. -/
def shuf (arguments : List String) : Effect Unit :=
  withFlags 1 shufFlags arguments fun choice => do
    let ending := if choice.has 'z' then '\x00' else '\n'
    let items ←
      if choice.has 'e' then pure choice.operands
      else
        match choice.value? 'i' with
        | some text =>
          match (splitBy (· == '-') text.toList).map fun part => count? (String.ofList part) with
          | [some low, some high] =>
            pure ((List.range' low (high + 1 - low)).map fun n => toString n)
          | _ =>
            blame ("invalid input range: " ++ Quoting.name text)
            throw (.exit 1)
        | none => demandLines ending (choice.operands.headD "-")
    let s ← state
    let order := shuffled (s.process + s.time) items
    let shown := match (choice.value? 'n').bind count? with
      | some n => order.take n
      | none => order
    writeOut (choice.value? 'o') (String.join (shown.map (·.push ending)))

end Utility
end Shell
end SuiteCoverage
