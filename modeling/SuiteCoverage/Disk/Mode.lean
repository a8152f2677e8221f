/-!
# Modes of files

The mode of a file tells who may read it, write it and execute it: three bits for its owner, three
for its group and three for all others, written as a digit each; a digit in front of these has
three more bits, which only matter to programs with privileges. Nobody has privileges: what may be
done is what the owner may do, or, with what belongs to the system, what all others may do.

A mode is changed by giving a number, or by clauses such as `u+x`, which say for whom what is
added, taken away or set. A clause that does not say for whom is for all, but leaves alone what
new files are not given.
-/

set_option autoImplicit false

namespace SuiteCoverage

/-- The bits of a mode. -/
structure Mode where
  bits : Nat
deriving DecidableEq, Repr

namespace Mode

/-- The mode of a file that is made for text. -/
def plain : Mode := ⟨0o644⟩

/-- The mode of a file that is made to be executed. -/
def program : Mode := ⟨0o755⟩

/-- The bits that a mode can have. -/
def all : Nat := 0o7777

/-- The bits of a number that another does not have. -/
def without (bits others : Nat) : Nat := bits - (bits &&& others)

/-- Whether anybody may execute the file. -/
def isExecutableBySome (mode : Mode) : Bool := mode.bits &&& 0o111 != 0

/-- The mode of a new file for which `mode` is asked where some bits are held back. -/
def held (mode : Mode) (mask : Nat) : Mode := ⟨without mode.bits mask⟩

/-! ## Numbers -/

/-- The digits of a number to the base eight, four of them at least. -/
def octal (n : Nat) : String :=
  let digits := Nat.toDigits 8 n
  String.ofList (List.replicate (4 - digits.length) '0' ++ digits)

/-- The number that octal digits stand for. -/
def ofOctal? (digits : List Char) : Option Nat :=
  if digits.isEmpty then none
  else
    digits.foldl
      (fun n c => n.bind fun n =>
        if '0' ≤ c ∧ c ≤ '7' then some (n * 8 + (c.toNat - '0'.toNat)) else none)
      (some 0)

/-! ## Clauses -/

/-- What a clause does with bits. -/
inductive Operator where
  | add
  | remove
  | set
deriving DecidableEq, Repr

/-- The operator with a sign. -/
def Operator.ofChar? : Char → Option Operator
  | '+' => some add
  | '-' => some remove
  | '=' => some set
  | _ => none

/-- The bits that a clause is about. -/
inductive Asked where
  /-- These, and those for executing if the file is a directory or anybody may execute it. -/
  | bits (bits : Nat) (executable : Bool)
  /-- What some have already. -/
  | those (group : Nat)
deriving DecidableEq, Repr

/-- A part of a clause: for whom what is done with which bits. Nobody is named if `people` is
    zero. -/
structure Clause where
  people : Nat
  operator : Operator
  asked : Asked
deriving DecidableEq, Repr

/-- The bits of those whom a letter names. -/
def peopleOf? : Char → Option Nat
  | 'u' => some 0o4700
  | 'g' => some 0o2070
  | 'o' => some 0o1007
  | 'a' => some all
  | _ => none

/-- The bits of all whom a letter of the right side names. -/
def groupOf? : Char → Option Nat
  | 'u' => some 0o700
  | 'g' => some 0o070
  | 'o' => some 0o007
  | _ => none

/-- The bits for which a letter asks. -/
def bitsOf? : Char → Option Asked
  | 'r' => some (.bits 0o444 false)
  | 'w' => some (.bits 0o222 false)
  | 'x' => some (.bits 0o111 false)
  | 'X' => some (.bits 0 true)
  | 's' => some (.bits 0o6000 false)
  | 't' => some (.bits 0o1000 false)
  | _ => none

/-- Bits asked for together. -/
def Asked.both : Asked → Asked → Asked
  | bits a x, bits b y => bits (a ||| b) (x || y)
  | asked, _ => asked

/-- Those whom letters at the front of a clause name, and what follows the letters. -/
def readPeople : List Char → Nat × List Char
  | [] => (0, [])
  | c :: rest =>
    match peopleOf? c with
    | some bits => (bits ||| (readPeople rest).1, (readPeople rest).2)
    | none => (0, c :: rest)

/-- The bits that letters ask for, and what follows the letters. -/
def readBits : List Char → Asked × List Char
  | [] => (.bits 0 false, [])
  | c :: rest =>
    match bitsOf? c with
    | some asked => (asked.both (readBits rest).1, (readBits rest).2)
    | none => (.bits 0 false, c :: rest)

/-- What the right side of a clause asks for, and what follows it. -/
def readAsked : List Char → Asked × List Char
  | [] => (.bits 0 false, [])
  | c :: rest =>
    match groupOf? c with
    | some group => (.those group, rest)
    | none => readBits (c :: rest)

/-- The clauses that start with an operator, all for the same people, and those after a comma. -/
def readClauses : Nat → Nat → List Char → Option (List Clause)
  | 0, _, _ => none
  | _, _, [] => none
  | fuel + 1, people, c :: rest =>
    match Operator.ofChar? c with
    | none => none
    | some operator =>
      let (asked, after) := readAsked rest
      let clause : Clause := ⟨people, operator, asked⟩
      match after with
      | [] => some [clause]
      | ',' :: more =>
        let (others, after) := readPeople more
        (readClauses fuel others after).map (clause :: ·)
      | _ => (readClauses fuel people after).map (clause :: ·)

/-- The clauses of a text. -/
def clauses? (text : List Char) : Option (List Clause) :=
  let (people, after) := readPeople text
  readClauses (text.length + 1) people after

/-- The bits for which a clause asks, given a mode and whether it is that of a directory. -/
def Asked.of (mode : Mode) (isDirectory : Bool) : Asked → Nat
  | .bits wanted executable =>
    if executable && (isDirectory || mode.isExecutableBySome) then wanted ||| 0o111 else wanted
  | .those group =>
    let own := mode.bits &&& group
    let kind (bits : Nat) : Nat := if own &&& bits != 0 then bits else 0
    kind 0o444 ||| kind 0o222 ||| kind 0o111

/-- A mode after a clause; new files are not given the bits of `mask`. -/
def Clause.apply (mask : Nat) (isDirectory : Bool) (mode : Mode) (clause : Clause) : Mode :=
  let asked := clause.asked.of mode isDirectory
  let bits :=
    if clause.people = 0 then without asked mask else asked &&& clause.people
  match clause.operator with
  | .add => ⟨mode.bits ||| bits⟩
  | .remove => ⟨without mode.bits bits⟩
  | .set =>
    if clause.people = 0 then ⟨bits⟩ else ⟨without mode.bits clause.people ||| bits⟩

/-- How a mode is to be adjusted. -/
inductive Adjustment where
  /-- By giving another. -/
  | number (bits : Nat)
  | clauses (clauses : List Clause)
deriving DecidableEq, Repr

/-- The adjustment that a text describes. -/
def Adjustment.ofText? (text : String) : Option Adjustment :=
  match ofOctal? text.toList with
  | some bits => if bits ≤ all then some (.number bits) else none
  | none => (clauses? text.toList).map .clauses

/-- A mode after an adjustment; new files are not given the bits of `mask`. -/
def Adjustment.apply (mask : Nat) (isDirectory : Bool) (mode : Mode) : Adjustment → Mode
  | .number given => ⟨given⟩
  | .clauses parts => parts.foldl (Clause.apply mask isDirectory) mode

/-! ## Letters -/

/-- What the three bits of a group allow, in letters. -/
def letters (bits : Nat) : String :=
  let letter (bit : Nat) (c : Char) : Char := if bits &&& bit != 0 then c else '-'
  String.ofList [letter 4 'r', letter 2 'w', letter 1 'x']

/-- The letters of a group whose last one also tells whether a bit in front of the others is
    set. -/
def lettersWith (bits : Nat) (isSet : Bool) (withIt without : Char) : String :=
  let usual := letters bits
  if !isSet then usual
  else
    String.ofList (usual.toList.dropLast ++ [if bits &&& 1 != 0 then withIt else without])

/-- What a mode allows its owner, its group and all others, in letters. -/
def shown (mode : Mode) : String :=
  lettersWith (mode.bits >>> 6) (mode.bits &&& 0o4000 != 0) 's' 'S'
    ++ lettersWith (mode.bits >>> 3) (mode.bits &&& 0o2000 != 0) 's' 'S'
    ++ lettersWith mode.bits (mode.bits &&& 0o1000 != 0) 't' 'T'

end Mode
end SuiteCoverage

/-!
## Masks

The bits of modes that new files are not given make up a mask. It is written as a number, or by
clauses that say what new files are given: for whom, and what is added, taken away or set.
-/

namespace SuiteCoverage
namespace Shell
namespace Mask

/-- The bits of a mask that count. -/
def all : Nat := 0o777

/-- The lowest bit of those whom a letter names. -/
def placeOf : Char → Nat
  | 'u' => 0o100
  | 'g' => 0o010
  | 'o' => 0o001
  | _ => 0o111

/-- The bits for which a letter asks, if `granted` are those that new files are given. -/
def bitsOf (granted : Nat) : Char → Nat
  | 'r' => 4
  | 'w' => 2
  | 'x' => 1
  | 'u' => granted >>> 6
  | 'g' => granted >>> 3
  | 'o' => granted
  | 'X' => if granted &&& 0o111 != 0 then 1 else 0
  | _ => 0

/-- The union of the bits of some letters. -/
def union (bits : Char → Nat) (letters : List Char) : Nat :=
  letters.foldl (fun sum c => sum ||| bits c) 0

/-- The bits that are given after clauses of which each changes what the ones before it have made
    of `now`. A clause without people is for those of the one before it unless a comma stands
    between them. -/
def afterClauses (granted : Nat) : Nat → Nat → Nat → List Char → Option Nat
  | 0, _, _, _ => none
  | _, _, now, [] => some now
  | fuel + 1, people, now, text =>
    let letters := text.takeWhile "augo".toList.contains
    let named := people ||| union placeOf letters
    let people := if named = 0 then 0o111 else named
    match text.drop letters.length with
    | [] => some now
    | operator :: rest =>
      let asked := rest.takeWhile "rwxugoXs".toList.contains
      let bits := (union (bitsOf granted) asked &&& 7) * people
      let next (now : Nat) : Option Nat :=
        match rest.drop asked.length with
        | ',' :: more => afterClauses granted fuel 0 now more
        | more => afterClauses granted fuel people now more
      match operator with
      | '+' => next (now ||| bits)
      | '-' => next (Mode.without now bits)
      | '=' => next (Mode.without now (7 * people) ||| bits)
      | _ => none

/-- What is wrong with the text of a mask. -/
inductive Flaw where
  | noNumber
  | noClauses
deriving DecidableEq, Repr

/-- The mask that a text makes of another. -/
def ofText (mask : Nat) (text : String) : Except Flaw Nat :=
  if text.toList.head?.any Char.isDigit then
    match Mode.ofOctal? text.toList with
    | some number => .ok (number &&& all)
    | none => .error .noNumber
  else
    let granted := Mode.without all mask
    match afterClauses granted (text.length + 1) 0 granted text.toList with
    | some now => .ok (Mode.without all now)
    | none => .error .noClauses

/-- What new files are given, by clauses. -/
def clauses (mask : Nat) : String :=
  let granted := Mode.without all mask
  let given (name : String) (bits : Nat) : String :=
    name ++ "=" ++ String.ofList ((Mode.letters bits).toList.filter (· != '-'))
  ",".intercalate [given "u" (granted >>> 6), given "g" (granted >>> 3), given "o" granted]

end Mask
end Shell
end SuiteCoverage
