import SuiteCoverage.Regex.Reading
import SuiteCoverage.Shell.Utility.Basic

/-!
# Replacing characters

Two lists of characters tell what is put in place of what, what is left out, and which characters
are written once where they come several times in a row. A list can hold ranges, kinds of
characters and repetitions.
-/

set_option autoImplicit false

namespace SuiteCoverage
namespace Shell
namespace Utility

open Effect

/-- A part of a list of characters. -/
inductive Listing where
  | chars (text : List Char)
  /-- A kind of characters by its name. -/
  | kind (name : String) (text : List Char)
  /-- All that count as the same as a character: it alone. -/
  | like (c : Char)
  /-- A character so often; without a number as often as there is room. -/
  | run (c : Char) (count : Option Nat)

namespace Listing

/-- A character at the front of a list, and what follows it. -/
def charAt : List Char → Option (Char × List Char)
  | [] => none
  | '\\' :: rest =>
    let octal := (rest.take 3).takeWhile fun c => '0' ≤ c && c ≤ '7'
    let value (digits : List Char) : Nat :=
      digits.foldl (fun n c => 8 * n + (c.toNat - '0'.toNat)) 0
    let octal := if 255 < value octal then octal.take 2 else octal
    if !octal.isEmpty then some (Char.ofNat (value octal), rest.drop octal.length)
    else
      match rest with
      | [] => some ('\\', [])
      | c :: more => some (Regex.Reader.controlOf c, more)
  | c :: rest => some (c, rest)

/-- The characters from one to another. -/
def range (first last : Char) : List Char :=
  (List.range' first.toNat (last.toNat + 1 - first.toNat)).map Char.ofNat

/-- The characters of a kind. -/
def ofKind? (name : String) : Option (List Char) :=
  (Regex.Reader.kinds.find? fun entry => entry.1 == name).map fun entry =>
    (List.range 256).map Char.ofNat |>.filter fun c =>
      entry.2.any fun range => range.1 ≤ c && c ≤ range.2

/-- A character as it is named in a message. -/
def shown (c : Char) : String :=
  if Quoting.isVisible c then String.singleton c else String.ofList (Quoting.escapeOf c)

/-- What stands in brackets at the front of a list, if it means something. -/
def bracketed (text : List Char) : Except String (Option (Listing × List Char)) :=
  match text with
  | '[' :: ':' :: rest =>
    match Regex.Reader.upToSign ':' rest with
    | some (name, after) =>
      match ofKind? (String.ofList name) with
      | some found => .ok (some (kind (String.ofList name) found, after))
      | none => .error ("invalid character class " ++ Quoting.name (String.ofList name))
    | none => .ok none
  | '[' :: '=' :: rest =>
    match Regex.Reader.upToSign '=' rest with
    | some ([c], after) => .ok (some (like c, after))
    | _ => .ok none
  | '[' :: rest =>
    match charAt rest with
    | some (c, '*' :: after) =>
      let digits := after.takeWhile Char.isDigit
      match after.drop digits.length with
      | ']' :: last =>
        let base := if digits.head? == some '0' then 8 else 10
        let number := Arithmetic.digits? base digits
        .ok (some (run c (if digits.isEmpty then none else number.filter (0 < ·)), last))
      | _ => .ok none
    | _ => .ok none
  | _ => .ok none

/-- The parts of a list. -/
def partsUpTo : Nat → List Char → Except String (List Listing)
  | 0, _ => .ok []
  | fuel + 1, text => do
    match ← bracketed text with
    | some (part, after) => return part :: (← partsUpTo fuel after)
    | none =>
      match charAt text with
      | none => return []
      | some (first, '-' :: rest) =>
        match charAt rest with
        | none => return chars [first] :: chars ['-'] :: []
        | some (last, after) =>
          if last < first then
            throw ("range-endpoints of '" ++ shown first ++ "-" ++ shown last
              ++ "' are in reverse collating sequence order")
          return chars (range first last) :: (← partsUpTo fuel after)
      | some (c, after) => return chars [c] :: (← partsUpTo fuel after)

/-- The parts of a list. -/
def ofText (text : String) : Except String (List Listing) :=
  partsUpTo (text.length + 1) text.toList

/-- The number of characters of a part, as far as it is fixed. -/
def size : Listing → Nat
  | chars text => text.length
  | kind _ text => text.length
  | like _ => 1
  | run _ count => count.getD 0

/-- The number of characters of a list, as far as it is fixed. -/
def sizeOf (parts : List Listing) : Nat := (parts.map size).foldl (· + ·) 0

/-- The characters of a list that is to have so many. -/
def expand (wanted : Nat) (parts : List Listing) : List Char :=
  parts.flatMap fun
    | chars text => text
    | kind _ text => text
    | like c => [c]
    | run c count => List.replicate (count.getD (wanted - sizeOf parts)) c

/-- Whether a part is a repetition without a number. -/
def isFiller : Listing → Bool
  | run _ none => true
  | _ => false

/-- Whether a part is one that letters are changed to another case with. -/
def isCase : Listing → Bool
  | kind name _ => name == "upper" || name == "lower"
  | _ => false

/-- Where the parts of a list begin that letters are changed to another case with. -/
def casePlaces (parts : List Listing) : List Nat :=
  (parts.foldl
    (fun (found, place) part =>
      (if part.isCase then found ++ [place] else found, place + part.size))
    (([] : List Nat), 0)).1

/-- What is wrong with a list of characters that are to be put in place of others, if anything
    is. -/
def secondFlaw? (isComplement truncates : Bool) (first second : List Listing) : Option String :=
  let isKind (part : Listing) : Bool := match part with
    | kind .. => true
    | _ => false
  let isLike (part : Listing) : Bool := match part with
    | like _ => true
    | _ => false
  let firstSize := if isComplement then 256 - sizeOf first else sizeOf first
  let cases := casePlaces first
  let isShort := !second.any isFiller && sizeOf second < firstSize && !truncates
  if second.any isLike then
    some "[=c=] expressions may not appear in string2 when translating"
  else if second.any fun part => isKind part && !part.isCase then
    some ("when translating, the only character classes that may appear in\n"
      ++ "string2 are 'upper' and 'lower'")
  else if !isComplement && (casePlaces second).any fun place => !cases.contains place then
    some "misaligned [:upper:] and/or [:lower:] construct"
  else if isShort && second.isEmpty then
    some "when not truncating set1, string2 must be non-empty"
  else if isShort && second.getLast?.any isKind then
    some ("when translating with string1 longer than string2,\n"
      ++ "the latter string must not end with a character class")
  else if isComplement && first.any isKind && !((expand firstSize second).eraseDups.length == 1) then
    some ("when translating with complemented character classes,\n"
      ++ "string2 must map all characters in the domain to one")
  else none

/-- What is wrong with two lists of characters, if anything is. -/
def flaw? (translates isComplement truncates : Bool) (first : List Listing)
    (second : Option (List Listing)) : Option String :=
  if first.any isFiller then some "the [c*] repeat construct may not appear in string1"
  else
    second.bind fun second =>
      if 1 < (second.filter isFiller).length then
        some "only one [c*] repeat construct may appear in string2"
      else if translates then secondFlaw? isComplement truncates first second
      else if second.any isFiller then
        some "the [c*] construct may appear in string2 only when translating"
      else none

end Listing

/-- What is done with characters, by their codes. -/
structure Replacement where
  deleted : Char → Bool
  replaced : Char → Char
  squeezed : Char → Bool

/-- A text after a replacement, and the last character written. -/
def Replacement.run (r : Replacement) (last : Option Char) (text : List Char) :
    List Char × Option Char :=
  let (found, last) := text.foldl
    (fun (found, last) c =>
      if r.deleted c then (found, last)
      else
        let d := r.replaced c
        if r.squeezed d && last == some d then (found, last) else (d :: found, some d))
    (([] : List Char), last)
  (found.reverse, last)

/-- The place of a character in a list of pairs, the last of which counts. -/
def pairing (first second : List Char) : Array Char :=
  let pairs := first.zip second
  pairs.foldl (fun table entry => table.setIfInBounds entry.1.toNat entry.2)
    ((List.range 256).map Char.ofNat).toArray

/-- What options and lists ask for. -/
def replacementOf (choice : Flags.Choice) (first : List Listing)
    (second : Option (List Listing)) : Except String Replacement := do
  let listed := Listing.expand 0 first
  let first := if choice.has 'c' || choice.has 'C' then
      ((List.range 256).map Char.ofNat).filter fun c => !listed.contains c
    else listed
  let isFirst := (pairing first (first.map fun _ => '\x01')).zipIdx.map fun (_, i) =>
    first.contains (Char.ofNat i)
  let among (c : Char) : Bool := isFirst[c.toNat]?.getD false
  let nothing (_ : Char) : Bool := false
  match second with
  | none =>
    if choice.has 'd' then return ⟨among, id, nothing⟩
    else return ⟨nothing, id, among⟩
  | some parts =>
    let raw := Listing.expand first.length parts
    if choice.has 'd' then return ⟨among, id, raw.contains⟩
    else
      let padded := match raw.getLast? with
        | some c =>
          if choice.has 't' then raw else raw ++ List.replicate (first.length - raw.length) c
        | none => raw
      let table := pairing first padded
      let replaced (c : Char) : Char := table[c.toNat]?.getD c
      return ⟨nothing, replaced, if choice.has 's' then padded.contains else nothing⟩

/-- Replaces characters of what can be read from the input. -/
def replaceAll (r : Replacement) : Nat → Option Char → Effect Bool
  | 0, _ => return true
  | fuel + 1, last => do
    match ← readSome ((← state).channelOf 0) Pipe.capacity with
    | .error fault =>
      blame ("read error: " ++ fault.reason)
      return false
    | .ok bytes =>
      if bytes.isEmpty then return true
      tick 10
      let (text, last) := r.run last (ofBytes bytes).toList
      say (String.ofList text)
      replaceAll r fuel last

/-- What is wrong with the number of lists, if anything is. -/
def listsFlaw? (choice : Flags.Choice) : Option String :=
  let both := choice.has 'd' && choice.has 's'
  match choice.operands with
  | [] => some "missing operand"
  | [first] =>
    if both then
      some ("missing operand after " ++ Quoting.name first
        ++ "\nTwo strings must be given when both deleting and squeezing repeats.")
    else if choice.has 'd' || choice.has 's' then none
    else
      some ("missing operand after " ++ Quoting.name first
        ++ "\nTwo strings must be given when translating.")
  | [_, second] =>
    if choice.has 'd' && !choice.has 's' then
      some ("extra operand " ++ Quoting.name second
        ++ "\nOnly one string may be given when deleting without squeezing repeats.")
    else none
  | _ :: _ :: third :: _ => some ("extra operand " ++ Quoting.name third)

/-- Replaces, leaves out and squeezes characters. -/
def tr (arguments : List String) : Effect Unit :=
  let flags : Flags := ⟨"cCdst".toList, [],
    [("complement", 'c'), ("delete", 'd'), ("squeeze-repeats", 's'), ("truncate-set1", 't')]⟩
  match flags.readFront arguments with
  | .error flaw => blameCall flaw.complaint
  | .ok choice =>
    match listsFlaw? choice with
    | some flaw => blameCall flaw
    | none => do
      let reading : Except String Replacement := do
        let first ← Listing.ofText (choice.operands.headD "")
        let second ← (choice.operands[1]?).mapM Listing.ofText
        (Listing.flaw? (!choice.has 'd' && second.isSome) (choice.has 'c' || choice.has 'C')
          (choice.has 't') first second).forM throw
        replacementOf choice first second
      match reading with
      | .error complaint =>
        blame complaint
        setStatus 1
      | .ok r => Builtin.answer (← replaceAll r readLimit none)

end Utility
end Shell
end SuiteCoverage
