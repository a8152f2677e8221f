import SuiteCoverage.Number.Quantity
import SuiteCoverage.Shell.Utility.Basic
import SuiteCoverage.Text.Column

/-!
# Showing bytes

Bytes are shown in lines of the same number of bytes, each with its place in front, once for every
form that is asked for. A line that is the same as the one before it is not shown again; a star
stands for all such lines in a row.
-/

set_option autoImplicit false

namespace SuiteCoverage
namespace Shell
namespace Utility

open Effect

/-- A form in which bytes are shown. -/
structure DumpForm where
  /-- The number of bytes that are shown as one. -/
  size : Nat
  /-- The number of columns, without the blank in front. -/
  width : Nat
  text : List UInt8 → String
  /-- Whether the bytes are shown as characters as well. -/
  hasTrailer : Bool

namespace DumpForm

/-- The number with some bytes, the lowest first. -/
def number (bytes : List UInt8) : Nat :=
  bytes.reverse.foldl (fun n byte => n * 256 + byte.toNat) 0

/-- The signed number with some bytes, the lowest first. -/
def signed (bytes : List UInt8) : Int :=
  let n := number bytes
  let half := 1 <<< (8 * bytes.length - 1)
  if half ≤ n then (n : Int) - (half + half : Nat) else n

/-- The digits of a number to a base, with zeros in front. -/
def digits (base width n : Nat) : String :=
  let text := Nat.toDigits base n
  String.ofList (List.replicate (width - text.length) '0' ++ text)

/-- The signs that stand for characters that cannot be seen. -/
def escapeSigns : List (Nat × String) :=
  [(0, "\\0"), (7, "\\a"), (8, "\\b"), (9, "\\t"), (10, "\\n"), (11, "\\v"), (12, "\\f"),
    (13, "\\r")]

/-- The names of characters. -/
def characterNames : List String :=
  ["nul", "soh", "stx", "etx", "eot", "enq", "ack", "bel", "bs", "ht", "nl", "vt", "ff", "cr",
    "so", "si", "dle", "dc1", "dc2", "dc3", "dc4", "nak", "syn", "etb", "can", "em", "sub", "esc",
    "fs", "gs", "rs", "us", "sp"]

/-- A byte as a character. -/
def asCharacter (bytes : List UInt8) : String :=
  let n := (bytes.headD 0).toNat
  match escapeSigns.find? fun entry => entry.1 == n with
  | some (_, sign) => sign
  | none =>
    if 32 ≤ n && n < 127 then String.singleton (Char.ofNat n) else digits 8 3 n

/-- A byte by its name. -/
def asName (bytes : List UInt8) : String :=
  let n := (bytes.headD 0).toNat % 128
  if n == 127 then "del" else characterNames[n]?.getD (String.singleton (Char.ofNat n))

/-- Characters. -/
def characters : DumpForm := ⟨1, 3, asCharacter, false⟩

/-- Names of characters. -/
def names : DumpForm := ⟨1, 3, asName, false⟩

/-- The number of digits to a base for so many bytes. -/
def digitCount (base size : Nat) : Nat := (Nat.toDigits base ((1 <<< (8 * size)) - 1)).length

/-- Numbers to the base 16. -/
def hexadecimal (size : Nat) : DumpForm :=
  ⟨size, 2 * size, fun bytes => digits 16 (2 * size) (number bytes), false⟩

/-- Numbers to the base 8. -/
def octal (size : Nat) : DumpForm :=
  ⟨size, digitCount 8 size, fun bytes => digits 8 (digitCount 8 size) (number bytes), false⟩

/-- Numbers without a sign. -/
def unsigned (size : Nat) : DumpForm :=
  ⟨size, digitCount 10 size, fun bytes => toString (number bytes), false⟩

/-- Numbers with a sign. -/
def withSign (size : Nat) : DumpForm :=
  ⟨size, (toString ((1 <<< (8 * size - 1)) : Nat)).length + 1, fun bytes => toString (signed bytes),
    false⟩

/-- The forms that letters ask for; what cannot be read is given back. -/
def ofTextUpTo : Nat → List Char → Except String (List DumpForm)
  | 0, _ => .ok []
  | _, [] => .ok []
  | fuel + 1, c :: rest => do
    let digits := rest.takeWhile Char.isDigit
    let isNumber := "doux".toList.contains c
    let after := if isNumber then rest.drop digits.length else rest
    let (named, after) := if !isNumber || !digits.isEmpty then (none, after) else
      match after with
      | 'C' :: more => (some 1, more)
      | 'S' :: more => (some 2, more)
      | 'I' :: more => (some 4, more)
      | 'L' :: more => (some 8, more)
      | more => (none, more)
    let size := named.getD (if digits.isEmpty then 4 else ((String.ofList digits).toNat?).getD 0)
    if isNumber && !([1, 2, 4, 8].contains size) then
      throw ("invalid type string " ++ Quoting.name (String.ofList (c :: rest))
        ++ ";\nthis system doesn't provide a " ++ toString size ++ "-byte integral type")
    let form ← match c with
      | 'a' => pure names
      | 'c' => pure characters
      | 'x' => pure (hexadecimal size)
      | 'o' => pure (octal size)
      | 'u' => pure (unsigned size)
      | 'd' => pure (withSign size)
      | c => throw ("invalid character '" ++ String.singleton c ++ "' in type string "
          ++ Quoting.name (String.ofList (c :: rest)))
    let hasTrailer := after.head? == some 'z'
    let more ← ofTextUpTo fuel (if hasTrailer then after.drop 1 else after)
    return { form with hasTrailer } :: more

end DumpForm

/-- The options of `od`. -/
def odFlags : Flags :=
  ⟨"abBcdDeFfhHiIlLoOsvxXw".toList, "AjNStw".toList,
    [("address-radix", 'A'), ("skip-bytes", 'j'), ("read-bytes", 'N'), ("strings", 'S'),
      ("format", 't'), ("output-duplicates", 'v'), ("width", 'w')]⟩

/-- The form that a letter among the options stands for. -/
def dumpLetter? (c : Char) : Option DumpForm :=
  match c with
  | 'a' => some .names
  | 'b' => some (.octal 1)
  | 'B' => some (.octal 2)
  | 'c' => some .characters
  | 'd' => some (.unsigned 2)
  | 'D' => some (.unsigned 4)
  | 'h' => some (.hexadecimal 2)
  | 'H' => some (.hexadecimal 4)
  | 'i' => some (.withSign 4)
  | 'I' => some (.withSign 8)
  | 'l' => some (.withSign 8)
  | 'L' => some (.withSign 8)
  | 'o' => some (.octal 2)
  | 'O' => some (.octal 4)
  | 's' => some (.withSign 2)
  | 'x' => some (.hexadecimal 2)
  | 'X' => some (.hexadecimal 4)
  | _ => none

/-- How bytes are shown. -/
structure Dump where
  forms : List DumpForm
  /-- The base of places; none if they are not shown. -/
  radix : Option Nat
  showsRepeats : Bool
  /-- The number of bytes in a line. -/
  width : Nat

namespace Dump

/-- A place in front of a line. -/
def place (dump : Dump) (n : Nat) : String :=
  match dump.radix with
  | none => ""
  | some base => DumpForm.digits base (if base == 16 then 6 else 7) n

/-- A line for some bytes in one form. The blanks that it needs to be as wide as the other forms are
    spread over its columns. -/
def formLine (dump : Dump) (form : DumpForm) (bytes : List UInt8) : String :=
  let widest := (dump.forms.map fun form => (form.width + 1) * (dump.width / form.size)).foldl max 0
  let count := dump.width / form.size
  let pad := widest - (form.width + 1) * count
  let groups := (List.range count).map fun i => (bytes.drop (i * form.size)).take form.size
  let shown := (groups.zipIdx.filter fun entry => !entry.1.isEmpty).map fun (group, i) =>
    let before := pad * (count - i) / count
    let after := pad * (count - i - 1) / count
    let full := group ++ List.replicate (form.size - group.length) 0
    " " ++ Text.padLeft (before - after + form.width) (form.text full)
  let line := String.join shown
  if form.hasTrailer then
    let missing := widest - line.length
    let chars := bytes.map fun byte =>
      if 32 ≤ byte.toNat && byte.toNat < 127 then Char.ofNat byte.toNat else '.'
    line ++ String.ofList (List.replicate missing ' ') ++ "  >" ++ String.ofList chars ++ "<"
  else line

/-- The lines for some bytes. -/
def lines (dump : Dump) (start : Nat) (bytes : List UInt8) : List String :=
  let lead := dump.place start
  let blank := String.ofList (List.replicate lead.length ' ')
  dump.forms.zipIdx.map fun (form, i) => (if i == 0 then lead else blank) ++ dump.formLine form bytes

/-- The lines for blocks of bytes. -/
def blocks (dump : Dump) :
    Nat → Option (List UInt8) → Bool → List (List UInt8) → List String
  | _, _, _, [] => []
  | start, before, isStarred, block :: rest =>
    let next := start + block.length
    if before == some block && !dump.showsRepeats && block.length == dump.width then
      (if isStarred then [] else ["*"]) ++ dump.blocks next before true rest
    else dump.lines start block ++ dump.blocks next (some block) false rest

end Dump

/-- Reads what arguments name, one after the other, and tells whether all could be read. -/
def gathered (arguments : List String) (limit : Option Nat) : Effect (ByteArray × Bool) := do
  let step (found : ByteArray × Bool) (argument : String) : Effect (ByteArray × Bool) := do
    let missing := limit.map (· - found.1.size)
    if missing == some 0 then return found
    let read (channel : Channel) : Effect (Except Fault ByteArray) :=
      match missing with
      | none => do return (← readAll (some channel)).map toBytes
      | some count => readUpTo channel count readLimit .empty
    match (← withNamed argument read).bind id with
    | .ok bytes => return (found.1 ++ bytes, found.2)
    | .error fault =>
      blameName argument fault
      return (found.1, false)
  arguments.foldlM step (.empty, true)
where
  /-- Reads so many bytes. -/
  readUpTo (channel : Channel) (count : Nat) : Nat → ByteArray → Effect (Except Fault ByteArray)
    | 0, found => return .ok found
    | fuel + 1, found => do
      if count ≤ found.size then return .ok found
      match ← readSome (some channel) (count - found.size) with
      | .error fault => return .error fault
      | .ok bytes =>
        if bytes.isEmpty then return .ok found
        tick 1
        readUpTo channel count fuel (found ++ bytes)

/-- The number of bytes that a text is, in any base. -/
def byteCount? (text : String) : Option Nat :=
  match text.toList with
  | '0' :: 'x' :: rest => Arithmetic.digits? 16 rest
  | '0' :: c :: rest =>
    if c.isDigit then Arithmetic.digits? 8 (c :: rest) else size? text
  | _ => size? text

/-- Shows bytes. -/
def od (arguments : List String) : Effect Unit :=
  withFlags 1 odFlags arguments fun choice => do
    let refuse {α : Type} (complaint : String) : Effect α := do
      blame complaint
      throw (.exit 1)
    let radix ← match choice.value? 'A' with
      | none => pure (some 8)
      | some "d" => pure (some 10)
      | some "o" => pure (some 8)
      | some "x" => pure (some 16)
      | some "n" => pure none
      | some text => refuse ("invalid output address radix '" ++ String.ofList (text.toList.take 1)
          ++ "'; it must be one character from [doxn]")
    let forms ← choice.options.mapM fun (letter, text) =>
      if letter == 't' then
        match DumpForm.ofTextUpTo (text.length + 1) text.toList with
        | .ok forms => pure forms
        | .error complaint => refuse complaint
      else pure (dumpLetter? letter).toList
    let forms := forms.flatten
    let forms := if forms.isEmpty then [DumpForm.octal 2] else forms
    let number (letter : Char) : Effect (Option Nat) :=
      match choice.value? letter with
      | none => pure none
      | some text =>
        match byteCount? text with
        | some n => pure (some n)
        | none => refuse ("invalid -" ++ String.singleton letter ++ " argument "
            ++ Quoting.name text)
    let skipped := (← number 'j').getD 0
    let limit ← number 'N'
    let unit := (forms.map (·.size)).foldl Nat.lcm 1
    let width := match choice.value? 'w' with
      | none => if 16 % unit == 0 then 16 else unit
      | some text => if text.isEmpty then 32 else (count? text).getD 16
    let (content, isRead) ← gathered (orInput choice.operands) (limit.map (· + skipped))
    if !isRead && content.isEmpty then throw (.exit 1)
    if content.size < skipped then refuse "cannot skip past end of combined input"
    let bytes := content.toList.drop skipped
    let dump : Dump := ⟨forms, radix, choice.has 'v', if width % unit == 0 then width else unit⟩
    let groups := chunks dump.width (bytes.length + 1) bytes
    let lines := dump.blocks skipped none false groups
    let last := if radix.isSome then [dump.place (skipped + bytes.length)] else []
    say (String.join ((lines ++ last).map (· ++ "\n")))
    Builtin.answer isRead
where
  /-- Bytes in groups. -/
  chunks (size : Nat) : Nat → List UInt8 → List (List UInt8)
    | 0, _ => []
    | _, [] => []
    | fuel + 1, bytes => bytes.take size :: chunks size fuel (bytes.drop size)

end Utility
end Shell
end SuiteCoverage
