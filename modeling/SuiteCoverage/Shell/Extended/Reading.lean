import SuiteCoverage.Shell.Extended.Expansion

/-!
# Reading lines into variables

What `read` and `mapfile` do: a line of the input, or a part of it, is divided into fields for
variables, and lines become the entries of a list. No more is read than is needed.
-/

set_option autoImplicit false

namespace SuiteCoverage
namespace Shell
namespace Extended
namespace Reading

open Effect

/-- How far is read. -/
structure Extent where
  /-- Whether a backslash means nothing. -/
  raw : Bool
  delimiter : UInt8
  /-- The most characters. -/
  limit : Option Nat
  /-- Whether the delimiter means nothing. -/
  isExact : Bool

/-- The place behind the last byte that is read, if all of it is there. -/
def Extent.end? (extent : Extent) (bytes : ByteArray) : Nat → Nat → Nat → Option Nat
  | 0, _, _ => none
  | fuel + 1, place, count =>
    if extent.limit.any fun limit => limit ≤ count then some place
    else
      match bytes[place]? with
      | none => none
      | some byte =>
        if byte == 0x5C && !extent.raw then
          match bytes[place + 1]? with
          | none => none
          | some next =>
            extent.end? bytes fuel (place + 2) (if next == 0x0A then count else count + 1)
        else if byte == extent.delimiter && !extent.isExact then some (place + 1)
        else extent.end? bytes fuel (place + 1) (count + 1)

/-- The cells of what has been read. -/
def cellsOf (raw : Bool) : List Char → List Cell
  | [] => []
  | '\x00' :: rest => cellsOf raw rest
  | ['\\'] => if raw then [.value '\\'] else []
  | '\\' :: c :: rest =>
    if raw then .value '\\' :: cellsOf raw (c :: rest)
    else if c = '\n' then cellsOf raw rest
    else .quoted c :: cellsOf raw rest
  | c :: rest => .value c :: cellsOf raw rest

/-- What comes of waiting for a text. -/
inductive Outcome where
  /-- It has been read, up to its end or to the end of the input. -/
  | read (bytes : ByteArray) (isWhole : Bool)
  /-- It has not come in time. -/
  | late (bytes : ByteArray)
  | fault (fault : Fault)

/-- Reads as far as `extent` tells, until a time at the latest. -/
def readUpTo (extent : Extent) (channel : Option Channel) (deadline : Option Nat) :
    Effect Outcome := do
  let endIn (bytes : ByteArray) : Option Nat := extent.end? bytes (bytes.size + 2) 0 0
  let isThere (s : State) : Bool := match available s channel with
    | .error _ => true
    | .ok (bytes, isOpen) => !isOpen || (endIn bytes).isSome || Pipe.capacity ≤ bytes.size
  let isEndless : Bool := match channel with
    | some (.device _) => true
    | _ => false
  if !isEndless then pause isThere deadline true
  match available (← state) channel with
  | .error fault => return .fault fault
  | .ok (bytes, isOpen) =>
    match endIn bytes with
    | some size =>
      passOver channel size
      return .read (bytes.extract 0 size) true
    | none =>
      passOver channel bytes.size
      if isOpen && !isEndless && deadline.isSome then return .late bytes
      return .read bytes false

/-- The bytes of what has been read without the delimiter at their end. -/
def withoutDelimiter (extent : Extent) (bytes : ByteArray) : ByteArray :=
  if extent.isExact then bytes
  else if 0 < bytes.size && bytes[bytes.size - 1]? == some extent.delimiter then
    let isLimited := extent.limit.any fun limit => (cellsOf extent.raw (ofBytes bytes).toList).length
      ≤ limit && bytes[bytes.size - 1]? != some extent.delimiter
    if isLimited then bytes else bytes.extract 0 (bytes.size - 1)
  else bytes

/-- The descriptor that an option tells, or the input. -/
def descriptorOf (options : List (Char × String)) : Effect Nat := do
  match (options.filter fun option => option.1 == 'u').getLast? with
  | none => return 0
  | some (_, text) =>
    match text.toNat? with
    | none => fail (text ++ ": invalid file descriptor specification")
    | some n =>
      if ((← state).channelOf n).isNone then
        fail (text ++ ": invalid file descriptor: Bad file descriptor")
      return n

/-- The time that a text tells in millionths of a second. -/
def duration? (text : String) : Option Nat :=
  let whole := text.toList.takeWhile Char.isDigit
  let rest := text.toList.drop whole.length
  let value (digits : List Char) : Nat := ((String.ofList digits).toNat?).getD 0
  match rest with
  | [] => if whole.isEmpty then none else some (value whole * 1000000)
  | '.' :: fraction =>
    if fraction.all Char.isDigit then
      let six := (fraction ++ List.replicate 6 '0').take 6
      some (value whole * 1000000 + value six)
    else none
  | _ => none

/-- The number that an option tells. -/
def count? (options : List (Char × String)) (letter : Char) (what : String) :
    Effect (Option Nat) := do
  match (options.filter fun option => option.1 == letter).getLast? with
  | none => return none
  | some (_, text) =>
    match text.toNat? with
    | some n => return some n
    | none => fail (text ++ ": invalid " ++ what)

/-- Gives names the fields of a line, and empty texts if there are no more fields. -/
def assignFields : List String → List (List Cell) → Effect Unit
  | [], _ => pure ()
  | name :: names, fields => do
    Setting.giveOrFail name (Cell.text (fields.headD []))
    assignFields names (fields.drop 1)

/-- Does what `read` does. -/
def read (arguments : List String) : Effect Unit := do
  let (options, names) ← options "ers" "adinNptu" arguments
  let isAsked (c : Char) : Bool := options.any (·.1 == c)
  let valueOf (c : Char) : Option String :=
    ((options.filter fun option => option.1 == c).getLast?).map (·.2)
  let timeout ← match valueOf 't' with
    | none => pure none
    | some text =>
      match duration? text with
      | some n => pure (some n)
      | none => fail (text ++ ": invalid timeout specification")
  let most ← count? options 'n' "number"
  let exactly ← count? options 'N' "number"
  let descriptor ← descriptorOf options
  let first := (valueOf 'a').or names.head?
  if let some name := first.filter fun name => !Setting.isName (Store.Target.ofText name).name then
    Setting.refuseName name
    failWith 1
  let s ← state
  let channel := s.channelOf descriptor
  if timeout = some 0 then
    answer (match available s channel with
      | .ok (bytes, isOpen) => !isOpen || !bytes.isEmpty
      | .error _ => false)
  else
    let delimiter := (valueOf 'd').map fun text => (toBytes text)[0]?.getD 0
    let extent : Extent :=
      ⟨isAsked 'r', delimiter.getD 0x0A, exactly.or most, exactly.isSome⟩
    let deadline := timeout.map fun n => s.time + n
    match ← readUpTo extent channel deadline with
    | .fault fault => fail ("read error: " ++ toString descriptor ++ ": " ++ fault.reason)
    | outcome =>
      let (bytes, status) : ByteArray × Nat := match outcome with
        | .read bytes isWhole => (bytes, if isWhole then 0 else 1)
        | .late bytes => (bytes, 142)
        | .fault _ => (.empty, 1)
      let content := withoutDelimiter extent bytes
      let cells := cellsOf extent.raw (ofBytes content).toList
      let dividers := Expansion.dividers (← state)
      match valueOf 'a', names with
      | some name, _ =>
        let fields := Field.split dividers .none cells
        let target := (Store.resolve (← state) name).name
        if !(← Setting.isFree target) then failWith 1
        Setting.putTexts target (fields.map Cell.text)
      | none, [] => Setting.giveOrFail "REPLY" (Cell.text cells)
      | none, names =>
        if extent.isExact then assignFields names [cells]
        else assignFields names (Field.upTo dividers names.length cells)
      setStatus status

/-- Reads lines until there are enough of them. -/
def linesUpTo (extent : Extent) (channel : Option Channel) (keepsEnd : Bool) :
    Nat → Option Nat → Effect (List String)
  | 0, _ => return []
  | fuel + 1, count => do
    if count = some 0 then return []
    match ← readUpTo extent channel none with
    | .read bytes isWhole =>
      if bytes.isEmpty then return []
      let content := if keepsEnd || !isWhole then bytes else bytes.extract 0 (bytes.size - 1)
      let line := ofBytes content
      tick 1
      return line :: (← linesUpTo extent channel keepsEnd fuel (count.map (· - 1)))
    | _ => return []

/-- Does what `mapfile` does. What is called for every so many lines is given a text that tells the
    number of a line and the line. -/
def mapfile (call : String → Effect Unit) (arguments : List String) : Effect Unit := do
  let (options, names) ← options "t" "dnOsuCc" arguments
  let isAsked (c : Char) : Bool := options.any (·.1 == c)
  let valueOf (c : Char) : Option String :=
    ((options.filter fun option => option.1 == c).getLast?).map (·.2)
  let most ← count? options 'n' "line count"
  let skipped ← count? options 's' "line count"
  let origin ← count? options 'O' "array origin"
  let quantum ← count? options 'c' "callback quantum"
  let descriptor ← descriptorOf options
  let name := names.headD "MAPFILE"
  if !Setting.isName name then
    Setting.refuseName name
    failWith 1
  let s ← state
  let channel := s.channelOf descriptor
  let delimiter := (valueOf 'd').map fun text => (toBytes text)[0]?.getD 0
  let extent : Extent := ⟨true, delimiter.getD 0x0A, none, false⟩
  let target := (Store.resolve s name).name
  if !(← Setting.isFree target) then failWith 1
  let _ ← linesUpTo extent channel true (skipped.getD 0) skipped
  let lines ← linesUpTo extent channel (!isAsked 't') readLimit (most.filter (· != 0))
  let v := Store.variableOr (← state) target
  if v.has 'A' then fail (target ++ ": not an indexed array")
  if origin.isNone then
    Setting.keep target { v.withAttribute 'a' with value := .list [] }
  let first := origin.getD 0
  let every := max 1 (quantum.getD 5000)
  let numbered := lines.mapIdx fun n line => (n, line)
  numbered.forM fun (n, line) => do
    if let some command := valueOf 'C' then
      if (n + 1) % every = 0 then
        call (command ++ " " ++ toString (first + n) ++ " " ++ Escape.quoted line)
    let _ ← Setting.putText target (.number (first + n)) false line
  answer true

end Reading
end Extended
end Shell
end SuiteCoverage
