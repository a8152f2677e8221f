import SuiteCoverage.Shell.Editing.Running
import SuiteCoverage.Shell.Records.Reading
import SuiteCoverage.Shell.Records.Table

/-!
# What a program for records works with

The input is read record by record. A record is taken apart into fields when one of them is asked
for, and put together again from them when one of them was changed. What is written to files and to
commands waits until there is enough of it, or until something else is started.
-/

set_option autoImplicit false

namespace SuiteCoverage
namespace Shell
namespace Records

open Effect Utility

/-- What a variable holds. -/
inductive Slot where
  | value (v : Value)
  | table (number : Nat)
deriving Inhabited

/-- Something that is read record by record. -/
structure Stream where
  channel : Channel
  text : List Char
  isOver : Bool

/-- Something that is read under a name. -/
structure Source where
  name : String
  isCommand : Bool
  stream : Stream
  /-- The process that writes it, if a command does. -/
  process : Option Nat

/-- Something that is written under a name. -/
structure Sink where
  name : String
  channel : Channel
  /-- What has not been written yet. -/
  pending : ByteArray
  /-- The process that reads it, if a command does. -/
  process : Option Nat

/-- What a program has in its hands. -/
structure Machine where
  program : Program
  launcher : Launcher
  shared : Array Slot
  own : Array Slot
  tables : Array Table
  record : String
  /-- Whether the record has to be put together from the fields. -/
  isStale : Bool
  fields : Array Value
  isSplit : Bool
  /-- What separates the fields of the record. -/
  separator : String
  inSpan : Array Bool
  /-- What is read as input. -/
  main : Option Stream
  /-- The number of the argument that comes next. -/
  argument : Nat
  /-- Whether a file has been named among the arguments. -/
  hasFile : Bool
  isInputOver : Bool
  sources : List Source
  sinks : List Sink
  /-- The expressions that texts have been read as. -/
  patterns : List (String × Regex)
  seed : Nat
  formerSeed : Value
  status : Nat

/-- Why something is left. -/
inductive Jump where
  | next
  | nextFile
  | exit
  | return_ (value : Value)
  | leave
  | again

/-- Carries out a program. -/
abbrev Run := ExceptT Jump (StateT Machine Effect)

namespace Run

/-- Carries out an effect. -/
def lift {α : Type} (effect : Effect α) : Run α := fun m => do
  return (.ok (← effect), m)

/-- The value of a shared variable as it is held. -/
def held (number : Nat) : Run Value := do
  match (← get).shared[number]? with
  | some (.value v) => return v
  | _ => return .nothing

/-- Lets a shared variable hold a value. -/
def hold (number : Nat) (v : Value) : Run Unit :=
  modify fun m => { m with shared := m.shared.set! number (.value v) }

/-- The format for numbers that become texts. -/
def format : Run String := do
  match ← held Known.conversionFormat with
  | .text s => return s
  | _ => return "%.6g"

/-- The text of a value. -/
def textOf (v : Value) : Run String := do
  return v.toText (← format)

/-- The text of a shared variable. -/
def heldText (number : Nat) : Run String := do
  textOf (← held number)

/-- Stops the program because of something that cannot be done. -/
def failWith {α : Type} (complaint : String) : Run α := do
  let file ← heldText Known.fileName
  let inFile ← heldText Known.fileRecordCount
  let all ← heldText Known.recordCount
  lift do
    blame ("run time error: " ++ complaint ++ "\n\tFILENAME=\"" ++ file ++ "\" FNR=" ++ inFile
      ++ " NR=" ++ all)
    throw (.exit 2)

/-! ## Patterns -/

/-- How many expressions are remembered. -/
def patternsKept : Nat := 50

/-- The expression that a text is. -/
def patternFor (text : String) : Run Regex := do
  let m ← get
  match m.patterns.find? fun entry => entry.1 == text with
  | some (_, regex) => return regex
  | none =>
    match patternOf text with
    | .ok regex =>
      set { m with patterns := (text, regex) :: m.patterns.take patternsKept }
      return regex
    | .error flaw =>
      lift do
        blame ("run time error: " ++ (Flaw.badPattern text flaw).message)
        throw (.exit 2)

/-- A text as it is searched. -/
def subject (text : String) : Subject := ⟨text.toList.toArray, false, false⟩

/-! ## Fields -/

/-- The parts of a text between blanks and line ends. -/
def blankFields (text : List Char) : List String :=
  let isBlank (c : Char) : Bool := c == ' ' || c == '\t' || c == '\n'
  let rec go : Nat → List Char → List String
    | 0, _ => []
    | fuel + 1, text =>
      match text.dropWhile isBlank with
      | [] => []
      | rest =>
        let word := rest.takeWhile fun c => !isBlank c
        String.ofList word :: go fuel (rest.drop word.length)
  go (text.length + 1) text

/-- The parts of a text between characters. -/
def charFields (isSeparator : Char → Bool) (text : List Char) : List String :=
  let (parts, last) := text.foldl
    (fun (state : List String × List Char) c =>
      if isSeparator c then (String.ofList state.2.reverse :: state.1, [])
      else (state.1, c :: state.2)) ([], [])
  if text.isEmpty then [] else (String.ofList last.reverse :: parts).reverse

/-- The parts of a text between matches of an expression. -/
def patternFields (regex : Regex) (text : String) : List String :=
  if text.isEmpty then []
  else
    let s := subject text
    let rec go : Nat → Nat → Nat → List String
      | 0, _, _ => []
      | fuel + 1, start, place =>
        let rest := String.ofList (s.text.extract start s.text.size).toList
        match regex.find? s place with
        | none => [rest]
        | some m =>
          if m.first == m.last then
            if s.text.size ≤ m.first then [rest] else go fuel start (m.first + 1)
          else String.ofList (s.text.extract start m.first).toList :: go fuel m.last m.last
    go (s.text.size + 2) 0 0

/-- The parts of a text with a separator between them. A blank stands for any blanks. -/
def partsOf (separator text : String) : Run (List String) := do
  match separator.toList with
  | [' '] => return blankFields text.toList
  | [] => return text.toList.map fun c => String.singleton c
  | [c] => return charFields (· == c) text.toList
  | _ => return patternFields (← patternFor separator) text

/-- Takes the record apart. -/
def split : Run Unit := do
  let m ← get
  if m.isSplit then return
  let isParagraph := (← heldText Known.recordSeparator).isEmpty
  let parts ← match m.separator.toList with
    | [' '] => pure (blankFields m.record.toList)
    | [c] => pure (charFields (fun d => d == c || (isParagraph && d == '\n')) m.record.toList)
    | [] => partsOf "" m.record
    | _ =>
      let parts ← partsOf m.separator m.record
      pure (if isParagraph then parts.flatMap fun part => part.splitOn "\n" else parts)
  modify fun m => { m with fields := (parts.map Value.input).toArray, isSplit := true }

/-- Puts the record together. -/
def join : Run Unit := do
  let m ← get
  if !m.isStale then return
  let between ← heldText Known.outputFieldSeparator
  let parts ← m.fields.toList.mapM textOf
  modify fun m => { m with record := between.intercalate parts, isStale := false }

/-- The record as it is. -/
def wholeRecord : Run String := do
  join
  return (← get).record

/-- Makes a text the record. -/
def setRecord (text : String) : Run Unit := do
  let separator ← heldText Known.fieldSeparator
  modify fun m => { m with record := text, isStale := false, isSplit := false, separator }

/-- The number of fields. -/
def fieldCount : Run Nat := do
  split
  return (← get).fields.size

/-- The value of a field. -/
def fieldAt (n : Int) : Run Value := do
  if n < 0 then failWith ("negative field index $" ++ toString n)
  else if n == 0 then return .input (← wholeRecord)
  else
    split
    return ((← get).fields[n.toNat - 1]?).getD (.input "")

/-- The number of fields that a record has at most. -/
def fieldLimit : Nat := 100000

/-- Changes the number of fields. -/
def resize (count : Nat) : Run Unit := do
  split
  modify fun m =>
    let kept := m.fields.extract 0 count
    { m with
      fields := kept ++ Array.replicate (min count fieldLimit - kept.size) (.text "")
      isStale := true }

/-- Gives a value to a field. -/
def setField (n : Int) (v : Value) : Run Unit := do
  if n < 0 then failWith ("negative field index $" ++ toString n)
  else if n == 0 then setRecord (← textOf v)
  else
    split
    if (← get).fields.size < n.toNat then resize n.toNat
    modify fun m => { m with fields := m.fields.set! (n.toNat - 1) v, isStale := true }

/-! ## Output -/

/-- How much waits to be written at most. -/
def sinkSize : Nat := 4096

/-- Writes what waits to be written to something. -/
def flushSink (name : String) : Run Unit := do
  match (← get).sinks.find? fun sink => sink.name == name with
  | none => pure ()
  | some sink =>
    if sink.pending.isEmpty then return
    modify fun m =>
      { m with
        sinks := m.sinks.map fun other =>
          if other.name == name then { other with pending := .empty } else other }
    let _ ← lift (writeBytes (some sink.channel) sink.pending)

/-- Writes all that waits to be written. -/
def flushAll : Run Unit := do
  lift flush
  (← get).sinks.forM fun sink => flushSink sink.name

/-- What running a command with the shell comes down to. -/
def commandLine (shell command : String) : Run (Option Invocation) := do
  match ← lift (sought shell ["-c", command]) with
  | .ok invocation => return some invocation
  | .error _ => return none

/-- Opens a file to write to it. -/
def openSink (outlet : Outlet) (name : String) : Run Sink := do
  match outlet with
  | .command =>
    flushAll
    let (reading, writing) ← lift newPipe
    let launcher := (← get).launcher
    let invocation ← commandLine "/bin/sh" name
    let process ← lift do
      let before := (← state).held
      change fun s => { s with held := writing :: before }
      startWith [(0, reading)] do
        match invocation with
        | some invocation => launcher invocation
        | none => setStatus 127
    return ⟨name, writing, .empty, some process⟩
  | _ =>
    let s ← lift state
    let result := if outlet == .end_ then s.world.append (pathOf name) .empty
      else s.world.write (pathOf name) .empty
    match result with
    | .error fault =>
      lift do
        blame ("cannot open \"" ++ name ++ "\" for output (" ++ fault.reason ++ ")")
        throw (.exit 2)
    | .ok world =>
      let channel ← lift do
        change fun s => { s with world }
        let channel ← Redirection.openAt (if outlet == .end_ then .appending else .writing)
          (pathOf name)
        change fun s => { s with held := channel :: s.held }
        return channel
      return ⟨name, channel, .empty, none⟩

/-- Writes a text to where output goes. -/
def emit (target : Option (Outlet × String)) (text : String) : Run Unit := do
  match target with
  | none => lift (say text)
  | some (outlet, name) =>
    if outlet != .command && (name == "/dev/stdout" || name == "-") then lift (say text)
    else if outlet != .command && name == "/dev/stderr" then
      let _ ← lift (do writeTo ((← state).channelOf 2) text)
    else
      let sink ← match (← get).sinks.find? fun sink => sink.name == name with
        | some sink => pure sink
        | none => do
          let sink ← openSink outlet name
          modify fun m => { m with sinks := sink :: m.sinks }
          pure sink
      let pending := sink.pending ++ toBytes text
      modify fun m =>
        { m with
          sinks := m.sinks.map fun other =>
            if other.name == name then { other with pending } else other }
      if sinkSize ≤ pending.size then flushSink name

/-- Lets go of something that is held open. -/
def release (channel : Channel) : Run Unit :=
  lift do
    change fun s => { s with held := s.held.erase channel }
    sweep

/-- The status of a process that ended so. -/
def statusOf : Ending → Nat
  | .status status => status
  | .signal signal => 256 + signal

/-- Closes something that is written to. -/
def closeSink (sink : Sink) : Run Nat := do
  flushSink sink.name
  modify fun m => { m with sinks := m.sinks.filter fun other => other.name != sink.name }
  release sink.channel
  match sink.process with
  | some process => return statusOf (← lift (endOf process))
  | none => return 0

/-- Closes something that is read. -/
def closeSource (source : Source) : Run Nat := do
  modify fun m =>
    { m with
      sources := m.sources.filter fun other =>
        other.name != source.name || other.isCommand != source.isCommand }
  release source.stream.channel
  match source.process with
  | some process => return statusOf (← lift (endOf process))
  | none => return 0

/-- Closes whatever has a name; the status is negative if nothing has it. -/
def close (name : String) : Run Value := do
  let m ← get
  let sinks := m.sinks.filter fun sink => sink.name == name
  let sources := m.sources.filter fun source => source.name == name
  let ended ← sinks.mapM closeSink
  let read ← sources.mapM closeSource
  match (ended ++ read).getLast? with
  | none => return .number (-1.0)
  | some status => return .number (ofWhole status)

/-! ## Input -/

/-- Reads more of a stream. -/
def readMore (stream : Stream) : Run Stream := do
  match ← lift (readSome (some stream.channel) sinkSize) with
  | .error fault =>
    lift do
      blame ("read error (" ++ fault.reason ++ ")")
      throw (.exit 2)
  | .ok bytes =>
    lift (tick 1)
    if bytes.isEmpty then return { stream with isOver := true }
    else return { stream with text := stream.text ++ (ofBytes bytes).toList }

/-- Reads all that is left of a stream. -/
def readRest : Nat → Stream → Run Stream
  | 0, stream => return stream
  | fuel + 1, stream => do
    if stream.isOver then return stream else readRest fuel (← readMore stream)

/-- The record at the start of a stream that ends with a character. -/
def recordUpTo (ending : Char) : Nat → Stream → Run (Option String × Stream)
  | 0, stream => return (none, stream)
  | fuel + 1, stream => do
    let line := stream.text.takeWhile (· != ending)
    match stream.text.drop line.length with
    | _ :: rest => return (some (String.ofList line), { stream with text := rest })
    | [] =>
      if !stream.isOver then recordUpTo ending fuel (← readMore stream)
      else if line.isEmpty then return (none, stream)
      else return (some (String.ofList line), { stream with text := [] })

/-- The record at the start of a stream; lines without anything are between paragraphs. -/
def paragraph (stream : Stream) : Option String × Stream :=
  let text := stream.text.dropWhile (· == '\n')
  let rec go : List Char → List Char → List Char × List Char
    | '\n' :: '\n' :: rest, found => (found, rest)
    | ['\n'], found => (found, [])
    | c :: rest, found => go rest (c :: found)
    | [], found => (found, [])
  if text.isEmpty then (none, { stream with text := [] })
  else
    let (found, rest) := go text []
    (some (String.ofList found.reverse), { stream with text := rest.dropWhile (· == '\n') })

/-- The record at the start of a stream that ends where an expression matches. -/
def recordBefore (regex : Regex) (stream : Stream) : Option String × Stream :=
  if stream.text.isEmpty then (none, stream)
  else
    let s : Subject := ⟨stream.text.toArray, false, false⟩
    let rec go : Nat → Nat → Option Regex.Match
      | 0, _ => none
      | fuel + 1, place =>
        match regex.find? s place with
        | some m => if m.first == m.last then go fuel (m.first + 1) else some m
        | none => none
    match go (s.text.size + 1) 0 with
    | none =>
      (some (String.ofList stream.text), { stream with text := [] })
    | some m =>
      (some (String.ofList (stream.text.take m.first)), { stream with text := stream.text.drop m.last })

/-- The next record of a stream, if there is one. -/
def nextRecord (stream : Stream) : Run (Option String × Stream) := do
  let separator ← heldText Known.recordSeparator
  match separator.toList with
  | [c] => recordUpTo c readLimit stream
  | [] => return paragraph (← readRest readLimit stream)
  | _ =>
    let regex ← patternFor separator
    return recordBefore regex (← readRest readLimit stream)

/-- Opens a file or the input to read it. -/
def openStream (name : String) : Run (Except Fault Stream) := do
  match ← lift (openNamed name) with
  | .error fault => return .error fault
  | .ok channel =>
    lift (change fun s => { s with held := channel :: s.held })
    return .ok ⟨channel, [], false⟩

/-- What is read under a name; a command is started, a file opened, if that has not happened. -/
def sourceFor (isCommand : Bool) (name : String) : Run (Option Source) := do
  match (← get).sources.find? fun source => source.name == name && source.isCommand == isCommand with
  | some source => return some source
  | none =>
    let made ← if isCommand then do
        flushAll
        let (reading, writing) ← lift newPipe
        let launcher := (← get).launcher
        let invocation ← commandLine "/bin/sh" name
        let process ← lift do
          change fun s => { s with held := reading :: s.held }
          startWith [(1, writing)] do
            match invocation with
            | some invocation => launcher invocation
            | none => setStatus 127
        lift sweep
        pure (some (⟨name, true, ⟨reading, [], false⟩, some process⟩ : Source))
      else
        match ← openStream name with
        | .ok stream => pure (some ⟨name, false, stream, none⟩)
        | .error _ => pure none
    made.forM fun source => modify fun m => { m with sources := source :: m.sources }
    return made

/-- The next record of what is read under a name; nothing is there if it cannot be opened. -/
def recordFrom (isCommand : Bool) (name : String) : Run (Option (Option String)) := do
  match ← sourceFor isCommand name with
  | none => return none
  | some source =>
    let (found, stream) ← nextRecord source.stream
    modify fun m =>
      { m with
        sources := m.sources.map fun other =>
          if other.name == name && other.isCommand == isCommand then { other with stream } else other }
    return some found

/-! ## Arguments -/

/-- The table that a shared variable holds. -/
def tableOf (number : Nat) : Run Table := do
  let m ← get
  match m.shared[number]? with
  | some (.table n) => return (m.tables[n]?).getD Table.empty
  | _ => return Table.empty

/-- Carries out an argument that assigns a value to a variable, if it is one. -/
def assignment? (argument : String) : Option (String × String) :=
  let name := argument.toList.takeWhile Wording.isNameChar
  match name, argument.toList.drop name.length with
  | c :: _, '=' :: value =>
    if c.isDigit then none
    else
      some (String.ofList name,
        String.ofList (Wording.unescaped (value.length + 1) value))
  | _, _ => none

/-- Assigns a value that was given from outside. Names that the program does not know are of no
    use. -/
def assignShared (name value : String) : Run Unit := do
  match (← get).program.names.idxOf? name with
  | none => pure ()
  | some number =>
    if number == Known.fieldCount then resize (wholeOf (numberIn value)).toNat
    else
      if number == Known.outputFieldSeparator then join
      hold number (.input value)

/-- Opens what comes next as input. -/
def openNext : Nat → Run Bool
  | 0 => return false
  | fuel + 1 => do
    let count := wholeOf (← held Known.argumentCount).toNumber
    let m ← get
    if count ≤ m.argument then
      if m.hasFile || m.isInputOver then
        set { m with isInputOver := true }
        return false
      set { m with hasFile := true }
      match ← openStream "-" with
      | .ok stream =>
        modify fun m => { m with main := some stream }
        return true
      | .error _ => return false
    else
      set { m with argument := m.argument + 1 }
      let (found, _) := (← tableOf Known.arguments).find (.number m.argument) false
      let name ← textOf (found.getD .nothing)
      if name.isEmpty then openNext fuel
      else
        match assignment? name with
        | some (target, value) =>
          assignShared target value
          openNext fuel
        | none =>
          modify fun m => { m with hasFile := true }
          hold Known.fileName (.text name)
          hold Known.fileRecordCount (.number 0.0)
          match ← openStream name with
          | .ok stream =>
            modify fun m => { m with main := some stream }
            return true
          | .error fault =>
            lift do
              blame ("cannot open \"" ++ name ++ "\" (" ++ fault.reason ++ ")")
              throw (.exit 2)

/-- Ends the reading of a file. -/
def closeMain : Run Unit := do
  (← get).main.forM fun stream => release stream.channel
  modify fun m => { m with main := none }

/-- The next record of the input, if there is one. -/
def inputRecord : Nat → Run (Option String)
  | 0 => return none
  | fuel + 1 => do
    match (← get).main with
    | none => if ← openNext readLimit then inputRecord fuel else return none
    | some stream =>
      let (found, stream) ← nextRecord stream
      modify fun m => { m with main := some stream }
      match found with
      | some text =>
        let count ← held Known.recordCount
        hold Known.recordCount (.number (count.toNumber + 1.0))
        let inFile ← held Known.fileRecordCount
        hold Known.fileRecordCount (.number (inFile.toNumber + 1.0))
        return some text
      | none =>
        closeMain
        inputRecord fuel

end Run
end Records
end Shell
end SuiteCoverage
