import SuiteCoverage.Shell.Editing.Script
import SuiteCoverage.Shell.Utility.Launching

/-!
# Running editing scripts

The editor goes through the lines of its files. Every line is carried through the script as the
pattern space, which commands change, print and put aside; what they append is written when the next
line is read. Files can be edited in place: what is written while one of them is read becomes its
content.
-/

set_option autoImplicit false

namespace SuiteCoverage
namespace Shell
namespace Editing

open Effect Utility

/-- A text that is edited, and whether its line end was there. -/
structure Space where
  text : String
  isEnded : Bool

/-- What is written when the next line is read. -/
inductive Appended where
  | text (text : String)
  | file (name : String)

/-- A file that is written to. -/
structure Target where
  name : String
  channel : Channel
  /-- Whether a line end has to come before anything else. -/
  owesEnd : Bool

/-- How far a range of lines has been gone through. -/
inductive RangeState where
  | before
  /-- Inside, up to a line if its number is known. -/
  | inside (last : Option Nat)

/-- How the editor is to work. -/
structure Manner where
  quiet : Bool
  /-- Whether every file is a text of its own. -/
  separate : Bool
  /-- Whether files are changed; the text is for the names of copies of them, if there are any. -/
  inPlace : Option String
  ending : Char
  width : Nat
  isStrict : Bool
  /-- Whether commands may run programs and open files. -/
  isSandboxed : Bool

/-- The file that is being read. -/
structure Reading where
  name : String
  channel : Channel
  lines : List String
  pending : List Char
  isOver : Bool

/-- What the editor has in its hands. -/
structure Editor where
  script : Script
  manner : Manner
  launcher : Launcher
  files : List String
  reading : Option Reading
  number : Nat
  space : Space
  held : Space
  appended : List Appended
  replaced : Bool
  /-- Whether the next cycle goes on with the pattern space as it is. -/
  keeps : Bool
  lastPattern : Option Pattern
  ranges : Array RangeState
  targets : List Target
  owesEnd : Bool
  /-- What has been written for the file that is edited in place. -/
  edited : Option ByteArray
  /-- What is left of files that are read line by line. -/
  sources : List (String × List String)
  status : Nat

/-- Works on what the editor has in its hands. -/
abbrev Edit := StateT Editor Effect

namespace Edit

/-- Carries out an effect. -/
def lift {α : Type} (effect : Effect α) : Edit α := fun e => do
  return (← effect, e)

/-! ## Writing -/

/-- Writes a text to the output or to the file that is edited in place. -/
def emit (text : String) : Edit Unit := do
  let e ← get
  match e.edited with
  | some bytes => set { e with edited := some (bytes ++ toBytes text) }
  | none => lift (say text)

/-- Writes the line end that is owed. -/
def settleEnd : Edit Unit := do
  if (← get).owesEnd then
    modify fun e => { e with owesEnd := false }
    emit "\n"

/-- Writes a line. -/
def emitLine (text : String) (isEnded : Bool) : Edit Unit := do
  settleEnd
  emit text
  if isEnded then emit (String.singleton (← get).manner.ending)
  else modify fun e => { e with owesEnd := true }

/-- Prints the pattern space. -/
def printSpace : Edit Unit := do
  let e ← get
  emitLine e.space.text e.space.isEnded

/-- Prints the pattern space at the end of a cycle unless that is not wanted. -/
def printUnlessQuiet : Edit Unit := do
  if !(← get).manner.quiet then printSpace

/-- Writes a line to a file. -/
def writeTo (name text : String) (isEnded : Bool) : Edit Unit := do
  if name == "/dev/stdout" then emitLine text isEnded
  else
    let e ← get
    match e.targets.find? fun target => target.name == name with
    | none => pure ()
    | some target =>
      let front := if target.owesEnd then "\n" else ""
      let back := if isEnded then String.singleton e.manner.ending else ""
      let _ ← lift (writeBytes (some target.channel) (toBytes (front ++ text ++ back)))
      modify fun e =>
        { e with
          targets := e.targets.map fun other =>
            if other.name == name then { other with owesEnd := !isEnded } else other }

/-- Writes what has been appended. -/
def writeAppended : Edit Unit := do
  let items := (← get).appended
  modify fun e => { e with appended := [] }
  items.forM fun
    | .text text => do
      settleEnd
      emit text
    | .file name => do
      match ← lift (wholeText (if name == "/dev/stdin" then "-" else name)) with
      | .ok text =>
        if !text.isEmpty then
          settleEnd
          emit text
      | .error _ => pure ()

/-! ## Reading -/

/-- Notes that something went wrong. -/
def failWith (status : Nat) (complaint : String) : Edit Unit := do
  lift do
    flush
    blame complaint
  modify fun e => { e with status }

/-- Writes back the file that has been edited in place. -/
def finishFile : Edit Unit := do
  let e ← get
  match e.edited, e.reading, e.manner.inPlace with
  | some bytes, some reading, some suffix =>
    set { e with edited := none, owesEnd := false }
    let p := pathOf reading.name
    let w := (← lift state).world
    let mode := match w.stat p with
      | .ok node => node.mode
      | .error _ => .plain
    let base := ((reading.name.splitOn "/").getLast?).getD reading.name
    let folder := (reading.name.dropEnd base.length).toString
    let copy := if suffix.toList.contains '*' then
        let made := base.intercalate (suffix.splitOn "*")
        if made.toList.contains '/' then made else folder ++ made
      else folder ++ base ++ suffix
    match if suffix.isEmpty then w.removeFile p else w.rename p (pathOf copy) with
    | .error fault => failWith 4 ("cannot rename " ++ reading.name ++ ": " ++ fault.reason)
    | .ok w =>
      match w.make (.file bytes (w.newFacts mode)) p with
      | .ok w =>
        lift (change fun s => { s with world := (w.changeMode p fun _ => mode).toOption.getD w })
      | .error fault => failWith 4 ("cannot rename " ++ reading.name ++ ": " ++ fault.reason)
  | _, _, _ => pure ()

/-- Ends the file that is being read. -/
def closeFile : Edit Unit := do
  finishFile
  modify fun e => { e with reading := none }

/-- Opens a file, and tells whether that was possible. -/
def openFile (name : String) : Edit Bool := do
  let e ← get
  match ← lift (openNamed name) with
  | .error fault =>
    failWith 2 ("can't read " ++ name ++ ": " ++ fault.reason)
    return false
  | .ok channel =>
    let s ← lift state
    let isDirectory := name != "-" && Condition.leadsTo s.world name Node.isDirectory
    if e.manner.inPlace.isSome && name != "-" then
      let isPlain := match nodeAt s.world (pathOf name) with
        | .ok (.file ..) => true
        | .ok (.link _) => Condition.leadsTo s.world name Node.isRegular
        | _ => false
      if !isPlain then
        failWith 4 ("couldn't edit " ++ name ++ ": not a regular file")
        return false
      modify fun e => { e with edited := some .empty }
    if isDirectory then
      lift do
        flush
        blame ("read error on " ++ name ++ ": Is a directory")
        throw (.exit 4)
    lift (change fun s => { s with held := channel :: s.held })
    if e.manner.separate then modify fun e => { e with number := 0 }
    modify fun e => { e with reading := some ⟨name, channel, [], [], false⟩ }
    return true

/-- Reads on in the file that is being read, until there is a line or no more of it. -/
def fillLines : Nat → Edit Unit
  | 0 => pure ()
  | fuel + 1 => do
    let e ← get
    match e.reading with
    | none => pure ()
    | some reading =>
      if !reading.lines.isEmpty || reading.isOver then return
      match ← lift (readSome (some reading.channel) Pipe.capacity) with
      | .error fault =>
        failWith 2 ("read error on " ++ titleOf reading.name ++ ": " ++ fault.reason)
        modify fun e => { e with reading := some { reading with isOver := true } }
      | .ok bytes =>
        lift (tick 1)
        if bytes.isEmpty then
          modify fun e => { e with reading := some { reading with isOver := true } }
        else
          let (lines, pending) := piecesOf e.manner.ending reading.pending (ofBytes bytes).toList
          modify fun e => { e with reading := some { reading with lines, pending } }
          fillLines fuel

/-- Whether a file that is being read has another line. -/
def Reading.hasLine (reading : Reading) : Bool :=
  !reading.lines.isEmpty || !reading.pending.isEmpty

/-- Goes on to a file that has another line, if there is one; files that are gone through for that
    are closed if `closes`. -/
def advance : Nat → Edit Bool
  | 0 => return false
  | fuel + 1 => do
    fillLines readLimit
    let e ← get
    match e.reading with
    | some reading =>
      if Reading.hasLine reading then return true
      closeFile
      advance fuel
    | none =>
      match e.files with
      | [] => return false
      | name :: rest =>
        set { e with files := rest }
        let _ ← openFile name
        advance fuel

/-- How many files there are at most. -/
def fileLimit : Nat := 1000000

/-- Whether the current line is the last one. -/
def isLast : Edit Bool := do
  fillLines readLimit
  let e ← get
  match e.reading with
  | some reading =>
    if Reading.hasLine reading then return false
    if e.manner.separate then return true
    -- Files that follow count if there is anything in them.
    return !(← advanceQuietly e.files)
  | none => return true
where
  /-- Whether any file of some has content. Those before it are passed over. -/
  advanceQuietly : List String → Edit Bool
    | [] => do
      modify fun e => { e with files := [] }
      return false
    | name :: rest => do
      let s ← lift state
      let hasContent := name == "-" || (match s.world.readBytes (pathOf name) with
        | .ok content => !content.isEmpty
        | .error _ => !(s.world.stat (pathOf name)).toOption.isNone)
      if hasContent then
        modify fun e => { e with files := name :: rest }
        return true
      else if (s.world.stat (pathOf name)).toOption.isNone then
        -- What is missing is told when its turn comes.
        if ← advanceQuietly rest then
          modify fun e => { e with files := name :: e.files }
          return true
        else
          modify fun e => { e with files := [name] }
          return false
      else advanceQuietly rest

/-- The next line, if there is one. -/
def nextLine : Edit (Option Space) := do
  if !(← advance fileLimit) then return none
  let e ← get
  match e.reading with
  | none => return none
  | some reading =>
    match reading.lines with
    | line :: lines =>
      set { e with reading := some { reading with lines }, number := e.number + 1 }
      return some ⟨line, true⟩
    | [] =>
      set
        { e with
          reading := some { reading with pending := [] }
          number := e.number + 1 }
      return some ⟨String.ofList reading.pending.reverse, false⟩

/-- Reads the next line into the pattern space, or behind what is in it, and tells whether there was
    one. -/
def readSpace (appends : Bool) : Edit Bool := do
  writeAppended
  modify fun e => { e with replaced := false }
  match ← nextLine with
  | none => return false
  | some line =>
    modify fun e =>
      { e with
        space :=
          if appends then ⟨e.space.text ++ String.singleton e.manner.ending ++ line.text, line.isEnded⟩
          else line }
    return true

/-! ## Addresses -/

/-- The pattern that is meant, which is the one used last from now on. -/
def meant (pattern : Option Pattern) : Edit Pattern := do
  let e ← get
  match pattern.orElse fun _ => e.lastPattern with
  | none =>
    lift do
      flush
      blame "-e expression #1, char 0: no previous regular expression"
      throw (.exit 1)
  | some pattern =>
    set { e with lastPattern := some pattern }
    return pattern

/-- A text as it is searched for a pattern. -/
def subjectFor (pattern : Pattern) (text : String) : Subject :=
  ⟨text.toList.toArray, pattern.folds, pattern.lines⟩

/-- Whether the pattern space matches a pattern. -/
def matchesSpace (pattern : Option Pattern) : Edit Bool := do
  let pattern ← meant pattern
  return pattern.regex.isIn (subjectFor pattern (← get).space.text)

/-- Whether an address calls the current line. -/
def isCalled (address : Address) : Edit Bool := do
  let number := (← get).number
  match address with
  | .line n => return n == number
  | .step first distance =>
    if distance == 0 then return number == first
    else return first ≤ number && (number - first) % distance == 0
  | .last => isLast
  | .matching pattern => matchesSpace pattern

/-- Enters a range, and tells whether its first line belongs to it. -/
def enterRange (place : Nat) (bound : Bound) : Edit Bool := do
  let number := (← get).number
  let enter (last : Option Nat) : Edit Bool := do
    modify fun e => { e with ranges := e.ranges.modify place fun _ => .inside last }
    return true
  match bound with
  | .line n => if n ≤ number then return true else enter (some n)
  | .further count => if count == 0 then return true else enter (some (number + count))
  | .multiple factor =>
    if factor == 0 then return true
    else enter (some (number - number % factor + factor))
  | _ => enter none

/-- Whether the current line is in the scope of the command at a place, apart from negation. -/
def isInScope (place : Nat) (scope : Scope) : Edit Bool := do
  let e ← get
  match scope.first, scope.last with
  | none, _ => return true
  | some first, none => isCalled first
  | some first, some bound =>
    match e.ranges.getD place .before with
    | .before =>
      if ← isCalled first then enterRange place bound else return false
    | .inside (some last) =>
      if last ≤ e.number then
        modify fun e => { e with ranges := e.ranges.modify place fun _ => .before }
      if e.number ≤ last then return true
      else if ← isCalled first then enterRange place bound
      else return false
    | .inside none =>
      let isEnd ← match bound with
        | .last => isLast
        | .matching pattern => matchesSpace pattern
        | .step first distance => isCalled (.step first distance)
        | _ => pure true
      if isEnd then
        modify fun e => { e with ranges := e.ranges.modify place fun _ => .before }
      return true

/-! ## Substitutions -/

/-- A letter in another case. -/
def cased : Option Casing → Char → Char
  | some .upper, c => c.toUpper
  | some .lower, c => c.toLower
  | none, c => c

/-- Adds characters in the case that is asked for, in reverse. -/
def addCased (casing initial : Option Casing) (chars found : List Char) : List Char :=
  match chars with
  | [] => found
  | c :: rest =>
    rest.foldl (fun found c => cased casing c :: found) (cased (initial <|> casing) c :: found)

/-- What is put in place of a match, in reverse, in front of what has been found so far. A change of
    a first letter waits for the next piece if the group that it is for is empty. -/
def replacementOf (pieces : List Piece) (m : Regex.Match) (s : Subject) (found : List Char) :
    List Char :=
  let step (state : Option Casing × List Char) (piece : Piece) : Option Casing × List Char :=
    let (waiting, found) := state
    let initial := piece.initial <|> waiting
    let found := addCased piece.casing initial piece.text found
    let initial := if piece.text.isEmpty then initial else none
    match piece.group.map (m.taken s) with
    | none => (none, found)
    | some [] => (if piece.initial.isSome then initial else none, found)
    | some chars => (none, addCased piece.casing initial chars found)
  (pieces.foldl step (none, found)).2

/-- The text in which matches are replaced, in reverse, from a place on; `count` is the number of
    matches before it and `last` where the last of them ended. Gives back whether any was. -/
def substituted (sub : Substitution) (regex : Regex) (s : Subject) :
    Nat → Nat → Nat → Option Nat → List Char → Bool × List Char
  | 0, _, _, _, found => (false, found)
  | fuel + 1, start, count, last, found =>
    let upTo (a b : Nat) (found : List Char) : List Char :=
      (s.text.extract a b).toList.foldl (fun found c => c :: found) found
    match regex.find? s start with
    | none => (false, upTo start s.text.size found)
    | some m =>
      let found := upTo start m.first found
      let isEmpty := m.first == m.last
      if isEmpty && last == some m.first then
        if m.first < s.text.size then
          substituted sub regex s fuel (m.first + 1) count last (upTo m.first (m.first + 1) found)
        else (false, found)
      else
        let replaces := sub.nth ≤ count + 1
        let found := if replaces then replacementOf sub.pieces m s found
          else upTo m.first m.last found
        if replaces && !sub.isGlobal then (true, upTo m.last s.text.size found)
        else
          let (more, result) :=
            if isEmpty then
              if m.first < s.text.size then
                substituted sub regex s fuel (m.first + 1) (count + 1) (some m.last)
                  (upTo m.first (m.first + 1) found)
              else (false, found)
            else substituted sub regex s fuel m.last (count + 1) (some m.last) found
          (replaces || more, result)

/-- What a command of the shell writes. -/
def outputOf (command : String) : Edit String := do
  let e ← get
  lift do
    flush
    let run : Effect Unit := do
      match ← sought "sh" ["-c", command] with
      | .ok invocation => become e.launcher invocation
      | .error _ => setStatus 127
    let (text, _) ← collect run
    return text

/-- Carries out a substitution. -/
def substitute (sub : Substitution) : Edit Unit := do
  let pattern ← meant sub.pattern
  let e ← get
  let s := subjectFor pattern e.space.text
  let (isReplaced, text) := substituted sub pattern.regex s (2 * s.text.size + 3) 0 0 none []
  if isReplaced then
    let text := String.ofList text.reverse
    modify fun e => { e with replaced := true, space := { e.space with text } }
    if sub.evaluates then
      let output ← outputOf text
      let output := if output.endsWith "\n" then (output.dropEnd 1).toString else output
      modify fun e => { e with space := { e.space with text := output } }
    if 0 < sub.prints then printSpace
    sub.file.forM fun name => do
      let e ← get
      writeTo name e.space.text e.space.isEnded

/-! ## Showing -/

/-- A character as it is listed. -/
def listed (c : Char) : List Char :=
  match c with
  | '\\' => ['\\', '\\']
  | '\x07' => ['\\', 'a']
  | '\x08' => ['\\', 'b']
  | '\x0c' => ['\\', 'f']
  | '\n' => ['\\', 'n']
  | '\r' => ['\\', 'r']
  | '\t' => ['\\', 't']
  | '\x0b' => ['\\', 'v']
  | c =>
    if Quoting.isVisible c then [c]
    else
      let digits := Nat.toDigits 8 c.toNat
      '\\' :: List.replicate (3 - digits.length) '0' ++ digits

/-- A text as it is listed in lines of a width. -/
def listing (width : Nat) (text : String) : String :=
  let (done, line, _) := text.toList.foldl
    (fun (state : List Char × List Char × Nat) c =>
      let (done, line, size) := state
      let shown := listed c
      if 0 < width && width - 1 < size + shown.length then
        ('\n' :: '\\' :: (line ++ done), shown.reverse, shown.length)
      else (done, shown.reverse ++ line, size + shown.length))
    ([], [], 0)
  String.ofList (line ++ done).reverse ++ "$\n"

/-! ## Commands -/

/-- What comes after a command. -/
inductive Onward where
  | next
  | goto (place : Nat)
  /-- The end of the script. -/
  | finish
  /-- The next cycle, without printing. -/
  | cycle
  /-- The end of all. -/
  | stop

/-- The place of a label; without a name it is the end of the script. -/
def placeOf (label : String) : Edit Onward := do
  if label.isEmpty then return .finish
  let labels := (← get).script.labels
  return ((labels.find? fun entry => entry.1 == label).map fun entry =>
    Onward.goto entry.2).getD .finish

/-- The first line of the pattern space. -/
def firstLine : Edit String := do
  let e ← get
  return String.ofList (e.space.text.toList.takeWhile (· != e.manner.ending))

/-- Ends the work with a status. -/
def quitWith (status : Nat) : Edit Onward := do
  modify fun e => { e with status }
  return .stop

/-- Carries out what the command at a place does. -/
def perform (place : Nat) (command : Command) : Edit Onward := do
  let e ← get
  match command.deed with
  | .opening _ => return .next
  | .closing => return .next
  | .nothing => return .next
  | .number =>
    settleEnd
    emit (toString e.number ++ "\n")
    return .next
  | .append text =>
    set { e with appended := e.appended ++ [Appended.text text] }
    return .next
  | .insert text =>
    settleEnd
    emit text
    return .next
  | .change text =>
    let isInside := command.scope.last.isSome && !command.scope.negated
      && match e.ranges.getD place .before with
        | .inside _ => true
        | .before => false
    if !isInside then
      settleEnd
      emit text
    return .cycle
  | .jump label => placeOf label
  | .jumpIfReplaced label =>
    set { e with replaced := false }
    if e.replaced then placeOf label else return .next
  | .jumpUnlessReplaced label =>
    set { e with replaced := false }
    if e.replaced then return .next else placeOf label
  | .delete => return .cycle
  | .deleteLine =>
    let first ← firstLine
    if first.length < e.space.text.length then
      set
        { e with
          keeps := true
          space := { e.space with text := (e.space.text.drop (first.length + 1)).toString } }
    return .cycle
  | .execute command =>
    if command.isEmpty then
      let output ← outputOf e.space.text
      let output := if output.endsWith "\n" then (output.dropEnd 1).toString else output
      modify fun e => { e with space := { e.space with text := output } }
    else
      settleEnd
      emit (← outputOf command)
    return .next
  | .fileName =>
    settleEnd
    emit ((e.reading.map (·.name)).getD "-" ++ "\n")
    return .next
  | .get =>
    set { e with space := e.held }
    return .next
  | .getMore =>
    set
      { e with
        space :=
          { e.space with
            text := e.space.text ++ String.singleton e.manner.ending ++ e.held.text
            isEnded := e.held.isEnded } }
    return .next
  | .hold =>
    set { e with held := e.space }
    return .next
  | .holdMore =>
    set
      { e with
        held :=
          { e.held with
            text := e.held.text ++ String.singleton e.manner.ending ++ e.space.text
            isEnded := e.space.isEnded } }
    return .next
  | .list width =>
    settleEnd
    emit (listing (width.getD e.manner.width) e.space.text)
    return .next
  | .next =>
    if ← isLast then
      if !e.manner.isStrict then printUnlessQuiet
      writeAppended
      return .stop
    printUnlessQuiet
    if ← readSpace false then return .next else return .stop
  | .nextMore =>
    if ← isLast then
      if !e.manner.isStrict then printUnlessQuiet
      writeAppended
      return .stop
    if ← readSpace true then return .next else return .stop
  | .print =>
    printSpace
    return .next
  | .printLine =>
    emitLine (← firstLine) true
    return .next
  | .quit status =>
    printUnlessQuiet
    writeAppended
    quitWith status
  | .quitSilently status => quitWith status
  | .read name =>
    set { e with appended := e.appended ++ [Appended.file name] }
    return .next
  | .readLine name =>
    let rest ← match e.sources.find? fun source => source.1 == name with
      | some source => pure source.2
      | none => do
        match ← lift (wholeText (if name == "/dev/stdin" then "-" else name)) with
        | .ok text =>
          let (lines, pending) := piecesOf '\n' [] text.toList
          pure (lines.map (· ++ "\n")
            ++ if pending.isEmpty then [] else [String.ofList pending.reverse])
        | .error _ => pure []
    let others := e.sources.filter fun source => source.1 != name
    set
      { e with
        sources := (name, rest.drop 1) :: others
        appended := e.appended ++ (rest.head?.map Appended.text).toList }
    return .next
  | .substitute sub =>
    substitute sub
    return .next
  | .translate pairs =>
    let text := String.ofList (e.space.text.toList.map fun c =>
      ((pairs.find? fun pair => pair.1 == c).map (·.2)).getD c)
    set { e with space := { e.space with text } }
    return .next
  | .write name =>
    writeTo name e.space.text e.space.isEnded
    return .next
  | .writeLine name =>
    writeTo name (← firstLine) true
    return .next
  | .exchange =>
    set { e with space := e.held, held := e.space }
    return .next
  | .clear =>
    set { e with space := { e.space with text := "" } }
    return .next

/-- Carries out commands from a place on. -/
def carryOut : Nat → Nat → Edit Onward
  | 0, _ => lift (throw .exhausted)
  | fuel + 1, place => do
    let e ← get
    match e.script.commands[place]? with
    | none => return .finish
    | some command =>
      lift (tick 1)
      let holds := (← isInScope place command.scope) != command.scope.negated
      if holds then
        match ← perform place command with
        | .next => carryOut fuel (place + 1)
        | .goto place => carryOut fuel place
        | other => return other
      else
        match command.deed with
        | .opening closed => carryOut fuel (closed + 1)
        | _ => carryOut fuel (place + 1)

/-- The number of commands that are carried out at most. -/
def commandLimit : Nat := 1000000000

/-- Goes through the lines of all files. -/
def cycles : Nat → Edit Unit
  | 0 => lift (throw .exhausted)
  | fuel + 1 => do
    let isThere ← if (← get).keeps then do
        modify fun e => { e with keeps := false }
        writeAppended
        pure true
      else readSpace false
    if isThere then
      match ← carryOut commandLimit 0 with
      | .finish =>
        printUnlessQuiet
        cycles fuel
      | .cycle => cycles fuel
      | _ => pure ()

/-- Copies what is left of a file that is edited in place. -/
def copyRest : Nat → Edit Unit
  | 0 => pure ()
  | fuel + 1 => do
    if (← get).edited.isNone then return
    fillLines readLimit
    let e ← get
    match e.reading with
    | none => pure ()
    | some reading =>
      if Reading.hasLine reading then
        match ← nextLine with
        | some line =>
          emitLine line.text line.isEnded
          copyRest fuel
        | none => pure ()

/-- Goes through all files with a script. -/
def run : Edit Unit := do
  cycles commandLimit
  copyRest commandLimit
  closeFile

end Edit

/-- The files that commands write to. -/
def Script.targets (script : Script) : List String :=
  (script.commands.toList.filterMap fun command =>
    match command.deed with
    | .write name => some name
    | .writeLine name => some name
    | .substitute sub => sub.file
    | _ => none).eraseDups

end Editing
end Shell
end SuiteCoverage
