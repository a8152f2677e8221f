import SuiteCoverage.Shell.Utility.Launching

/-!
# Commands from what is read

The utility that divides what it reads into items and runs a command with as many of them as
arguments as it may have at once. In items that are divided by blanks, quotes and backslashes take
the meaning from characters.
-/

set_option autoImplicit false

namespace SuiteCoverage
namespace Shell
namespace Utility

open Effect

/-! ## Items -/

/-- What has been read for a command: a text, and whether a line ends behind it. -/
structure Item where
  text : String
  endsLine : Bool

/-- The items of a text, and the quote that is open at its end, if so. -/
abbrev Items := List Item × Option Char

/-- The items of a text between blanks, or its lines if `wholeLines`. `current` is the item that has
    begun, the last character first. -/
def itemsBetween (wholeLines : Bool) : Option (List Char) → Option Char → List Char → Items
  | current, quote, [] =>
    let last := current.map fun text => ⟨String.ofList text.reverse, true⟩
    (last.toList, quote)
  | none, quote, c :: rest =>
    if c.isWhitespace || c == '\x0b' || c == '\x0c' then itemsBetween wholeLines none quote rest
    else if c == '\'' || c == '"' then itemsBetween wholeLines (some []) (some c) rest
    else if c == '\\' then
      match rest with
      | d :: more => itemsBetween wholeLines (some [d]) none more
      | [] => ([], none)
    else itemsBetween wholeLines (some [c]) none rest
  | some current, some quote, c :: rest =>
    if c == quote then itemsBetween wholeLines (some current) none rest
    else if c == '\n' then ([], some quote)
    else itemsBetween wholeLines (some (c :: current)) (some quote) rest
  | some current, none, c :: rest =>
    let found (endsLine : Bool) : Items :=
      let (items, quote) := itemsBetween wholeLines none none rest
      (⟨String.ofList current.reverse, endsLine⟩ :: items, quote)
    if c == '\n' then
      if current.isEmpty then itemsBetween wholeLines none none rest
      else found (!(current.head?.any fun last => last == ' ' || last == '\t'))
    else if (c == ' ' || c == '\t') && !wholeLines then found false
    else if c == '\'' || c == '"' then itemsBetween wholeLines (some current) (some c) rest
    else if c == '\\' then
      match rest with
      | d :: more => itemsBetween wholeLines (some (d :: current)) none more
      | [] => ([⟨String.ofList current.reverse, true⟩], none)
    else itemsBetween wholeLines (some (c :: current)) none rest

/-- The items of a text that a character ends. -/
def itemsUpTo (ending : Char) (text : String) : List Item :=
  let (pieces, rest) := piecesOf ending [] text.toList
  let last := if rest.isEmpty then [] else [String.ofList rest.reverse]
  (pieces ++ last).map fun text => ⟨text, true⟩

/-! ## Options -/

/-- The options of `xargs`. -/
def xargsFlags : Flags :=
  ⟨"0oprtxeilW".toList, "adeEIilLnPs".toList,
    [("null", '0'), ("arg-file", 'a'), ("delimiter", 'd'), ("eof", 'e'), ("replace", 'i'),
      ("max-lines", 'l'), ("max-args", 'n'), ("open-tty", 'o'), ("max-procs", 'P'),
      ("interactive", 'p'), ("process-slot-var", 'V'), ("no-run-if-empty", 'r'),
      ("max-chars", 's'), ("show-limits", 'W'), ("verbose", 't'), ("exit", 'x')]⟩

/-- What a command may have at once. -/
structure Batching where
  /-- What stands for an item in the command, if items are put into it. -/
  pattern : Option String
  lines : Option Nat
  count : Option Nat
  size : Nat
  /-- Whether it is an error if what belongs together is too much. -/
  isStrict : Bool
  processes : Nat

/-- The most that a command may have, in characters. -/
def largestCommand : Nat := 131072

/-- The number that an option has as its value. -/
def batchNumber (letter : Char) (least : Nat) (text : String) : Except String Nat :=
  match signed? text with
  | none => .error ("invalid number \"" ++ text ++ "\" for -" ++ String.singleton letter ++ " option")
  | some n =>
    if n < least then
      .error ("value " ++ text ++ " for -" ++ String.singleton letter ++ " option should be >= "
        ++ toString least)
    else .ok n.toNat

/-- The limits with one that an option asks for. -/
def Batching.with (b : Batching) (option : Char × String) : Except String Batching :=
  match option.1 with
  | 'I' => .ok { b with pattern := some option.2, lines := none, count := none }
  | 'i' =>
    .ok { b with
      pattern := some (if option.2.isEmpty then "\x7b\x7d" else option.2)
      lines := none
      count := none }
  | 'L' => do
    let lines ← batchNumber 'L' 1 option.2
    return { b with lines := some lines, count := none, pattern := none }
  | 'l' => do
    let lines ← if option.2.isEmpty then pure 1 else batchNumber 'l' 1 option.2
    return { b with lines := some lines, count := none, pattern := none }
  | 'n' => do
    let count ← batchNumber 'n' 1 option.2
    if count == 1 && b.pattern.isSome then return b
    return { b with count := some count, lines := none, pattern := none }
  | 's' => do
    return { b with size := min (← batchNumber 's' 1 option.2) largestCommand }
  | 'P' => do
    let processes ← batchNumber 'P' 0 option.2
    return { b with processes := if processes == 0 then 1000 else processes }
  | 'x' => .ok { b with isStrict := true }
  | _ => .ok b

/-- The character that a value names. -/
def dividerNamed? (text : String) : Option Char :=
  match text.toList with
  | [c] => some c
  | ['\\', 'a'] => some '\x07'
  | ['\\', 'b'] => some '\x08'
  | ['\\', 'f'] => some '\x0c'
  | ['\\', 'n'] => some '\n'
  | ['\\', 'r'] => some '\r'
  | ['\\', 't'] => some '\t'
  | ['\\', 'v'] => some '\x0b'
  | ['\\', '\\'] => some '\\'
  | '\\' :: 'x' :: digits =>
    if digits.all fun c => (Arithmetic.digit? c).any (· < 16) then
      (Arithmetic.digits? 16 digits).map fun n => Char.ofNat (n % 256)
    else none
  | '\\' :: '0' :: digits =>
    if digits.all fun c => '0' ≤ c && c ≤ '7' then
      if digits.isEmpty then some '\x00'
      else (Arithmetic.digits? 8 digits).map fun n => Char.ofNat (n % 256)
    else none
  | _ => none

/-! ## Running commands -/

/-- What has become of the commands so far. -/
structure BatchState where
  /-- The processes that have not been waited for. -/
  running : List Nat
  hasRun : Bool
  hasFailed : Bool

/-- Ends `xargs` with a complaint. -/
def stopBatches {α : Type} (status : Nat) (complaint : String) : Effect α := do
  blame complaint
  throw (.exit status)

/-- Takes note of how a command ended. -/
def heedEnding (name : String) (b : BatchState) : Ending → Effect BatchState
  | .status 255 => stopBatches 124 (name ++ ": exited with status 255; aborting")
  | .status 0 => return b
  | .status _ => return { b with hasFailed := true }
  | .signal signal => stopBatches 125 (name ++ ": terminated by signal " ++ toString signal)

/-- Waits until no more than a number of commands run. -/
def waitBatches (name : String) (most : Nat) : Nat → BatchState → Effect BatchState
  | 0, b => return b
  | fuel + 1, b => do
    if b.running.length ≤ most then return b
    pause (fun s => b.running.any (hasEnded s)) none false
    let s ← state
    match b.running.find? (hasEnded s) with
    | none => return b
    | some process =>
      let ending ← endOf process
      let b ← heedEnding name { b with running := b.running.filter (· != process) } ending
      waitBatches name most fuel b

/-- Runs a command. -/
def runBatch (launcher : Launcher) (choice : Flags.Choice) (limits : Batching) (b : BatchState)
    (command : List String) : Effect BatchState := do
  let name := command.headD "echo"
  let b ← waitBatches name (limits.processes - 1) readLimit b
  if choice.has 't' || choice.has 'p' then
    let shown := " ".intercalate (command.map Quoting.nameIfNeeded)
    let _ ← writeTo ((← state).channelOf 2) (if choice.has 'p' then shown else shown ++ "\n")
  if choice.has 'p' then
    stopBatches 1 "failed to open /dev/tty for reading: No such device or address"
  match ← sought name (command.drop 1) with
  | .error fault => stopBatches (refusalOf fault) (name ++ ": " ++ fault.reason)
  | .ok invocation =>
    let keepsInput := (choice.value? 'a').isSome || choice.has 'o'
    let directions := if keepsInput then [] else [(0, Channel.device .null)]
    let process ← launch launcher directions invocation
    return { b with running := b.running ++ [process], hasRun := true }

/-- The size that words have in a command. -/
def sizeOfWords (words : List String) : Nat :=
  words.foldl (fun size word => size + (toBytes word).size + 1) 0

/-- A text in which every place of a pattern holds another text. -/
def replacedIn (pattern item : List Char) : Nat → List Char → List Char
  | 0, text => text
  | _, [] => []
  | fuel + 1, c :: rest =>
    if !pattern.isEmpty && pattern.isPrefixOf (c :: rest) then
      item ++ replacedIn pattern item fuel ((c :: rest).drop pattern.length)
    else c :: replacedIn pattern item fuel rest

/-- A word with an item in it. -/
def withItem (pattern item word : String) : String :=
  String.ofList (replacedIn pattern.toList item.toList (word.length + 1) word.toList)

/-- Runs commands with items; `batch` are those for the next command, the last one first, and
    `lines` the number of lines that end among them. If the items are `cut` off, no command is run
    with the last of them. -/
def runBatches (run : BatchState → List String → Effect BatchState) (limits : Batching)
    (command : List String) (cut : Bool) : List Item → List String → Nat → BatchState → Effect BatchState
  | [], batch, _, b => do
    if batch.isEmpty || cut then return b else run b (command ++ batch.reverse)
  | item :: rest, batch, lines, b => do
    let tooLong {α : Type} : Effect α := stopBatches 1 "argument line too long"
    let size := sizeOfWords command + sizeOfWords batch + sizeOfWords [item.text]
    let isFull := limits.size < size
    if isFull && (batch.isEmpty || limits.isStrict || limits.lines.isSome) then tooLong
    else
      let b ← if isFull then run b (command ++ batch.reverse) else pure b
      let batch := item.text :: (if isFull then [] else batch)
      let lines := (if isFull then 0 else lines) + if item.endsLine then 1 else 0
      if limits.count == some batch.length || limits.lines.any (· ≤ lines) then
        let b ← run b (command ++ batch.reverse)
        runBatches run limits command cut rest [] 0 b
      else runBatches run limits command cut rest batch lines b

/-- Runs commands with items put into them, one for each. -/
def runReplaced (run : BatchState → List String → Effect BatchState) (limits : Batching)
    (pattern : String) (command : List String) : List Item → BatchState → Effect BatchState
  | [], b => return b
  | item :: rest, b => do
    let words := command.take 1 ++ (command.drop 1).map (withItem pattern item.text)
    if limits.size < sizeOfWords words then stopBatches 1 "argument list too long"
    runReplaced run limits pattern command rest (← run b words)

/-- Runs commands with what is read as arguments. -/
def xargs (launcher : Launcher) (arguments : List String) : Effect Unit := do
  let refuse (complaint : String) : Effect Unit := blameCall complaint
  match xargsFlags.readFront arguments with
  | .error flaw => refuse flaw.complaint
  | .ok choice =>
    let usual : Batching := ⟨none, none, none, largestCommand, false, 1⟩
    match choice.options.foldlM Batching.with usual with
    | .error complaint => refuse complaint
    | .ok limits =>
      let divider? := if choice.has '0' then some '\x00' else (choice.value? 'd').bind dividerNamed?
      let isWrong := choice.options.any fun option =>
        option.1 == 'd' && (dividerNamed? option.2).isNone
      if isWrong then
        blame ("Invalid input delimiter specification " ++ (choice.value? 'd').getD ""
          ++ ": the delimiter must be either a single character or an escape sequence starting"
          ++ " with \\.")
        throw (.exit 1)
      let text ← match choice.value? 'a' with
        | none => pure ((← readInput).toOption.getD "")
        | some file =>
          match ← wholeText file with
          | .ok text => pure text
          | .error fault =>
            stopBatches 1 ("Cannot open input file " ++ Quoting.name file ++ ": " ++ fault.reason)
      let (items, quote) := match divider? with
        | some divider => (itemsUpTo divider text, none)
        | none => itemsBetween limits.pattern.isSome none none text.toList
      let final := (choice.value? 'E').orElse fun _ => (choice.value? 'e').filter (!·.isEmpty)
      let items := if divider?.isSome then items else
        items.takeWhile fun item => some item.text != final
      let command := if choice.operands.isEmpty then ["echo"] else choice.operands
      let run := runBatch launcher choice limits
      let first : BatchState := ⟨[], false, false⟩
      let finish (b : BatchState) : Effect BatchState := do
        let b ← waitBatches (command.headD "") 0 readLimit b
        quote.forM fun c =>
          stopBatches 1 ("unmatched " ++ (if c == '"' then "double" else "single")
            ++ " quote; by default quotes are special to xargs unless you use the -0 option")
        return b
      let b ← match limits.pattern with
        | some pattern => do
          finish (← runReplaced run limits pattern command items first)
        | none => do
          let b ← runBatches run limits command quote.isSome items [] 0 first
          if items.isEmpty && quote.isNone && !choice.has 'r' then finish (← run b command)
          else finish b
      setStatus (if b.hasFailed then 123 else 0)

end Utility
end Shell
end SuiteCoverage
