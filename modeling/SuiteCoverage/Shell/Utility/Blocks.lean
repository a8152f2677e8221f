import SuiteCoverage.Shell.Utility.Basic

/-!
# Copying in blocks

The utility that copies what it reads block by block, from and to places that are told in blocks or
bytes, and that may change what it copies on the way.
-/

set_option autoImplicit false

namespace SuiteCoverage
namespace Shell
namespace Utility

open Effect

/-- What the words of operands name. -/
def blockWords : List (String × List String) :=
  [("conv", ["ascii", "ebcdic", "ibm", "block", "unblock", "lcase", "ucase", "sparse", "swab",
      "sync", "excl", "nocreat", "notrunc", "noerror", "fdatasync", "fsync"]),
    ("iflag", ["append", "direct", "directory", "dsync", "sync", "fullblock", "nonblock", "noatime",
      "nocache", "noctty", "nofollow", "count_bytes", "skip_bytes"]),
    ("oflag", ["append", "direct", "directory", "dsync", "sync", "nonblock", "noatime", "nocache",
      "noctty", "nofollow", "seek_bytes"])]

/-- How a file is copied. -/
structure BlockCopy where
  input : Option String
  output : Option String
  inputSize : Nat
  outputSize : Nat
  /-- Whether both sizes have been given as one. -/
  isPlain : Bool
  recordSize : Nat
  skip : Nat
  seek : Nat
  count : Option Nat
  skipsBytes : Bool
  seeksBytes : Bool
  countsBytes : Bool
  words : List String
  status : String

/-- How a file is copied unless something else is asked for. -/
def BlockCopy.usual : BlockCopy :=
  ⟨none, none, 512, 512, false, 0, 0, 0, none, false, false, false, [], ""⟩

/-- The product of sizes with the letter between them. -/
def blockNumber? (text : String) : Option Nat :=
  ((text.splitOn "x").mapM size?).map fun factors => factors.foldl (· * ·) 1

/-- The number of an operand, and whether it counts bytes. -/
def blockCount? (text : String) : Option (Nat × Bool) :=
  match blockNumber? text with
  | some n => some (n, false)
  | none =>
    if text.endsWith "B" then (blockNumber? (text.dropEnd 1).toString).map fun n => (n, true)
    else none

/-- Why an operand cannot be used: the complaint, and whether to tell where help is. -/
abbrev OperandFlaw := String × Bool

/-- A copy with what an operand asks for. -/
def BlockCopy.with (copy : BlockCopy) (operand : String) : Except OperandFlaw BlockCopy := do
  let chars := operand.toList
  let key := String.ofList (chars.takeWhile (· != '='))
  let value := String.ofList (chars.drop (key.length + 1))
  if !chars.contains '=' then throw ("unrecognized operand " ++ Quoting.name operand, true)
  let invalid : OperandFlaw := ("invalid number: " ++ Quoting.name value, false)
  let number : Except OperandFlaw (Nat × Bool) :=
    (blockCount? value).elim (throw invalid) pure
  let size : Except OperandFlaw Nat := do
    let (n, _) ← number
    if n == 0 then throw invalid
    return n
  let worded (kind : String) : Except OperandFlaw (List String) := do
    let known := ((blockWords.find? fun entry => entry.1 == kind).map (·.2)).getD []
    let names := value.splitOn ","
    match names.find? fun name => !known.contains name with
    | some name =>
      let what := if kind == "conv" then "invalid conversion: "
        else if kind == "iflag" then "invalid input flag: " else "invalid output flag: "
      throw (what ++ Quoting.name name, true)
    | none => return names.map (kind ++ "=" ++ ·)
  match key with
  | "if" => return { copy with input := some value }
  | "of" => return { copy with output := some value }
  | "ibs" => return { copy with inputSize := ← size }
  | "obs" => return { copy with outputSize := ← size }
  | "bs" => do
    let n ← size
    return { copy with inputSize := n, outputSize := n, isPlain := true }
  | "cbs" => return { copy with recordSize := ← size }
  | "skip" => do
    let (n, isBytes) ← number
    return { copy with skip := n, skipsBytes := copy.skipsBytes || isBytes }
  | "iseek" => do
    let (n, isBytes) ← number
    return { copy with skip := n, skipsBytes := copy.skipsBytes || isBytes }
  | "seek" => do
    let (n, isBytes) ← number
    return { copy with seek := n, seeksBytes := copy.seeksBytes || isBytes }
  | "oseek" => do
    let (n, isBytes) ← number
    return { copy with seek := n, seeksBytes := copy.seeksBytes || isBytes }
  | "count" => do
    let (n, isBytes) ← number
    return { copy with count := some n, countsBytes := copy.countsBytes || isBytes }
  | "status" =>
    if ["none", "noxfer", "progress"].contains value then return { copy with status := value }
    else throw ("invalid status level: " ++ Quoting.name value, true)
  | "conv" => return { copy with words := copy.words ++ (← worded "conv") }
  | "iflag" => return { copy with words := copy.words ++ (← worded "iflag") }
  | "oflag" => return { copy with words := copy.words ++ (← worded "oflag") }
  | _ => throw ("unrecognized operand " ++ Quoting.name operand, true)

/-- Whether a word has been given. -/
def BlockCopy.has (copy : BlockCopy) (word : String) : Bool := copy.words.contains word

/-! ## Changing what is copied -/

/-- Bytes in pairs whose bytes have changed places. -/
def swapped : List UInt8 → List UInt8
  | a :: b :: rest => b :: a :: swapped rest
  | rest => rest

/-- Bytes with letters of one case instead of the other. -/
def recased (copy : BlockCopy) (byte : UInt8) : UInt8 :=
  if copy.has "conv=lcase" && 0x41 ≤ byte && byte ≤ 0x5A then byte + 0x20
  else if copy.has "conv=ucase" && 0x61 ≤ byte && byte ≤ 0x7A then byte - 0x20
  else byte

/-- A block as it is copied. One that is too short is filled up if that is asked for. -/
def BlockCopy.changed (copy : BlockCopy) (block : ByteArray) : ByteArray :=
  let padding : UInt8 := if copy.has "conv=block" || copy.has "conv=unblock" then 0x20 else 0
  let missing := if copy.has "conv=sync" then copy.inputSize - block.size else 0
  let bytes := block.toList ++ List.replicate missing padding
  let bytes := if copy.has "conv=swab" then swapped bytes else bytes
  ⟨(bytes.map (recased copy)).toArray⟩

/-- Lines as records of a size: filled up with blanks, or cut off. Gives back how many were cut. -/
def blocked (size : Nat) (text : ByteArray) : ByteArray × Nat :=
  let (lines, rest) := piecesOf '\n' [] (ofBytes text).toList
  let all := lines ++ if rest.isEmpty then [] else [String.ofList rest.reverse]
  let records := all.map fun line =>
    (line.toList.take size) ++ List.replicate (size - line.length) ' '
  (toBytes (String.ofList records.flatten), (all.filter fun line => size < line.length).length)

/-- Records of a size as lines, without the blanks at their ends. -/
def unblocked (size : Nat) : Nat → List UInt8 → List UInt8
  | 0, _ => []
  | fuel + 1, bytes =>
    if bytes.isEmpty then []
    else
      let record := bytes.take size
      (record.reverse.dropWhile (· == 0x20)).reverse ++ 0x0A :: unblocked size fuel (bytes.drop size)

/-! ## Copying -/

/-- How many blocks have been read and written. -/
structure BlockTally where
  wholeIn : Nat
  partIn : Nat
  wholeOut : Nat
  partOut : Nat
  bytes : Nat
  truncated : Nat
  /-- What has been read and not been written yet. -/
  pending : ByteArray
  /-- Whether something went wrong. -/
  failed : Bool

/-- Reads a block; it is read whole from what never ends. -/
def readBlock (channel : Channel) (size : Nat) (isFull : Bool) :
    Nat → ByteArray → Effect (Except Fault ByteArray)
  | 0, before => return .ok before
  | fuel + 1, before => do
    match ← readSome (some channel) (size - before.size) with
    | .error fault => return .error fault
    | .ok bytes =>
      let now := before ++ bytes
      let isDevice := match channel with
        | .device _ => true
        | _ => false
      if bytes.isEmpty || size ≤ now.size || !(isFull || isDevice) then return .ok now
      readBlock channel size isFull fuel now

/-- Writes a block, and counts it. -/
def writeBlock (copy : BlockCopy) (channel : Option Channel) (block : ByteArray)
    (tally : BlockTally) : Effect BlockTally := do
  if block.isEmpty then return tally
  match ← writeBytes channel block with
  | some fault =>
    blame ("error writing " ++ Quoting.name (copy.output.getD "standard output") ++ ": "
      ++ fault.reason)
    return { tally with failed := true }
  | none =>
    let isWhole := block.size == copy.outputSize
    return { tally with
      wholeOut := tally.wholeOut + if isWhole then 1 else 0
      partOut := tally.partOut + if isWhole then 0 else 1
      bytes := tally.bytes + block.size }

/-- Writes whole blocks of what is pending. -/
def writePending (copy : BlockCopy) (channel : Option Channel) :
    Nat → BlockTally → Effect BlockTally
  | 0, tally => return tally
  | fuel + 1, tally => do
    if tally.pending.size < copy.outputSize || tally.failed then return tally
    let block := tally.pending.extract 0 copy.outputSize
    let pending := tally.pending.extract copy.outputSize tally.pending.size
    writePending copy channel fuel (← writeBlock copy channel block { tally with pending })

/-- Copies block by block; `room` is how many bytes may still be read, if they are counted. -/
def copyBlocks (copy : BlockCopy) (input : Channel) (output : Option Channel) :
    Nat → Option Nat → BlockTally → Effect BlockTally
  | 0, _, tally => return tally
  | fuel + 1, room, tally => do
    let blocks := tally.wholeIn + tally.partIn
    let isDone := tally.failed || room == some 0
      || (!copy.countsBytes && copy.count.any (· ≤ blocks))
    if isDone then return tally
    tick 1
    let size := room.elim copy.inputSize (min copy.inputSize)
    match ← readBlock input size (copy.has "iflag=fullblock") readLimit .empty with
    | .error fault =>
      let name := copy.input.getD "standard input"
      blame ("error reading " ++ Quoting.name name ++ ": " ++ fault.reason)
      return { tally with failed := true }
    | .ok block =>
      if block.isEmpty then return tally
      let isWhole := block.size == copy.inputSize
      let tally := { tally with
        wholeIn := tally.wholeIn + if isWhole then 1 else 0
        partIn := tally.partIn + if isWhole then 0 else 1 }
      let changed := copy.changed block
      let converts := copy.words.any fun word =>
        word.startsWith "conv=" && !(["conv=sync", "conv=noerror", "conv=notrunc", "conv=excl",
          "conv=nocreat", "conv=fsync", "conv=fdatasync", "conv=sparse"].contains word)
      let tally ← if copy.isPlain && !converts then
          writeBlock copy output changed tally
        else
          writePending copy output (changed.size / copy.outputSize + 2)
            { tally with pending := tally.pending ++ changed }
      copyBlocks copy input output fuel (room.map (· - block.size)) tally

/-- Records counted in words. -/
def recordsLine (whole part : Nat) (what : String) : String :=
  toString whole ++ "+" ++ toString part ++ " records " ++ what

/-- A number of bytes with three digits at most and a unit. -/
def roundedSize (base : Nat) (n : Nat) : String :=
  let units := if base == 1024 then ["", "Ki", "Mi", "Gi", "Ti"] else ["", "k", "M", "G", "T"]
  let rec climb : Nat → Nat → List String → String
    | 0, _, _ => toString n
    | _, _, [] => toString n
    | fuel + 1, scale, unit :: rest =>
      if n < scale * base || rest.isEmpty then
        if scale == 1 then toString n ++ " "
        else
          let tenths := Binary64.nearestEven (10 * n) scale
          if tenths < 100 then
            toString (tenths / 10) ++ "." ++ toString (tenths % 10) ++ " " ++ unit
          else toString (Binary64.nearestEven n scale) ++ " " ++ unit
      else climb fuel (scale * base) rest
  climb 6 1 units ++ "B"

/-- Tells how much has been copied. -/
def tellTally (copy : BlockCopy) (started : Nat) (tally : BlockTally) : Effect Unit := do
  if copy.status != "none" then
    complain (recordsLine tally.wholeIn tally.partIn "in")
    complain (recordsLine tally.wholeOut tally.partOut "out")
    if 0 < tally.truncated then
      complain (toString tally.truncated ++ " truncated record"
        ++ if tally.truncated == 1 then "" else "s")
    if copy.status != "noxfer" then
      let sizes := (if 1000 ≤ tally.bytes then [roundedSize 1000 tally.bytes] else [])
        ++ if 1024 ≤ tally.bytes then [roundedSize 1024 tally.bytes] else []
      let shown := if sizes.isEmpty then "" else " (" ++ ", ".intercalate sizes ++ ")"
      let time := max 1 ((← state).time - started)
      let speed := roundedSize 1000 (tally.bytes * Duration.second / time)
      let seconds := NumberStyle.general.text false none
        (Binary64.round time Duration.second)
      complain (toString tally.bytes ++ (if tally.bytes == 1 then " byte" else " bytes") ++ shown
        ++ " copied, " ++ String.ofList seconds ++ " s, " ++ speed ++ "/s")

/-- Opens what is written to: a file is cut off where writing begins, unless it is to be kept. -/
def openOutput (copy : BlockCopy) (name : String) : Effect (Except Fault Channel) := do
  let s ← state
  let p := pathOf name
  match (Redirection.descriptorAt? name).bind s.channelOf with
  | some channel => return .ok channel
  | none =>
    let place := if copy.seeksBytes then copy.seek else copy.seek * copy.outputSize
    let isThere := (s.world.stat p).toOption.isSome
    if copy.has "conv=excl" && isThere then return .error .alreadyThere
    if copy.has "conv=nocreat" && !isThere then return .error .notFound
    let appends := copy.has "oflag=append"
    let keeps := copy.has "conv=notrunc"
    let opened : Except Fault World := do
      let world ← s.world.append p .empty
      if keeps then return world
      match world.readBytes p with
      | .ok old =>
        let gap : ByteArray := ⟨(List.replicate (place - old.size) 0).toArray⟩
        if place == 0 then world.write p .empty else world.write p (old.extract 0 place ++ gap)
      | .error _ => return world
    match opened with
    | .error fault => return .error fault
    | .ok world =>
      change fun s => { s with world }
      let channel ← Redirection.openAt (if appends then .appending else .writing) p
      match channel with
      | .opened number => if 0 < place then moveTo number place
      | _ => pure ()
      return .ok channel

/-- Passes over the start of what is read; it is read if it cannot be passed over otherwise. -/
def skipInput (copy : BlockCopy) (channel : Channel) (bytes : Nat) : Effect Unit := do
  let s ← state
  if isSeekable s channel then
    match available s (some channel) with
    | .ok (rest, _) =>
      if rest.size < bytes && copy.status != "none" then
        blame (Quoting.nameIfNeeded (copy.input.getD "standard input")
          ++ ": cannot skip to specified offset")
      passOver (some channel) (min bytes rest.size)
    | .error _ => pure ()
  else
    let found ← readBlock channel bytes true readLimit .empty
    let isShort := match found with
      | .ok read => read.size < bytes
      | .error _ => true
    if isShort && copy.status != "none" then
      blame (Quoting.nameIfNeeded (copy.input.getD "standard input")
        ++ ": cannot skip to specified offset")

/-- Copies between channels. -/
def copyBetween (copy : BlockCopy) (input : Channel) (output : Option Channel) : Effect Unit := do
  let started := (← state).time
  let skipped := if copy.skipsBytes || copy.has "iflag=skip_bytes" then copy.skip
    else copy.skip * copy.inputSize
  if 0 < skipped then skipInput copy input skipped
  let isBytes := copy.countsBytes || copy.has "iflag=count_bytes"
  let copy := { copy with countsBytes := isBytes }
  let room := if isBytes then copy.count else none
  let tally ← copyBlocks copy input output stepsOfCopy room ⟨0, 0, 0, 0, 0, 0, .empty, false⟩
  let (last, truncated) :=
    if copy.has "conv=block" && 0 < copy.recordSize then blocked copy.recordSize tally.pending
    else if copy.has "conv=unblock" && 0 < copy.recordSize then
      (⟨(unblocked copy.recordSize (tally.pending.size + 1) tally.pending.toList).toArray⟩, 0)
    else (tally.pending, 0)
  let tally ← writePending copy output (last.size / copy.outputSize + 2)
    { tally with pending := last, truncated }
  let tally ← if tally.failed then pure tally else writeBlock copy output tally.pending tally
  tellTally copy started tally
  Builtin.answer (!tally.failed)
where
  /-- The largest number of blocks that are copied. -/
  stepsOfCopy : Nat := 1000000000

/-- Copies a file in blocks. -/
def dd (arguments : List String) : Effect Unit := do
  let words := if arguments.head? == some "--" then arguments.drop 1 else arguments
  match words.foldlM BlockCopy.with BlockCopy.usual with
  | .error (complaint, true) => blameCall complaint
  | .error (complaint, false) =>
    blame complaint
    setStatus 1
  | .ok copy =>
    let copy := { copy with seeksBytes := copy.seeksBytes || copy.has "oflag=seek_bytes" }
    let refuse (name : String) (fault : Fault) : Effect Unit := do
      blame ("failed to open " ++ Quoting.name name ++ ": " ++ fault.reason)
      setStatus 1
    let fromChannel (input : Channel) : Effect Unit := do
      match copy.output with
      | none => copyBetween copy input ((← state).channelOf 1)
      | some name =>
        match ← openOutput copy name with
        | .error fault => refuse name fault
        | .ok output =>
          holding [output] (copyBetween copy input (some output))
    match copy.input with
    | none =>
      match (← state).channelOf 0 with
      | some input => fromChannel input
      | none => refuse "standard input" .badDescriptor
    | some name =>
      match ← openNamed name with
      | .error fault => refuse name fault
      | .ok input => holding [input] (fromChannel input)

end Utility
end Shell
end SuiteCoverage
