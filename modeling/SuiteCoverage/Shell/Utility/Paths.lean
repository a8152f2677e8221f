import SuiteCoverage.Calendar
import SuiteCoverage.Regex.Reading
import SuiteCoverage.Shell.Utility.Files
import SuiteCoverage.Shell.Utility.Listing

/-!
# Utilities for paths and nodes

The utilities that follow paths to their ends, tell what is known of files, make queues, temporary
files and files of a size, and copy with modes.
-/

set_option autoImplicit false

namespace SuiteCoverage
namespace Shell
namespace Utility

open Effect

/-! ## Where paths lead -/

/-- How much of a path has to be there. -/
inductive Presence where
  | all
  | allButLast
  | nothing
deriving DecidableEq

/-- The absolute path that a path leads to, without links and steps that go nowhere. -/
def canonical (w : World) (presence : Presence) (p : Pathname) : Except Fault String :=
  let shown (loc : Location) : String := ofText (World.pathOf loc).spelling
  match w.locate .through p with
  | .ok (.present loc _) => .ok (shown loc)
  | .ok (.removed _) => .error .notFound
  | .ok (.vacant parent name) =>
    if presence = .all then .error .notFound else .ok (shown (parent ++ [name]))
  | .error fault =>
    if presence != .nothing || p.spelling.isEmpty then .error fault
    else
      let names := (Pathname.pieces p.spelling.toList).filter (!·.isEmpty)
      let start : Location := if p.isAbsolute then [] else w.cwd.standing
      let counts := (List.range names.length).reverse
      let reached := counts.findSome? fun count =>
        let front := String.ofList ((if p.isAbsolute then ['/'] else ['.', '/'])
          ++ ['/'].intercalate (names.take count))
        match w.locate .through ⟨front⟩ with
        | .ok (.present loc _) => some (loc, names.drop count)
        | .ok (.vacant parent name) => some (parent ++ [name], names.drop count)
        | _ => none
      let (loc, rest) := reached.getD (start, names)
      .ok (shown (rest.foldl
        (fun loc name =>
          if name == ['.'] then loc
          else if name == ['.', '.'] then loc.dropLast
          else loc ++ [String.ofList name])
        loc))

/-- The options of `readlink`. -/
def readlinkFlags : Flags :=
  ⟨"femnqsvz".toList, [],
    [("canonicalize", 'f'), ("canonicalize-existing", 'e'), ("canonicalize-missing", 'm'),
      ("no-newline", 'n'), ("quiet", 'q'), ("silent", 's'), ("verbose", 'v'), ("zero", 'z')]⟩

/-- Shows where links lead. -/
def readlink (arguments : List String) : Effect Unit :=
  withFlags 1 readlinkFlags arguments fun choice => do
    let w := (← state).world
    let presence? := (choice.options.reverse.find? fun option => "fem".toList.contains option.1).map
      fun option => if option.1 == 'e' then Presence.all
        else if option.1 == 'm' then .nothing else .allButLast
    let find (argument : String) : Except Fault String :=
      match presence? with
      | some presence => canonical w presence (pathOf argument)
      | none =>
        match nodeAt w (pathOf argument) with
        | .ok (.link target) => .ok (ofText target)
        | .ok _ => .error .invalidArgument
        | .error fault => .error fault
    if choice.operands.isEmpty then blameCall "missing operand"
    else
      let isBare := choice.has 'n' && choice.operands.length == 1
      let results ← choice.operands.mapM fun argument => do
        match find argument with
        | .ok text =>
          say (text ++ (if isBare then "" else if choice.has 'z' then "\x00" else "\n"))
          return true
        | .error fault =>
          if choice.has 'v' then blameName argument fault
          return false
      Builtin.answer (results.all id)

/-- A path as it is seen from a directory. -/
def relativeTo (base path : String) : String :=
  let steps (text : String) : List String :=
    ((Pathname.pieces text.toList).filter (!·.isEmpty)).map String.ofList
  let here := steps base
  let there := steps path
  let common := ((here.zip there).takeWhile fun pair => pair.1 == pair.2).length
  let ups := List.replicate (here.length - common) ".."
  let names := ups ++ there.drop common
  if names.isEmpty then "." else "/".intercalate names

/-- Shows absolute paths. -/
def realpath (arguments : List String) : Effect Unit :=
  let flags : Flags := ⟨"eEmLPqsz".toList, "tb".toList,
    [("canonicalize-existing", 'e'), ("canonicalize-missing", 'm'), ("logical", 'L'),
      ("physical", 'P'), ("quiet", 'q'), ("relative-to", 't'), ("relative-base", 'b'),
      ("strip", 's'), ("no-symlinks", 's'), ("zero", 'z')]⟩
  withFlags 1 flags arguments fun choice => do
    let s ← state
    let w := s.world
    let presence : Presence := if choice.has 'e' then .all
      else if choice.has 'm' then .nothing else .allButLast
    let lexical (argument : String) : String :=
      let start := if argument.startsWith "/" then argument
        else ofText ((w.currentDirectory.toOption.map (·.spelling)).getD "/") ++ "/" ++ argument
      let steps := ((Pathname.pieces start.toList).filter fun name =>
        !name.isEmpty && name != ['.'])
      let kept := steps.foldl
        (fun (found : List (List Char)) name =>
          if name == ['.', '.'] then found.dropLast else found ++ [name]) []
      "/" ++ "/".intercalate (kept.map String.ofList)
    let find (argument : String) : Except Fault String :=
      if choice.has 's' then
        if argument.isEmpty then .error .notFound else .ok (lexical argument)
      else canonical w presence (pathOf argument)
    if choice.operands.isEmpty then blameCall "missing operand"
    else
      let base := (choice.value? 't').bind fun text => (find text).toOption
      let under := (choice.value? 'b').bind fun text => (find text).toOption
      let results ← choice.operands.mapM fun argument => do
        match find argument with
        | .ok text =>
          let isUnder (base : String) : Bool := text == base || text.startsWith (base ++ "/")
          let shown := match base, under with
            | some base, none => relativeTo base text
            | none, some under => if isUnder under then relativeTo under text else text
            | some base, some under => if isUnder under then relativeTo base text else text
            | none, none => text
          say (shown ++ (if choice.has 'z' then "\x00" else "\n"))
          return true
        | .error fault =>
          if !choice.has 'q' then blameName argument fault
          return false
      Builtin.answer (results.all id)

/-! ## What is known of files -/

/-- The options of `stat`. -/
def statFlags : Flags :=
  ⟨"fLt".toList, "cp".toList,
    [("dereference", 'L'), ("file-system", 'f'), ("format", 'c'), ("printf", 'p'),
      ("terse", 't')]⟩

/-- What a node is called by its kind. -/
def kindName : Node → String
  | .directory .. => "directory"
  | .link _ => "symbolic link"
  | .device _ => "character special file"
  | .queue .. => "fifo"
  | .file content _ => if content.isEmpty then "regular empty file" else "regular file"
  | .program _ => "regular file"

/-- The bits for the kind of a node in front of those of its mode. -/
def kindBits : Node → Nat
  | .directory .. => 0o040000
  | .link _ => 0o120000
  | .device _ => 0o020000
  | .queue .. => 0o010000
  | _ => 0o100000

/-- A number that stands for a location. -/
def locationNumber (loc : Location) : Nat :=
  (World.pathOf loc).spelling.toList.foldl (fun n c => (n * 31 + c.toNat) % 16777213) 1000

/-- The time of a node as it is shown. -/
def nodeTime (node : Node) : String :=
  let micros := node.facts.changed
  let m := Calendar.Moment.ofSeconds (Int.fdiv micros Duration.second)
    ((Int.fmod micros Duration.second).toNat * 1000)
  m.shown 0 "UTC" "%Y-%m-%d %H:%M:%S.%N %z"

/-- What a letter of a format tells of a node. -/
def statPart (w : World) (argument : String) (loc : Location) (node : Node) (c : Char) : String :=
  let seconds := toString (Int.fdiv node.facts.changed Duration.second)
  let owner := if node.facts.isForeign then "root" else "user"
  let ownerNumber := if node.facts.isForeign then "0" else "1000"
  match c with
  | 'a' => String.ofList (Nat.toDigits 8 node.mode.bits)
  | 'A' => nodeLetters node
  | 'b' => toString (2 * blocksOf node)
  | 'B' => "512"
  | 'd' => "1"
  | 'D' => "1"
  | 'f' => String.ofList (Nat.toDigits 16 (kindBits node + node.mode.bits))
  | 'F' => kindName node
  | 'g' => ownerNumber
  | 'G' => owner
  | 'h' => toString (linksOf w.disk node)
  | 'i' => toString ((node.facts.identity.map (· + 100)).getD (locationNumber loc))
  | 'm' => "/"
  | 'n' => argument
  | 'N' =>
    match node with
    | .link target => Quoting.name argument ++ " -> " ++ Quoting.name (ofText target)
    | _ => Quoting.nameIfNeeded argument
  | 'o' => "4096"
  | 's' => toString (sizeOfNode node)
  | 't' => "0"
  | 'T' => "0"
  | 'u' => ownerNumber
  | 'U' => owner
  | 'w' => "-"
  | 'W' => "0"
  | 'x' => nodeTime node
  | 'X' => seconds
  | 'y' => nodeTime node
  | 'Y' => seconds
  | 'z' => nodeTime node
  | 'Z' => seconds
  | '%' => "%"
  | _ => "?"

/-- Shows what a format asks for; `escapes` tells that a backslash can stand in front of a letter. -/
def statText (part : Char → String) (escapes : Bool) : Nat → List Char → List Char
  | 0, _ => []
  | _, [] => []
  | fuel + 1, '%' :: rest =>
    let flags := rest.takeWhile "-+#0 ".toList.contains
    let after := rest.drop flags.length
    let digits := after.takeWhile Char.isDigit
    let after := after.drop digits.length
    let precision := match after with
      | '.' :: more => more.takeWhile Char.isDigit
      | _ => []
    let after := match after with
      | '.' :: more => more.drop precision.length
      | more => more
    match after with
    | [] => '%' :: rest
    | c :: more =>
      let text := part c
      let text := if precision.isEmpty then text
        else String.ofList (text.toList.take (((String.ofList precision).toNat?).getD 0))
      let width := ((String.ofList digits).toNat?).getD 0
      let padded := if flags.contains '-' then Text.padRight width text
        else if flags.contains '0' then
          String.ofList (List.replicate (width - text.length) '0') ++ text
        else Text.padLeft width text
      padded.toList ++ statText part escapes fuel more
  | fuel + 1, '\\' :: c :: rest =>
    if escapes then Regex.Reader.controlOf c :: statText part escapes fuel rest
    else '\\' :: statText part escapes fuel (c :: rest)
  | fuel + 1, c :: rest => c :: statText part escapes fuel rest

/-- The format of all that is known of a node. -/
def statUsual (node : Node) : String :=
  let name := match node with
    | .link _ => "%N"
    | _ => "%n"
  "  File: " ++ name ++ "\n  Size: %-10s\tBlocks: %-10b IO Block: %-6o %F\nDevice: 0,1\tInode: "
    ++ "%-11i Links: %h\nAccess: (%04a/%10.10A)  Uid: (%5u/%8U)   Gid: (%5g/%8G)\nAccess: %x\n"
    ++ "Modify: %y\nChange: %z\n Birth: %w\n"

/-- Shows what is known of files. -/
def stat (arguments : List String) : Effect Unit :=
  withFlags 1 statFlags arguments fun choice => do
    if choice.operands.isEmpty then blameCall "missing operand"
    else
      let w := (← state).world
      let results ← choice.operands.mapM fun argument => do
        let approach : Approach := if choice.has 'L' then .through else .upTo
        let found : Except Fault (Location × Node) := match w.locate approach (pathOf argument) with
          | .ok (.present loc node) => .ok (loc, node)
          | .ok (.removed f) => .ok (f.standing, Node.gone)
          | .ok (.vacant ..) => .error .notFound
          | .error fault => .error fault
        match found with
        | .error fault =>
          blame ("cannot statx " ++ Quoting.name argument ++ ": " ++ fault.reason)
          return false
        | .ok (loc, node) =>
          let part := statPart w argument loc node
          let shown (escapes : Bool) (format : String) : String :=
            String.ofList (statText part escapes (format.length + 1) format.toList)
          let last := choice.options.reverse.find? fun option => "cp".toList.contains option.1
          match last with
          | some ('c', format) => say (shown false format ++ "\n")
          | some (_, format) => say (shown true format)
          | none => say (shown false (statUsual node))
          return true
      Builtin.answer (results.all id)

/-! ## Making nodes -/

/-- The mode that an option asks for, or what is wrong with it. -/
def modeOf (w : World) (choice : Flags.Choice) (usual : Nat) : Except String (Option Mode) :=
  match choice.value? 'm' with
  | none => .ok none
  | some text =>
    match Mode.Adjustment.ofText? text with
    | some adjustment => .ok (some (adjustment.apply w.mask false ⟨usual⟩))
    | none => .error "invalid mode"

/-- Makes queues. -/
def mkfifo (arguments : List String) : Effect Unit :=
  withFlags 1 ⟨"Z".toList, "m".toList, [("mode", 'm')]⟩ arguments fun choice => do
    let s ← state
    match modeOf s.world choice 0o666, choice.operands with
    | .error complaint, _ =>
      blame complaint
      setStatus 1
    | .ok _, [] => blameCall "missing operand"
    | .ok mode, operands =>
      forEach (fun w argument => do
        let facts : Facts := match mode with
          | some mode => .new mode w.fileTime
          | none => w.newFacts ⟨0o666⟩
        let number := 1000000 + (Entries.identities w.disk.root).length + w.started * 1000
          + w.now % 1000
        let next ← (w.make (.queue number facts) (pathOf argument)).mapError
          (usual "cannot create fifo" argument)
        return (next, [])) operands

/-- Letters and digits that look like none chosen. -/
def randomText (seed count : Nat) : String :=
  let alphabet := "abcdefghijklmnopqrstuvwxyzABCDEFGHIJKLMNOPQRSTUVWXYZ0123456789".toList
  String.ofList ((List.range count).map fun i =>
    let n := ((seed + 17 * i + 3) * 2654435761 + i * 40503) / 64 % 4294967291
    alphabet[n % 62]?.getD 'x')

/-- The options of `mktemp`. -/
def mktempFlags : Flags :=
  ⟨"dqutp".toList, "ps".toList,
    [("directory", 'd'), ("dry-run", 'u'), ("quiet", 'q'), ("suffix", 's'), ("tmpdir", 'p')]⟩

/-- Makes a file or a directory with a name that nothing had. -/
def mktemp (arguments : List String) : Effect Unit :=
  withFlags 1 mktempFlags (joinValue arguments) fun choice => do
    let refuse {α : Type} (complaint : String) : Effect α := do
      if !choice.has 'q' then blame complaint
      throw (.exit 1)
    let s ← state
    match choice.operands with
    | _ :: _ :: _ => blameCall "too many templates"
    | operands =>
      let given := operands.headD "tmp.XXXXXXXXXX"
      let ending := (choice.value? 's').getD ""
      let body := given.toList
      let behind := (body.reverse.takeWhile (· != 'X')).reverse
      let front := body.take (body.length - behind.length)
      let marks := (front.reverse.takeWhile (· == 'X')).length
      if !operands.isEmpty && (choice.value? 's').isSome && !behind.isEmpty then
        refuse ("with --suffix, template " ++ Quoting.name given ++ " must end in X")
      if marks < 3 then refuse ("too few X's in template " ++ Quoting.name given)
      let name := String.ofList (front.take (front.length - marks))
        ++ randomText (s.process * 1000 + s.time + s.world.started) marks
        ++ String.ofList behind ++ ending
      let usesTmp := operands.isEmpty || choice.has 'p' || choice.has 't'
      let place := match (choice.value? 'p').filter (!·.isEmpty) with
        | some directory => directory
        | none => ((valueOf s "TMPDIR").filter (!·.isEmpty)).getD "/tmp"
      let path := if usesTmp then
          (if place.endsWith "/" then place else place ++ "/") ++ name
        else name
      let p := pathOf path
      let result := if choice.has 'u' then .ok s.world
        else if choice.has 'd' then
          (s.world.makeDirectory p).bind fun w => w.changeMode p fun _ => ⟨0o700⟩
        else if s.world.pathExists p then .error .alreadyThere
        else (s.world.write p .empty).bind fun w => w.changeMode p fun _ => ⟨0o600⟩
      match result with
      | .ok world =>
        change fun s => { s with world }
        say (path ++ "\n")
        Builtin.answer true
      | .error fault =>
        let template := if usesTmp then
            (if place.endsWith "/" then place else place ++ "/") ++ given ++ ending
          else given ++ ending
        refuse ("failed to create " ++ (if choice.has 'd' then "directory" else "file")
          ++ " via template " ++ Quoting.name template ++ ": " ++ fault.reason)
where
  /-- Arguments with the value of a letter put behind it. -/
  joinValue : List String → List String
    | "-p" :: value :: rest => ("-p" ++ value) :: joinValue rest
    | argument :: rest => argument :: joinValue rest
    | [] => []

/-- The size that a text asks for, given the size that there is. -/
def newSize? (text : String) (old : Nat) : Option Nat :=
  match text.toList with
  | '+' :: rest => (size? (String.ofList rest)).map (old + ·)
  | '-' :: rest => (size? (String.ofList rest)).map (old - ·)
  | '<' :: rest => (size? (String.ofList rest)).map (min old)
  | '>' :: rest => (size? (String.ofList rest)).map (max old)
  | '/' :: rest => ((size? (String.ofList rest)).filter (0 < ·)).map fun n => old - old % n
  | '%' :: rest => ((size? (String.ofList rest)).filter (0 < ·)).map fun n => (old + n - 1) / n * n
  | _ => size? text

/-- The first bytes of a content, filled up with zeros. -/
def resized (size : Nat) (content : ByteArray) : ByteArray :=
  if size ≤ content.size then content.extract 0 size
  else content ++ ⟨(List.replicate (size - content.size) 0).toArray⟩

/-- Gives files a size. -/
def truncate (arguments : List String) : Effect Unit :=
  let flags : Flags := ⟨"co".toList, "rs".toList,
    [("no-create", 'c'), ("io-blocks", 'o'), ("reference", 'r'), ("size", 's')]⟩
  withFlags 1 flags arguments fun choice => do
    let s ← state
    let refuse {α : Type} (complaint : String) : Effect α := do
      blame complaint
      throw (.exit 1)
    let reference ← match choice.value? 'r' with
      | none => pure none
      | some file =>
        match s.world.stat (pathOf file) with
        | .ok node => pure (some (sizeOfNode node))
        | .error fault => refuse ("cannot stat " ++ Quoting.name file ++ ": " ++ fault.reason)
    let wanted := choice.value? 's'
    let number := wanted.map fun text => String.ofList (text.toList.dropWhile (· == ' '))
    if number.any fun text => (newSize? text 0).isNone then
      refuse ("Invalid number: " ++ Quoting.name (number.getD ""))
    if wanted.isNone && reference.isNone then
      blameCall "you must specify either '--size' or '--reference'"
    else if choice.operands.isEmpty then blameCall "missing file operand"
    else
      forEach (fun w argument =>
        let p := pathOf argument
        if choice.has 'c' && !w.pathExists p then .ok (w, [])
        else
          let change (old : ByteArray) : ByteArray :=
            let base := reference.getD old.size
            let size := match number with
              | some text => (newSize? text base).getD 0
              | none => base
            resized size old
          match w.writeWith p change with
          | .ok next => .ok (next, [])
          | .error fault => .error ("cannot open " ++ Quoting.name argument ++ " for writing: "
              ++ fault.reason)) choice.operands

/-- Makes another name for a file. -/
def linkOne (arguments : List String) : Effect Unit :=
  withFlags 1 ⟨[], [], []⟩ arguments fun choice =>
    match choice.operands with
    | [] => blameCall "missing operand"
    | [one] => blameCall ("missing operand after " ++ Quoting.name one)
    | [source, target] =>
      forEach (fun w _ =>
        match link ⟨[], []⟩ w source target with
        | .ok result => .ok result
        | .error _ =>
          let fault := if !(nodeAt w (pathOf source)).isOk then Fault.notFound else .alreadyThere
          .error ("cannot create link " ++ Quoting.name target ++ " to " ++ Quoting.name source
            ++ ": " ++ fault.reason)) [source]
    | _ :: _ :: extra :: _ => blameCall ("extra operand " ++ Quoting.name extra)

/-- Takes away a name. -/
def unlink (arguments : List String) : Effect Unit :=
  withFlags 1 ⟨[], [], []⟩ arguments fun choice =>
    match choice.operands with
    | [] => blameCall "missing operand"
    | [name] =>
      forEach (fun w argument => do
        let next ← (w.removeFile (pathOf argument)).mapError fun fault =>
          "cannot unlink " ++ Quoting.name argument ++ ": " ++ fault.reason
        return (next, [])) [name]
    | _ :: extra :: _ => blameCall ("extra operand " ++ Quoting.name extra)

/-! ## Installing -/

/-- The options of `install`. -/
def installFlags : Flags :=
  ⟨"bcCdDpsTv".toList, "gmotS".toList,
    [("directory", 'd'), ("mode", 'm'), ("group", 'g'), ("owner", 'o'), ("target-directory", 't'),
      ("no-target-directory", 'T'), ("verbose", 'v'), ("preserve-timestamps", 'p'),
      ("compare", 'C'), ("strip", 's')]⟩

/-- Copies files and gives them a mode, or makes directories. -/
def install (arguments : List String) : Effect Unit :=
  withFlags 1 installFlags arguments fun choice => do
    let s ← state
    match modeOf s.world choice 0 with
    | .error _ =>
      blame ("invalid mode " ++ Quoting.name ((choice.value? 'm').getD ""))
      setStatus 1
    | .ok mode =>
      let mode := mode.getD ⟨0o755⟩
      let withMode (w : World) (target : String) : World :=
        ((w.changeMode (pathOf target) fun _ => mode).toOption).getD w
      if choice.has 'd' then
        if choice.operands.isEmpty then blameCall "missing file operand"
        else
          forEach (fun w argument => do
            let (next, _) ← makeAll false w argument
            let lines := told (choice.has 'v')
              ("install: creating directory " ++ Quoting.name argument)
            return (withMode next argument, lines)) choice.operands
      else
        let copyOne (w : World) (source target : String) :
            Except String (World × List String) := do
          let node ← (w.stat (pathOf source)).mapError (usual "cannot stat" source)
          if node.isDirectory then throw ("omitting directory " ++ Quoting.name source)
          let cleared := (w.removeFile (pathOf target)).toOption.getD w
          let (next, _) ← copy ⟨[], []⟩ cleared source target
          return (withMode next target, told (choice.has 'v') (arrow " -> " source target))
        let parents (target : String) : Effect Unit := do
          let names := (waysTo target.toList).dropLast
          match names.getLast? with
          | some parent =>
            forEach (fun w argument => (makeAll false w argument).map fun (w, _) => (w, []))
              [String.ofList parent]
          | none => pure ()
        if choice.has 'D' then
          match choice.value? 't', choice.operands.getLast? with
          | some directory, _ => parents (directory ++ "/x")
          | none, some target => if choice.operands.length == 2 then parents target
          | none, none => pure ()
        transfer choice copyOne

/-- Sees to it that nothing is lost, which is always so. -/
def sync (_ : List String) : Effect Unit := Builtin.answer true

end Utility
end Shell
end SuiteCoverage
