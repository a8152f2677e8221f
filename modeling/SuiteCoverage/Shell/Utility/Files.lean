import SuiteCoverage.Disk.Copy
import SuiteCoverage.Shell.Quoting
import SuiteCoverage.Shell.Utility.Basic

/-!
# Utilities for files

The utilities that make, copy, rename, link and remove files and directories, and that change
their modes.
-/

set_option autoImplicit false

namespace SuiteCoverage
namespace Shell
namespace Utility

open Effect

/-! ## Directories -/

/-- The paths that a path goes through, the path itself last. -/
def waysTo (path : List Char) : List (List Char) :=
  let ends := (List.range' 1 path.length).filter fun n =>
    n == path.length || (path.drop n).head? == some '/'
  ends.map fun n => path.take n

/-- Makes a directory and those it is in, as far as they are missing. What is in the way is
    blamed. -/
def makeAll (isTold : Bool) : Step := fun w argument =>
  let ways := (waysTo argument.toList).map String.ofList
  match completely World.makeDirectories w (pathOf argument) with
  | .ok next =>
    let made := ways.filter fun way => !w.pathExists (pathOf way)
    .ok (next, made.flatMap fun way =>
      told isTold ("mkdir: created directory " ++ Quoting.name way))
  | .error fault =>
    let blamed := ways.find? fun way => w.pathExists (pathOf way) && !w.isDirectory (pathOf way)
    .error (usual "cannot create directory" (blamed.getD argument)
      (if blamed.isSome && blamed != some argument then .notADirectory else fault))

/-- The options of `mkdir`. -/
def mkdirFlags : Flags :=
  ⟨"pvZ".toList, "m".toList, [("mode", 'm'), ("parents", 'p'), ("verbose", 'v')]⟩

/-- Makes directories. -/
def mkdir (arguments : List String) : Effect Unit :=
  withFlags 1 mkdirFlags arguments fun choice => do
    let mode := choice.value? 'm'
    if choice.operands.isEmpty then blameCall "missing operand"
    else if mode.any fun text => (Mode.Adjustment.ofText? text).isNone then
      blame ("invalid mode " ++ Quoting.name (mode.getD ""))
      setStatus 1
    else
      let adjusted (before w : World) (argument : String) : World :=
        match mode.bind Mode.Adjustment.ofText? with
        | some adjustment =>
          if before.pathExists (pathOf argument) then w
          else
            let mode := adjustment.apply w.mask true ⟨0o777⟩
            ((w.changeMode (pathOf argument) fun _ => mode).toOption).getD w
        | none => w
      if choice.has 'p' then
        forEach (fun w argument => do
          let (next, lines) ← makeAll (choice.has 'v') w argument
          return (adjusted w next argument, lines)) choice.operands
      else
        forEach (fun w argument => do
          let next ← (w.makeDirectory (pathOf argument)).mapError
            (usual "cannot create directory" argument)
          return (adjusted w next argument, told (choice.has 'v')
            ("mkdir: created directory " ++ Quoting.name argument))) choice.operands

/-- The options of `rmdir`. -/
def rmdirFlags : Flags :=
  ⟨"pv".toList, [],
    [("ignore-fail-on-non-empty", 'i'), ("parents", 'p'), ("verbose", 'v')]⟩

/-- Removes an empty directory, and then those it is in as far as the way to it goes. -/
def removeDirectories (choice : Flags.Choice) : Step := fun w argument =>
  let ways := (waysTo argument.toList).reverse.map String.ofList
  let wanted := if choice.has 'p' then ways else [argument]
  wanted.foldlM
    (fun (w, lines) way =>
      match w.removeDirectory (pathOf way) with
      | .ok next =>
        .ok (next, lines ++ told (choice.has 'v')
          ("rmdir: removing directory, " ++ Quoting.name way))
      | .error .notEmpty =>
        if choice.has 'i' then .ok (w, lines) else .error (usual "failed to remove" way .notEmpty)
      | .error fault =>
        let start := if way == argument then "failed to remove" else "failed to remove directory"
        .error (usual start way fault))
    (w, [])

/-- Removes empty directories. -/
def rmdir (arguments : List String) : Effect Unit :=
  withFlags 1 rmdirFlags arguments fun choice =>
    if choice.operands.isEmpty then blameCall "missing operand"
    else forEach (removeDirectories choice) choice.operands

/-! ## Removing -/

mutual

/-- What is told about a removed tree. -/
def removalLines (path : String) : Node → List String
  | .directory _ entries =>
    removalLinesIn path entries ++ ["removed directory " ++ Quoting.name path]
  | _ => ["removed " ++ Quoting.name path]

/-- What is told about removed entries of a directory. -/
def removalLinesIn (path : String) : List (String × Node) → List String
  | [] => []
  | (entry, node) :: rest =>
    removalLines (path ++ "/" ++ ofText entry) node ++ removalLinesIn path rest

end

/-- The options of `rm`. -/
def rmFlags : Flags :=
  ⟨"dfiIrRv".toList, [],
    [("dir", 'd'), ("force", 'f'), ("no-preserve-root", 'n'), ("one-file-system", 'o'),
      ("preserve-root", 'o'), ("recursive", 'r'), ("verbose", 'v')]⟩

/-- Removes what a path leads to. -/
def remove (choice : Flags.Choice) : Step := fun w argument =>
  let p := pathOf argument
  let deep := choice.has 'r' || choice.has 'R'
  let last := (Pathname.pieces p.spelling.toList).getLast?
  let removed (result : Except Fault World) : Except String (World × List String) :=
    let node := ((nodeAt w p).toOption).getD (.device .null)
    match result with
    | .ok next => .ok (next, if choice.has 'v' then removalLines argument node else [])
    | .error fault =>
      if choice.has 'f' && (fault == .notFound || fault == .notADirectory) then .ok (w, [])
      else .error (usual "cannot remove" argument fault)
  if deep && (last == some ['.'] || last == some ['.', '.']) then
    .error ("refusing to remove '.' or '..' directory: skipping " ++ Quoting.name argument)
  else
    match w.removeFile p with
    | .error .isADirectory =>
      removed
        (if deep then completely World.removeTree w p
        else if choice.has 'd' then w.removeDirectory p
        else .error .isADirectory)
    | result => removed result

/-- Removes files, and whole trees if asked to. -/
def rm (arguments : List String) : Effect Unit :=
  withFlags 1 rmFlags arguments fun choice =>
    if choice.operands.isEmpty && !choice.has 'f' then blameCall "missing operand"
    else forEach (remove choice) choice.operands

/-! ## Copies, other names, links -/

/-- A change that has a source and a target. -/
abbrev Transfer := World → String → String → Except String (World × List String)

/-- A source and a target as they are told. -/
def arrow (sign source target : String) : String :=
  Quoting.name source ++ sign ++ Quoting.name target

/-- What something called by a path is called when it is put into a directory: it keeps its last
    name. -/
def targetIn (source target : String) : String :=
  let names := (Pathname.pieces source.toList).filter (!·.isEmpty)
  let name := if names.getLast? == some ['.'] then some "." else (pathOf source).fileName?.map ofText
  let start := if target.toList.getLast? == some '/' then target else target ++ "/"
  start ++ name.getD ""

/-- Carries out a change from sources to a target, which is the last of the operands unless a
    directory is named by an option. The target is not taken for a directory if asked so. -/
def transfer (choice : Flags.Choice) (change : Transfer) : Effect Unit := do
  let w := (← state).world
  let into (directory : String) (sources : List String) : Effect Unit :=
    forEach (fun w source => change w source (targetIn source directory)) sources
  match choice.value? 't', choice.operands.dropLast, choice.operands.getLast? with
  | _, _, none => blameCall "missing file operand"
  | some directory, _, some _ =>
    if w.isDirectory (pathOf directory) then into directory choice.operands
    else
      let fault := if w.pathExists (pathOf directory) then Fault.notADirectory else .notFound
      blame (usual "target directory" directory fault)
      setStatus 1
  | none, [], some source =>
    blameCall ("missing destination file operand after " ++ Quoting.name source)
  | none, sources, some target =>
    if w.isDirectory (pathOf target) && !choice.has 'T' then into target sources
    else
      match sources with
      | [source] => forEach (fun w source => change w source target) [source]
      | _ :: extra :: _ =>
        if choice.has 'T' then
          blameCall ("extra operand " ++ Quoting.name ((extra :: [target]).headD ""))
        else
          let fault := if w.pathExists (pathOf target) then Fault.notADirectory else .notFound
          blame (usual "target" target fault)
          setStatus 1
      | [] => setStatus 1

mutual

/-- What is told about a copied tree. -/
def copyLines (old : Option Node) (source target : String) : Node → List String
  | .directory _ entries =>
    match old with
    | some (.directory _ before) => copyLinesIn before source target entries
    | _ => arrow " -> " source target :: copyLinesIn [] source target entries
  | _ => [arrow " -> " source target]

/-- What is told about copied entries of a directory. -/
def copyLinesIn (before : Entries) (source target : String) :
    List (String × Node) → List String
  | [] => []
  | (entry, node) :: rest =>
    copyLines (before.find? entry) (source ++ "/" ++ ofText entry) (target ++ "/" ++ ofText entry)
      node ++ copyLinesIn before source target rest

end

/-- The options of `cp`. -/
def cpFlags : Flags :=
  ⟨"abdfHiLnpPrRTuvx".toList, "St".toList,
    [("archive", 'a'), ("dereference", 'L'), ("force", 'f'), ("no-clobber", 'n'),
      ("no-dereference", 'P'), ("no-target-directory", 'T'), ("recursive", 'R'),
      ("target-directory", 't'), ("verbose", 'v')]⟩

/-- Copies a file, or a directory with all that is in it if asked to. -/
def copy (choice : Flags.Choice) : Transfer := fun w source target => do
  let deep := "rRa".toList.any choice.has
  let find := if deep && !choice.has 'L' then nodeAt else World.stat
  let node ← (find w (pathOf source)).mapError (usual "cannot stat" source)
  let p := pathOf target
  let old := (w.stat p).toOption
  let keeps := choice.has 'p' || choice.has 'a'
  let lines := if choice.has 'v' then copyLines old source target node else []
  let fresh := node.mapFacts fun facts =>
    if keeps then { facts with identity := none, isForeign := false } else w.newFacts facts.mode
  if choice.has 'n' && old.isSome && !node.isDirectory then return (w, [])
  if node.isDirectory then
    if !deep then throw ("-r not specified; omitting directory " ++ Quoting.name source)
    if isInside w source target then
      throw ("cannot copy a directory, " ++ Quoting.name source ++ ", into itself, "
        ++ Quoting.name target)
    match old, w.locate .through p with
    | some (.directory ..), .ok (.present loc there) =>
      return (w.replace loc (fresh.onto (some there)), lines)
    | some _, _ =>
      throw ("cannot overwrite non-directory " ++ Quoting.name target ++ " with directory "
        ++ Quoting.name source)
    | none, _ =>
      return (← (w.make fresh p).mapError (usual "cannot create directory" target), lines)
  else if node.isLink then
    let cleared := (w.removeFile p).toOption.getD w
    return (← (cleared.make node p).mapError (usual "cannot create symbolic link" target), lines)
  else
    if Condition.isSame w source target then
      throw (Quoting.name source ++ " and " ++ Quoting.name target ++ " are the same file")
    if old.any Node.isDirectory then
      throw ("cannot overwrite directory " ++ Quoting.name target ++ " with non-directory")
    let content ← (w.readBytes (pathOf source)).mapError fun fault =>
      "cannot open " ++ Quoting.name source ++ " for reading: " ++ fault.reason
    let written := match w.write p content with
      | .error .permissionDenied =>
        if choice.has 'f' then (w.removeFile p).bind fun cleared => cleared.write p content
        else .error .permissionDenied
      | result => result
    let blamed (fault : Fault) : Fault :=
      if fault == .isADirectory && target.toList.getLast? == some '/' then .notADirectory else fault
    let next ← written.mapError fun fault =>
      usual "cannot create regular file" target (blamed fault)
    if old.isSome && !keeps then return (next, lines)
    let last ← (next.changeFacts p fun facts =>
        { facts with mode := fresh.mode, changed := fresh.facts.changed }).mapError
      (usual "setting permissions for" target)
    return (last, lines)
where
  /-- Whether a target is in the directory that is copied to it. -/
  isInside (w : World) (source target : String) : Bool :=
    match w.locate .through (pathOf source), w.pathEnd (pathOf target) with
    | .ok (.present loc _), .ok (.entry entry) => loc.isPrefixOf entry.loc
    | _, _ => false

/-- The options of `mv`. -/
def mvFlags : Flags :=
  ⟨"bfinTuv".toList, "St".toList,
    [("force", 'f'), ("no-clobber", 'n'), ("no-target-directory", 'T'),
      ("target-directory", 't'), ("verbose", 'v')]⟩

/-- Gives something another name. -/
def move (choice : Flags.Choice) : Transfer := fun w source target => do
  let node ← (nodeAt w (pathOf source)).mapError (usual "cannot stat" source)
  let lines := told (choice.has 'v') ("renamed " ++ arrow " -> " source target)
  match nodeAt w (pathOf target) with
  | .ok other =>
    if choice.has 'n' then throw ("not replacing " ++ Quoting.name target)
    if isOne w source target then
      throw (Quoting.name source ++ " and " ++ Quoting.name target ++ " are the same file")
    if node.isDirectory && !other.isDirectory then
      throw ("cannot overwrite non-directory " ++ Quoting.name target ++ " with directory "
        ++ Quoting.name source)
    if other.isDirectory && !node.isDirectory then
      throw ("cannot overwrite directory " ++ Quoting.name target ++ " with non-directory")
  | .error _ => pure ()
  match w.rename (pathOf source) (pathOf target) with
  | .ok next => return (next, lines)
  | .error .invalidArgument =>
    throw ("cannot move " ++ Quoting.name source ++ " to a subdirectory of itself, "
      ++ Quoting.name target)
  | .error .notEmpty => throw (usual "cannot overwrite" target .notEmpty)
  | .error fault =>
    throw ("cannot move " ++ Quoting.name source ++ " to " ++ Quoting.name target ++ ": "
      ++ fault.reason)
where
  /-- Whether two paths are names for one node. -/
  isOne (w : World) (source target : String) : Bool :=
    match w.locate .upTo (pathOf source), w.locate .upTo (pathOf target) with
    | .ok (.present one node), .ok (.present other last) =>
      one == other
        || (node.facts.identity.isSome && node.facts.identity == last.facts.identity)
    | _, _ => false

/-- The options of `ln`. -/
def lnFlags : Flags :=
  ⟨"bdfFiLnPrsTv".toList, "St".toList,
    [("force", 'f'), ("no-dereference", 'n'), ("no-target-directory", 'T'), ("symbolic", 's'),
      ("target-directory", 't'), ("verbose", 'v')]⟩

/-- Makes a link to a path, or another name for what is there. -/
def link (choice : Flags.Choice) : Transfer := fun w source target => do
  let p := pathOf target
  let w := if choice.has 'f' then (w.removeFile p).toOption.getD w else w
  if choice.has 's' then
    let start := "failed to create symbolic link"
    let next ← (w.makeLink p (toText source)).mapError fun fault =>
      if source.isEmpty then start ++ " " ++ arrow " -> " target source ++ ": " ++ fault.reason
      else usual start target fault
    return (next, told (choice.has 'v') (arrow " -> " target source))
  else
    let node ← (nodeAt w (pathOf source)).mapError (usual "failed to access" source)
    if node.isDirectory then
      throw (Quoting.nameIfNeeded source ++ ": hard link not allowed for directory")
    let (w, node) := shared w source node
    let next ← (w.make node p).mapError (usual "failed to create hard link" target)
    return (next, told (choice.has 'v') (arrow " => " target source))
where
  /-- A file at a path as one that can have several names. -/
  shared (w : World) (source : String) (node : Node) : World × Node :=
    match node, node.facts.identity, w.locate .upTo (pathOf source) with
    | .file content facts, none, .ok (.present loc _) =>
      let node := Node.file content { facts with identity := some w.disk.freeIdentity }
      match loc.getLast? with
      | some name => ({ w with disk := w.disk.put loc.dropLast name node }, node)
      | none => (w, node)
    | node, _, _ => (w, node)

/-- Copies files. -/
def cp (arguments : List String) : Effect Unit :=
  withFlags 1 cpFlags arguments fun choice => transfer choice (copy choice)

/-- Gives files other names. -/
def mv (arguments : List String) : Effect Unit :=
  withFlags 1 mvFlags arguments fun choice => transfer choice (move choice)

/-- Makes links. -/
def ln (arguments : List String) : Effect Unit :=
  withFlags 1 lnFlags arguments fun choice => do
    let w := (← state).world
    let isStanding := choice.has 'n' && match choice.operands.getLast? with
      | some target => Condition.isLink w target
      | none => false
    let options := if isStanding then ('T', "") :: choice.options else choice.options
    let operands :=
      if choice.operands.length == 1 && !choice.has 't' then choice.operands ++ ["."]
      else choice.operands
    transfer ⟨options, operands⟩ (link choice)

/-! ## Modes -/

/-- The options of `chmod`. -/
def chmodFlags : Flags :=
  ⟨"Rcfv".toList, [],
    [("changes", 'c'), ("quiet", 'f'), ("recursive", 'R'), ("silent", 'f'), ("verbose", 'v')]⟩

/-- Whether an argument is a mode although it looks like an option. -/
def isMode (argument : String) : Bool :=
  match argument.toList with
  | '-' :: c :: _ => "rwxXstugoa,+=01234567".toList.contains c
  | _ => false

/-- A mode by its number and in letters. -/
def shownMode (mode : Mode) : String :=
  Mode.octal mode.bits ++ " (" ++ mode.shown ++ ")"

/-- Changes the mode of a file, and those of all files in a directory if asked to. -/
def changeMode (choice : Flags.Choice) (adjustment : Mode.Adjustment) : Step :=
  fun w argument => do
    let p := pathOf argument
    let node ← (w.stat p).mapError (usual "cannot access" argument)
    let change := fun mode => adjustment.apply w.mask node.isDirectory mode
    let subject := "mode of " ++ Quoting.name argument
    let line :=
      if change node.mode = node.mode then
        told (choice.has 'v') (subject ++ " retained as " ++ shownMode node.mode)
      else
        told (choice.has 'v' || choice.has 'c')
          (subject ++ " changed from " ++ shownMode node.mode ++ " to "
            ++ shownMode (change node.mode))
    match w.locate .through p, choice.has 'R' with
    | .ok (.present loc node), true =>
      return (w.replace loc (node.mapFacts fun facts => facts.withMode (change facts.mode)), line)
    | _, _ =>
      return (← (w.changeMode p change).mapError (usual "changing permissions of" argument), line)

/-- Changes the modes of files. -/
def chmod (arguments : List String) : Effect Unit :=
  let (modes, others) := arguments.partition isMode
  withFlags 1 chmodFlags others fun choice => do
    let words := if modes.isEmpty then choice.operands else ",".intercalate modes :: choice.operands
    match words with
    | [] => blameCall "missing operand"
    | [mode] => blameCall ("missing operand after " ++ Quoting.name mode)
    | mode :: paths =>
      match Mode.Adjustment.ofText? mode with
      | none => blameCall ("invalid mode: " ++ Quoting.name mode)
      | some adjustment =>
        let step := changeMode choice adjustment
        if choice.has 'f' then
          let results ← paths.mapM fun path => do
            match step (← state).world path with
            | .ok (world, lines) =>
              change fun s => { s with world }
              sayLines lines
              return true
            | .error _ => return false
          Builtin.answer (results.all id)
        else forEach step paths

end Utility
end Shell
end SuiteCoverage
