import SuiteCoverage.Shell.Finding.Reading
import SuiteCoverage.Shell.Utility.Batches

/-!
# Finding files

The utility that goes through directories and all that is below them. What is asked about each file
decides what is done with it.
-/

set_option autoImplicit false

namespace SuiteCoverage
namespace Shell
namespace Utility

open Effect Finding

/-- Files that wait for a command. -/
structure Batch where
  place : Nat
  words : List String
  /-- The directory in which the command is run, if it is not run here. -/
  directory : Option String
  /-- The paths, the last one first. -/
  paths : List String

/-- How far a search has come. -/
structure Finder where
  launcher : Launcher
  course : Course
  now : Int
  channels : List (String × Channel)
  batches : List Batch
  /-- Whether what is below the current directory is left out. -/
  isPruned : Bool
  isOver : Bool
  status : Nat

/-- Searches for files. -/
abbrev Find := StateT Finder Effect

namespace Find

/-- Carries out an effect. -/
def lift {α : Type} (effect : Effect α) : Find α := fun f => do
  return (← effect, f)

/-- Says what could not be done. -/
def failWith (complaint : String) : Find Unit := do
  lift do
    flush
    blame complaint
  modify fun f => { f with status := 1 }

/-- Writes to the output or to a file. -/
def emit (target : Option String) (text : String) : Find Unit := do
  match target with
  | none => lift (say text)
  | some name =>
    match (← get).channels.find? fun entry => entry.1 == name with
    | some (_, channel) =>
      let _ ← lift (writeBytes (some channel) (toBytes text))
    | none => lift (say text)

/-- Runs a command, in another directory if one is given, and tells whether it went well. -/
def runIn (directory : Option String) (words : List String) (isBatch asks : Bool) : Find Bool := do
  let f ← get
  let name := words.headD ""
  let ending : Except Fault Ending ← lift do
    flush
    let directions : List (Nat × Channel) := if asks then [(0, Channel.device .null)] else []
    match ← sought name (words.drop 1) with
    | .error fault =>
      blame (Quoting.name name ++ ": " ++ fault.reason)
      return .error fault
    | .ok invocation =>
      let process ← startWith directions do
        directory.forM fun path => do
          match (← state).world.changeDirectory (pathOf path) with
          | .ok world => change fun s => { s with world }
          | .error _ => pure ()
        f.launcher invocation
      return .ok (← endOf process)
  let isFine ← match ending with
    | .ok (.status 0) => pure true
    | .ok (.signal signal) => do
      lift (blame (Quoting.name name ++ " terminated by signal " ++ toString signal))
      pure false
    | _ => pure false
  if isBatch && !isFine then modify fun f => { f with status := 1 }
  return isFine

/-- Runs the command of a batch. -/
def runBatchOf (batch : Batch) : Find Unit := do
  if batch.paths.isEmpty then return
  let _ ← runIn batch.directory (batch.words ++ batch.paths.reverse) true false

/-- How many bytes of arguments one command takes. -/
def batchSize : Nat := 128000

/-- Adds a path to those that wait for a command, which is run if there are enough of them. -/
def addToBatch (place : Nat) (words : List String) (directory : Option String) (path : String) :
    Find Unit := do
  let f ← get
  let old := (f.batches.find? fun batch => batch.place == place).getD ⟨place, words, directory, []⟩
  let isFull := old.directory != directory || batchSize < sizeOfWords (path :: old.paths)
  if isFull then runBatchOf old
  let paths := if isFull then [path] else path :: old.paths
  modify fun f =>
    { f with
      batches := f.batches.filter (fun batch => batch.place != place)
        ++ [⟨place, words, directory, paths⟩] }

/-- Runs the commands for which files wait. -/
def finishBatches (isLocal : Bool) : Find Unit := do
  let waiting := (← get).batches.filter fun batch => !isLocal || batch.directory.isSome
  modify fun f =>
    { f with batches := f.batches.filter fun batch => isLocal && batch.directory.isNone }
  waiting.forM runBatchOf

/-- Reads one line of the input, byte by byte. -/
def answerLine : Nat → ByteArray → Effect ByteArray
  | 0, line => return line
  | fuel + 1, line => do
    match ← readSome ((← state).channelOf 0) 1 with
    | .ok bytes =>
      if bytes.isEmpty || bytes == toBytes "\n" then return line
      else answerLine fuel (line ++ bytes)
    | .error _ => return line

/-- The directory in which a command is run for a file, and what the file is called there. -/
def localName (f : Finding.Found) : String × String :=
  let short := withoutSlashes f.path
  if short == "/" then ("/", "/")
  else
    let before := (short.toList.reverse.dropWhile (· != '/')).reverse
    (if before.isEmpty then "." else String.ofList before, "./" ++ f.givenName)

/-- Runs a command for a file. -/
def runFor (place : Nat) (words : List String) (running : Running) (found : Finding.Found) :
    Find Bool := do
  let (directory, name) := if running.isLocal then
      ((some (localName found).1 : Option String), (localName found).2)
    else (none, found.path)
  if running.isBatch then
    addToBatch place words directory name
    return true
  if running.asks then
    let answer ← lift do
      flush
      let _ ← writeTo ((← state).channelOf 2)
        ("< " ++ words.headD "" ++ " ... " ++ found.path ++ " > ? ")
      answerLine readLimit .empty
    if !(ofBytes answer).toList.head?.any (fun c => c == 'y' || c == 'Y') then return false
  runIn directory (words.map (withItem "\x7b\x7d" name)) false running.asks

/-- Deletes a file. -/
def delete (found : Finding.Found) : Find Bool := do
  if found.path == "." then return true
  let w := (← lift state).world
  let p := pathOf found.path
  match if found.node.isDirectory then w.removeDirectory p else w.removeFile p with
  | .ok world =>
    lift (change fun s => { s with world })
    return true
  | .error fault =>
    failWith ("cannot delete " ++ Quoting.name found.path ++ ": " ++ fault.reason)
    return false

/-- Does something with a file, and tells whether that went well. -/
def perform (found : Finding.Found) : Action → Find Bool
  | .write target portions => do
    let w := (← lift state).world
    emit target (writtenAbout w found portions)
    return true
  | .list target => do
    let w := (← lift state).world
    emit target (listedAbout w (← get).now found)
    return true
  | .delete => delete found
  | .prune => do
    modify fun f => { f with isPruned := true }
    return true
  | .quit => do
    modify fun f => { f with isOver := true }
    return true
  | .run place words running => runFor place words running found

/-- Answers a question about a file. -/
def answer (found : Finding.Found) : Query → Find Bool
  | .test test => do
    return test.holds (← lift state).world (← get).course.following found
  | .action action => perform found action
  | .not query => return !(← answer found query)
  | .both first second => do
    let holds ← answer found first
    if holds && !(← get).isOver then answer found second else return false
  | .either first second => do
    let holds ← answer found first
    if !holds && !(← get).isOver then answer found second else return holds
  | .after first second => do
    let _ ← answer found first
    if (← get).isOver then return false else answer found second

/-- The node at a path. -/
def nodeOf (course : Course) (w : World) (depth : Nat) (path : String) : Except Fault Node :=
  let follows := course.following == .all || (course.following == .given && depth == 0)
  if follows then
    match w.stat (pathOf path) with
    | .ok node => .ok node
    | .error _ => nodeAt w (pathOf path)
  else nodeAt w (pathOf path)

/-- Where a path leads. -/
def placeAt (w : World) (path : String) : Option Location :=
  match w.locate .through (pathOf path) with
  | .ok (.present loc _) => some loc
  | _ => none

/-- Goes through a path and all that is below it; `above` are the directories that it is in. -/
def visit (query : Query) (start : String) : Nat → Nat → List (String × Location) → String → Find Unit
  | 0, _, _, _ => pure ()
  | fuel + 1, depth, above, path => do
    lift (tick 1)
    let f ← get
    if f.isOver then return
    let w := (← lift state).world
    match nodeOf f.course w depth path with
    | .error fault => failWith (Quoting.name path ++ ": " ++ fault.reason)
    | .ok node =>
      let found : Finding.Found := ⟨path, start, depth, node⟩
      let here := if node.isDirectory then placeAt w path else none
      match here.bind fun loc => above.find? fun entry => entry.2 == loc with
      | some (outer, _) =>
        failWith ("File system loop detected; " ++ Quoting.name path
          ++ " is part of the same file system loop as " ++ Quoting.name outer ++ ".")
      | none =>
        modify fun f => { f with isPruned := false }
        let isWanted := f.course.least ≤ depth
        if isWanted && !f.course.isDeepFirst then
          let _ ← answer found query
        let f ← get
        let goesOn := node.isDirectory && !(f.isPruned && !f.course.isDeepFirst) && !f.isOver
          && !f.course.most.any (· ≤ depth)
        modify fun f => { f with isPruned := false }
        if goesOn then
          match (← lift state).world.list (pathOf path) with
          | .error fault => failWith (Quoting.name path ++ ": " ++ fault.reason)
          | .ok entries =>
            let front := if path.endsWith "/" then path else path ++ "/"
            let above := match here with
              | some loc => (path, loc) :: above
              | none => above
            entries.forM fun entry => visit query start fuel (depth + 1) above (front ++ ofText entry.1)
            finishBatches true
        if isWanted && f.course.isDeepFirst && !(← get).isOver then
          let _ ← answer found query

/-- Goes through all that was given. -/
def run (search : Finding.Search) : Find Unit := do
  search.starts.forM fun start => do
    if !(← get).isOver then
      visit search.query start 10000 0 [] start
      finishBatches true
  finishBatches false

end Find

/-- Opens a file that `find` writes to. -/
def findTarget (name : String) : Effect (String × Channel) := do
  let s ← state
  match Redirection.descriptorAt? name with
  | some descriptor => return (name, (s.channelOf descriptor).getD (.device .null))
  | none =>
    match s.world.write (pathOf name) .empty with
    | .error fault =>
      blame (Quoting.name name ++ ": " ++ fault.reason)
      throw (.exit 1)
    | .ok world =>
      change fun s => { s with world }
      let channel ← Redirection.openAt .writing (pathOf name)
      change fun s => { s with held := channel :: s.held }
      return (name, channel)

/-- Finds files. -/
def find (launcher : Launcher) (arguments : List String) : Effect Unit := do
  let s ← state
  let now := currentTime s
  match Finding.Search.ofArguments s.world now arguments with
  | .error flaw =>
    flaw.message.forM blame
    setStatus 1
  | .ok search =>
    search.warnings.forM blame
    let channels ← (search.targets.filter (· != "/dev/stdout")).mapM findTarget
    let finder : Finder := ⟨launcher, search.course, now.1, channels, [], false, false, 0⟩
    let ((), finder) ← (Find.run search : Find Unit) finder
    setStatus finder.status

end Utility
end Shell
end SuiteCoverage
