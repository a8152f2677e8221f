import SuiteCoverage.Disk.Copy
import SuiteCoverage.World.Basic

/-!
# Changing the disk

The operations that write, create and remove. Most of them either happen or do not, and give
back the new world only if they did. Making a chain of directories and removing a tree take
several steps and may stop half-way; these give back the world as it is then along with the
fault.
-/

set_option autoImplicit false

namespace SuiteCoverage
namespace World

/-- Puts a node in place of the one at a location, under all names that it has. -/
def replace (w : World) (loc : Location) (node : Node) : World :=
  match node, node.facts.identity, loc.getLast? with
  | .file content facts, some identity, _ =>
    { w with disk := w.disk.renew identity content facts }
  | _, _, some name => { w with disk := w.disk.put loc.dropLast name node }
  | _, _, none => w

/-- Whether names may be put into the directory at a location and taken out of it. -/
def isOpen (w : World) (loc : Location) : Bool := (w.disk.factsAt loc).isOpen

/-- The world in which the directory at a location has been changed. -/
def touched (w : World) (loc : Location) : World :=
  match w.disk.node? loc with
  | some (.directory facts entries) =>
    w.replace loc (.directory { facts with changed := w.fileTime } entries)
  | _ => w

/-- The facts of a new file for which a mode is asked. -/
def newFacts (w : World) (asked : Mode) : Facts := .new (asked.held w.mask) w.fileTime

/-- Writes a file: `content` tells from what is there what is to be there. -/
def writeWith (w : World) (p : Pathname) (content : ByteArray → ByteArray) : Except Fault World :=
  match w.locate .writing p with
  | .ok (.present loc (.file old facts)) =>
    if facts.isWritable then
      .ok (w.replace loc (.file (content old) { facts with changed := w.fileTime }))
    else .error .permissionDenied
  | .ok (.present _ (.directory ..)) => .error .isADirectory
  | .ok (.present _ (.device .full)) =>
    if (content .empty).isEmpty then .ok w else .error .noSpace
  | .ok (.present _ (.device .terminal)) => .error .noDevice
  | .ok (.present _ node) => if node.isWritable then .ok w else .error .permissionDenied
  | .ok (.removed _) => .error .isADirectory
  | .ok (.vacant parent name) =>
    if w.isOpen parent then
      let node := Node.file (content .empty) (w.newFacts ⟨0o666⟩)
      .ok ({ w with disk := w.disk.put parent name node }.touched parent)
    else .error .permissionDenied
  | .error fault => .error fault

/-- Writes a file anew. -/
def write (w : World) (p : Pathname) (content : ByteArray) : Except Fault World :=
  w.writeWith p fun _ => content

/-- Writes at the end of a file. -/
def append (w : World) (p : Pathname) (content : ByteArray) : Except Fault World :=
  w.writeWith p (· ++ content)

/-- Writes anew the file at a location that was opened, if it is there still. -/
def rewriteAt (w : World) (loc : Location) (content : ByteArray → ByteArray) : World :=
  match w.disk.node? loc with
  | some (.file old facts) =>
    w.replace loc (.file (content old) { facts with changed := w.fileTime })
  | _ => w

/-- Writes a text as a file. -/
def writeText (w : World) (p : Pathname) (text : String) : Except Fault World :=
  w.write p text.toUTF8

/-- Changes what is known of what a path leads to. -/
def changeFacts (w : World) (p : Pathname) (change : Facts → Facts) : Except Fault World :=
  match w.locate .through p with
  | .ok (.present loc node) =>
    if node.facts.isForeign then .error .notPermitted
    else .ok (w.replace loc (node.withFacts change))
  | .ok (.removed _) => .ok w
  | .ok (.vacant ..) => .error .notFound
  | .error fault => .error fault

/-- Changes the mode of what a path leads to. -/
def changeMode (w : World) (p : Pathname) (change : Mode → Mode) : Except Fault World :=
  w.changeFacts p fun facts => facts.withMode (change facts.mode)

/-! ## Entries

What is made, renamed or removed is an entry of a directory: the way to the directory is followed,
and its last name is looked up there and nothing more. A path may have no last name, because it
ends in a step that stays or ascends or because it is the root.
-/

/-- An entry that a path ends in. -/
structure Entry where
  parent : Location
  name : String
  /-- What the name stands for now. -/
  node : Option Node
  /-- Whether the path ends in a separator. -/
  toDirectory : Bool

/-- The location of an entry. -/
def Entry.loc (entry : Entry) : Location := entry.parent ++ [entry.name]

/-- What a path ends in. -/
inductive PathEnd where
  | entry (entry : Entry)
  | stay
  | ascend
  | root

/-- The directory that the last step of a path is taken from. -/
def parentOf (w : World) (fromRoot : Bool) (steps : List RouteStep) : Except Fault Foothold :=
  match w.follow .through fromRoot ⟨steps, true⟩ with
  | .ok (.present loc (.directory facts _)) =>
    if facts.isExecutable then .ok (.ofLocation loc) else .error .permissionDenied
  | .ok (.present _ _) => .error .notADirectory
  | .ok (.removed f) => .ok f
  | .ok (.vacant ..) => .error .notFound
  | .error fault => .error fault

/-- The entry with a name in a directory. A directory that has been removed has none. -/
def entryIn (w : World) (parent : Foothold) (name : String) (toDirectory : Bool) :
    Except Fault Entry :=
  if parent.isRemoved then .error .notFound
  else if longestName < name.utf8ByteSize then .error .nameTooLong
  else
    let loc := parent.standing
    .ok ⟨loc, name, w.disk.node? (loc ++ [name]), toDirectory⟩

/-- What a path ends in, once the way to it has been followed. -/
def pathEnd (w : World) (p : Pathname) : Except Fault PathEnd := do
  let route ← routeOf p
  let parent ← w.parentOf p.isAbsolute route.steps.dropLast
  match route.steps.getLast? with
  | none => return .root
  | some .stay => return .stay
  | some .ascend => return .ascend
  | some (.enter name) => return .entry (← w.entryIn parent name route.toDirectory)

/-- Makes an entry that is not there yet. -/
def make (w : World) (node : Node) (p : Pathname) : Except Fault World :=
  match w.pathEnd p with
  | .ok (.entry entry) =>
    if entry.node.isSome then .error .alreadyThere
    else if entry.toDirectory && !node.isDirectory then .error .notFound
    else if !w.isOpen entry.parent then .error .permissionDenied
    else .ok ({ w with disk := w.disk.put entry.parent entry.name node }.touched entry.parent)
  | .ok _ => .error .alreadyThere
  | .error fault => .error fault

/-- Makes a link. -/
def makeLink (w : World) (p : Pathname) (target : String) : Except Fault World :=
  if target.isEmpty then .error .notFound else w.make (.link target) p

/-- Makes a directory. -/
def makeDirectory (w : World) (p : Pathname) : Except Fault World :=
  w.make (.directory (w.newFacts ⟨0o777⟩) []) p

/-- Makes a directory and, as far as they are missing, those it is in, `depth` of them at most. -/
def makeDirectoriesUpTo : Nat → World → Pathname → Except Fault Unit × World
  | depth, w, p =>
    if p.components.isEmpty then (.ok (), w)
    else
      match w.makeDirectory p with
      | .ok next => (.ok (), next)
      | .error .notFound =>
        match depth, p.parent? with
        | depth + 1, some parent =>
          match makeDirectoriesUpTo depth w parent with
          | (.error fault, next) => (.error fault, next)
          | (.ok (), next) =>
            match next.makeDirectory p with
            | .ok last => (.ok (), last)
            | .error fault => if next.isDirectory p then (.ok (), next) else (.error fault, next)
        | _, _ => (.error (.described "failed to create whole tree"), w)
      | .error fault => if w.isDirectory p then (.ok (), w) else (.error fault, w)

/-- Makes a directory and, as far as they are missing, those it is in. Nothing is wrong if it is
    there already. -/
def makeDirectories (w : World) (p : Pathname) : Except Fault Unit × World :=
  makeDirectoriesUpTo (p.components.length + 1) w p

/-! ## Removing and renaming -/

/-- Sees to it that every program keeps its directory. -/
def keepFootholds (w : World) (change : Foothold → Foothold) : World :=
  { w with
    cwd := change w.cwd
    waiting := w.waiting.map fun entry => (entry.1, change entry.2) }

/-- Takes an entry away. -/
def takeAway (w : World) (entry : Entry) : World :=
  ({ w with disk := w.disk.erase entry.parent entry.name }.keepFootholds
    (·.removed entry.loc)).touched entry.parent

/-- Removes an empty directory. -/
def removeDirectory (w : World) (p : Pathname) : Except Fault World :=
  match w.pathEnd p with
  | .ok (.entry entry) =>
    match entry.node with
    | none => .error .notFound
    | some node =>
      if !w.isOpen entry.parent then .error .permissionDenied
      else
        match node with
        | .directory _ [] => .ok (w.takeAway entry)
        | .directory .. => .error .notEmpty
        | _ => .error .notADirectory
  | .ok .stay => .error .invalidArgument
  | .ok .ascend => .error .notEmpty
  | .ok .root => .error .busy
  | .error fault => .error fault

/-- Removes anything but a directory. -/
def removeFile (w : World) (p : Pathname) : Except Fault World :=
  match w.pathEnd p with
  | .ok (.entry entry) =>
    match entry.node with
    | none => .error .notFound
    | some node =>
      if !w.isOpen entry.parent then .error .permissionDenied
      else if node.isDirectory then .error .isADirectory
      else if entry.toDirectory then .error .notADirectory
      else .ok (w.takeAway entry)
  | .ok _ => .error .isADirectory
  | .error fault => .error fault

/-- Removes all that is in the directory at a location. -/
def clear (w : World) (loc : Location) : World :=
  { w with disk := w.disk.change loc fun _ => [] }.keepFootholds (·.cleared loc)

/-- Removes the directory that a path leads to, once it has been emptied. It is no fault if the
    path does not lead there any more because what was in the directory was on the way. -/
def removeEmptied (w : World) (p : Pathname) : Except Fault Unit × World :=
  match w.removeDirectory p with
  | .ok next => (.ok (), next)
  | .error .notFound => (.ok (), w)
  | .error fault => (.error fault, w)

/-- Removes a directory and all that is in it; of a link, only the link. -/
def removeTree (w : World) (p : Pathname) : Except Fault Unit × World :=
  match w.locate .upTo p with
  | .ok (.present _ (.link _)) =>
    match w.removeFile p with
    | .ok next => (.ok (), next)
    | .error fault => (.error fault, w)
  | .ok (.present loc node) =>
    if !node.isDirectory then (.error .notADirectory, w)
    else if node.isLocked then (.error .permissionDenied, w)
    else (w.clear loc).removeEmptied p
  | .ok (.removed _) => w.removeEmptied p
  | .ok (.vacant ..) => (.error .notFound, w)
  | .error fault => (.error fault, w)

/-- Puts a node that was at one entry in place of another. -/
def moveNode (w : World) (old new : Entry) (node : Node) : World :=
  let disk := (w.disk.erase old.parent old.name).put new.parent new.name node
  { w with disk }.keepFootholds fun f =>
    if old.loc.isPrefixOf f.standing then f.renamed old.loc new.loc else f.removed new.loc

/-- Gives an entry another place, where nothing may be that is of another kind. -/
def renameEntry (w : World) (old new : Entry) : Except Fault World :=
  match old.node with
  | none => .error .notFound
  | some node =>
    if !node.isDirectory && (old.toDirectory || new.toDirectory) then .error .notADirectory
    else if old.loc == new.loc then .ok w
    else if old.loc.isPrefixOf new.loc then .error .invalidArgument
    else if new.loc.isPrefixOf old.loc then .error .notEmpty
    else if !w.isOpen old.parent || !w.isOpen new.parent then .error .permissionDenied
    else
      match new.node with
      | none => .ok (w.moveNode old new node)
      | some (.directory _ entries) =>
        if !node.isDirectory then .error .isADirectory
        else if !entries.isEmpty then .error .notEmpty
        else .ok (w.moveNode old new node)
      | some _ => if node.isDirectory then .error .notADirectory else .ok (w.moveNode old new node)

/-- Renames what a path leads to. -/
def rename (w : World) (source target : Pathname) : Except Fault World :=
  match w.pathEnd source with
  | .error fault => .error fault
  | .ok old =>
    match w.pathEnd target with
    | .error fault => .error fault
    | .ok new =>
      match old, new with
      | .entry old, .entry new => w.renameEntry old new
      | _, _ => .error .busy

/-- Goes to another directory. -/
def changeDirectory (w : World) (p : Pathname) : Except Fault World :=
  match w.locate .through p with
  | .ok (.present loc (.directory facts _)) =>
    if facts.isExecutable then .ok { w with cwd := .ofLocation loc } else .error .permissionDenied
  | .ok (.present _ _) => .error .notADirectory
  | .ok (.removed f) => .ok { w with cwd := f }
  | .ok (.vacant ..) => .error .notFound
  | .error fault => .error fault

end World
end SuiteCoverage
