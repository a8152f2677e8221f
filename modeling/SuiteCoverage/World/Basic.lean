import SuiteCoverage.Disk.Route

/-!
# The world of a run

All that a run can see and change besides its own state: the disk, the directory it works in,
and its environment. The clock is read twice, for the date on a page and for the time that the
tests took; a run cannot influence it, so its readings are part of the world from the start.

A program works in a directory and keeps it whatever becomes of it. While one program goes on the
others wait; the directories of those that wait are looked after along with the one of the
program that goes on.
-/

set_option autoImplicit false

namespace SuiteCoverage

/-- The variables of an environment and their values. -/
abbrev Environment := List (String × String)

namespace Environment

/-- The value of a variable. -/
def get? (env : Environment) (name : String) : Option String :=
  (env.find? fun entry => entry.1 == name).map (·.2)

/-- The environment without a variable. -/
def unset (env : Environment) (name : String) : Environment :=
  env.filter fun entry => entry.1 != name

/-- The environment with a value for a variable, which keeps its place if it has one. -/
def set : Environment → String → String → Environment
  | [], name, value => [(name, value)]
  | entry :: rest, name, value =>
    if entry.1 == name then (name, value) :: rest else entry :: set rest name value

/-- The environment with a value for a variable, or without the variable. -/
def put (env : Environment) (name : String) : Option String → Environment
  | some value => env.set name value
  | none => env.unset name

end Environment

/-- A directory that is there no more and is worked in still. -/
def Node.gone : Node := .directory (.new .program 0) []

/-- What the clock shows. -/
structure Clock where
  /-- The date and time at which pages are written. -/
  today : String
  /-- The seconds that the tests take. -/
  elapsed : String
deriving DecidableEq, Repr

/-- What a run can see and change. -/
structure World where
  disk : Disk
  /-- The directory worked in. -/
  cwd : Foothold
  /-- The directories of the programs that wait, by the numbers of those. -/
  waiting : List (Nat × Foothold)
  /-- The number of programs that have been started so far. -/
  started : Nat
  env : Environment
  /-- The bits of modes that new files are not given. -/
  mask : Nat
  clock : Clock
  /-- The time since the start of the run, in millionths of a second. -/
  now : Nat

namespace World

/-- The time at which runs start, in millionths of a second. -/
def startTime : Int := 1750000000000000

/-- How far apart the times are that files can have. -/
def timeGrain : Nat := 4000

/-- The time that a file has which is changed now. -/
def fileTime (w : World) : Int := startTime + (w.now - w.now % timeGrain : Nat)

/-- The mask that programs start with unless they are told otherwise. -/
def usualMask : Nat := 0o022

/-- The absolute path of a location. -/
def pathOf (loc : Location) : Pathname :=
  ⟨"/" ++ "/".intercalate loc⟩

/-- The path of the directory worked in. -/
def currentDirectory (w : World) : Except Fault Pathname :=
  if w.cwd.isRemoved then .error .notFound else .ok (pathOf w.cwd.standing)

/-- The world once the program with a number waits. -/
def leave (w : World) (number : Nat) : World :=
  { w with waiting := (number, w.cwd) :: w.waiting }

/-- The world in which the program with a number goes on that had left the world `before`, after
    others have left the world `after`. What they did to the disk stays; where they went, and what
    they made of their environments, was their own. -/
def resume (before after : World) (number : Nat) : World :=
  let mine := after.waiting.find? fun entry => entry.1 == number
  { before with
    disk := after.disk
    started := after.started
    now := max before.now after.now
    cwd := (mine.map (·.2)).getD before.cwd
    waiting := after.waiting.filter fun entry => entry.1 != number }

/-- The number of whoever runs a program from outside. -/
def runner : Nat := 0

/-- The world that a program sees which is run from outside. -/
def forChild (w : World) : World :=
  { w.leave runner with started := w.started + 1 }

/-! ## Finding the way -/

/-- One more than the number of links that may be followed on the way of one path. -/
def linkLimit : Nat := 41

/-- Follows a route from the root or from the directory worked in. -/
def follow (w : World) (approach : Approach) (fromRoot : Bool) (route : Route) :
    Except Fault Place :=
  w.disk.followFrom approach linkLimit route.toDirectory
    (if fromRoot then .ofLocation [] else w.cwd) route.steps

/-- The route of a path that the system can be given. -/
def routeOf (p : Pathname) : Except Fault Route :=
  if p.spelling.toList.contains '\x00' then .error .nulInPath
  else if p.spelling.isEmpty then .error .notFound
  else if pathLimit ≤ p.spelling.utf8ByteSize then .error .nameTooLong
  else .ok (Route.ofText p.spelling)

/-- Where a path leads. -/
def locate (w : World) (approach : Approach) (p : Pathname) : Except Fault Place :=
  match routeOf p with
  | .ok route => w.follow approach p.isAbsolute route
  | .error fault => .error fault

/-- What a path leads to, links followed. -/
def stat (w : World) (p : Pathname) : Except Fault Node :=
  match w.locate .through p with
  | .ok (.present _ node) => .ok node
  | .ok (.removed _) => .ok Node.gone
  | .ok (.vacant ..) => .error .notFound
  | .error fault => .error fault

/-- Whether a path leads to anything. -/
def pathExists (w : World) (p : Pathname) : Bool :=
  match w.stat p with
  | .ok _ => true
  | .error _ => false

/-- Whether a path leads to a directory. -/
def isDirectory (w : World) (p : Pathname) : Bool :=
  match w.stat p with
  | .ok node => node.isDirectory
  | .error _ => false

/-! ## Reading -/

/-- The content of what a path leads to. -/
def readBytes (w : World) (p : Pathname) : Except Fault ByteArray :=
  match w.stat p with
  | .ok (.file content facts) =>
    if facts.isReadable then .ok content else .error .permissionDenied
  | .ok (.device .terminal) => .error .noDevice
  | .ok (.device _) => .ok .empty
  | .ok (.queue ..) => .ok .empty
  | .ok (.program name) => .ok name.toUTF8
  | .ok (.directory ..) => .error .isADirectory
  | .ok (.link _) => .error .tooManyLinks
  | .error fault => .error fault

/-- The content of a file that is text. -/
def readText (w : World) (p : Pathname) : Except Fault String :=
  match w.readBytes p with
  | .ok content =>
    match String.fromUTF8? content with
    | some text => .ok text
    | none => .error .notText
  | .error fault => .error fault

/-- The entries of a directory. -/
def list (w : World) (p : Pathname) : Except Fault Entries :=
  match w.stat p with
  | .ok (.directory facts entries) =>
    if facts.isReadable then .ok entries else .error .permissionDenied
  | .ok _ => .error .notADirectory
  | .error fault => .error fault

end World
end SuiteCoverage
