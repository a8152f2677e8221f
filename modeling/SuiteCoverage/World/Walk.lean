import SuiteCoverage.World.Basic
import SuiteCoverage.World.Writing

/-!
# Walking a tree

All that is below a directory, in the order in which a walk comes to it: a directory right before
what is in it, and what is in one directory by name. Links are shown and not followed, except for
the one that the walk starts at. A walk may be told to stay out of directories with certain names.
-/

set_option autoImplicit false

namespace SuiteCoverage

/-- Something that a walk has come to. -/
structure Found where
  path : Pathname
  name : String
  node : Node

/-- Puts what was found under several names in the order of the names. -/
def Found.inOrder (groups : List (String × List Found)) : List Found :=
  (groups.mergeSort fun a b => (compare a.1 b.1).isLE).flatMap (·.2)

mutual

/-- What is below a node at a path. -/
def Node.descendants (skip : String → Bool) (p : Pathname) : Node → List Found
  | .directory _ entries => Found.inOrder (Node.descendantsOfEach skip p entries)
  | _ => []

/-- What is at and below each of some entries of the directory at a path. -/
def Node.descendantsOfEach (skip : String → Bool) (p : Pathname) :
    List (String × Node) → List (String × List Found)
  | [] => []
  | (name, node) :: rest =>
    let here := p.join ⟨name⟩
    let group :=
      if node.isDirectory && skip name then []
      else ⟨here, name, node⟩ :: Node.descendants skip here node
    (name, group) :: Node.descendantsOfEach skip p rest

end

namespace World

/-- What a walk from a path comes to, apart from the path itself. -/
def walk (w : World) (skip : String → Bool) (p : Pathname) : List Found :=
  match w.stat p with
  | .ok node => node.descendants skip p
  | .error _ => []

end World

/-!
## Listings

A listing tells which files there are, a path on each line: a directory ends in a separator and a
file that may be executed in an asterisk. A world is made from a listing by putting everything
listed where it belongs, with the directories that it is in.
-/

/-- What a line of a listing tells of. -/
inductive Listed where
  | directory (path : Pathname)
  | file (path : Pathname) (executable : Bool)
deriving DecidableEq, Repr

namespace Listed

/-- What a line tells of. -/
def ofLine (line : String) : Listed :=
  let chars := line.toList
  match chars.getLast? with
  | some '/' => .directory ⟨String.ofList chars.dropLast⟩
  | some '*' => .file ⟨String.ofList chars.dropLast⟩ true
  | _ => .file ⟨line⟩ false

end Listed

namespace World

/-- Puts a directory where it belongs. -/
def placeDirectory (w : World) (p : Pathname) : World :=
  (w.makeDirectories p).2

/-- Puts a file where it belongs. What cannot be put there is left out. -/
def placeFile (w : World) (p : Pathname) (executable : Bool) (content : ByteArray) : World :=
  let housed := (p.parent?.map w.placeDirectory).getD w
  match housed.write p content with
  | .error _ => housed
  | .ok written =>
    let mode : Mode := if executable then .program else .plain
    ((written.changeMode p fun _ => mode).toOption).getD written

/-- The world in which nothing is there yet but a directory to work in. -/
def bare (disk : Disk) (directory : Pathname) (env : Environment) (clock : Clock) : World :=
  let empty : World := ⟨disk, .ofLocation [], [], 0, env, usualMask, clock, 0⟩
  let made := empty.placeDirectory directory
  ((made.changeDirectory directory).toOption).getD made

end World
end SuiteCoverage
