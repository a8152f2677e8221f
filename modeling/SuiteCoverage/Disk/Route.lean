import SuiteCoverage.Disk.Node
import SuiteCoverage.Pathname

/-!
# Where a path leads

The system follows a path step by step from the root or from the directory it is relative to.
Every name on the way must be there, and be a directory that may be gone through if the path goes
on, or any directory if it ends in a separator. A link is followed by going on with the steps of its target, forty links at most; a
link at the end of a path is followed only if the operation asks for it.

A path may lead to a node that is there or to a name that is free in a directory that is there,
where something can be created, or stay in a directory that is worked in and has been removed.
Everything else is a fault.
-/

set_option autoImplicit false

namespace SuiteCoverage

/-- A step of a route. -/
inductive RouteStep where
  /-- Stay in the directory. -/
  | stay
  /-- Go to the directory above. -/
  | ascend
  | enter (name : String)
deriving DecidableEq, Repr

/-- How a path is followed. -/
structure Route where
  steps : List RouteStep
  /-- Whether the path ends in a separator, so that it can only lead to a directory. -/
  toDirectory : Bool

namespace Route

/-- The step that a piece between separators stands for, if any. -/
def step? (piece : List Char) : Option RouteStep :=
  if piece = [] then none
  else if piece = ['.'] then some .stay
  else if piece = ['.', '.'] then some .ascend
  else some (.enter (String.ofList piece))

/-- The route of a path; what it starts from is not part of it. -/
def ofText (text : String) : Route where
  steps := (Pathname.pieces text.toList).filterMap step?
  toDirectory := text.toList.getLast? == some '/'

end Route

/-- The directory that a program works in. It stays the program's directory when it is renamed,
    and even when it is removed: then it is known by the nearest directory above it that is still
    there, and by the names of those that were removed on the way down to it. -/
structure Foothold where
  standing : Location
  lost : List String
deriving DecidableEq, Repr

namespace Foothold

/-- The directory at a location. -/
def ofLocation (loc : Location) : Foothold := ⟨loc, []⟩

/-- Whether the directory has been removed. -/
def isRemoved (f : Foothold) : Bool := !f.lost.isEmpty

/-- The same directory after all that is below a location has been removed. -/
def cleared (loc : Location) (f : Foothold) : Foothold :=
  if loc.isPrefixOf f.standing then ⟨loc, f.standing.drop loc.length ++ f.lost⟩ else f

/-- The same directory after the one at a location has been removed. -/
def removed (loc : Location) (f : Foothold) : Foothold :=
  if loc.isPrefixOf f.standing then f.cleared loc.dropLast else f

/-- The same directory after the one at `old` has got the location `new`. -/
def renamed (old new : Location) (f : Foothold) : Foothold :=
  if old.isPrefixOf f.standing then ⟨new ++ f.standing.drop old.length, f.lost⟩ else f

end Foothold

/-- Where a path leads. -/
inductive Place where
  /-- To a node that is there. -/
  | present (loc : Location) (node : Node)
  /-- To a free name in a directory that is there. -/
  | vacant (parent : Location) (name : String)
  /-- To a directory that is there no more, but is worked in. -/
  | removed (foothold : Foothold)

/-- How the end of a path is taken. -/
inductive Approach where
  /-- A link at the end is followed. -/
  | through
  /-- A link at the end is not followed, unless a separator stands behind it. -/
  | upTo
  /-- A link at the end is followed in order to write, which is not done at a path that ends in a
      separator. -/
  | writing
deriving DecidableEq, Repr

/-- The longest name that a directory can hold, in bytes. -/
def longestName : Nat := 255

/-- The length in bytes from which on a path is too long. -/
def pathLimit : Nat := 4096

namespace Disk

/-- Follows the steps of a route from a directory on. `again` goes on with the route of a link
    from the directory that the link is in. -/
def walk (disk : Disk) (again : Location → Route → Except Fault Place) (approach : Approach)
    (toDirectory : Bool) : Location → List RouteStep → Except Fault Place
  | loc, [] =>
    match disk.node? loc with
    | some node => .ok (.present loc node)
    | none => .error .notFound
  | loc, .stay :: rest =>
    if (disk.factsAt loc).isExecutable then walk disk again approach toDirectory loc rest
    else .error .permissionDenied
  | loc, .ascend :: rest =>
    if (disk.factsAt loc).isExecutable then walk disk again approach toDirectory loc.dropLast rest
    else .error .permissionDenied
  | loc, .enter name :: rest =>
    if !(disk.factsAt loc).isExecutable then .error .permissionDenied
    else if rest.isEmpty && toDirectory && approach == .writing then .error .isADirectory
    else if longestName < name.utf8ByteSize then .error .nameTooLong
    else
      match disk.node? (loc ++ [name]) with
      | none => if rest.isEmpty then .ok (.vacant loc name) else .error .notFound
      | some (.directory ..) => walk disk again approach toDirectory (loc ++ [name]) rest
      | some (.link target) =>
        if rest.isEmpty && approach == .upTo && !toDirectory then
          .ok (.present (loc ++ [name]) (.link target))
        else
          let route := Route.ofText target
          let onward : Route :=
            ⟨route.steps ++ rest, toDirectory || (rest.isEmpty && route.toDirectory)⟩
          if target.isEmpty then .error .notFound
          else again (if target.toList.head? == some '/' then [] else loc) onward
      | some node =>
        if rest.isEmpty && !toDirectory then .ok (.present (loc ++ [name]) node)
        else .error .notADirectory

/-- Follows a route from a directory on, through fewer than `links` links. -/
def follow (disk : Disk) (approach : Approach) : Nat → Location → Route → Except Fault Place
  | 0, _, _ => .error .tooManyLinks
  | links + 1, loc, route =>
    disk.walk (follow disk approach links) approach route.toDirectory loc route.steps

/-- Follows a route from where a program works, through fewer than `links` links. Nothing can be
    entered from a directory that has been removed, but it can be left. -/
def followFrom (disk : Disk) (approach : Approach) (links : Nat) (toDirectory : Bool) :
    Foothold → List RouteStep → Except Fault Place
  | ⟨loc, []⟩, steps => disk.follow approach links loc ⟨steps, toDirectory⟩
  | f, [] => .ok (.removed f)
  | f, .stay :: rest => followFrom disk approach links toDirectory f rest
  | f, .ascend :: rest =>
    followFrom disk approach links toDirectory ⟨f.standing, f.lost.dropLast⟩ rest
  | _, .enter _ :: _ => .error .notFound

end Disk
end SuiteCoverage
