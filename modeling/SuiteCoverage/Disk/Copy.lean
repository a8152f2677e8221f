import SuiteCoverage.Disk.Node

/-!
# Copies of trees

A tree is copied with what is known of its files changed, as when new files are not given all that
is asked for. Where there is a directory already what is in the copy comes on top of what is in it.

A file can have several names. What becomes of it under one of them becomes of it under all.
-/

set_option autoImplicit false

namespace SuiteCoverage

mutual

/-- A tree with the facts of its nodes changed. -/
def Node.mapFacts (change : Facts → Facts) : Node → Node
  | .file content facts => .file content (change facts)
  | .directory facts entries => .directory (change facts) (Entries.mapFacts change entries)
  | node => node

/-- Entries with the facts of all nodes changed. -/
def Entries.mapFacts (change : Facts → Facts) : List (String × Node) → List (String × Node)
  | [] => []
  | (name, node) :: rest => (name, node.mapFacts change) :: Entries.mapFacts change rest

end

mutual

/-- What is there once a tree has been copied to where there was another, if anything was. What is
    there already keeps its mode. -/
def Node.onto (old : Option Node) : Node → Node
  | .directory facts entries =>
    match old with
    | some (.directory kept before) => .directory kept (Entries.onto before entries)
    | _ => .directory facts (Entries.onto [] entries)
  | .file content facts =>
    match old with
    | some (.file _ kept) => .file content { kept with changed := facts.changed }
    | _ => .file content facts
  | node => node

/-- What is in a directory once entries have been copied into it. -/
def Entries.onto (before : Entries) : List (String × Node) → Entries
  | [] => before
  | (name, node) :: rest =>
    Entries.onto (before.put name (node.onto (before.find? name))) rest

end

mutual

/-- Whether there is a directory in a tree that cannot be emptied. -/
def Node.isLocked : Node → Bool
  | .directory facts entries =>
    !entries.isEmpty && (!facts.isReadable || !facts.isOpen || Entries.areLocked entries)
  | _ => false

/-- Whether there is a directory among entries, or below them, that cannot be emptied. -/
def Entries.areLocked : List (String × Node) → Bool
  | [] => false
  | (_, node) :: rest => node.isLocked || Entries.areLocked rest

end

/-! ## Files with several names -/

mutual

/-- A tree with a file that has several names put in place of what it was. -/
def Node.renewed (identity : Nat) (content : ByteArray) (facts : Facts) : Node → Node
  | .file old kept => if kept.identity == some identity then .file content facts else .file old kept
  | .directory kept entries => .directory kept (Entries.renewed identity content facts entries)
  | node => node

/-- Entries with a file that has several names put in place of what it was. -/
def Entries.renewed (identity : Nat) (content : ByteArray) (facts : Facts) :
    List (String × Node) → List (String × Node)
  | [] => []
  | (name, node) :: rest =>
    (name, node.renewed identity content facts) :: Entries.renewed identity content facts rest

end

mutual

/-- The numbers that files with several names have, each as often as there are names. -/
def Node.identities : Node → List Nat
  | .file _ facts => facts.identity.toList
  | .directory _ entries => Entries.identities entries
  | _ => []

/-- The numbers of files with several names among entries. -/
def Entries.identities : List (String × Node) → List Nat
  | [] => []
  | (_, node) :: rest => node.identities ++ Entries.identities rest

end

/-- The disk with a file that has several names put in place of what it was. -/
def Disk.renew (disk : Disk) (identity : Nat) (content : ByteArray) (facts : Facts) : Disk :=
  ⟨Entries.renewed identity content facts disk.root⟩

/-- A number that no file has whose names are several. -/
def Disk.freeIdentity (disk : Disk) : Nat :=
  (Entries.identities disk.root).foldl max 0 + 1

/-!
## What changed on a disk

The changes that make one tree of files into another, in an order in which they can be made: a
directory is made before what is in it.
-/

/-- A change of a tree of files. -/
inductive Change where
  | makeDirectory (loc : Location)
  | write (loc : Location) (content : ByteArray) (mode : Mode)
  | makeLink (loc : Location) (target : String)
  | removeFile (loc : Location)
  | removeTree (loc : Location)

namespace Change

/-- The change that takes a node away. -/
def removal (loc : Location) (node : Node) : Change :=
  if node.isDirectory then .removeTree loc else .removeFile loc

/-- The changes that take away what is in a directory and is not to be there any more. -/
def removals (loc : Location) (before after : Entries) : List Change :=
  (before.filter fun entry => (after.find? entry.1).isNone).map fun entry =>
    removal (loc ++ [entry.1]) entry.2

mutual

/-- The changes that put a node in place of what was there, if anything was. -/
def placing (loc : Location) (old : Option Node) : Node → List Change
  | .directory _ entries =>
    match old with
    | some (.directory _ before) =>
      removals loc before entries ++ placingEach loc before entries
    | some other => removal loc other :: .makeDirectory loc :: placingEach loc [] entries
    | none => .makeDirectory loc :: placingEach loc [] entries
  | .file content facts =>
    match old with
    | some (.file before oldFacts) =>
      if before = content ∧ oldFacts.mode = facts.mode then []
      else [.write loc content facts.mode]
    | some other => [removal loc other, .write loc content facts.mode]
    | none => [.write loc content facts.mode]
  | .link target =>
    match old with
    | some (.link before) =>
      if before = target then [] else [.removeFile loc, .makeLink loc target]
    | some other => [removal loc other, .makeLink loc target]
    | none => [.makeLink loc target]
  | .device _ => []
  | .queue .. => []
  | .program _ => []

/-- The changes that put entries in place of those that were in a directory. -/
def placingEach (loc : Location) (before : Entries) : List (String × Node) → List Change
  | [] => []
  | (name, node) :: rest =>
    placing (loc ++ [name]) (before.find? name) node ++ placingEach loc before rest

end

/-- The changes from one disk to another. -/
def between (before after : Disk) : List Change :=
  removals [] before.root after.root ++ placingEach [] before.root after.root

end Change
end SuiteCoverage
