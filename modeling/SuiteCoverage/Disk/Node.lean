import SuiteCoverage.Disk.Mode
import SuiteCoverage.Fault

/-!
# The tree of files

A disk is a tree of named nodes under a root directory. A node is found by its location, the
names on the way to it from the root; links are not followed here (that is a matter of paths).

Besides files, links and directories there are the programs of the system, its devices, and
queues. They have no content of their own; a program is known by its name, and a queue by a number.
-/

set_option autoImplicit false

namespace SuiteCoverage

/-- A device of the system. -/
inductive Device where
  /-- It is always empty, and takes everything. -/
  | null
  /-- Zeros without end. -/
  | zero
  /-- The same, but there is no room in it. -/
  | full
  /-- Bytes without end that nobody foresees. -/
  | random
  /-- The terminal, of which there is none. -/
  | terminal
deriving DecidableEq, Repr

/-- What is known of a node besides its content. -/
structure Facts where
  mode : Mode
  /-- When the content was changed last, in millionths of a second. -/
  changed : Int
  /-- A number that all names of the same file have in common, if it has several. -/
  identity : Option Nat
  /-- Whether the node belongs to the system and not to whoever uses it. -/
  isForeign : Bool
deriving DecidableEq, Repr

namespace Facts

/-- The facts of something new. -/
def new (mode : Mode) (now : Int) : Facts := ⟨mode, now, none, false⟩

/-- The facts of something that came with the system. -/
def ofSystem (mode : Mode) : Facts := ⟨mode, 0, none, true⟩

/-- What may be done, in the three bits of a group. -/
def rights (facts : Facts) : Nat :=
  if facts.isForeign then facts.mode.bits &&& 7 else (facts.mode.bits >>> 6) &&& 7

/-- Whether the node may be read. -/
def isReadable (facts : Facts) : Bool := facts.rights &&& 4 != 0

/-- Whether the node may be written. -/
def isWritable (facts : Facts) : Bool := facts.rights &&& 2 != 0

/-- Whether the node may be executed or, if it is a directory, gone through. -/
def isExecutable (facts : Facts) : Bool := facts.rights &&& 1 != 0

/-- Whether names may be put into the directory and taken out of it. -/
def isOpen (facts : Facts) : Bool := facts.isWritable && facts.isExecutable

/-- The facts with another mode. -/
def withMode (facts : Facts) (mode : Mode) : Facts := { facts with mode }

end Facts

/-- What a name in a directory stands for. -/
inductive Node where
  | file (content : ByteArray) (facts : Facts)
  /-- A link to a path in the given spelling. -/
  | link (target : String)
  | device (device : Device)
  /-- What is written to it is read from it. -/
  | queue (number : Nat) (facts : Facts)
  /-- A program that comes with the system. -/
  | program (name : String)
  | directory (facts : Facts) (entries : List (String × Node))

namespace Node

/-- What is known of the node. Links can be read and written by everybody. -/
def facts : Node → Facts
  | file _ facts => facts
  | link _ => .ofSystem ⟨0o777⟩
  | device _ => .ofSystem ⟨0o666⟩
  | queue _ facts => facts
  | program _ => .ofSystem .program
  | directory facts _ => facts

/-- The node with other facts. There are none that could be changed of what the system has. -/
def withFacts (change : Facts → Facts) : Node → Node
  | file content facts => file content (change facts)
  | queue number facts => queue number (change facts)
  | directory facts entries => directory (change facts) entries
  | node => node

/-- The mode of the node. -/
def mode (node : Node) : Mode := node.facts.mode

/-- Whether the node is a directory. -/
def isDirectory : Node → Bool
  | directory .. => true
  | _ => false

/-- Whether the node is a file in the narrow sense: no directory, no link and no device. -/
def isRegular : Node → Bool
  | file .. => true
  | program _ => true
  | _ => false

/-- Whether the node is a link. -/
def isLink : Node → Bool
  | link _ => true
  | _ => false

/-- Whether the node is a device. -/
def isDevice : Node → Bool
  | device _ => true
  | _ => false

/-- Whether the node is a queue. -/
def isQueue : Node → Bool
  | queue .. => true
  | _ => false

/-- Whether the node may be read. -/
def isReadable (node : Node) : Bool := node.facts.isReadable

/-- Whether the node may be written. -/
def isWritable (node : Node) : Bool := node.facts.isWritable

/-- Whether the system may execute the node. -/
def isExecutable (node : Node) : Bool := node.isRegular && node.facts.isExecutable

/-- Whether the node is one for somebody to execute. -/
def isExecutableBySome (node : Node) : Bool := node.isRegular && node.mode.isExecutableBySome

end Node

/-- The names in a directory and what they stand for. -/
abbrev Entries := List (String × Node)

namespace Entries

/-- What a name stands for. -/
def find? (name : String) : Entries → Option Node
  | [] => none
  | (other, node) :: rest => if other = name then some node else find? name rest

/-- Lets a name stand for a node: in place of what it stood for, or else as the last name. -/
def put (name : String) (node : Node) : Entries → Entries
  | [] => [(name, node)]
  | (other, old) :: rest =>
    if other = name then (other, node) :: rest else (other, old) :: put name node rest

/-- Takes a name away. -/
def erase (name : String) (entries : Entries) : Entries :=
  entries.filter fun entry => entry.1 != name

end Entries

/-- The names on the way from the root to a node. -/
abbrev Location := List String

/-- A tree of files: the entries of its root directory. -/
structure Disk where
  root : Entries

namespace Disk

/-- The disk without anything on it. -/
def blank : Disk := ⟨[]⟩

/-- What is known of the root. -/
def rootFacts : Facts := .ofSystem .program

/-- The node at a location below a directory with the given facts and entries. -/
def nodeIn (facts : Facts) (entries : Entries) : Location → Option Node
  | [] => some (.directory facts entries)
  | name :: rest =>
    match entries.find? name with
    | some (.directory facts below) => nodeIn facts below rest
    | some node => if rest.isEmpty then some node else none
    | none => none

/-- The node at a location. -/
def node? (disk : Disk) (loc : Location) : Option Node :=
  nodeIn rootFacts disk.root loc

/-- The entries of the directory at a location. -/
def entries? (disk : Disk) (loc : Location) : Option Entries :=
  match disk.node? loc with
  | some (.directory _ entries) => some entries
  | _ => none

/-- What is known of the node at a location. -/
def factsAt (disk : Disk) (loc : Location) : Facts :=
  ((disk.node? loc).map Node.facts).getD rootFacts

/-- Changes the entries of the directory at a location below one with the given entries.
    Nothing changes if there is no directory. -/
def changeIn (change : Entries → Entries) (entries : Entries) : Location → Entries
  | [] => change entries
  | name :: rest =>
    match entries.find? name with
    | some (.directory facts below) =>
      entries.put name (.directory facts (changeIn change below rest))
    | _ => entries

/-- Changes the entries of the directory at a location. -/
def change (disk : Disk) (loc : Location) (f : Entries → Entries) : Disk :=
  ⟨changeIn f disk.root loc⟩

/-- Puts a node into a directory under a name. -/
def put (disk : Disk) (loc : Location) (name : String) (node : Node) : Disk :=
  disk.change loc (Entries.put name node)

/-- Takes a name out of a directory. -/
def erase (disk : Disk) (loc : Location) (name : String) : Disk :=
  disk.change loc (Entries.erase name)

end Disk
end SuiteCoverage
