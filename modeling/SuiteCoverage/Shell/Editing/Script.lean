import SuiteCoverage.Regex.Basic

/-!
# Editing scripts

A script for the stream editor is a list of commands. A command says for which lines it is carried
out: for one, for those from one to another, or for all others. Braces hold commands together; the
place of the brace that closes them is known, and so are the places of labels.
-/

set_option autoImplicit false

namespace SuiteCoverage
namespace Shell
namespace Editing

/-- An expression, and how it is searched for. -/
structure Pattern where
  regex : Regex
  folds : Bool
  /-- Whether lines inside the text have starts and ends. -/
  lines : Bool
deriving DecidableEq

/-- What a line is called by. The pattern that was used last is meant if none is given. -/
inductive Address where
  | line (number : Nat)
  /-- Every so many lines from one on. -/
  | step (first distance : Nat)
  | last
  | matching (pattern : Option Pattern)
deriving DecidableEq

/-- What the last of several lines is called by. -/
inductive Bound where
  | line (number : Nat)
  | last
  | matching (pattern : Option Pattern)
  /-- So many lines further on. -/
  | further (count : Nat)
  /-- The next line whose number is a multiple. -/
  | multiple (factor : Nat)
  /-- One of every so many lines from one on. -/
  | step (first distance : Nat)
deriving DecidableEq

/-- The lines that a command is carried out for. -/
structure Scope where
  first : Option Address
  last : Option Bound
  /-- Whether it is carried out for all others. -/
  negated : Bool
deriving DecidableEq

/-- A change of the case of letters. -/
inductive Casing where
  | upper
  | lower
deriving DecidableEq, Repr

/-- A part of what is put in place of a match: a text and a group behind it. -/
structure Piece where
  text : List Char
  group : Option Nat
  casing : Option Casing
  /-- What happens to the first letter instead. -/
  initial : Option Casing
deriving DecidableEq

/-- A substitution. -/
structure Substitution where
  pattern : Option Pattern
  pieces : List Piece
  /-- The number of the first match that is replaced. -/
  nth : Nat
  isGlobal : Bool
  /-- How often the result is printed. -/
  prints : Nat
  /-- Whether the result is carried out as a command. -/
  evaluates : Bool
  file : Option String
deriving DecidableEq

/-- What a command does. -/
inductive Deed where
  /-- Holds the commands up to a place together. -/
  | opening (closed : Nat)
  | closing
  | nothing
  | number
  | append (text : String)
  | insert (text : String)
  | change (text : String)
  | jump (label : String)
  /-- Goes on at a label if something has been replaced since the last line was read. -/
  | jumpIfReplaced (label : String)
  | jumpUnlessReplaced (label : String)
  | delete
  | deleteLine
  | execute (command : String)
  | fileName
  | get
  | getMore
  | hold
  | holdMore
  | list (width : Option Nat)
  | next
  | nextMore
  | print
  | printLine
  | quit (status : Nat)
  | quitSilently (status : Nat)
  | read (file : String)
  | readLine (file : String)
  | substitute (substitution : Substitution)
  | translate (pairs : List (Char × Char))
  | write (file : String)
  | writeLine (file : String)
  | exchange
  | clear
deriving DecidableEq

/-- A command. -/
structure Command where
  scope : Scope
  deed : Deed
deriving DecidableEq

/-- A script. -/
structure Script where
  commands : Array Command
  /-- The labels and their places. -/
  labels : List (String × Nat)
  /-- Whether the script itself asks for lines not to be printed. -/
  isQuiet : Bool

end Editing
end Shell
end SuiteCoverage
