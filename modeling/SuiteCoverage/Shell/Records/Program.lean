import SuiteCoverage.Regex.Basic

/-!
# Programs for records

A program for `awk` is a list of rules: a pattern and what is done with the records that match it.
Variables, functions and arguments are known by their numbers once a program has been read.
-/

set_option autoImplicit false

namespace SuiteCoverage
namespace Shell
namespace Records

/-- A variable: of the whole program, or of the function that is being carried out. -/
inductive Variable where
  | shared (number : Nat)
  | own (number : Nat)
deriving DecidableEq, Repr

/-- The variables that mean something, in the order of their numbers. -/
def knownVariables : List String :=
  ["NF", "NR", "FNR", "FS", "OFS", "ORS", "RS", "FILENAME", "SUBSEP", "RSTART", "RLENGTH",
    "CONVFMT", "OFMT", "ENVIRON", "ARGC", "ARGV"]

namespace Known

def fieldCount : Nat := 0
def recordCount : Nat := 1
def fileRecordCount : Nat := 2
def fieldSeparator : Nat := 3
def outputFieldSeparator : Nat := 4
def outputRecordSeparator : Nat := 5
def recordSeparator : Nat := 6
def fileName : Nat := 7
def indexSeparator : Nat := 8
def matchStart : Nat := 9
def matchLength : Nat := 10
def conversionFormat : Nat := 11
def outputFormat : Nat := 12
def environment : Nat := 13
def argumentCount : Nat := 14
def arguments : Nat := 15

end Known

/-- What is computed from two numbers. -/
inductive Operation where
  | plus
  | minus
  | times
  | over
  | modulo
  | power
deriving DecidableEq, Repr

/-- How two values are compared. -/
inductive Comparison where
  | equal
  | unequal
  | less
  | atMost
  | more
  | atLeast
deriving DecidableEq, Repr

/-- The functions that are known. -/
inductive Function where
  | length
  | substr
  | index
  | split
  | sub
  | gsub
  | search
  | sprintf
  | sine
  | cosine
  | arctangent
  | exponential
  | logarithm
  | whole
  | squareRoot
  | random
  | seed
  | close
  | system
  | upper
  | lower
  | flush
  | now
  | timeText
  | timeOf
deriving DecidableEq, Repr

/-- An expression. -/
inductive Expr where
  | number (n : Float)
  | text (text : String)
  /-- An expression for texts; by itself it asks whether the record matches it. -/
  | pattern (regex : Regex)
  | variable (v : Variable)
  | field (number : Expr)
  | element (v : Variable) (indices : List Expr)
  | assign (target value : Expr)
  | update (operation : Operation) (target value : Expr)
  /-- Adds one or takes one away; the value is the one before or the one after. -/
  | step (isUp isBefore : Bool) (target : Expr)
  | choice (condition yes no : Expr)
  | or (a b : Expr)
  | and (a b : Expr)
  | isIn (indices : List Expr) (v : Variable)
  | likeness (negated : Bool) (text pattern : Expr)
  | compare (comparison : Comparison) (a b : Expr)
  | join (a b : Expr)
  | compute (operation : Operation) (a b : Expr)
  | not (a : Expr)
  | negative (a : Expr)
  | positive (a : Expr)
  /-- Several expressions in parentheses. -/
  | group (parts : List Expr)
  | call (function : Nat) (arguments : List Expr)
  | known (function : Function) (arguments : List Expr)
  /-- Reads a record of the input, of a file, or of what a command writes. -/
  | readInput (target : Option Expr)
  | readFile (file : Expr) (target : Option Expr)
  | readCommand (command : Expr) (target : Option Expr)
deriving Inhabited

/-- Where output goes. -/
inductive Outlet where
  | file
  | end_
  | command
deriving DecidableEq, Repr

/-- A statement. -/
inductive Statement where
  | nothing
  | evaluate (e : Expr)
  | print (parts : List Expr) (outlet : Option (Outlet × Expr))
  | printf (parts : List Expr) (outlet : Option (Outlet × Expr))
  | branch (condition : Expr) (yes no : Statement)
  | while_ (condition : Expr) (body : Statement)
  | doWhile (body : Statement) (condition : Expr)
  | loop (start : Statement) (condition : Option Expr) (each : Statement) (body : Statement)
  | forEach (v : Expr) (table : Variable) (body : Statement)
  | block (statements : List Statement)
  | next
  | nextFile
  | exit (status : Option Expr)
  | return_ (value : Option Expr)
  | leave
  | again
  | delete (v : Variable) (indices : List Expr)
  | clear (v : Variable)
deriving Inhabited

/-- Which records a rule is for. -/
inductive Pattern where
  | every
  | holds (condition : Expr)
  | span (number : Nat) (first last : Expr)

/-- A rule. -/
structure Rule where
  pattern : Pattern
  action : Statement

/-- A function of a program. -/
structure Definition where
  name : String
  parameters : Nat
  body : Statement
deriving Inhabited

/-- A program. -/
structure Program where
  /-- The names of the shared variables. -/
  names : List String
  functions : Array Definition
  before : List Statement
  rules : List Rule
  after : List Statement
  spans : Nat

end Records
end Shell
end SuiteCoverage
