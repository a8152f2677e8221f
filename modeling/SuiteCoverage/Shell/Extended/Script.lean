import SuiteCoverage.Shell.Script

/-!
# Scripts of the extended shell

The extended shell understands all that the standard shell does, and more: lists and tables as
values, more that can be done to values, conditions in double brackets, calculations as commands,
loops that count, and words that stand for several words.

A word is kept as it stands in the script besides its parts, since the shell shows it that way.
-/

set_option autoImplicit false

namespace SuiteCoverage
namespace Shell
namespace Extended

/-- Where a redirection leads. -/
inductive Direction where
  | input
  /-- A file is read and written from its start on. -/
  | both
  /-- A file is written anew. Files that are there may be protected from that. -/
  | output
  /-- A file is written anew in any case. -/
  | overwrite
  | append
  /-- To where a descriptor leads that is to be read. -/
  | sameInput
  /-- To where a descriptor leads that is to be written. -/
  | sameOutput
  /-- The output and the error stream, to a file that is written anew. -/
  | all
  /-- The same to the end of a file. -/
  | appendAll
deriving DecidableEq, Repr

/-- The sign of a redirection. -/
def Direction.sign : Direction → String
  | input => "<"
  | both => "<>"
  | output => ">"
  | overwrite => ">|"
  | append => ">>"
  | sameInput => "<&"
  | sameOutput => ">&"
  | all => "&>"
  | appendAll => "&>>"

/-- The descriptor that a redirection is about. -/
inductive Redirected where
  /-- The usual one for its direction. -/
  | usual
  | number (n : Nat)
  /-- A free one, which is kept in a variable. -/
  | variable_ (name : String)
deriving DecidableEq, Repr

/-- The letters of cases. -/
inductive Casing where
  | upper
  | lower
  | toggled
deriving DecidableEq, Repr

/-- Where in a value a pattern is replaced. -/
inductive Spot where
  | first
  | everywhere
  | front
  | back
deriving DecidableEq, Repr

/-- How a clause of a selection ends. -/
inductive ClauseEnd where
  | stop
  /-- The next clause is carried out as well. -/
  | goOn
  /-- The next clauses are tried as well. -/
  | tryOn
deriving DecidableEq, Repr

mutual

/-- A part of a word. What is `quoted` is taken as it is. -/
inductive Fragment where
  | text (text : String) (quoted : Bool)
  | parameter (reference : Reference) (rule : Rule) (quoted : Bool)
  /-- What a script writes. -/
  | output (steps : List Step) (quoted : Bool)
  /-- What a text writes that is a script. -/
  | outputOf (text : String) (quoted : Bool)
  | arithmetic (expression : List Fragment) (quoted : Bool)
  /-- The path of a pipe that a script writes to, or else reads from. -/
  | pipe (isInput : Bool) (steps : List Step)

/-- What is named. -/
inductive Reference where
  /-- `isIndirect` tells that the value is the name of what is meant. -/
  | mk (name : String) (place : Place) (isIndirect : Bool)

/-- A place in a list or a table. -/
inductive Place where
  | none
  /-- All that is in it, as one text if `joined`. -/
  | all (joined : Bool)
  | at_ (raw : String) (word : List Fragment)

/-- What is done to the value of a parameter. -/
inductive Rule where
  | plain
  /-- The length of a value, or the size of a list. -/
  | size
  /-- `orEmpty` tells that an empty value counts as missing. -/
  | substitute (kind : Substitute) (orEmpty : Bool) (word : List Fragment)
  /-- Takes what matches a pattern off the end or off the front. -/
  | trim (atEnd longest : Bool) (pattern : List Fragment)
  | replace (spot : Spot) (pattern : List Fragment) (replacement : List Fragment)
  | slice (offset : List Fragment) (length : Option (List Fragment))
  /-- Other letters for those that match a pattern: for all of them, or for the first. -/
  | letters (casing : Casing) (all : Bool) (pattern : List Fragment)
  | transform (letter : Char)
  /-- The names of variables that start so. -/
  | names (joined : Bool)
  /-- The places that there are in a list or a table. -/
  | places (joined : Bool)
  /-- There is no such rule. The text is what stands between the braces. -/
  | wrong (text : String)

/-- A word of a script as it stands there, and what it stands for: several words if there are
    braces in it. -/
inductive Word where
  | mk (raw : String) (choices : List (List Fragment))

/-- An entry in the value of a list. -/
inductive Entry where
  | plain (word : Word)
  | placed (place : String) (key : List Fragment) (adds : Bool) (raw : String)
      (value : List Fragment)

/-- What a variable is given. -/
inductive Given where
  | text (raw : String) (word : List Fragment)
  | list (entries : List Entry)

/-- An assignment. -/
inductive Assignment where
  | mk (name : String) (place : Place) (adds : Bool) (value : Given)

/-- A word of a command, or an assignment that stands for one. -/
inductive Argument where
  | word (word : Word)
  | assignment (assignment : Assignment)

/-- A redirection of a descriptor. -/
inductive Redirect where
  | to (redirected : Redirected) (direction : Direction) (target : Word)
  /-- From the document with a number. -/
  | document (redirected : Redirected) (number : Nat)
  /-- From a word. -/
  | text (redirected : Redirected) (word : Word)

/-- A question in double brackets. -/
inductive Question where
  | one (operator : String) (word : Word)
  | two (operator : String) (left right : Word)
  | negation (question : Question)
  | both (left right : Question)
  | either (left right : Question)
  | grouped (question : Question)

/-- A clause of a selection. -/
inductive Clause where
  | mk (patterns : List Word) (body : List Step) (ends : ClauseEnd)

/-- A command of a script, with the line on which it starts. -/
inductive Task where
  | simple (line : Nat) (assignments : List Assignment) (words : List Argument)
      (redirects : List Redirect)
  /-- Steps that are taken together. -/
  | group (body : List Step) (redirects : List Redirect)
  /-- Steps that are taken in a shell of their own. -/
  | separate (line : Nat) (body : List Step) (redirects : List Redirect)
  | branch (cases : List (List Step × List Step)) (otherwise : Option (List Step))
      (redirects : List Redirect)
  /-- Repeats its body while the condition passes, or until it does. -/
  | loop (untilPassed : Bool) (condition body : List Step) (redirects : List Redirect)
  /-- Repeats its body for every item; without items, for every argument. -/
  | each (line : Nat) (name : String) (items : Option (List Word)) (body : List Step)
      (redirects : List Redirect)
  /-- Repeats its body as long as an expression is not zero. -/
  | count (line : Nat) (start condition next : List Fragment) (raw : String × String × String)
      (body : List Step) (redirects : List Redirect)
  /-- Repeats its body for every item that is chosen. -/
  | choose (line : Nat) (name : String) (items : Option (List Word)) (body : List Step)
      (redirects : List Redirect)
  | select (line : Nat) (subject : Word) (clauses : List Clause) (redirects : List Redirect)
  | define (line : Nat) (name : String) (body : Task)
  | question (line : Nat) (question : Question) (redirects : List Redirect)
  | calculate (line : Nat) (raw : String) (expression : List Fragment) (redirects : List Redirect)
  /-- Is carried out in the background, with its input and output in a list. -/
  | beside (line : Nat) (name : String) (body : Task)

/-- A pipeline and when it is taken. The last step of a chain tells whether the chain is
    `detached`, so that the script goes on without waiting for it. -/
inductive Step where
  | mk (join : Join) (negated : Bool) (timing : Option Bool) (tasks : List Task) (detached : Bool)

end

namespace Step

/-- When a step is taken. -/
def join : Step → Join
  | mk join .. => join

/-- Whether the chain that a step ends is detached. -/
def isDetached : Step → Bool
  | mk _ _ _ _ detached => detached

/-- A step that ends a chain that is detached, or one that is not. -/
def setDetached (detached : Bool) : Step → Step
  | mk join negated timing tasks _ => mk join negated timing tasks detached

/-- Whether steps go on with one that is taken in any case. -/
def startsAnew : List Step → Bool
  | step :: _ => step.join == .always
  | [] => true

/-- The steps that depend on the step before them, and those that follow them. -/
def splitChain (steps : List Step) : List Step × List Step :=
  steps.span fun step => step.join != .always

end Step

instance : Inhabited Task := ⟨.group [] []⟩
instance : Inhabited Question := ⟨.grouped (.one "-n" (.mk "" []))⟩

/-- A word that stands for itself alone. -/
def Word.one (raw : String) (fragments : List Fragment) : Word := .mk raw [fragments]

/-- A word as it stands in the script. -/
def Word.raw : Word → String
  | mk raw _ => raw

/-- What a word stands for. -/
def Word.choices : Word → List (List Fragment)
  | mk _ choices => choices

/-- What a word stands for that stands for a single one. -/
def Word.fragments (word : Word) : List Fragment := word.choices.headD []

/-- A document as it stands in a script. -/
structure Document where
  /-- The word that ends it, as it stands where the document is announced. -/
  delimiter : String
  text : String
  indented : Bool
  /-- What it stands for. -/
  word : List Fragment

/-- A function. -/
structure Function where
  body : Task
  /-- The file that it stands in, and the line. -/
  source : String
  line : Nat
  isExported : Bool
  isFixed : Bool

end Extended
end Shell
end SuiteCoverage
