/-!
# Scripts

The form of the scripts that tests and tools are written in: the command language of the
standard shell. A script is a list of steps; a step is a pipeline with a condition on how the
step before it went. Steps that depend on each other make up a chain, and a script need not wait
for a chain.
-/

set_option autoImplicit false

namespace SuiteCoverage
namespace Shell

/-- When a step is taken. -/
inductive Join where
  | always
  /-- Only after success. -/
  | ifPassed
  /-- Only after failure. -/
  | ifFailed
deriving DecidableEq, Repr

/-- Whether a step is taken after one that went so. -/
def Join.holds (join : Join) (status : Nat) : Bool :=
  match join with
  | always => true
  | ifPassed => status == 0
  | ifFailed => status != 0

/-- Where a redirection leads. -/
inductive Direction where
  | input
  /-- A file is read and written from its start on. -/
  | both
  /-- A file is written anew. Files that are there may be protected from that. -/
  | output
  /-- A file is written anew in any case. -/
  | overwrite
  | append
  /-- To where another descriptor leads. -/
  | duplicate
deriving DecidableEq, Repr

/-- What a substitution does with its word. -/
inductive Substitute where
  /-- The word takes the place of a value that is missing. -/
  | use
  /-- The same, and the variable keeps the word. -/
  | assign
  /-- A missing value ends the script with the word as message. -/
  | demand
  /-- The word takes the place of a value that is there. -/
  | alternative
deriving DecidableEq, Repr

mutual

/-- A part of a word. What is `quoted` is taken as it is. -/
inductive Fragment where
  | text (text : String) (quoted : Bool)
  | parameter (name : String) (rule : Rule) (quoted : Bool)
  /-- The length of a value. -/
  | size (name : String) (quoted : Bool)
  /-- What a script writes. -/
  | output (steps : List Step) (quoted : Bool)
  | arithmetic (expression : List Fragment) (quoted : Bool)

/-- What is done to the value of a parameter. -/
inductive Rule where
  | plain
  /-- `orEmpty` tells that an empty value counts as missing. -/
  | substitute (kind : Substitute) (orEmpty : Bool) (word : List Fragment)
  /-- Takes what matches a pattern off the end or off the front. -/
  | trim (atEnd longest : Bool) (pattern : List Fragment)
  /-- There is no such rule. -/
  | unknown

/-- A redirection of a descriptor. -/
inductive Redirect where
  | to (descriptor : Nat) (direction : Direction) (target : List Fragment)
  /-- From the document with a number. -/
  | document (descriptor : Nat) (number : Nat)

/-- A command of a script, with the line on which it starts. -/
inductive Task where
  | simple (line : Nat) (assignments : List (String × List Fragment))
      (words : List (List Fragment)) (redirects : List Redirect)
  /-- Steps that are taken together. -/
  | group (line : Nat) (body : List Step) (redirects : List Redirect)
  /-- Steps that are taken in a shell of their own. -/
  | separate (line : Nat) (body : List Step) (redirects : List Redirect)
  | branch (line : Nat) (cases : List (List Step × List Step)) (otherwise : List Step)
      (redirects : List Redirect)
  /-- Repeats its body while the condition passes, or until it does. -/
  | loop (line : Nat) (untilPassed : Bool) (condition body : List Step)
      (redirects : List Redirect)
  /-- Repeats its body for every item; without items, for every argument. -/
  | each (line : Nat) (name : String) (items : Option (List (List Fragment)))
      (body : List Step) (redirects : List Redirect)
  | select (line : Nat) (subject : List Fragment)
      (clauses : List (List (List Fragment) × List Step)) (redirects : List Redirect)
  | define (name : String) (body : Task)

/-- A pipeline and when it is taken. The last step of a chain tells whether the chain is
    `detached`, so that the script goes on without waiting for it. -/
inductive Step where
  | mk (join : Join) (negated : Bool) (tasks : List Task) (detached : Bool)

end

namespace Step

/-- When a step is taken. -/
def join : Step → Join
  | mk join .. => join

/-- Whether the chain that a step ends is detached. -/
def isDetached : Step → Bool
  | mk _ _ _ detached => detached

/-- A step that ends a chain that is detached, or one that is not. -/
def setDetached (detached : Bool) : Step → Step
  | mk join negated tasks _ => mk join negated tasks detached

/-- Whether steps go on with one that is taken in any case. -/
def startsAnew : List Step → Bool
  | step :: _ => step.join == .always
  | [] => true

/-- The steps that depend on the step before them, and those that follow them. -/
def splitChain (steps : List Step) : List Step × List Step :=
  steps.span fun step => step.join != .always

end Step

/-- Whether a pipeline fails by itself. One that consists of steps in the same shell does not: it is
    left to the steps to fail. -/
def canFail : List Task → Bool
  | [.group ..] => false
  | [.branch ..] => false
  | [.loop ..] => false
  | [.each ..] => false
  | [.select ..] => false
  | _ => true

instance : Inhabited Task := ⟨.group 0 [] []⟩

/-- A word of a script. -/
abbrev Word := List Fragment

/-- Where and why reading a script came to a halt. -/
structure Misreading where
  line : Nat
  message : String
deriving DecidableEq, Repr

end Shell
end SuiteCoverage
