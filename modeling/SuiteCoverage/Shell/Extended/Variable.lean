/-!
# Variables of the extended shell

A variable may hold a text, a list of texts by their numbers, or a table of texts by their keys. It
has attributes besides, each of which has a letter. Variables are kept in scopes: every function
that is being carried out has one, and the last scope is for all.
-/

set_option autoImplicit false

namespace SuiteCoverage
namespace Shell
namespace Extended

/-- The value of a variable. -/
inductive Value where
  | nothing
  | text (text : String)
  /-- Texts by their numbers, which ascend. -/
  | list (entries : List (Nat × String))
  /-- Texts by their keys, the newest key first. -/
  | table (entries : List (String × String))
deriving DecidableEq, Repr

/-! ## Chains

What is kept by its name is kept in a number of chains, with the newest name of a chain first. The
letters of a name tell which chain it is in. -/

/-- The number of chains. -/
def chainCount : Nat := 1024

/-- The chain that a name is in. -/
def chainOf (name : String) : Nat :=
  name.toList.foldl (fun n c =>
    let code := c.toNat
    let code := if 128 ≤ code then code + 768 else code
    ((n * 16777619) ^^^ code) % chainCount) (2166136261 % chainCount)

/-- Names with what they stand for, the newest first, in a number of chains one after the other. -/
def inChainsOf {α : Type} (count : Nat) (entries : List (String × α)) : List (String × α) :=
  let marked := entries.map fun entry => (chainOf entry.1 % count, entry)
  (marked.mergeSort fun a b => decide (a.1 ≤ b.1)).map (·.2)

/-- Names with what they stand for, the newest first, chain by chain. -/
def inChains {α : Type} (entries : List (String × α)) : List (String × α) :=
  inChainsOf chainCount entries

namespace Value

/-- The text at a number of a list. -/
def atNumber? (entries : List (Nat × String)) (n : Nat) : Option String :=
  (entries.find? fun entry => entry.1 == n).map (·.2)

/-- The text with a key of a table. -/
def atKey? (entries : List (String × String)) (key : String) : Option String :=
  (entries.find? fun entry => entry.1 == key).map (·.2)

/-- A list with a text at a number. -/
def putNumber (n : Nat) (text : String) : List (Nat × String) → List (Nat × String)
  | [] => [(n, text)]
  | (m, old) :: rest =>
    if m < n then (m, old) :: putNumber n text rest
    else if m = n then (n, text) :: rest
    else (n, text) :: (m, old) :: rest

/-- A table with a text for a key. -/
def putKey (key text : String) (entries : List (String × String)) : List (String × String) :=
  if entries.any fun entry => entry.1 == key then
    entries.map fun entry => if entry.1 == key then (key, text) else entry
  else (key, text) :: entries

/-- The number behind the last one of a list. -/
def nextNumber (entries : List (Nat × String)) : Nat :=
  (entries.getLast?.map fun entry => entry.1 + 1).getD 0

/-- A list of texts, numbered from zero on. -/
def ofTexts (texts : List String) : Value := list (texts.mapIdx fun n text => (n, text))

/-- The text that a value is as a whole: what is at the number zero. -/
def text? : Value → Option String
  | nothing => none
  | text content => some content
  | list entries => atNumber? entries 0
  | table entries => atKey? entries "0"

/-- All texts of a value, in order. -/
def texts : Value → List String
  | nothing => []
  | text content => [content]
  | list entries => entries.map (·.2)
  | table entries => (inChains entries).map (·.2)

/-- The places of all texts of a value, in order. -/
def places : Value → List String
  | nothing => []
  | text _ => ["0"]
  | list entries => entries.map fun entry => toString entry.1
  | table entries => (inChains entries).map (·.1)

end Value

/-- A variable. -/
structure Variable where
  value : Value
  /-- The letters of its attributes. -/
  attributes : List Char
deriving DecidableEq, Repr

namespace Variable

/-- A variable with a text. -/
def ofText (text : String) : Variable := ⟨.text text, []⟩

/-- Whether a variable has an attribute. -/
def has (v : Variable) (letter : Char) : Bool := v.attributes.contains letter

/-- A variable with an attribute. -/
def withAttribute (v : Variable) (letter : Char) : Variable :=
  if v.has letter then v else { v with attributes := v.attributes ++ [letter] }

/-- A variable without an attribute. -/
def withoutAttribute (v : Variable) (letter : Char) : Variable :=
  { v with attributes := v.attributes.filter (· != letter) }

/-- Whether a variable is a list or a table. -/
def isMany (v : Variable) : Bool := v.has 'a' || v.has 'A'

/-- Whether a variable has a value. -/
def isSet (v : Variable) : Bool := v.value != .nothing

/-- The letters of attributes, in the order in which they are shown. -/
def letterOrder : List Char := "aAilnrtuxc".toList

/-- The letters of the attributes of a variable. -/
def letters (v : Variable) : List Char := letterOrder.filter v.has

end Variable

/-- Variables that are put away together. -/
structure Scope where
  /-- The newest first. -/
  entries : List (String × Variable)
  /-- Whether it is the scope of a function. -/
  isOfFunction : Bool
  /-- The switches that are given back with the scope. -/
  switches : Option (List String)

namespace Scope

/-- The variable with a name. -/
def find? (scope : Scope) (name : String) : Option Variable :=
  (scope.entries.find? fun entry => entry.1 == name).map (·.2)

/-- The scope with a variable of a name, or without one. -/
def put (scope : Scope) (name : String) (v : Option Variable) : Scope :=
  let isThere := scope.entries.any fun entry => entry.1 == name
  { scope with
    entries :=
      match v with
      | none => scope.entries.filter fun entry => entry.1 != name
      | some v =>
        if isThere then
          scope.entries.map fun entry => if entry.1 == name then (name, v) else entry
        else (name, v) :: scope.entries }

end Scope

/-- The scopes of a shell, the innermost first. -/
abbrev Scopes := List Scope

namespace Scopes

/-- The variable that a name stands for. -/
def find? (scopes : Scopes) (name : String) : Option Variable :=
  scopes.findSome? fun scope => scope.find? name

/-- Changes the first of some scopes of a kind, or the last of all. -/
def changeFirst (isMeant : Scope → Bool) (f : Scope → Scope) : Scopes → Scopes
  | [] => [f ⟨[], false, none⟩]
  | [scope] => [f scope]
  | scope :: rest => if isMeant scope then f scope :: rest else scope :: changeFirst isMeant f rest

/-- Lets a name stand for a variable where it stands for one, or else for all. -/
def put (scopes : Scopes) (name : String) (v : Variable) : Scopes :=
  scopes.changeFirst (fun scope => (scope.find? name).isSome) fun scope => scope.put name (some v)

/-- Takes the variable away that a name stands for; `isInner` tells that no function has been found
    so far. -/
def eraseFrom (name : String) : Bool → Scopes → Scopes
  | _, [] => []
  | isInner, scope :: rest =>
    match scope.find? name with
    | none => scope :: eraseFrom name (isInner && !scope.isOfFunction) rest
    | some _ =>
      if isInner && scope.isOfFunction && !rest.isEmpty then
        scope.put name (some ⟨.nothing, []⟩) :: rest
      else scope.put name none :: rest

/-- Takes the variable away that a name stands for. In the scope of the innermost function the name
    stands for nothing from then on. -/
def erase (scopes : Scopes) (name : String) : Scopes := eraseFrom name true scopes

/-- Lets a name stand for a variable in the scope of the innermost function. -/
def putLocal (scopes : Scopes) (name : String) (v : Variable) : Scopes :=
  scopes.changeFirst (·.isOfFunction) fun scope => scope.put name (some v)

/-- Lets a name stand for a variable in the last scope. -/
def putGlobal (scopes : Scopes) (name : String) (v : Variable) : Scopes :=
  scopes.changeFirst (fun _ => false) fun scope => scope.put name (some v)

/-- The variable that a name stands for in the scope of the innermost function. -/
def findLocal? (scopes : Scopes) (name : String) : Option Variable :=
  match scopes with
  | [] => none
  | scope :: rest => if scope.isOfFunction || rest.isEmpty then scope.find? name
    else (scope.find? name).or (findLocal? rest name)

/-- The variable that the innermost function has been given together with its call. -/
def passed? (scopes : Scopes) (name : String) : Option Variable :=
  match scopes.dropWhile fun scope => !scope.isOfFunction with
  | _ :: scope :: _ :: _ => if scope.isOfFunction then none else scope.find? name
  | _ => none

/-- The variable that a name stands for in the last scope. -/
def findGlobal? (scopes : Scopes) (name : String) : Option Variable :=
  scopes.getLast?.bind fun scope => scope.find? name

/-- All names that stand for variables, with these, scope by scope and chain by chain. -/
def visible (scopes : Scopes) : List (String × Variable) :=
  let all := scopes.flatMap fun scope => inChains scope.entries
  all.foldl (fun found entry =>
    if found.any fun other => other.1 == entry.1 then found else found ++ [entry]) []

end Scopes
end Extended
end Shell
end SuiteCoverage
