import SuiteCoverage.Shell.Extended.Reader
import SuiteCoverage.Shell.Extended.Telling

/-!
# Giving variables values

What a variable takes for a text that it is given depends on its attributes: it may count as an
expression, or have its letters changed. A variable that refers to another one passes on what it
is given, and one that keeps its value does not take another.
-/

set_option autoImplicit false

namespace SuiteCoverage
namespace Shell
namespace Extended
namespace Setting

open Effect

/-- A text with its first letter in upper case and the others in lower case. -/
def capitalized (text : String) : String :=
  match text.toList with
  | c :: rest => String.ofList (c.toUpper :: rest.map Char.toLower)
  | [] => text

/-- What a variable takes for a text that it is given, or that is added to the text that it has. -/
def converted (v : Variable) (before : Option String) (text : String) : Effect String := do
  if v.has 'i' then
    let n ← demanded "" text
    let old ← match before with
      | some before => demanded "" before
      | none => pure 0
    return toString (Calculation.wrap (old + n))
  let text := before.getD "" ++ text
  return if v.has 'u' then text.toUpper
    else if v.has 'l' then text.toLower
    else if v.has 'c' then capitalized text
    else text

/-- Does what goes with a new value of a variable. -/
def heed (name : String) : Effect Unit := do
  if name = "PATH" then changeOwn fun own => { own with found := [] }
  if name = "OPTIND" then
    let n := ((Store.textOf? (← state) "OPTIND").bind String.toNat?).getD 0
    change fun s => { s with scan := ⟨max 1 n, none⟩ }

/-- Whether a variable can be given a value; if it keeps its own, that is told. -/
def isFree (name : String) : Effect Bool := do
  if Store.isFixed (← state) name then
    tell (name ++ ": readonly variable")
    return false
  return true

/-- The variable that a name stands for from now on. -/
def keep (name : String) (v : Variable) : Effect Unit := do
  let v := if ← isOn "allexport" then v.withAttribute 'x' else v
  change fun s => Store.put s name v
  heed name

/-- Puts a text at a spot of the variable that a name itself stands for, or adds it to the text that
    is there, and tells whether that could be done. -/
def putText (name : String) (spot : Store.Spot) (adds : Bool) (text : String) : Effect Bool := do
  if !(← isFree name) then return false
  let v := Store.variableOr (← state) name
  let before := if adds then some ((Store.textAt? v spot).getD "") else none
  let text ← converted v before text
  let v := Store.variableOr (← state) name
  keep name (Store.withTextAt v spot text)
  return true

/-- The spot that a text in brackets names in a variable, if there can be such a spot. The text has
    been expanded; `raw` is how it stands there. -/
def spotOf (name raw text : String) : Effect (Option Store.Spot) := do
  let refuse : Effect (Option Store.Spot) := do
    tell (name ++ "[" ++ raw ++ "]: bad array subscript")
    return none
  let v := Store.variableOr (← state) name
  if v.has 'A' then
    if text.isEmpty then refuse else return some (.key text)
  else if text.isEmpty || text = "@" || text = "*" then refuse
  else
    let n ← demanded "" text
    if 0 ≤ n then return some (.number n.toNat)
    let v := Store.variableOr (← state) name
    let count : Int := match v.value with
      | .list entries => Value.nextNumber entries
      | .text _ => 1
      | _ => 0
    if n + count < 0 then refuse else return some (.number (n + count).toNat)

/-- Whether a text can be the name of a variable. -/
def isName (text : String) : Bool :=
  text.toList.head?.any Reader.startsName && text.toList.all Reader.continuesName

/-- Tells that a text cannot be the name of a variable. -/
def refuseName (text : String) : Effect Unit :=
  object ("\u0060" ++ text ++ "': not a valid identifier")

/-- Gives what a text names another text, and tells whether that could be done. The text may name a
    place in a variable. -/
def give (target text : String) : Effect Bool := do
  let named := Store.Target.ofText target
  if !isName named.name then
    refuseName target
    return false
  let resolved := Store.resolve (← state) named.name
  match named.place.or resolved.place with
  | none => putText resolved.name .whole false text
  | some place =>
    match ← spotOf resolved.name place place with
    | none => return false
    | some spot => putText resolved.name spot false text

/-- Gives what a text names another text. Where that cannot be done the command of the shell that is
    being carried out has failed. -/
def giveOrFail (target text : String) : Effect Unit := do
  if !(← give target text) then failWith 1

/-- Gives a variable that the shell itself writes to a list of texts. -/
def putTexts (name : String) (texts : List String) : Effect Unit := do
  let v := Store.variableOr (← state) name
  keep name { (v.withoutAttribute 'A').withAttribute 'a' with value := .ofTexts texts }

/-! ## Lists and tables -/

/-- An entry of a list that has been expanded. -/
inductive Item where
  | plain (text : String)
  /-- At a place, which is given as it stands there and expanded. -/
  | placed (raw key : String) (adds : Bool) (text : String)

/-- Puts the entries of a table behind each other, keys and texts in turn. -/
def putPairs (name : String) : List String → Effect Unit
  | [] => pure ()
  | key :: rest => do
    let _ ← putText name (.key key) false (rest.headD "")
    match rest with
    | [] => pure ()
    | _ :: more => putPairs name more

/-- Puts items into a variable that is a list or a table; `next` is the number of the next one that
    is without a place. -/
def putItems (name : String) : Nat → List Item → Effect Unit
  | _, [] => pure ()
  | next, .plain text :: rest => do
    let v := Store.variableOr (← state) name
    if v.has 'A' then
      tell (name ++ ": " ++ text ++ ": must use subscript when assigning associative array")
      putItems name next rest
    else
      let _ ← putText name (.number next) false text
      putItems name (next + 1) rest
  | next, .placed raw key adds text :: rest => do
    match ← spotOf name raw key with
    | none => putItems name next rest
    | some spot =>
      let _ ← putText name spot adds text
      let next := match spot with
        | .number n => n + 1
        | _ => next
      putItems name next rest

/-- Gives a variable a list or a table of items, or adds them to those that it has, and tells
    whether that could be done. -/
def putAll (name : String) (adds : Bool) (items : List Item) : Effect Bool := do
  if !(← isFree name) then return false
  let v := Store.variableOr (← state) name
  let v := if v.has 'A' then v else v.withAttribute 'a'
  let isTable := v.has 'A'
  let entries : List (Nat × String) := match v.value with
    | .list entries => entries
    | .text text => [(0, text)]
    | _ => []
  let value : Value :=
    if isTable then if adds then v.value else .table []
    else .list (if adds then entries else [])
  let value := if value = .nothing then (if isTable then .table [] else .list []) else value
  keep name { v with value }
  let isPaired := isTable && (match items with
    | .plain _ :: _ => true
    | _ => false)
  if isPaired then
    putPairs name (items.map fun
      | .plain text => text
      | .placed raw _ _ text => "[" ++ raw ++ "]=" ++ text)
  else putItems name (Value.nextNumber (if adds then entries else [])) items
  return true

end Setting
end Extended
end Shell
end SuiteCoverage
