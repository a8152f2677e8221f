import SuiteCoverage.Shell.Extended.Expansion
import SuiteCoverage.Shell.Extended.Printing

/-!
# Declaring variables

The commands that give variables their attributes, and that show variables as the commands that
declare them. Inside a function a variable that is declared belongs to the function. What is given
to a variable may be a list, which is expanded once it is known what the variable is.
-/

set_option autoImplicit false

namespace SuiteCoverage
namespace Shell
namespace Extended
namespace Declaring

open Effect

/-- An operand of a command that declares. -/
inductive Operand where
  | text (text : String)
  | list (name : String) (place : Place) (adds : Bool) (entries : List Entry)

/-- The text of an operand; of a list, the name. -/
def Operand.shown : Operand → String
  | .text word => word
  | .list name .. => name

/-- What is given to a variable. -/
inductive Gift where
  | nothing
  | text (adds : Bool) (text : String)
  | list (adds : Bool) (entries : List Entry)

/-- What an operand asks for: a name, the place in it, and what is given. -/
structure Wish where
  name : String
  place : Option String
  gift : Gift

/-- What an operand asks for. -/
def Operand.wish : Operand → Wish
  | .list name _ adds entries => ⟨name, none, .list adds entries⟩
  | .text word =>
    let chars := word.toList
    let front := chars.takeWhile (· != '=')
    let adds := front.length < chars.length && front.getLast? == some '+'
    let named := Store.Target.ofText (String.ofList (if adds then front.dropLast else front))
    let gift : Gift :=
      if front.length < chars.length then .text adds (String.ofList (chars.drop (front.length + 1)))
      else .nothing
    ⟨named.name, named.place, gift⟩

/-- The options of a command that declares: the attributes that are given, those that are taken
    away, and the operands. -/
structure Options where
  given : List Char
  taken : List Char
  operands : List Operand

/-- Reads options. -/
def readOptions (known : List Char) : List Operand → Effect Options
  | [] => return ⟨[], [], []⟩
  | .text word :: rest => do
    match word.toList with
    | ['-', '-'] => return ⟨[], [], rest⟩
    | '-' :: c :: more =>
      match (c :: more).find? fun c => !known.contains c with
      | some c =>
        object ("-" ++ String.singleton c ++ ": invalid option")
        refuseUsage
      | none =>
        let options ← readOptions known rest
        return { options with given := c :: more ++ options.given }
    | '+' :: c :: more =>
      match (c :: more).find? fun c => !known.contains c with
      | some c =>
        object ("+" ++ String.singleton c ++ ": invalid option")
        refuseUsage
      | none =>
        let options ← readOptions known rest
        return { options with taken := c :: more ++ options.taken }
    | _ => return ⟨[], [], .text word :: rest⟩
  | operands => return ⟨[], [], operands⟩

/-! ## Showing -/

/-- All variables, in order. -/
def allVariables (s : State) : List (String × Variable) :=
  let kept := Store.keptNames.filterMap fun name =>
    if s.own.disabled.contains name then none else (Store.kept? s name).map fun v => (name, v)
  let own := s.own.scopes.visible
  let others := kept.filter fun entry => !own.any fun other => other.1 == entry.1
  (own ++ others).mergeSort fun a b => (compare a.1 b.1).isLE

/-- Shows the variables that have all of some attributes. -/
def listVariables (attributes : List Char) : Effect Unit := do
  (allVariables (← state)).forM fun (name, v) => do
    if attributes.all v.has then say (v.declaration name ++ "\n")

/-- Shows a variable, and tells whether there is such a one. -/
def showVariable (name : String) : Effect Bool := do
  match Store.find? (← state) name with
  | some v =>
    say (v.declaration name ++ "\n")
    return true
  | none =>
    object (name ++ ": not found")
    return false

/-- The functions, in order. -/
def allFunctions (s : State) : List (String × Function) :=
  s.own.functions.mergeSort fun a b => (compare a.1 b.1).isLE

/-- The attributes of a function. -/
def optionOf (function : Function) : String :=
  "-f" ++ (if function.isFixed then "r" else "") ++ (if function.isExported then "x" else "")

/-- Writes a function. -/
def sayFunction (name : String) (function : Function) : Effect Unit := do
  say (Printing.ofFunction (← state).own.documents name function.body ++ "\n")

/-- Shows all variables and functions. -/
def listAll : Effect Unit := do
  let s ← state
  (allVariables s).forM fun (name, v) =>
    (v.shownAmongAll name).forM fun text => say (text ++ "\n")
  (allFunctions s).forM fun (name, function) => sayFunction name function

/-- Shows functions, or does something to them. -/
def functions (isBrief : Bool) (isFixed : Bool) (isExported : Option Bool) (names : List String) :
    Effect Unit := do
  let s ← state
  if names.isEmpty then
    (allFunctions s).forM fun (name, function) => do
      if (!isFixed || function.isFixed) && (isExported.all fun wanted => !wanted || function.isExported)
      then
        if !isBrief then sayFunction name function
        if isBrief || isFixed || isExported.isSome then
          say ("declare " ++ optionOf function ++ " " ++ name ++ "\n")
    answer true
  else
    let results ← names.mapM fun name => do
      match s.own.functions.find? fun entry => entry.1 == name with
      | none => return false
      | some (_, function) =>
        if isFixed || isExported.isSome then
          changeOwn fun own =>
            { own with
              functions := own.functions.map fun entry =>
                if entry.1 == name then
                  (name, { entry.2 with
                    isFixed := entry.2.isFixed || isFixed
                    isExported := isExported.getD entry.2.isExported })
                else entry }
        else if isBrief then say (name ++ "\n")
        else sayFunction name function
        return true
    answer (results.all id)

/-! ## Declaring -/

/-- The attributes that exclude each other. -/
def casings : List Char := ['l', 'u', 'c']

/-- A variable with other attributes. -/
def changed (given taken : List Char) (v : Variable) : Variable :=
  let asked := given.filter casings.contains
  let v := if asked.isEmpty then v else casings.foldl Variable.withoutAttribute v
  let given := if 1 < asked.length then given.filter fun c => !casings.contains c else given
  let v := given.foldl Variable.withAttribute v
  taken.foldl Variable.withoutAttribute v

/-- A variable that is a list or a table from now on. -/
def asMany (given : List Char) (v : Variable) : Variable :=
  match v.value with
  | .text text =>
    if given.contains 'A' then { v with value := .table [("0", text)] }
    else if given.contains 'a' then { v with value := .list [(0, text)] }
    else v
  | _ => v

/-- Puts what is given into the variable that a name itself stands for. -/
def receive (carrier : Carrier) (fuel : Nat) (wish : Wish) : Effect Bool := do
  let name := wish.name
  match wish.gift with
  | .nothing => return true
  | .list adds entries =>
    let isTable := (Store.variableOr (← state) name).has 'A'
    let items ← Expansion.items carrier fuel isTable entries
    Setting.putAll name adds items
  | .text adds text =>
    match wish.place with
    | none => Setting.putText name .whole adds text
    | some place =>
      match ← Setting.spotOf name place place with
      | some spot => Setting.putText name spot adds text
      | none => return false

/-- Whether a name may refer to another one; if not, that is told. -/
def mayRefer (wish : Wish) : Effect Bool := do
  match wish.gift with
  | .text _ text =>
    if text = wish.name then
      object (text ++ ": nameref variable self references not allowed")
      return false
    let target := Store.Target.ofText text
    if !text.isEmpty && !Setting.isName target.name then
      object ("\u0060" ++ text ++ "': invalid variable name for name reference")
      return false
    return true
  | _ => return true

/-- Puts a variable where it belongs. -/
def place (isLocal isGlobal : Bool) (name : String) (v : Variable) : Effect Unit :=
  change fun s => Store.withScopes s fun scopes =>
    if isGlobal then scopes.putGlobal name v
    else if isLocal then scopes.putLocal name v
    else scopes.put name v

/-- Declares a variable, and tells whether that could be done. -/
def declareOne (carrier : Carrier) (fuel : Nat) (given taken : List Char)
    (isLocal isGlobal inherits : Bool) (operand : Operand) : Effect Bool := do
  let wish := operand.wish
  if !Setting.isName wish.name then
    Setting.refuseName operand.shown
    return false
  if given.contains 'n' then
    if !(← mayRefer wish) then return false
  let s ← state
  let isReferring := given.contains 'n' || taken.contains 'n'
  let here : Option Variable :=
    if isGlobal then s.own.scopes.findGlobal? wish.name
    else if isLocal then s.own.scopes.findLocal? wish.name
    else Store.find? s wish.name
  let isReference := here.any fun v => v.has 'n' && v.isSet
  let target := if isReference && !isReferring then Store.resolve s wish.name
    else ⟨wish.name, none⟩
  let wish := { wish with name := target.name, place := wish.place.or target.place }
  let before : Option Variable :=
    if isGlobal then s.own.scopes.findGlobal? wish.name
    else if isLocal && !isReference then s.own.scopes.findLocal? wish.name
    else Store.find? s wish.name
  let hasGift : Bool := match wish.gift with
    | .nothing => false
    | _ => true
  let isFixedOutside := isLocal && (Store.find? s wish.name).any fun v => v.has 'r'
  if ((before.any fun v => v.has 'r') && (hasGift || taken.contains 'r')) || isFixedOutside then
    object (wish.name ++ ": readonly variable")
    return false
  if given.contains 'A' && (before.any fun v => v.has 'a') then
    object (wish.name ++ ": cannot convert indexed to associative array")
    return false
  if given.contains 'a' && (before.any fun v => v.has 'A') then
    object (wish.name ++ ": cannot convert associative to indexed array")
    return false
  let usual : Variable :=
    if inherits then Store.variableOr s wish.name
    else if isLocal then (s.own.scopes.passed? wish.name).getD ⟨.nothing, []⟩
    else ⟨.nothing, []⟩
  let isList : Bool := match wish.gift with
    | .list .. => true
    | _ => wish.place.isSome
  let given := if isList && !given.contains 'A' && !(before.any fun v => v.has 'A') then
      'a' :: given
    else given
  let v := asMany given (changed (given.filter (· != 'r')) taken (before.getD usual))
  place isLocal isGlobal wish.name v
  let isDone ← receive carrier fuel wish
  if given.contains 'r' then
    let s ← state
    let now := (if isGlobal then s.own.scopes.findGlobal? wish.name
      else Store.find? s wish.name).getD ⟨.nothing, []⟩
    place isLocal isGlobal wish.name (now.withAttribute 'r')
  return isDone

/-- The letters of attributes. -/
def attributeLetters : List Char := "aAilnrtuxc".toList

/-- Does what `declare` does. -/
def declare (carrier : Carrier) (fuel : Nat) (operands : List Operand) : Effect Unit := do
  let options ← readOptions ("fFgIp".toList ++ attributeLetters) operands
  let isAsked (c : Char) : Bool := options.given.contains c
  let given := options.given.filter attributeLetters.contains
  let names := options.operands.map Operand.shown
  if isAsked 'f' || isAsked 'F' then
    let exports : Option Bool :=
      if options.taken.contains 'x' then some false else if isAsked 'x' then some true else none
    functions (isAsked 'F') (isAsked 'r') exports names
  else if isAsked 'p' then
    if names.isEmpty then
      listVariables given
      answer true
    else
      let results ← names.mapM showVariable
      answer (results.all id)
  else if names.isEmpty then
    if given.isEmpty then listAll else listVariables given
    answer true
  else
    let isLocal := Store.isInFunction (← state) && !isAsked 'g'
    let results ← options.operands.mapM
      (declareOne carrier fuel given options.taken isLocal (isAsked 'g') (isAsked 'I'))
    answer (results.all id)

/-- Does what `local` does. -/
def declareLocal (carrier : Carrier) (fuel : Nat) (operands : List Operand) : Effect Unit := do
  if !Store.isInFunction (← state) then fail "can only be used in a function"
  let (marks, operands) := operands.partition fun
    | .text "-" => true
    | _ => false
  if !marks.isEmpty then
    changeOwn fun own =>
      { own with
        scopes := own.scopes.changeFirst (·.isOfFunction) fun scope =>
          { scope with switches := scope.switches.or (some own.enabled) } }
  let options ← readOptions ('p' :: 'I' :: attributeLetters) operands
  if options.operands.isEmpty && marks.isEmpty then
    let scopes : List Scope := (← state).own.scopes
    let scope := (List.find? Scope.isOfFunction scopes).getD ⟨[], true, none⟩
    let ordered := scope.entries.mergeSort fun a b => (compare a.1 b.1).isLE
    ordered.forM fun (name, v) =>
      if options.given.contains 'p' then say (v.declaration name ++ "\n")
      else (v.shownAmongAll name).forM fun text => say (text ++ "\n")
    answer true
  else
    let given := options.given.filter attributeLetters.contains
    let results ← options.operands.mapM
      (declareOne carrier fuel given options.taken true false (options.given.contains 'I'))
    answer (results.all id)

/-- Shows what an operand gives a variable. -/
def Wish.show (trace : String → Effect Unit) (wish : Wish) : Effect Unit :=
  match wish.gift with
  | .text adds text =>
    let place : Place := (wish.place.map fun place => Place.at_ place []).getD .none
    trace (Expansion.shownAssignment wish.name place adds text)
  | _ => pure ()

/-- Gives variables an attribute, and what operands give them, which is shown by `trace`. -/
def mark (carrier : Carrier) (trace : String → Effect Unit) (fuel : Nat)
    (given taken : List Char) (operands : List Operand) : Effect Unit := do
  let results ← operands.mapM fun operand => do
    let wish := operand.wish
    if !Setting.isName wish.name || (wish.place.isSome && given = ['x']) then
      Setting.refuseName operand.shown
      return false
    let target := Store.resolve (← state) wish.name
    let wish := { wish with name := target.name, place := wish.place.or target.place }
    wish.show trace
    let isFree ← match wish.gift with
      | .nothing => pure true
      | _ => Setting.isFree wish.name
    if !isFree then return false
    let isList : Bool := match wish.gift with
      | .list .. => true
      | _ => false
    let before := Store.variableOr (← state) wish.name
    let given := if isList && !given.contains 'A' && !before.has 'A' then 'a' :: given else given
    let v := asMany given (changed (given.filter (· != 'r')) taken before)
    change fun s => Store.withScopes s fun scopes => scopes.put wish.name v
    let isDone ← receive carrier fuel wish
    if given.contains 'r' then
      let now := Store.variableOr (← state) wish.name
      change fun s => Store.withScopes s fun scopes => scopes.put wish.name (now.withAttribute 'r')
    return isDone
  answer (results.all id)

/-- Does what `export` does. -/
def export_ (carrier : Carrier) (trace : String → Effect Unit) (fuel : Nat)
    (operands : List Operand) : Effect Unit := do
  let options ← readOptions "fnpaA".toList operands
  let isAsked (c : Char) : Bool := options.given.contains c
  let names := options.operands.map Operand.shown
  if isAsked 'f' then functions false false (some (!isAsked 'n')) names
  else if names.isEmpty then
    listVariables ['x']
    answer true
  else if isAsked 'n' then mark carrier trace fuel [] ['x'] options.operands
  else mark carrier trace fuel ['x'] [] options.operands

/-- Does what `readonly` does. -/
def readonly (carrier : Carrier) (trace : String → Effect Unit) (fuel : Nat)
    (operands : List Operand) : Effect Unit := do
  let options ← readOptions "aAfp".toList operands
  let isAsked (c : Char) : Bool := options.given.contains c
  let names := options.operands.map Operand.shown
  if isAsked 'f' then functions false true none names
  else if names.isEmpty then
    listVariables ('r' :: options.given.filter "aA".toList.contains)
    answer true
  else
    mark carrier trace fuel ('r' :: options.given.filter "aA".toList.contains) [] options.operands

/-! ## Taking away -/

/-- Takes away what is at a place of a variable, and tells whether that could be done. -/
def unsetAt (name place : String) : Effect Bool := do
  let v := Store.variableOr (← state) name
  let keep (value : Value) : Effect Bool := do
    change fun s => Store.put s name { v with value }
    return true
  match v.value with
  | .table entries =>
    if place = "@" || place = "*" then keep (.table [])
    else keep (.table (entries.filter fun entry => entry.1 != place))
  | .list entries =>
    if place = "@" || place = "*" then keep (.list [])
    else
      let n ← demanded "" place
      let n := if n < 0 then n + Value.nextNumber entries else n
      if n < 0 then
        object ("[" ++ place ++ "]: bad array subscript")
        return false
      else keep (.list (entries.filter fun entry => (entry.1 : Int) != n))
  | .text _ =>
    let n ← demanded "" place
    if n = 0 then
      change fun s => Store.erase s name
      return true
    else
      object (name ++ ": not an array variable")
      return false
  | .nothing => return true

/-- Takes away a variable, or what is at a place in it, and tells whether that could be done. -/
def unsetVariable (name : String) : Effect Bool := do
  let target := Store.Target.ofText name
  let resolved := Store.resolve (← state) target.name
  if Store.isFixed (← state) resolved.name then
    object (resolved.name ++ ": cannot unset: readonly variable")
    return false
  match target.place.or resolved.place with
  | some place => unsetAt resolved.name place
  | none =>
    change fun s => Store.erase s resolved.name
    Setting.heed resolved.name
    return true

/-- Takes away a function, and tells whether there was one that could be taken away. -/
def unsetFunction (name : String) : Effect Bool := do
  match (← state).own.functions.find? fun entry => entry.1 == name with
  | none => return true
  | some (_, function) =>
    if function.isFixed then
      object (name ++ ": cannot unset: readonly function")
      return false
    changeOwn fun own =>
      { own with functions := own.functions.filter fun entry => entry.1 != name }
    return true

/-- Does what `unset` does. -/
def unset (arguments : List String) : Effect Unit := do
  let (options, names) ← Extended.options "fvn" "" arguments
  let isAsked (c : Char) : Bool := options.any (·.1 == c)
  if isAsked 'f' && isAsked 'v' then fail "cannot simultaneously unset a function and a variable"
  let results ← names.mapM fun name => do
    if isAsked 'f' then unsetFunction name
    else if isAsked 'n' then
      if (← state).own.scopes.find? name |>.any fun v => v.has 'n' then
        change fun s => Store.withScopes s fun scopes => scopes.erase name
      return true
    else
      let base := (Store.Target.ofText name).name
      let isVariable := (Store.find? (← state) base).isSome
      if isVariable || isAsked 'v' then unsetVariable name else unsetFunction name
  answer (results.all id)

end Declaring
end Extended
end Shell
end SuiteCoverage
