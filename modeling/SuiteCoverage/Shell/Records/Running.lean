import SuiteCoverage.Calendar
import SuiteCoverage.Shell.Records.Machine
import SuiteCoverage.Shell.Utility.Times

/-!
# Running programs for records

Expressions have values, and some of them change what the program works with. Statements are left
early by jumps, which loops, functions and the reading of records take up.
-/

set_option autoImplicit false

namespace SuiteCoverage
namespace Shell
namespace Records
namespace Run

open Effect Utility

/-! ## Variables -/

/-- What a variable holds. -/
def slotOf (v : Variable) : Run Slot := do
  let m ← get
  return match v with
    | .shared n => (m.shared[n]?).getD (.value .nothing)
    | .own n => (m.own[n]?).getD (.value .nothing)

/-- Lets a variable hold something. -/
def setSlot (v : Variable) (slot : Slot) : Run Unit :=
  modify fun m =>
    match v with
    | .shared n => { m with shared := m.shared.set! n slot }
    | .own n => { m with own := m.own.set! n slot }

/-- The value of a variable. -/
def valueOf (v : Variable) : Run Value := do
  if v == .shared Known.fieldCount then return .number (ofWhole (← fieldCount))
  match ← slotOf v with
  | .value v => return v
  | .table _ => return .nothing

/-- Assigns a value to a variable. -/
def assignTo (v : Variable) (value : Value) : Run Unit := do
  if v == .shared Known.fieldCount then
    let count := wholeOf value.toNumber
    if count < 0 then failWith "negative value assigned to NF"
    resize count.toNat
  else
    if v == .shared Known.outputFieldSeparator then join
    setSlot v (.value value)

/-- The number of the table that a variable holds. A variable without a value becomes one. -/
def tableNumber (v : Variable) : Run Nat := do
  match ← slotOf v with
  | .table n => return n
  | .value _ =>
    let n := (← get).tables.size
    modify fun m => { m with tables := m.tables.push Table.empty }
    setSlot v (.table n)
    return n

/-- Changes a table. -/
def changeTable (number : Nat) (change : Table → Table) : Run Unit :=
  modify fun m => { m with tables := m.tables.modify number change }

/-- Looks something up in a table. -/
def lookUp (number : Nat) (key : Key) (creates : Bool) : Run (Option Value) := do
  let t := ((← get).tables[number]?).getD Table.empty
  let (found, t) := t.find key creates
  changeTable number fun _ => t
  return found

/-- The largest number that tables are chained by. -/
def largestKey : Int := 2147483647

/-- The key that values make up. -/
def keyOf (values : List Value) : Run Key := do
  match values with
  | [.number n] =>
    let whole := wholeOf n
    if ofWhole whole == n && whole.natAbs ≤ largestKey.natAbs then return .number whole
    else return .text (numberText (← format) n)
  | _ =>
    let between ← heldText Known.indexSeparator
    return .text (between.intercalate (← values.mapM textOf))

/-! ## Texts -/

/-- The text for a match: a sign stands for what was matched, unless a backslash is in front of
    it. -/
def replacement (matched : List Char) : Nat → List Char → List Char
  | 0, text => text
  | _, [] => []
  | fuel + 1, '&' :: rest => matched ++ replacement matched fuel rest
  | fuel + 1, '\\' :: rest =>
    let slashes := ('\\' :: rest).takeWhile (· == '\\')
    let after := ('\\' :: rest).drop slashes.length
    match after with
    | '&' :: more =>
      let front := List.replicate (slashes.length / 2) '\\'
      if slashes.length % 2 == 1 then front ++ '&' :: replacement matched fuel more
      else front ++ matched ++ replacement matched fuel more
    | _ => slashes ++ replacement matched fuel after
  | fuel + 1, c :: rest => c :: replacement matched fuel rest

/-- The text in which matches are replaced, in reverse, and how many were. -/
def replaced (regex : Regex) (isGlobal : Bool) (by_ : List Char) (s : Subject) :
    Nat → Nat → Option Nat → List Char → Nat × List Char
  | 0, _, _, found => (0, found)
  | fuel + 1, start, last, found =>
    let upTo (a b : Nat) (found : List Char) : List Char :=
      (s.text.extract a b).toList.foldl (fun found c => c :: found) found
    match regex.find? s start with
    | none => (0, upTo start s.text.size found)
    | some m =>
      let found := upTo start m.first found
      let isEmpty := m.first == m.last
      let goOn (found : List Char) (last : Option Nat) : Nat × List Char :=
        if isEmpty then
          if m.first < s.text.size then
            replaced regex isGlobal by_ s fuel (m.first + 1) last (upTo m.first (m.first + 1) found)
          else (0, found)
        else replaced regex isGlobal by_ s fuel m.last last found
      if isEmpty && last == some m.first then goOn found last
      else
        let matched := (s.text.extract m.first m.last).toList
        let found := (replacement matched (by_.length + 1) by_).foldl (fun found c => c :: found) found
        if isGlobal then
          let (count, result) := goOn found (some m.last)
          (count + 1, result)
        else (1, upTo m.last s.text.size found)

/-- A part of a text: from a place on, of some length. What is in front of the text counts. -/
def part (text : String) (start : Float) (length : Option Float) : String :=
  let chars := text.toList
  let first := rounded start
  let last : Int := match length with
    | none => chars.length + 1
    | some length =>
      if length.isNaN then first
      else if 1e15 < length then chars.length + 1
      else rounded (start + length)
  let from_ := max first 1
  let upTo := min last (chars.length + 1)
  if upTo ≤ from_ then ""
  else String.ofList ((chars.drop (from_ - 1).toNat).take (upTo - from_).toNat)

/-- The place of a text in another, from one on, or zero. -/
def placeOf (inner : List Char) : Nat → List Char → Nat
  | place, text =>
    if inner.isPrefixOf text then place
    else
      match text with
      | [] => 0
      | _ :: rest => placeOf inner (place + 1) rest
termination_by _ text => text.length

/-- A text in a format with values for its directives. -/
def printedIn (whole : String) : Nat → List Char → List Value → List Char → Run String
  | 0, _, _, found => return String.ofList found.reverse
  | _, [], _, found => return String.ofList found.reverse
  | fuel + 1, '%' :: '%' :: rest, values, found => printedIn whole fuel rest values ('%' :: found)
  | fuel + 1, '%' :: rest, values, found => do
    let tooFew {α : Type} : Run α :=
      failWith ("not enough arguments passed to printf(\"" ++ whole ++ "\")")
    let flags := rest.takeWhile "-+ #0".toList.contains
    let afterFlags := rest.drop flags.length
    let (width, rest, values) : List Char × List Char × List Value ← match afterFlags with
      | '*' :: more =>
        match values with
        | v :: values => pure ((toString (wholeOf v.toNumber)).toList, more, values)
        | [] => tooFew
      | more =>
        let digits := more.takeWhile Char.isDigit
        pure (digits, more.drop digits.length, values)
    let (precision, rest, values) : List Char × List Char × List Value ← match rest with
      | '.' :: '*' :: more =>
        match values with
        | v :: values => pure ('.' :: (toString (wholeOf v.toNumber)).toList, more, values)
        | [] => tooFew
      | '.' :: more =>
        let digits := more.takeWhile Char.isDigit
        pure ('.' :: digits, more.drop digits.length, values)
      | more => pure ([], more, values)
    match conversionAt (flags ++ width ++ precision ++ rest) with
    | none => failWith ("bad conversion")
    | some (conversion, after) =>
      match values with
      | [] => tooFew
      | v :: values =>
        let shown ← match conversion.kind with
          | 's' =>
            let text ← textOf v
            pure (conversion.pad (match conversion.precision with
              | some n => (text.take n).toString
              | none => text))
          | 'c' =>
            match v.settled with
            | .number n =>
              pure (conversion.pad (String.singleton (Char.ofNat ((wholeOf n) % 256).toNat)))
            | other =>
              let text ← textOf other
              pure (conversion.pad (text.take 1).toString)
          | kind =>
            if "diouxXeEfFgGaA".toList.contains kind then pure (converted conversion v.toNumber)
            else failWith ("bad conversion")
        printedIn whole fuel after values (shown.toList.reverse ++ found)
  | fuel + 1, c :: rest, values, found => printedIn whole fuel rest values (c :: found)

/-- A text in a format with values for its directives. -/
def formatted (values : List Value) : Run String := do
  match values with
  | [] => return ""
  | first :: others =>
    let text ← textOf first
    printedIn text (text.length + 1) text.toList others []

/-! ## Expressions -/

/-- A value that tells whether something holds. -/
def truth (holds : Bool) : Value := .number (if holds then 1.0 else 0.0)

/-- The next number of a sequence that looks random. -/
def nextSeed (seed : Nat) : Nat := seed * 16807 % 2147483647

/-- The value of a call of the system: its status. -/
def callSystem (command : String) : Run Value := do
  flushAll
  let launcher := (← get).launcher
  match ← commandLine "sh" command with
  | none => return .number 127.0
  | some invocation =>
    let ending ← lift (do endOf (← startWith [] (launcher invocation)))
    return .number (ofWhole (statusOf ending))

/-- The seconds that a text with the numbers of a date and a time means. -/
def secondsOf (text : String) : Float :=
  let numbers := (blankFields text.toList).map fun word => wholeOf (numberIn word)
  match numbers with
  | year :: month :: day :: hour :: minute :: second :: _ =>
    let months := year * 12 + (month - 1)
    let first := Calendar.daysOf ⟨Int.fdiv months 12, (Int.fmod months 12).toNat + 1, 1⟩
    ofWhole ((first + day - 1) * 86400 + hour * 3600 + minute * 60 + second)
  | _ => -1.0

/-- How deep expressions, statements and calls are at most. -/
def deepest : Nat := 1000000000

mutual

/-- The value of an expression. -/
def value : Nat → Expr → Run Value
  | 0, _ => lift (throw .exhausted)
  | fuel + 1, e => do
    match e with
    | .number n => return .number n
    | .text text => return .text text
    | .pattern regex => return truth (regex.isIn (subject (← wholeRecord)))
    | .variable v => valueOf v
    | .field number => fieldAt (wholeOf (← value fuel number).toNumber)
    | .element v indices => do
      let key ← keyOf (← values fuel indices)
      return ((← lookUp (← tableNumber v) key true)).getD .nothing
    | .assign target given => do
      let result := match ← value fuel given with
        | .nothing => Value.nothing
        | result => result
      store fuel target result
      return result
    | .update operation target given => do
      let given := (← value fuel given).toNumber
      let before := (← value fuel target).toNumber
      let result := Value.number (operation.compute before given)
      store fuel target result
      return result
    | .step isUp isBefore target => do
      let before := (← value fuel target).toNumber
      let after := if isUp then before + 1.0 else before - 1.0
      store fuel target (.number after)
      return .number (if isBefore then after else before)
    | .choice condition yes no => do
      if (← value fuel condition).isTrue then value fuel yes else value fuel no
    | .or a b => do
      if (← value fuel a).isTrue then return truth true else return truth (← value fuel b).isTrue
    | .and a b => do
      if (← value fuel a).isTrue then return truth (← value fuel b).isTrue else return truth false
    | .isIn indices v => do
      let key ← keyOf (← values fuel indices)
      return truth (← lookUp (← tableNumber v) key false).isSome
    | .likeness negated text pattern => do
      let text ← textOf (← value fuel text)
      let regex ← regexOf fuel pattern
      return truth (regex.isIn (subject text) != negated)
    | .compare comparison a b => do
      let a ← value fuel a
      let b ← value fuel b
      return truth (comparison.holds (← format) a b)
    | .join a b => do
      let a ← textOf (← value fuel a)
      let b ← textOf (← value fuel b)
      return .text (a ++ b)
    | .compute operation a b => do
      let a := (← value fuel a).toNumber
      let b := (← value fuel b).toNumber
      return .number (operation.compute a b)
    | .not a => return truth !(← value fuel a).isTrue
    | .negative a => return .number (-(← value fuel a).toNumber)
    | .positive a => return .number (← value fuel a).toNumber
    | .group parts =>
      match parts with
      | [e] => value fuel e
      | parts => do
        let texts ← (← values fuel parts).mapM textOf
        return .text ((← heldText Known.indexSeparator).intercalate texts)
    | .call function arguments => call fuel function arguments
    | .known function arguments => apply fuel function arguments
    | .readInput target => do
      match ← inputRecord readLimit with
      | none => return .number 0.0
      | some text =>
        match target with
        | none => setRecord text
        | some target => store fuel target (.input text)
        return .number 1.0
    | .readFile file target => do
      let name ← textOf (← value fuel file)
      receive fuel (← recordFrom false name) target
    | .readCommand command target => do
      let name ← textOf (← value fuel command)
      receive fuel (← recordFrom true name) target

/-- The values of expressions. -/
def values : Nat → List Expr → Run (List Value)
  | 0, _ => lift (throw .exhausted)
  | _, [] => return []
  | fuel + 1, e :: rest => do
    let first ← value fuel e
    return first :: (← values fuel rest)

/-- Takes up a record that was read from something other than the input. -/
def receive : Nat → Option (Option String) → Option Expr → Run Value
  | 0, _, _ => lift (throw .exhausted)
  | fuel + 1, found, target => do
    match found with
    | none => return .number (-1.0)
    | some none => return .number 0.0
    | some (some text) =>
      match target with
      | none => setRecord text
      | some target => store fuel target (.input text)
      return .number 1.0

/-- Gives a value to what an expression stands for. -/
def store : Nat → Expr → Value → Run Unit
  | 0, _, _ => lift (throw .exhausted)
  | fuel + 1, target, v => do
    match target with
    | .variable x => assignTo x v
    | .field number => setField (wholeOf (← value fuel number).toNumber) v
    | .element x indices => do
      let key ← keyOf (← values fuel indices)
      let n ← tableNumber x
      changeTable n fun t => t.put key v
    | .group [e] => store fuel e v
    | _ => pure ()

/-- The pattern that an expression stands for. -/
def regexOf : Nat → Expr → Run Regex
  | 0, _ => lift (throw .exhausted)
  | fuel + 1, e => do
    match e with
    | .pattern regex => return regex
    | e => patternFor (← textOf (← value fuel e))

/-- Calls a function of the program. -/
def call : Nat → Nat → List Expr → Run Value
  | 0, _, _ => lift (throw .exhausted)
  | fuel + 1, function, arguments => do
    let definition := ((← get).program.functions[function]?).getD default
    let given ← slots fuel arguments
    let others := List.replicate (definition.parameters - given.length) (Slot.value .nothing)
    let before := (← get).own
    modify fun m => { m with own := (given ++ others).toArray }
    let result ← tryCatch
      (do
        execute fuel definition.body
        return Value.nothing)
      fun
        | .return_ v => return v
        | jump => throw jump
    modify fun m => { m with own := before }
    return result

/-- What is handed over to a function. A variable without a value may become a table there. -/
def slots : Nat → List Expr → Run (List Slot)
  | 0, _ => lift (throw .exhausted)
  | _, [] => return []
  | fuel + 1, e :: rest => do
    let first ← match e with
      | .variable v => do
        match ← slotOf v with
        | .table n => pure (Slot.table n)
        | .value .nothing =>
          if v == .shared Known.fieldCount then pure (Slot.value (← valueOf v))
          else pure (Slot.table (← tableNumber v))
        | .value _ => pure (Slot.value (← valueOf v))
      | e => pure (Slot.value (← value fuel e))
    return first :: (← slots fuel rest)

/-- Applies a function that is known. -/
def apply : Nat → Function → List Expr → Run Value
  | 0, _, _ => lift (throw .exhausted)
  | fuel + 1, function, arguments => do
    let number (n : Nat) : Run Float := do
      match arguments[n]? with
      | some e => return (← value fuel e).toNumber
      | none => return 0.0
    let text (n : Nat) : Run String := do
      match arguments[n]? with
      | some e => textOf (← value fuel e)
      | none => return ""
    let ofNat (n : Nat) : Value := .number (ofWhole n)
    match function with
    | .length =>
      match arguments with
      | [] => return ofNat (← wholeRecord).length
      | .variable v :: _ =>
        match ← slotOf v with
        | .table n => return ofNat (((← get).tables[n]?).getD Table.empty).size
        | .value _ => return ofNat (← text 0).length
      | _ => return ofNat (← text 0).length
    | .substr => do
      let whole ← text 0
      let start ← number 1
      let length ← if arguments.length == 3 then pure (some (← number 2)) else pure none
      return .text (part whole start length)
    | .index => do
      let whole ← text 0
      let inner ← text 1
      if inner.isEmpty then return ofNat (if whole.isEmpty then 0 else 1)
      return ofNat (placeOf inner.toList 1 whole.toList)
    | .split => do
      let whole ← text 0
      let parts ← match (arguments[2]? : Option Expr) with
        | some (.pattern regex) => pure (patternFields regex whole)
        | some e => partsOf (← textOf (← value fuel e)) whole
        | none => partsOf (← heldText Known.fieldSeparator) whole
      match (arguments[1]? : Option Expr) with
      | some (.variable v) =>
        let n ← tableNumber v
        changeTable n fun _ => Table.ofValues (parts.map Value.input).toArray
      | _ => pure ()
      return ofNat parts.length
    | .sub => substitute fuel false arguments
    | .gsub => substitute fuel true arguments
    | .search => do
      let whole ← text 0
      let regex ← regexOf fuel ((arguments[1]?).getD (.text ""))
      let (start, length) : Int × Int := match regex.find? (subject whole) 0 with
        | some m => (m.first + 1, m.last - m.first)
        | none => (0, -1)
      hold Known.matchStart (.number (ofWhole start))
      hold Known.matchLength (.number (ofWhole length))
      return .number (ofWhole start)
    | .sprintf => return .text (← formatted (← values fuel arguments))
    | .sine => return .number (← number 0).sin
    | .cosine => return .number (← number 0).cos
    | .arctangent => return .number (Float.atan2 (← number 0) (← number 1))
    | .exponential => return .number (← number 0).exp
    | .logarithm => return .number (← number 0).log
    | .whole => do
      let n ← number 0
      return .number (if n < 0.0 then n.ceil else n.floor)
    | .squareRoot => return .number (← number 0).sqrt
    | .random => do
      let seed := nextSeed (← get).seed
      modify fun m => { m with seed }
      return .number (ofWhole seed / 2147483647.0)
    | .seed => do
      let former := (← get).formerSeed
      let next ← match arguments with
        | [] => do pure (Value.number (ofWhole (currentTime (← lift state)).1))
        | e :: _ => value fuel e
      let size := (wholeOf next.toNumber).natAbs
      modify fun m => { m with formerSeed := next, seed := nextSeed (size % 2147483646 + 1) }
      return former
    | .close => close (← text 0)
    | .system => callSystem (← text 0)
    | .upper => return .text (← text 0).toUpper
    | .lower => return .text (← text 0).toLower
    | .flush => do
      flushAll
      return .number 0.0
    | .now => return .number (ofWhole (currentTime (← lift state)).1)
    | .timeText => do
      let form ← if arguments.isEmpty then pure "%c" else text 0
      let seconds ← if arguments.length < 2 then do pure (currentTime (← lift state)).1
        else pure (wholeOf (← number 1))
      return .text ((Calendar.Moment.ofSeconds seconds 0).shown 0 "UTC" form)
    | .timeOf => return .number (secondsOf (← text 0))

/-- Replaces matches in what an expression stands for, and counts them. -/
def substitute : Nat → Bool → List Expr → Run Value
  | 0, _, _ => lift (throw .exhausted)
  | fuel + 1, isGlobal, arguments => do
    let regex ← regexOf fuel ((arguments[0]?).getD (.text ""))
    let by_ ← match arguments[1]? with
      | some e => textOf (← value fuel e)
      | none => pure ""
    let target := (arguments[2]?).getD (.field (.number 0.0))
    let whole ← textOf (← value fuel target)
    let s := subject whole
    let (count, result) := replaced regex isGlobal by_.toList s (2 * s.text.size + 3) 0 none []
    if 0 < count then store fuel target (.text (String.ofList result.reverse))
    return .number (ofWhole count)

/-- Carries out a statement. -/
def execute : Nat → Statement → Run Unit
  | 0, _ => lift (throw .exhausted)
  | fuel + 1, statement => do
    lift (tick 1)
    match statement with
    | .nothing => pure ()
    | .evaluate e =>
      let _ ← value fuel e
    | .print parts outlet => do
      let target ← outletOf fuel outlet
      let shown ← match parts with
        | [] => wholeRecord
        | parts => do
          let format ← heldText Known.outputFormat
          let texts := (← values fuel parts).map fun v => v.toText format
          pure ((← heldText Known.outputFieldSeparator).intercalate texts)
      emit target (shown ++ (← heldText Known.outputRecordSeparator))
    | .printf parts outlet => do
      let target ← outletOf fuel outlet
      emit target (← formatted (← values fuel parts))
    | .branch condition yes no => do
      if (← value fuel condition).isTrue then execute fuel yes else execute fuel no
    | .while_ condition body => whileHolds fuel condition .nothing body
    | .doWhile body condition => do
      if ← goesOn fuel body then whileHolds fuel condition .nothing body
    | .loop start condition each body => do
      execute fuel start
      whileHolds fuel (condition.getD (.number 1.0)) each body
    | .forEach v table body => do
      let n ← tableNumber table
      let t := ((← get).tables[n]?).getD Table.empty
      let (keys, t) := t.keys
      changeTable n fun _ => t
      forKeys fuel v keys body
    | .block statements => executeAll fuel statements
    | .next => throw .next
    | .nextFile => throw .nextFile
    | .exit status => do
      if let some e := status then
        let n := wholeOf (← value fuel e).toNumber
        modify fun m => { m with status := (n % 256).toNat }
      throw .exit
    | .return_ none => throw (.return_ .nothing)
    | .return_ (some e) => throw (.return_ (← value fuel e))
    | .leave => throw .leave
    | .again => throw .again
    | .delete v indices => do
      let key ← keyOf (← values fuel indices)
      let n ← tableNumber v
      changeTable n fun t => t.erase key
    | .clear v => do
      let n ← tableNumber v
      changeTable n fun _ => Table.empty

/-- Carries out statements in turn. -/
def executeAll : Nat → List Statement → Run Unit
  | 0, _ => lift (throw .exhausted)
  | _, [] => pure ()
  | fuel + 1, statement :: rest => do
    execute fuel statement
    executeAll fuel rest

/-- Carries out the body of a loop, and tells whether the loop goes on. -/
def goesOn : Nat → Statement → Run Bool
  | 0, _ => lift (throw .exhausted)
  | fuel + 1, body =>
    tryCatch
      (do
        execute fuel body
        return true)
      fun
        | .leave => return false
        | .again => return true
        | jump => throw jump

/-- Carries out the body of a loop as long as a condition holds. -/
def whileHolds : Nat → Expr → Statement → Statement → Run Unit
  | 0, _, _, _ => lift (throw .exhausted)
  | fuel + 1, condition, each, body => do
    if (← value fuel condition).isTrue then
      if ← goesOn fuel body then
        execute fuel each
        whileHolds fuel condition each body

/-- Carries out the body of a loop for keys. -/
def forKeys : Nat → Expr → List String → Statement → Run Unit
  | 0, _, _, _ => lift (throw .exhausted)
  | _, _, [], _ => pure ()
  | fuel + 1, v, key :: rest, body => do
    store fuel v (.text key)
    if ← goesOn fuel body then forKeys fuel v rest body

/-- Where output goes. -/
def outletOf : Nat → Option (Outlet × Expr) → Run (Option (Outlet × String))
  | 0, _ => lift (throw .exhausted)
  | _, none => return none
  | fuel + 1, some (outlet, e) => do
    return some (outlet, ← textOf (← value fuel e))

end

/-! ## Rules -/

/-- Whether a rule is for the current record. -/
def isMeant (pattern : Pattern) : Run Bool := do
  match pattern with
  | .every => return true
  | .holds condition => return (← value deepest condition).isTrue
  | .span number first last =>
    let isInside := ((← get).inSpan[number]?).getD false
    if isInside || (← value deepest first).isTrue then
      let ends := (← value deepest last).isTrue
      modify fun m => { m with inSpan := m.inSpan.set! number !ends }
      return true
    else return false

/-- Carries out the rules for the current record. -/
def applyRules : List Rule → Run Unit
  | [] => pure ()
  | rule :: rest => do
    if ← isMeant rule.pattern then execute deepest rule.action
    applyRules rest

/-- Goes through the records of the input. -/
def throughRecords : Nat → Run Unit
  | 0 => lift (throw .exhausted)
  | fuel + 1 => do
    match ← inputRecord readLimit with
    | none => pure ()
    | some text =>
      setRecord text
      let rules := (← get).program.rules
      tryCatch (applyRules rules) fun
        | .next => pure ()
        | .nextFile => closeMain
        | jump => throw jump
      throughRecords fuel

/-- Closes all that is open. -/
def closeAll : Run Unit := do
  (← get).sinks.forM fun sink => do
    let _ ← closeSink sink
  (← get).sources.forM fun source => release source.stream.channel
  closeMain

/-- Carries out statements, and tells whether they were left to end the program. -/
def ended (run : Run Unit) : Run Bool :=
  tryCatch
    (do
      run
      return false)
    fun
      | .exit => return true
      | _ => return false

/-- Carries out a program. -/
def program : Run Unit := do
  let p := (← get).program
  let isLeft ← ended (p.before.forM (execute deepest))
  let hasInput := !p.rules.isEmpty || !p.after.isEmpty
  if hasInput && !isLeft then
    let _ ← ended (throughRecords deepest)
  if !p.after.isEmpty then
    let _ ← ended (p.after.forM (execute deepest))
  closeAll

end Run
end Records
end Shell
end SuiteCoverage
