import SuiteCoverage.Shell.Utility.Basic

/-!
# Utilities that show parts

The utilities that show the start or the end of texts, or parts of their lines.
-/

set_option autoImplicit false

namespace SuiteCoverage
namespace Shell
namespace Utility

open Effect

/-! ## Starts and ends -/

/-- How much of a text is meant: a number of lines or bytes. -/
structure Portion where
  inBytes : Bool
  count : Nat
  /-- Whether the number is that of what is left out, at the other end. -/
  isRest : Bool
  /-- What ends a line. -/
  ending : Char

/-- The options of `head` and `tail`. -/
def portionFlags : Flags :=
  ⟨"fFqvz".toList, "cns".toList,
    [("bytes", 'c'), ("lines", 'n'), ("quiet", 'q'), ("silent", 'q'), ("verbose", 'v'),
      ("zero-terminated", 'z'), ("follow", 'f'), ("retry", 'F'), ("sleep-interval", 's')]⟩

/-- Arguments with the number behind a hyphen at their front made an option. -/
def withNumberOption (arguments : List String) : List String :=
  match arguments with
  | [] => []
  | first :: rest =>
    match first.toList with
    | '-' :: c :: more =>
      let digits := (c :: more).takeWhile Char.isDigit
      let letters := (c :: more).drop digits.length
      if digits.isEmpty then arguments
      else
        let (unit, others) := match letters with
          | 'c' :: others => ("-c", others)
          | 'l' :: others => ("-n", others)
          | others => ("-n", others)
        let more := if others.isEmpty then [] else ["-" ++ String.ofList others]
        unit :: String.ofList digits :: more ++ rest
    | _ => arguments

/-- The part of texts that options ask for; `restSign` is the sign in front of a number of what is left
    out. -/
def portionOf (restSign : Char) (choice : Flags.Choice) : Except String Portion := do
  let chosen := choice.options.reverse.find? fun option => option.1 == 'n' || option.1 == 'c'
  let ending := if choice.has 'z' then '\x00' else '\n'
  match chosen with
  | none => return ⟨false, 10, false, ending⟩
  | some (letter, text) =>
    let inBytes := letter == 'c'
    let isRest := text.toList.head? == some restSign
    let isSigned := text.toList.head?.any fun c => c == '-' || c == '+'
    match size? (if isSigned then (text.drop 1).toString else text) with
    | some count => return ⟨inBytes, count, isRest, ending⟩
    | none =>
      let kind := if inBytes then "bytes" else "lines"
      throw ("invalid number of " ++ kind ++ ": " ++ Quoting.name text)

/-- Pieces of a text with the characters that end them. -/
def endedPieces (ending : Char) (text : String) : List String :=
  let (pieces, rest) := piecesOf ending [] text.toList
  let ended := pieces.map (·.push ending)
  if rest.isEmpty then ended else ended ++ [String.ofList rest.reverse]

/-- The start of a text that a portion means. -/
def Portion.startOf (portion : Portion) (text : String) : String :=
  if portion.inBytes then
    let size := text.length
    String.ofList (text.toList.take
      (if portion.isRest then size - portion.count else portion.count))
  else
    let pieces := endedPieces portion.ending text
    String.join (pieces.take
      (if portion.isRest then pieces.length - portion.count else portion.count))

/-- The end of a text that a portion means. -/
def Portion.endOf (portion : Portion) (text : String) : String :=
  if portion.inBytes then
    let size := text.length
    String.ofList (text.toList.drop
      (if portion.isRest then portion.count - 1 else size - portion.count))
  else
    let pieces := endedPieces portion.ending text
    String.join (pieces.drop
      (if portion.isRest then portion.count - 1 else pieces.length - portion.count))

/-- Writes the start of what can be read from a channel, and reads no more than is needed to find
    its end. -/
def copyStart (portion : Portion) (channel : Channel) :
    Nat → Nat → Effect (Except Fault Unit)
  | 0, _ => return .ok ()
  | _, 0 => return .ok ()
  | fuel + 1, count => do
    let isFile := isSeekable (← state) channel
    match ← offered (some channel) (!·.isEmpty) with
    | .error fault => return .error fault
    | .ok bytes =>
      let bytes := bytes.extract 0 8192
      let text := ofBytes bytes
      let taken := ({ portion with count }).startOf text
      passOver (some channel) (if isFile then taken.length else bytes.size)
      say taken
      tick 1
      let seen := if portion.inBytes then taken.length
        else (taken.toList.filter (· == portion.ending)).length
      if bytes.isEmpty then return .ok () else copyStart portion channel fuel (count - seen)

/-- The line above a text that is one of several. -/
def title (isFirst : Bool) (argument : String) : String :=
  (if isFirst then "" else "\n") ++ "==> " ++ titleOf argument ++ " <==\n"

/-- Shows parts of texts, as `show` does, with titles if they are wanted. -/
def showPortions (titled : Bool) (exhibit : Channel → Effect (Except Fault Unit)) :
    Bool → List String → Effect Bool
  | _, [] => return true
  | isFirst, argument :: rest => do
    let result ← withNamed argument fun channel => do
      if titled then say (title isFirst argument)
      exhibit channel
    let isRead ← match result with
      | .error fault =>
        blame ("cannot open " ++ Quoting.name argument ++ " for reading: " ++ fault.reason)
        pure false
      | .ok (.error fault) =>
        blame ("error reading " ++ Quoting.name (titleOf argument) ++ ": " ++ fault.reason)
        pure false
      | .ok (.ok ()) => pure true
    let isTitled := isFirst && !(result.toOption.isSome && titled)
    let others ← showPortions titled exhibit isTitled rest
    return isRead && others

/-- Arguments with a number behind a plus sign at their front made an option. -/
def withStartOption (arguments : List String) : List String :=
  match arguments with
  | [] => []
  | first :: rest =>
    match first.toList with
    | '+' :: more =>
      let digits := more.takeWhile Char.isDigit
      let count := "+" ++ String.ofList digits
      match more.drop digits.length with
      | [] => if digits.isEmpty || 1 < rest.length then arguments else "-n" :: count :: rest
      | ['c'] => if 1 < rest.length then arguments else "-c" :: count :: rest
      | ['l'] => if 1 < rest.length then arguments else "-n" :: count :: rest
      | _ => arguments
    | _ => arguments

/-- Shows the starts or the ends of texts. -/
def portions (restSign : Char) (arguments : List String)
    (exhibit : Portion → Channel → Effect (Except Fault Unit)) : Effect Unit :=
  withFlags 1 portionFlags (withNumberOption arguments) fun choice =>
    match portionOf restSign choice with
    | .error complaint => do
      blame complaint
      setStatus 1
    | .ok portion => do
      let names := orInput choice.operands
      let last := choice.options.reverse.find? fun option => option.1 == 'q' || option.1 == 'v'
      let titled := match last with
        | some (letter, _) => letter == 'v'
        | none => 1 < names.length
      Builtin.answer (← showPortions titled (exhibit portion) true names)

/-- Shows the starts of texts. -/
def head (arguments : List String) : Effect Unit :=
  portions '-' arguments fun portion channel => do
    if portion.isRest then
      match ← readAll (some channel) with
      | .error fault => return .error fault
      | .ok text =>
        say (portion.startOf text)
        return .ok ()
    else copyStart portion channel readLimit portion.count

/-- Shows the ends of texts. -/
def tail (arguments : List String) : Effect Unit :=
  portions '+' (withStartOption arguments) fun portion channel => do
    match ← readAll (some channel) with
    | .error fault => return .error fault
    | .ok text =>
      say (portion.endOf text)
      return .ok ()

/-! ## Parts of lines -/

/-- Places from one to another, counted from one; without an end they go on for ever. -/
structure Extent where
  first : Nat
  last : Option Nat

/-- What is wrong with a list of places. -/
inductive ExtentFlaw where
  | zero
  | decreasing
  | endless
  | invalid (text : String)

/-- The places that a part of a list names. -/
def Extent.ofText (text : String) : Except ExtentFlaw Extent :=
  let chars := text.toList
  let before := chars.takeWhile (· != '-')
  let number (chars : List Char) : Except ExtentFlaw Nat :=
    if chars.all Char.isDigit then
      match (String.ofList chars).toNat? with
      | some 0 => .error .zero
      | some n => .ok n
      | none => .error (.invalid text)
    else .error (.invalid (String.ofList (chars.dropWhile Char.isDigit)))
  match chars.drop before.length with
  | [] => if chars.isEmpty then .error .zero else do
    let n ← number before
    return ⟨n, some n⟩
  | _ :: after => do
    if before.isEmpty && after.isEmpty then throw .endless
    let first ← if before.isEmpty then pure 1 else number before
    if after.isEmpty then return ⟨first, none⟩
    let last ← number after
    if last < first then throw .decreasing
    return ⟨first, some last⟩

/-- The texts between characters of a kind. -/
def splitBy (divides : Char → Bool) (text : List Char) : List (List Char) :=
  let (done, current) := text.foldl
    (fun (done, current) c =>
      if divides c then (current.reverse :: done, []) else (done, c :: current))
    (([] : List (List Char)), ([] : List Char))
  (current.reverse :: done).reverse

/-- The places that a list names. -/
def extentsOf (text : String) : Except ExtentFlaw (List Extent) :=
  (splitBy (fun c => c == ',' || c == ' ' || c == '\t') text.toList).mapM fun part =>
    Extent.ofText (String.ofList part)

/-- Whether a place is among some. -/
def isAmong (extents : List Extent) (place : Nat) : Bool :=
  extents.any fun extent => extent.first ≤ place && extent.last.all (place ≤ ·)

/-- The options of `cut`. -/
def cutFlags : Flags :=
  ⟨"nszC".toList, "bcdfO".toList,
    [("bytes", 'b'), ("characters", 'c'), ("fields", 'f'), ("delimiter", 'd'),
      ("only-delimited", 's'), ("output-delimiter", 'O'), ("complement", 'C'),
      ("zero-terminated", 'z')]⟩

/-- Some of a list's items, by their places. -/
def chosenItems {α : Type} (isChosen : Nat → Bool) (items : List α) : List α :=
  (items.zipIdx 1).filterMap fun (item, place) => if isChosen place then some item else none

/-- The runs of chosen characters of a line. -/
def chosenRuns (isChosen : Nat → Bool) (startsRun : Nat → Bool) (text : List Char) :
    List (List Char) :=
  let step (runs : List (List Char)) (entry : Char × Nat) : List (List Char) :=
    if !isChosen entry.2 then runs
    else
      match runs with
      | run :: others =>
        if startsRun entry.2 then [entry.1] :: run :: others else (entry.1 :: run) :: others
      | [] => [[entry.1]]
  (((text.zipIdx 1).foldl step []).map List.reverse).reverse

/-- What is left of a line of which parts are cut. -/
def cutLine (choice : Flags.Choice) (kind : Char) (extents : List Extent) (line : String) :
    Option String :=
  let isChosen (place : Nat) : Bool := isAmong extents place != choice.has 'C'
  if kind == 'f' then
    let divider := ((choice.value? 'd').getD "\t").toList.headD '\x00'
    let fields := splitBy (· == divider) line.toList
    if fields.length ≤ 1 then if choice.has 's' then none else some line
    else
      let between := (choice.value? 'O').getD (String.singleton divider)
      some (between.intercalate ((chosenItems isChosen fields).map String.ofList))
  else
    match choice.value? 'O' with
    | none => some (String.ofList (chosenItems isChosen line.toList))
    | some between =>
      let startsRun (place : Nat) : Bool :=
        if choice.has 'C' then !isChosen (place - 1)
        else extents.any (fun extent => extent.first == place)
          && !(extents.any fun extent => extent.first < place && extent.last.all (place ≤ ·))
      some (between.intercalate ((chosenRuns isChosen startsRun line.toList).map String.ofList))

/-- What is wrong with a list of places, in words. -/
def ExtentFlaw.complaint (isField : Bool) : ExtentFlaw → String
  | zero => if isField then "fields are numbered from 1"
    else "byte/character positions are numbered from 1"
  | decreasing => "invalid decreasing range"
  | endless => "invalid range with no endpoint: -"
  | invalid text =>
    if isField then "invalid field value " ++ Quoting.name text
    else "invalid byte/character position " ++ Quoting.name text

/-- Shows parts of lines. -/
def cut (arguments : List String) : Effect Unit :=
  withFlags 1 cutFlags arguments fun choice => do
    let kinds := choice.options.filter fun option => "bcf".toList.contains option.1
    match kinds with
    | [] => blameCall "you must specify a list of bytes, characters, or fields"
    | (kind, list) :: others =>
      if !others.isEmpty then blameCall "only one list may be specified"
      else if kind != 'f' && choice.has 'd' then
        blameCall "an input delimiter may be specified only when operating on fields"
      else if kind != 'f' && choice.has 's' then
        blameCall ("suppressing non-delimited lines makes sense\n\tonly when operating on fields")
      else if 1 < ((choice.value? 'd').getD "").length then
        blameCall "the delimiter must be a single character"
      else
        match extentsOf list with
        | .error flaw => blameCall (flaw.complaint (kind == 'f'))
        | .ok extents =>
          let ending := if choice.has 'z' then '\x00' else '\n'
          let step (kept : Unit) (line : InputLine) : Effect (Unit × Bool) := do
            (cutLine choice kind extents line.text).forM fun text => say (text.push ending)
            return (kept, true)
          let (_, isRead) ← forLinesIn ending blameName step (orInput choice.operands) ()
          Builtin.answer isRead

end Utility
end Shell
end SuiteCoverage
