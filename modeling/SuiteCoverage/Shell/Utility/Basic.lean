import SuiteCoverage.Shell.Builtin
import SuiteCoverage.Shell.Flags
import SuiteCoverage.Shell.Quoting
import SuiteCoverage.Shell.Redirection

/-!
# What utilities have in common

The programs of the system that scripts make use of are its utilities. A utility says what it
could not do on the error stream, and goes on with its next argument.
-/

set_option autoImplicit false

namespace SuiteCoverage
namespace Shell
namespace Utility

open Effect

/-- The path that an argument is. -/
def pathOf (argument : String) : Pathname := ⟨toText argument⟩

/-- The cells of a pattern. A backslash takes the meaning from the character behind it. -/
def patternCells : List Char → List Cell
  | '\\' :: c :: rest => .quoted c :: patternCells rest
  | c :: rest => .plain c :: patternCells rest
  | [] => []

/-- The pattern that an argument is. -/
def patternOf (text : String) : List Glob.Token := Field.tokens (patternCells text.toList)

/-- Says what a utility could not do, under the name that it was called by. -/
def blame (complaint : String) : Effect Unit := do
  complain ((← state).self ++ ": " ++ complaint)

/-- Says that a utility was not called as it has to be. -/
def blameCallWith (status : Nat) (complaint : String) : Effect Unit := do
  blame complaint
  complain ("Try '" ++ (← state).self ++ " --help' for more information.")
  setStatus status

/-- Says that a utility was not told what to do it with. -/
def blameCall (complaint : String) : Effect Unit := blameCallWith 1 complaint

/-- Carries out what a utility does with its options and its other arguments, which fails with
    `status` if the options are not right. -/
def withFlags (status : Nat) (flags : Flags) (arguments : List String)
    (effect : Flags.Choice → Effect Unit) : Effect Unit :=
  match flags.read arguments with
  | .ok choice => effect choice
  | .error flaw => blameCallWith status flaw.complaint

/-- A change of the world for an argument, with what is told about it. -/
abbrev Step := World → String → Except String (World × List String)

/-- Writes lines. -/
def sayLines (lines : List String) : Effect Unit := do
  say (String.join (lines.map (· ++ "\n")))
  Builtin.answer true

/-- Carries out a change for every argument, and says what is wrong where it cannot be made. -/
def forEach (step : Step) (arguments : List String) : Effect Unit := do
  let results ← arguments.mapM fun argument => do
    match step (← state).world argument with
    | .ok (world, lines) =>
      change fun s => { s with world }
      sayLines lines
      return true
    | .error complaint =>
      blame complaint
      return false
  Builtin.answer (results.all id)

/-- A complaint of the usual form. -/
def usual (start argument : String) (fault : Fault) : String :=
  start ++ " " ++ Quoting.name argument ++ ": " ++ fault.reason

/-- What is told about a change if it is to be told. -/
def told (isTold : Bool) (line : String) : List String :=
  if isTold then [line] else []

/-- A change that may stop half-way, where only its success counts. -/
def completely (step : World → Pathname → Except Fault Unit × World) (w : World)
    (p : Pathname) : Except Fault World :=
  match step w p with
  | (.ok (), next) => .ok next
  | (.error fault, _) => .error fault

/-- The node at a path, with a link at the end as it is. -/
def nodeAt (w : World) (p : Pathname) : Except Fault Node :=
  match w.locate .upTo p with
  | .ok (.present _ node) => .ok node
  | .ok (.removed _) => .ok Node.gone
  | .ok (.vacant ..) => .error .notFound
  | .error fault => .error fault

/-!
## What utilities read

Utilities read the files that their arguments name, and the input for a hyphen. Many of them go
through what they read line by line and need not read more than they make use of.
-/

/-! ### Files -/

/-- Opens what an argument names. A hyphen stands for the input. -/
def openNamed (argument : String) : Effect (Except Fault Channel) := do
  let s ← state
  let lead := if argument == "-" then some 0 else Redirection.descriptorAt? argument
  match lead with
  | some descriptor =>
    match s.channelOf descriptor with
    | some channel => return .ok channel
    | none => return .error (if argument == "-" then .badDescriptor else .notFound)
  | none =>
    match s.world.stat (pathOf argument) with
    | .error fault => return .error fault
    | .ok (.device .terminal) => return .error .noDevice
    | .ok node =>
      if node.isReadable then return .ok (← Redirection.openAt .reading (pathOf argument))
      else return .error .permissionDenied

/-- Carries out an effect with what an argument names, if it can be opened. -/
def withNamed {α : Type} (argument : String) (effect : Channel → Effect α) :
    Effect (Except Fault α) := do
  match ← openNamed argument with
  | .error fault => return .error fault
  | .ok channel =>
    let before := (← state).held
    change fun s => { s with held := channel :: before }
    let result ← effect channel
    change fun s => { s with held := before }
    sweep
    return .ok result

/-- The whole text that an argument names. -/
def wholeText (argument : String) : Effect (Except Fault String) := do
  return (← withNamed argument fun channel => readAll (some channel)).bind id

/-- Whether a channel leads to something that can be read from any place. -/
def isSeekable (s : State) (channel : Channel) : Bool :=
  match channel with
  | .opened number =>
    (s.openingOf number).any fun opening =>
      match opening.origin with
      | .pipe _ => false
      | _ => true
  | _ => false

/-- The name of an argument in titles. -/
def titleOf (argument : String) : String :=
  if argument == "-" then "standard input" else argument

/-- The arguments, or the input if there are none. -/
def orInput (arguments : List String) : List String :=
  if arguments.isEmpty then ["-"] else arguments

/-! ### Lines -/

/-- The pieces of a text that end in a character, without it, and what is left; `pending` is what
    comes before the text, the last character first, and so is what is left. -/
def piecesOf (ending : Char) (pending : List Char) (text : List Char) :
    List String × List Char :=
  let (done, current) := text.foldl
    (fun (done, current) c =>
      if c == ending then (String.ofList current.reverse :: done, []) else (done, c :: current))
    (([] : List String), pending)
  (done.reverse, current)

/-- The lines of a text. -/
def linesOf (text : String) : List String :=
  let (lines, rest) := piecesOf '\n' [] text.toList
  if rest.isEmpty then lines else lines ++ [String.ofList rest.reverse]

/-- What a line is, and whether its end was there. -/
structure InputLine where
  text : String
  isEnded : Bool

/-- What comes of a line: what is kept from it, and whether more lines are wanted. -/
abbrev LineStep (σ : Type) := σ → InputLine → Effect (σ × Bool)

/-- Goes through lines that have been read. -/
def throughLines {σ : Type} (step : LineStep σ) : List String → σ → Effect (σ × Bool)
  | [], kept => return (kept, true)
  | line :: rest, kept => do
    tick 1
    let (kept, goesOn) ← step kept ⟨line, true⟩
    if goesOn then throughLines step rest kept else return (kept, false)

/-- Goes through what can be read from a channel line by line. -/
def forLinesUpTo {σ : Type} (ending : Char) (channel : Channel) (step : LineStep σ) :
    Nat → List Char → σ → Effect (Except Fault (σ × Bool))
  | 0, _, kept => return .ok (kept, true)
  | fuel + 1, pending, kept => do
    match ← readSome (some channel) Pipe.capacity with
    | .error fault => return .error fault
    | .ok bytes =>
      tick 1
      if bytes.isEmpty then
        if pending.isEmpty then return .ok (kept, true)
        else return .ok (← step kept ⟨String.ofList pending.reverse, false⟩)
      else
        let (lines, pending) := piecesOf ending pending (ofBytes bytes).toList
        let (kept, goesOn) ← throughLines step lines kept
        if goesOn then forLinesUpTo ending channel step fuel pending kept
        else return .ok (kept, false)

/-- Goes through what can be read from a channel line by line, and tells whether more lines were
    wanted at the end. -/
def forLines {σ : Type} (ending : Char) (channel : Channel) (step : LineStep σ) (kept : σ) :
    Effect (Except Fault (σ × Bool)) :=
  forLinesUpTo ending channel step readLimit [] kept

/-- Goes through the lines of what arguments name, one argument after the other; `blameFor` tells
    what is wrong with one that cannot be read. Gives back whether nothing was wrong. -/
def forLinesIn {σ : Type} (ending : Char) (blameFor : String → Fault → Effect Unit)
    (step : LineStep σ) : List String → σ → Effect (σ × Bool)
  | [], kept => return (kept, true)
  | argument :: rest, kept => do
    match (← withNamed argument fun channel => forLines ending channel step kept).bind id with
    | .error fault =>
      blameFor argument fault
      let (kept, _) ← forLinesIn ending blameFor step rest kept
      return (kept, false)
    | .ok (kept, goesOn) =>
      if goesOn then forLinesIn ending blameFor step rest kept else return (kept, true)

/-- Says that an argument cannot be read, in the usual words. -/
def blameName (argument : String) (fault : Fault) : Effect Unit :=
  blame (Quoting.nameIfNeeded argument ++ ": " ++ fault.reason)

/-- Writes a line, with its end if the end was there. -/
def sayLine (line : InputLine) : Effect Unit :=
  say (if line.isEnded then line.text ++ "\n" else line.text)

/-! ### Numbers -/

/-- What the letters behind a number stand for. -/
def multiples : List (String × Nat) :=
  let powers (step : Nat) (names : List String) : List (String × Nat) :=
    (names.foldl (fun (found, size) name => (found ++ [(name, size * step)], size * step))
      (([] : List (String × Nat)), 1)).1
  [("", 1), ("b", 512), ("c", 1), ("w", 2)] ++ powers 1024 ["K", "M", "G", "T", "P", "E"]
    ++ powers 1024 ["k", "m", "g", "t"] ++ powers 1000 ["kB", "MB", "GB", "TB", "PB", "EB"]
    ++ powers 1024 ["KiB", "MiB", "GiB", "TiB", "PiB", "EiB"] ++ powers 1000 ["KB"]

/-- The number that a text is, with letters for a multiple behind it. -/
def size? (text : String) : Option Nat := do
  let chars := text.toList
  let digits := chars.takeWhile Char.isDigit
  let unit := String.ofList (chars.drop digits.length)
  let factor ← multiples.find? fun entry => entry.1 == unit
  if digits.isEmpty then if unit.isEmpty then none else some factor.2
  else return (← (String.ofList digits).toNat?) * factor.2

/-- The number that a text is, without a sign. -/
def count? (text : String) : Option Nat :=
  if !text.isEmpty && text.toList.all Char.isDigit then text.toNat? else none

end Utility
end Shell
end SuiteCoverage
