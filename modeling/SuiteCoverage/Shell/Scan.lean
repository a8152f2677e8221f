/-!
# Searching for options

A script can search its arguments for options, one after the other. Options are letters behind a
hyphen, and an option may have a value: what is left of its argument, or else the next argument.
Between two options a script keeps the place that it has got to.
-/

set_option autoImplicit false

namespace SuiteCoverage
namespace Shell

/-- How far arguments have been searched. -/
structure Scan where
  /-- The place of the argument that comes next, counted from one. -/
  next : Nat
  /-- The number of characters passed of the argument before it, if it has more letters. -/
  offset : Option Nat
deriving DecidableEq, Repr

namespace Scan

/-- The place where a search starts. -/
def start : Scan := ⟨1, none⟩

/-- What becomes of the variable for the value of an option. -/
inductive Value where
  | kept
  | missing
  | given (text : String)
deriving DecidableEq, Repr

/-- What is wrong with an option. -/
inductive Flaw where
  | unknown (letter : Char)
  | noValue (letter : Char)
deriving DecidableEq, Repr

/-- What is wrong with an option, in words. -/
def Flaw.complaint : Flaw → String
  | unknown letter => "Illegal option -" ++ String.singleton letter
  | noValue letter => "No arg for -" ++ String.singleton letter ++ " option"

/-- What a search has found. -/
structure Found where
  /-- The letter; a question mark stands for none and for one that is not right. -/
  letter : Char
  value : Value
  flaw : Option Flaw
  /-- Whether there are no more options. -/
  isAtEnd : Bool
deriving DecidableEq, Repr

/-- No more options. -/
def Found.none : Found := ⟨'?', .kept, Option.none, true⟩

/-- Whether an option has a value, if it is among those `wanted`. -/
def hasValue? (c : Char) : List Char → Option Bool
  | [] => none
  | d :: ':' :: rest => if d = c then some true else hasValue? c rest
  | d :: rest => if d = c then some false else hasValue? c rest

/-- The letters that are left of the argument that a search has got to. -/
def lettersLeft (arguments : List String) (scan : Scan) : List Char :=
  match scan.offset with
  | some offset =>
    if scan.next < 2 then [] else (arguments[scan.next - 2]?.getD "").toList.drop offset
  | none => []

/-- An option that is not right. It is told unless the script wants to do that itself; `sign` is
    what it is then told by. -/
def refused (wanted : List Char) (c sign : Char) (flaw : Flaw) : Found :=
  if wanted.head? == some ':' then ⟨sign, .given (String.singleton c), none, false⟩
  else ⟨'?', .missing, some flaw, false⟩

/-- What the letters of an argument that lies before the place `next` start with. -/
def takeLetter (wanted : List Char) (arguments : List String) (next : Nat) (c : Char)
    (rest : List Char) : Found × Scan :=
  let own := (arguments[next - 2]?.getD "").length
  let inside : Scan := ⟨next, some (own - rest.length)⟩
  match hasValue? c wanted with
  | none =>
    (refused wanted c '?' (.unknown c), inside)
  | some false => (⟨c, .given "", none, false⟩, inside)
  | some true =>
    if !rest.isEmpty then (⟨c, .given (String.ofList rest), none, false⟩, ⟨next, none⟩)
    else
      match arguments[next - 1]? with
      | some value => (⟨c, .given value, none, false⟩, ⟨next + 1, none⟩)
      | none =>
        (refused wanted c ':' (.noValue c), ⟨next, none⟩)

/-- Searches arguments for the next option of those `wanted`. -/
def step (wanted : List Char) (arguments : List String) (scan : Scan) : Found × Scan :=
  match lettersLeft arguments scan with
  | c :: rest => takeLetter wanted arguments scan.next c rest
  | [] =>
    match (arguments[scan.next - 1]?.getD "").toList with
    | ['-', '-'] => (.none, ⟨scan.next + 1, none⟩)
    | '-' :: c :: rest => takeLetter wanted arguments (scan.next + 1) c rest
    | _ => (.none, ⟨scan.next, none⟩)

end Scan
end Shell
end SuiteCoverage
