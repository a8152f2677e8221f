/-!
# Options of programs

A program of the system takes options wherever they stand among its arguments, up to two hyphens
alone; one that runs another program takes only those in front of its other arguments. An option
is a letter behind one hyphen or a long name behind two; a long name may be cut short as long as it
is clear which one is meant. The value of an option is what is left of its argument, behind an
equals sign if the name is long, or else the next argument. An option that need not have a value
takes it from its own argument only.
-/

set_option autoImplicit false

namespace SuiteCoverage
namespace Shell

/-- The options that a program knows. -/
structure Flags where
  /-- The letters of options without a value. -/
  plain : List Char
  /-- The letters of options with a value. Those that are among the plain letters as well need not
      have one. -/
  valued : List Char
  /-- The long names, and the letter that each of them stands for. -/
  long : List (String × Char)

namespace Flags

/-- What is wrong with the options of a program. -/
inductive Flaw where
  | unknown (letter : Char)
  | valueMissing (letter : Char)
  | unknownName (argument : String)
  | unclear (argument : String) (names : List String)
  | nameWithoutValue (name : String)
  | nameWithValue (name : String)
deriving DecidableEq, Repr

/-- What is wrong with options, in words. -/
def Flaw.complaint : Flaw → String
  | unknown letter => "invalid option -- '" ++ String.singleton letter ++ "'"
  | valueMissing letter => "option requires an argument -- '" ++ String.singleton letter ++ "'"
  | unknownName argument => "unrecognized option '" ++ argument ++ "'"
  | unclear argument names =>
    "option '" ++ argument ++ "' is ambiguous; possibilities:"
      ++ String.join (names.map fun name => " '--" ++ name ++ "'")
  | nameWithoutValue name => "option '--" ++ name ++ "' requires an argument"
  | nameWithValue name => "option '--" ++ name ++ "' doesn't allow an argument"

/-- What has been read from arguments. -/
structure Choice where
  /-- The letters of the options, with their values. -/
  options : List (Char × String)
  /-- The arguments that are no options. -/
  operands : List String

namespace Choice

/-- Whether an option has been chosen. -/
def has (choice : Choice) (letter : Char) : Bool :=
  choice.options.any fun option => option.1 == letter

/-- The last value of an option. -/
def value? (choice : Choice) (letter : Char) : Option String :=
  (choice.options.reverse.find? fun option => option.1 == letter).map (·.2)

/-- Puts an option in front of others. -/
def withOption (letter : Char) (value : String) (choice : Choice) : Choice :=
  { choice with options := (letter, value) :: choice.options }

/-- Puts an argument in front of others. -/
def withOperand (operand : String) (choice : Choice) : Choice :=
  { choice with operands := operand :: choice.operands }

end Choice

/-- What is read from arguments. -/
abbrev Reading := Except Flaw Choice

/-- Whether an option may have a value and need not. -/
def isOptional (flags : Flags) (letter : Char) : Bool :=
  flags.plain.contains letter && flags.valued.contains letter

/-- Reads the letters of an argument; `next` reads what follows the argument. -/
def letters (flags : Flags) (arguments : List String) (next : List String → Reading) :
    List Char → Reading
  | [] => next arguments
  | c :: rest =>
    if flags.isOptional c then
      (next arguments).map (Choice.withOption c (String.ofList rest))
    else if flags.plain.contains c then
      (letters flags arguments next rest).map (Choice.withOption c "")
    else if flags.valued.contains c then
      match rest, arguments with
      | d :: more, _ => (next arguments).map (Choice.withOption c (String.ofList (d :: more)))
      | [], value :: others => (next others).map (Choice.withOption c value)
      | [], [] => .error (.valueMissing c)
    else .error (.unknown c)

/-- The long name that the start of one stands for, with its letter. -/
def named (flags : Flags) (start argument : String) : Except Flaw (String × Char) :=
  let found := flags.long.filter fun entry => start.toList.isPrefixOf entry.1.toList
  match found.find? (·.1 == start), found with
  | some entry, _ => .ok entry
  | none, [] => .error (.unknownName argument)
  | none, entry :: others =>
    if others.all (·.2 == entry.2) then .ok entry
    else .error (.unclear argument (found.map (·.1)))

/-- Reads an argument with a long name; `next` reads what follows it. -/
def longName (flags : Flags) (argument : String) (arguments : List String)
    (next : List String → Reading) : Reading := do
  let text := argument.toList.drop 2
  let start := text.takeWhile (· != '=')
  let value := text.drop start.length
  let (name, letter) ← flags.named (String.ofList start) argument
  if flags.isOptional letter then
    (next arguments).map (Choice.withOption letter (String.ofList (value.drop 1)))
  else if flags.valued.contains letter then
    match value, arguments with
    | _ :: given, _ => (next arguments).map (Choice.withOption letter (String.ofList given))
    | [], given :: others => (next others).map (Choice.withOption letter given)
    | [], [] => throw (.nameWithoutValue name)
  else if value.isEmpty then (next arguments).map (Choice.withOption letter "")
  else throw (.nameWithValue name)

/-- Reads arguments, as many of them as `count`. -/
def readUpTo (flags : Flags) : Nat → List String → Reading
  | 0, arguments => .ok ⟨[], arguments⟩
  | _, [] => .ok ⟨[], []⟩
  | count + 1, first :: rest =>
    match first.toList with
    | ['-', '-'] => .ok ⟨[], rest⟩
    | '-' :: '-' :: _ => flags.longName first rest (readUpTo flags count)
    | '-' :: c :: more => flags.letters rest (readUpTo flags count) (c :: more)
    | _ => (readUpTo flags count rest).map (Choice.withOperand first)

/-- Reads arguments up to the first that is no option, as many of them as `count`. -/
def readFrontUpTo (flags : Flags) : Nat → List String → Reading
  | 0, arguments => .ok ⟨[], arguments⟩
  | _, [] => .ok ⟨[], []⟩
  | count + 1, first :: rest =>
    match first.toList with
    | ['-', '-'] => .ok ⟨[], rest⟩
    | '-' :: '-' :: _ => flags.longName first rest (readFrontUpTo flags count)
    | '-' :: c :: more => flags.letters rest (readFrontUpTo flags count) (c :: more)
    | _ => .ok ⟨[], first :: rest⟩

/-- Reads arguments up to the first that is no option. -/
def readFront (flags : Flags) (arguments : List String) : Reading :=
  flags.readFrontUpTo arguments.length arguments

/-- Reads arguments. -/
def read (flags : Flags) (arguments : List String) : Reading :=
  flags.readUpTo arguments.length arguments

end Flags
end Shell
end SuiteCoverage
