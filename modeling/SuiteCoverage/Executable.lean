import SuiteCoverage.Machine.Memory
import SuiteCoverage.Text.Decoding
import SuiteCoverage.World.Basic

/-!
# Executing files

A program of the system can be executed as it is, and so can a file with a program for the machine.
Any other file can be executed if it says on its first line, behind `#!`, which interpreter it is
for; executing it means executing the interpreter with the file as an argument, and the interpreter
may be such a file itself.

A program whose name has no separator is looked for in the directories that the environment
lists; a file found there that may not be executed does not end the search.
-/

set_option autoImplicit false

namespace SuiteCoverage

/-- What is executed in the end. -/
inductive Executed where
  /-- A program of the system. -/
  | system (name : String)
  /-- A program for the machine. -/
  | native (image : Machine.Image)

/-- What is executed, what it is called, and its arguments. -/
structure Invocation where
  program : Executed
  name : String
  arguments : List String

/-- The shell, executed for a file that does not say which interpreter it is for. -/
def Invocation.ofScript (path : String) (arguments : List String) : Invocation :=
  ⟨.system "sh", "/bin/sh", path :: arguments⟩

namespace World

/-- The bytes of a file that are looked at. -/
def headSize : Nat := 256

/-- How many interpreters may stand between a file and a program of the system. -/
def interpreterLimit : Nat := 5

/-- Whether a byte divides the words of a first line. -/
def isDivider (byte : UInt8) : Bool := byte == 0x20 || byte == 0x09

/-- The bytes up to the first that is zero. -/
def untilZero (bytes : List UInt8) : List UInt8 := bytes.takeWhile (· != 0)

/-- The first line of a file behind `#!`, from the bytes there. A line that does not end among
    them will do if at least the name of the interpreter does; its last byte is not taken. -/
def firstLine? (bytes : List UInt8) : Option (List UInt8) :=
  if bytes.contains 0x0A then some (bytes.takeWhile (· != 0x0A))
  else
    let named := bytes.dropWhile isDivider
    if named.any fun byte => isDivider byte || byte == 0 then some bytes.dropLast else none

/-- The interpreter that a first line names, and the argument that it is given there. -/
def interpreterOn (line : List UInt8) : Option (List UInt8 × Option (List UInt8)) :=
  let line := ((line.reverse.dropWhile isDivider).reverse).dropWhile isDivider
  if line.isEmpty then none
  else
    let program := line.takeWhile fun byte => !isDivider byte && byte != 0
    match line.drop program.length with
    | [] => some (program, none)
    | byte :: rest =>
      if byte == 0 then some (program, none)
      else some (program, some (untilZero (rest.dropWhile isDivider)))

/-- The interpreter of a file, if it is for one. What a file is too short for counts as zeros. -/
def interpreter? (content : ByteArray) : Option (String × Option String) :=
  let head := (content.extract 0 headSize).toList
  match head ++ List.replicate (headSize - head.length) 0 with
  | 0x23 :: 0x21 :: rest => do
    let (program, argument) ← interpreterOn (← firstLine? rest)
    let text (bytes : List UInt8) := Text.decodeLenient ⟨bytes.toArray⟩
    return (text program, argument.map text)
  | _ => none

/-- What executing the interpreter of a file comes down to: one that has no name stands for the
    directory worked in, which cannot be executed. -/
def interpreterPath (program : String) : Pathname :=
  ⟨if program.isEmpty then "." else program⟩

/-- What executing the file at a path comes down to, through a number of interpreters at most.
    `name` is what the program is called. -/
def execute (w : World) : Nat → String → Pathname → List String → Except Fault Invocation
  | depth, name, p, arguments =>
    match w.stat p with
    | .ok (.program program) => .ok ⟨.system program, name, arguments⟩
    | .ok (.file content facts) =>
      if !facts.isExecutable then .error .permissionDenied
      else
        match interpreter? content, depth with
        | none, _ =>
          match Machine.Image.ofBytes? content with
          | some image => .ok ⟨.native image, name, arguments⟩
          | none => .error .formatUnknown
        | some _, 0 => .error .tooManyLinks
        | some (program, argument), depth + 1 =>
          execute w depth program (interpreterPath program)
            (argument.toList ++ p.spelling :: arguments)
    | .ok _ => .error .permissionDenied
    | .error fault => .error fault

/-- The directories in which programs are looked for, unless the environment lists others. -/
def programDirectories : String := "/bin:/usr/bin"

/-- The texts between colons. -/
def betweenColons (text : List Char) : List (List Char) :=
  match text with
  | [] => [[]]
  | ':' :: rest => [] :: betweenColons rest
  | c :: rest =>
    match betweenColons rest with
    | [] => [[c]]
    | piece :: more => (c :: piece) :: more

/-- The directories that a list of them names; an empty one is the directory worked in. -/
def directoriesOf (text : String) : List Pathname :=
  (betweenColons text.toList).map fun piece => ⟨String.ofList piece⟩

/-- Tries directories in turn; `denied` tells that a file was found that may not be executed. -/
def search (w : World) (name : String) (arguments : List String) (denied : Bool) :
    List Pathname → Except Fault Invocation
  | [] => .error (if denied then .permissionDenied else .notFound)
  | directory :: others =>
    match w.execute interpreterLimit name (directory.join ⟨name⟩) arguments with
    | .ok invocation => .ok invocation
    | .error .permissionDenied => search w name arguments true others
    | .error .notFound => search w name arguments denied others
    | .error .notADirectory => search w name arguments denied others
    | .error fault => .error fault

/-- What executing a program with arguments comes down to. -/
def resolve (w : World) (program : String) (arguments : List String) :
    Except Fault Invocation :=
  if program.isEmpty then .error .notFound
  else if program.toList.contains '/' then w.execute interpreterLimit program ⟨program⟩ arguments
  else
    w.search program arguments false
      (directoriesOf ((w.env.get? "PATH").getD programDirectories))

/-- The path at which a program is found that is looked for by its name: the first that may be
    executed as far as it is known. -/
def pathFor? (w : World) (program : String) : Option String :=
  if program.toList.contains '/' then some program
  else
    let paths := (directoriesOf ((w.env.get? "PATH").getD programDirectories)).map fun directory =>
      directory.join ⟨program⟩
    let isFound (p : Pathname) : Bool :=
      match w.stat p with
      | .ok node => node.isRegular && node.isExecutable
      | .error _ => false
    (paths.find? isFound).map (·.spelling)

end World
end SuiteCoverage
