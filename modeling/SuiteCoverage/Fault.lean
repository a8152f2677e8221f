/-!
# Faults of the system

Why the system refused something: opening a file, changing the directory, starting a child,
writing to a stream. A fault is a cause; `Fault.message` is the wording in which the system
reports it, with its error number.
-/

set_option autoImplicit false

namespace SuiteCoverage

/-- A cause for which the system refuses an operation. -/
inductive Fault where
  | notPermitted
  | notFound
  | formatUnknown
  | badDescriptor
  | permissionDenied
  | busy
  | alreadyThere
  | notADirectory
  | isADirectory
  | invalidArgument
  | fileBusy
  | nameTooLong
  | noDevice
  | noSpace
  | brokenPipe
  | notEmpty
  | tooManyLinks
  /-- A path with a NUL character, which the system cannot be given. -/
  | nulInPath
  /-- A program or an argument with a NUL character. -/
  | nulInCommand
  /-- A file that should be text and is not. -/
  | notText
  /-- Any other cause, in the words of whoever reports it. -/
  | described (text : String)
deriving DecidableEq, Repr

namespace Fault

/-- The cause in words. -/
def reason : Fault → String
  | notPermitted => "Operation not permitted"
  | notFound => "No such file or directory"
  | formatUnknown => "Exec format error"
  | badDescriptor => "Bad file descriptor"
  | permissionDenied => "Permission denied"
  | busy => "Device or resource busy"
  | alreadyThere => "File exists"
  | notADirectory => "Not a directory"
  | isADirectory => "Is a directory"
  | invalidArgument => "Invalid argument"
  | fileBusy => "Text file busy"
  | nameTooLong => "File name too long"
  | noDevice => "No such device or address"
  | noSpace => "No space left on device"
  | brokenPipe => "Broken pipe"
  | notEmpty => "Directory not empty"
  | tooManyLinks => "Too many levels of symbolic links"
  | nulInPath => "file name contained an unexpected NUL byte"
  | nulInCommand => "nul byte found in provided data"
  | notText => "stream did not contain valid UTF-8"
  | described text => text

/-- The number by which the system knows a cause of its own. -/
def number? : Fault → Option Nat
  | notPermitted => some 1
  | notFound => some 2
  | formatUnknown => some 8
  | badDescriptor => some 9
  | permissionDenied => some 13
  | busy => some 16
  | alreadyThere => some 17
  | notADirectory => some 20
  | isADirectory => some 21
  | invalidArgument => some 22
  | fileBusy => some 26
  | nameTooLong => some 36
  | noDevice => some 6
  | noSpace => some 28
  | brokenPipe => some 32
  | notEmpty => some 39
  | tooManyLinks => some 40
  | nulInPath => none
  | nulInCommand => none
  | notText => none
  | described _ => none

/-- The wording of a fault: the cause in words, and its number if it has one. -/
def message (fault : Fault) : String :=
  match fault.number? with
  | some number => fault.reason ++ " (os error " ++ toString number ++ ")"
  | none => fault.reason

end Fault
end SuiteCoverage
