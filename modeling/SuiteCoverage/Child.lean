import SuiteCoverage.Pathname

/-!
# Child programs

A command names a program and gives it arguments. A program that was started comes to an end by
itself, with a status, or by a signal; by then it may have written to its output and to its error
stream.
-/

set_option autoImplicit false

namespace SuiteCoverage

/-- A program and what it is given. -/
structure Command where
  program : Pathname
  arguments : List String
deriving DecidableEq, Repr

/-- How a program came to its end. -/
inductive Ending where
  | status (code : Nat)
  | signal (number : Nat)
deriving DecidableEq, Repr

/-- A program that has come to its end, and what it wrote. -/
structure Finish where
  ending : Ending
  output : ByteArray
  errors : ByteArray

/-- Whether the program reported success. -/
def Finish.succeeded (finish : Finish) : Bool :=
  finish.ending == .status 0

namespace Signal

/-- The signals that have a name, by number. -/
def names : List (Nat × String) :=
  [(1, "SIGHUP"), (2, "SIGINT"), (3, "SIGQUIT"), (4, "SIGILL"), (5, "SIGTRAP"), (6, "SIGABRT"),
    (7, "SIGBUS"), (8, "SIGFPE"), (9, "SIGKILL"), (10, "SIGUSR1"), (11, "SIGSEGV"),
    (12, "SIGUSR2"), (13, "SIGPIPE"), (14, "SIGALRM"), (15, "SIGTERM"), (16, "SIGSTKFLT"),
    (17, "SIGCHLD"), (18, "SIGCONT"), (19, "SIGSTOP"), (20, "SIGTSTP"), (21, "SIGTTIN"),
    (22, "SIGTTOU"), (23, "SIGURG"), (24, "SIGXCPU"), (25, "SIGXFSZ"), (26, "SIGVTALRM"),
    (27, "SIGPROF"), (28, "SIGWINCH"), (29, "SIGIO"), (30, "SIGPWR"), (31, "SIGSYS")]

/-- The name of a signal, if it has one. -/
def name? (number : Nat) : Option String :=
  (names.find? fun entry => entry.1 == number).map (·.2)

/-- Signals that do nothing to a program that has made no arrangements for them. -/
def isHarmless (number : Nat) : Bool :=
  number == 0 || number == 17 || number == 18 || number == 23 || number == 28

/-- Signals that no program can make arrangements for. -/
def isCertain (number : Nat) : Bool := number == 9 || number == 19

/-- How the end by a signal is told. -/
def describe (number : Nat) : String :=
  match name? number with
  | some name => "signal: " ++ toString number ++ " (" ++ name ++ ")"
  | none => "signal: " ++ toString number

end Signal
end SuiteCoverage
