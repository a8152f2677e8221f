import SuiteCoverage.Child
import SuiteCoverage.Shell.Run

/-!
# Launching programs

A command is launched in a world: the program is found, runs to its end, and leaves its mark on
the disk. It sees the environment and the directory of the world, and has nothing to read.
-/

set_option autoImplicit false

namespace SuiteCoverage

/-- A way to launch commands: how the program ended and what it wrote, or why it could not be
    started, and the world afterwards. -/
abbrev Launcher := Command → World → Except Fault Finish × World

namespace World

/-- Launches a command. -/
def launch : Launcher := fun command w =>
  let words := command.program.spelling :: command.arguments
  if words.any fun word => word.toList.contains '\x00' then
    (.error .nulInCommand, w)
  else
    match w.resolve command.program.spelling command.arguments with
    | .ok invocation => Shell.Run.program w invocation
    | .error fault => (.error fault, w)

/-- The disk of a system on which nothing has been done yet: its programs, the null device and a
    directory for temporary files. -/
def systemDisk : Disk :=
  let programs := Shell.Utility.names.map fun name => (name, Node.program name)
  let directory (entries : Entries) : Node := .directory (.ofSystem .program) entries
  let file (text : String) : Node := .file text.toUTF8 (.ofSystem .plain)
  let empty := directory []
  let devices : Entries :=
    [("fd", .link "/proc/self/fd"), ("full", .device .full), ("null", .device .null),
      ("random", .device .random), ("shm", .directory (.ofSystem ⟨0o1777⟩) []),
      ("stderr", .link "/proc/self/fd/2"), ("stdin", .link "/proc/self/fd/0"),
      ("stdout", .link "/proc/self/fd/1"), ("tty", .device .terminal),
      ("urandom", .device .random), ("zero", .device .zero)]
  let settings : Entries :=
    [("group", file "root:x:0:\n"), ("hostname", file "localhost\n"),
      ("hosts", file "127.0.0.1\tlocalhost\n"),
      ("passwd", file "root:x:0:0:root:/root:/bin/bash\n"), ("profile", file "")]
  ⟨[("bin", .link "usr/bin"), ("boot", empty), ("dev", directory devices),
    ("etc", directory settings), ("home", empty), ("lib", .link "usr/lib"),
    ("lib64", .link "usr/lib64"), ("media", empty), ("mnt", empty), ("opt", empty),
    ("proc", .directory (.ofSystem ⟨0o555⟩) []), ("root", .directory (.ofSystem ⟨0o700⟩) []),
    ("run", empty), ("sbin", .link "usr/sbin"), ("srv", empty),
    ("sys", .directory (.ofSystem ⟨0o555⟩) []), ("tmp", .directory (.ofSystem ⟨0o1777⟩) []),
    ("usr", directory
      [("bin", directory programs), ("games", empty), ("include", empty), ("lib", empty),
        ("lib64", empty), ("libexec", empty), ("local", directory
          [("bin", empty), ("etc", empty), ("games", empty), ("include", empty), ("lib", empty),
            ("sbin", empty), ("share", empty), ("src", empty)]),
        ("sbin", empty), ("share", empty), ("src", empty)]),
    ("var", directory
      [("backups", empty), ("cache", empty), ("lib", empty), ("local", empty),
        ("lock", .link "/run/lock"), ("log", empty), ("mail", empty), ("opt", empty),
        ("run", .link "/run"), ("spool", empty),
        ("tmp", .directory (.ofSystem ⟨0o1777⟩) [])])]⟩

end World
end SuiteCoverage
