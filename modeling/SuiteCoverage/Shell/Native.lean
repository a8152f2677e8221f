import SuiteCoverage.Machine.Processor
import SuiteCoverage.Shell.Process
import SuiteCoverage.Shell.Redirection

/-!
# Programs in machine code

A process may execute instructions of the machine. What it does to the world it asks the system
for, by a number in a register; what comes of it is left in that register, as a negative number if
it could not be done.
-/

set_option autoImplicit false

namespace SuiteCoverage
namespace Shell
namespace Native

open Effect Machine

/-- What the system can be asked for. -/
inductive Service where
  | read
  | write
  | openPath
  | openBelow
  | create
  | close
  | duplicate
  | duplicateTo
  | sleep
  | waitForSignal
  | processNumber
  | parentNumber
  | userNumber
  | exit
  | kill
  | killThread
  | killThreadOf
  | directory
  | changeDirectory
  | makeDirectory
  | removeDirectory
  | remove
  | rename
deriving DecidableEq, Repr

/-- The numbers by which the services are asked for, in the present way and in the former one. -/
def services : List (Service × List Nat × List Nat) :=
  [(.read, [0], [3]), (.write, [1], [4]), (.openPath, [2], [5]), (.openBelow, [257], [295]),
    (.create, [85], [8]), (.close, [3], [6]), (.duplicate, [32], [41]),
    (.duplicateTo, [33, 292], [63, 330]), (.sleep, [35], [162]), (.waitForSignal, [34], [29]),
    (.processNumber, [39, 186], [20, 224]), (.parentNumber, [110], [64]),
    (.userNumber, [102, 104, 107, 108], [24, 47, 49, 50, 199, 200, 201, 202]),
    (.exit, [60, 231], [1, 252]), (.kill, [62], [37]), (.killThread, [200], [238]),
    (.killThreadOf, [234], [270]), (.directory, [79], [183]), (.changeDirectory, [80], [12]),
    (.makeDirectory, [83], [39]), (.removeDirectory, [84], [40]), (.remove, [87], [10]),
    (.rename, [82], [38])]

/-- The service that a number asks for. -/
def service? (isFormer : Bool) (number : Nat) : Option Service :=
  (services.find? fun (_, present, former) =>
    (if isFormer then former else present).contains number).map (·.1)

/-- The registers in which it is told what a service is about. -/
def argumentRegisters (isFormer : Bool) : List Nat :=
  if isFormer then [3, 1, 2, 6, 7, 5] else [7, 6, 2, 10, 8, 9]

/-- The number by which a cause is told to a program. -/
def numberOf (fault : Fault) : Nat := fault.number?.getD 5

/-- What comes of asking: a number, or a cause for which there is none. -/
abbrev Answer := Except Nat Nat

/-- The causes that are not told otherwise: bytes that are not there, a service that there is not,
    a number that makes no sense, a number that is too small, and no process. -/
def badAddress : Nat := 14
def noService : Nat := 38
def badNumber : Nat := 22
def outOfRange : Nat := 34
def noProcess : Nat := 3

/-- The number of the user that runs the program. -/
def userNumber : Nat := 1000

/-- The path at an address. -/
def pathAt (p : Processor) (address : Nat) : Pathname :=
  ⟨Text.decodeLenient ⟨(p.memory.text address 4096).toArray⟩⟩

/-- An answer with nothing to tell. -/
def plainly (result : Except Fault World) : Effect Answer := do
  match result with
  | .ok world =>
    change fun s => { s with world }
    return .ok 0
  | .error fault => return .error (numberOf fault)

/-- What is to be done with a file that is opened. -/
def useOf (flags : Nat) : Use :=
  if flags % 4 = 0 then .reading
  else if flags.testBit 10 then .appending
  else if flags % 4 = 2 then .both
  else .writing

/-- The lowest number that no descriptor has. -/
def freeDescriptor (s : State) : Nat :=
  ((List.range (s.descriptors.length + 1)).find? fun n => (s.channelOf n).isNone).getD 0

/-- The world in which a file is there to be opened. -/
def worldFor (w : World) (flags mode : Nat) (p : Pathname) : Except Fault World :=
  let isThere := w.pathExists p
  if flags.testBit 6 && isThere && flags.testBit 7 then .error .alreadyThere
  else if flags.testBit 6 && !isThere then
    (w.write p .empty).bind fun w => w.changeMode p fun _ => Mode.held ⟨mode % 4096⟩ w.mask
  else if flags % 4 = 0 then (w.readBytes p).map fun _ => w
  else if flags.testBit 9 then w.write p .empty
  else w.append p .empty

/-- Opens a file. -/
def openPath (p : Pathname) (flags mode : Nat) : Effect Answer := do
  let s ← state
  let isStanding := flags % 4 = 0 && s.world.isDirectory p
  match if isStanding then .ok s.world else worldFor s.world flags mode p with
  | .error fault => return .error (numberOf fault)
  | .ok world =>
    change fun s => { s with world }
    let channel ← Redirection.openAt (useOf flags) p
    let number := freeDescriptor (← state)
    direct number (some channel)
    return .ok number

/-- Reads some bytes into memory. -/
def read (p : Processor) (descriptor address count : Nat) : Effect (Answer × Processor) := do
  match ← readSome ((← state).channelOf descriptor) count with
  | .error fault => return (.error (numberOf fault), p)
  | .ok bytes =>
    match p.memory.storeBytes? address bytes.toList with
    | some memory => return (.ok bytes.size, { p with memory })
    | none => return (.error badAddress, p)

/-- Writes bytes of memory. -/
def write (p : Processor) (descriptor address count : Nat) : Effect Answer := do
  match (← state).channelOf descriptor with
  | none => return .error (numberOf .badDescriptor)
  | some channel =>
    let bytes := p.memory.bytes address (min count Image.sizeLimit)
    if bytes.isEmpty && 0 < count then return .error badAddress
    match ← writeBytes (some channel) ⟨bytes.toArray⟩ with
    | some fault => return .error (numberOf fault)
    | none => return .ok bytes.length

/-- Sends a signal. -/
def kill (target : Int) (signal : Nat) : Effect Answer := do
  if Signal.last < signal then return .error badNumber
  return if ← sendTo target signal then .ok 0 else .error noProcess

/-- Waits for the time that is told at an address, in seconds and billionths of a second. -/
def sleep (p : Processor) (address : Nat) : Effect Answer := do
  match p.memory.load? address 8, p.memory.load? (address + 8) 8 with
  | some seconds, some rest =>
    let time := seconds * Duration.second + rest / 1000
    let start := (← state).time
    pause (fun _ => false) (some (start + time)) false
    return .ok 0
  | _, _ => return .error badAddress

/-- Tells a program the path of its directory. -/
def directory (p : Processor) (address size : Nat) : Effect (Answer × Processor) := do
  match (← state).world.currentDirectory with
  | .error fault => return (.error (numberOf fault), p)
  | .ok path =>
    let bytes := path.spelling.toUTF8.toList ++ [0]
    if size < bytes.length then return (.error outOfRange, p)
    match p.memory.storeBytes? address bytes with
    | some memory => return (.ok bytes.length, { p with memory })
    | none => return (.error badAddress, p)

/-- Lets a descriptor lead to where another leads. -/
def duplicate (source : Nat) (target : Option Nat) : Effect Answer := do
  let s ← state
  match s.channelOf source with
  | none => return .error (numberOf .badDescriptor)
  | some channel =>
    let target := target.getD (freeDescriptor s)
    direct target (some channel)
    return .ok target

/-- Closes a descriptor. -/
def close (descriptor : Nat) : Effect Answer := do
  if ((← state).channelOf descriptor).isNone then return .error (numberOf .badDescriptor)
  direct descriptor none
  sweep
  return .ok 0

/-- Does what a program asks for, about what is in some registers. -/
def serve (p : Processor) (service : Service) (a b c d : Nat) : Effect (Answer × Processor) := do
  let s ← state
  let alone (effect : Effect Answer) : Effect (Answer × Processor) := do return (← effect, p)
  let path := pathAt p a
  match service with
  | .read => read p a b c
  | .write => alone (write p a b c)
  | .openPath => alone (openPath path b c)
  | .openBelow => alone (openPath (pathAt p b) c d)
  | .create => alone (openPath path 0o1101 b)
  | .close => alone (close a)
  | .duplicate => alone (duplicate a none)
  | .duplicateTo => alone (duplicate a (some b))
  | .sleep => alone (sleep p a)
  | .waitForSignal =>
    pause (fun _ => false) none false
    return (.ok 0, p)
  | .processNumber => return (.ok s.process, p)
  | .parentNumber => return (.ok (s.ancestors.headD 1), p)
  | .userNumber => return (.ok userNumber, p)
  | .exit => throw (.exit (a % 256))
  | .kill => alone (kill (Processor.signed .double (a % Width.double.count)) b)
  | .killThread => alone (kill a b)
  | .killThreadOf => alone (kill b c)
  | .directory => directory p a b
  | .changeDirectory => alone (plainly (s.world.changeDirectory path))
  | .makeDirectory =>
    alone (plainly ((s.world.makeDirectory path).bind fun w =>
      w.changeMode path fun _ => Mode.held ⟨b % 4096⟩ w.mask))
  | .removeDirectory => alone (plainly (s.world.removeDirectory path))
  | .remove => alone (plainly (s.world.removeFile path))
  | .rename => alone (plainly (s.world.rename path (pathAt p b)))

/-- The instructions that are executed at once, and the time that they take. -/
def batch : Nat := 500
def batchTime : Nat := 1000

/-- Goes on with a program. -/
def go : Nat → Processor → Effect Unit
  | 0, _ => throw .exhausted
  | fuel + 1, p => do
    match p.run batch with
    | (none, p) =>
      tick batchTime
      go fuel p
    | (some (.signal signal), _) => throw (.killed signal)
    | (some (.asking isFormer), p) =>
      tick Duration.command
      let arguments := (argumentRegisters isFormer).map p.register
      let argument (n : Nat) : Nat := arguments.getD n 0
      let (answer, p) ← match service? isFormer (p.register Processor.accumulator) with
        | some service => serve p service (argument 0) (argument 1) (argument 2) (argument 3)
        | none => pure (.error noService, p)
      let result : Int := match answer with
        | .ok n => n
        | .error number => -(number : Int)
      let n := Processor.cut .quad result
      let p := p.withRegister Processor.accumulator n
      go fuel (if isFormer then p else p.withRegister Processor.counter p.position)

/-- Executes a program. -/
def run (fuel : Nat) (image : Image) (name : String) (arguments : List String) :
    Effect Unit := do
  let settings := (environment (← state)).map fun entry => (entry.1 ++ "=" ++ entry.2).toUTF8
  go fuel (.ofImage image ((name :: arguments).map String.toUTF8) settings)

end Native
end Shell
end SuiteCoverage
