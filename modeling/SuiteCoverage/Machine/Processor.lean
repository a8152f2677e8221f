import SuiteCoverage.Machine.Instruction
import SuiteCoverage.Machine.Memory

/-!
# Execution of instructions

The machine goes from one instruction to the next. It stops where it asks the system for something
and where something is wrong; the system then sends the program a signal.
-/

set_option autoImplicit false

namespace SuiteCoverage
namespace Machine

/-- What calculations have found out. -/
structure Findings where
  carry : Bool
  zero : Bool
  sign : Bool
  overflow : Bool
  /-- Whether the number of bits that are set in the lowest byte is even. -/
  parity : Bool
deriving DecidableEq, Repr

/-- What the machine is at. -/
structure Processor where
  registers : List Nat
  /-- The address of the next instruction. -/
  position : Nat
  findings : Findings
  memory : Memory

/-- Why the machine stops. -/
inductive Halt where
  /-- It asks the system for something, in the present or in the former way. -/
  | asking (isFormer : Bool)
  | signal (number : Nat)
deriving DecidableEq, Repr

/-- What is executed without the system. -/
abbrev Execution := Except Nat

/-- The signals for what cannot be calculated and for addresses where there is nothing. -/
def calculationSignal : Nat := 8
def memorySignal : Nat := 11
def instructionSignal : Nat := 4

namespace Processor

/-- The number of the register that the stack is known by, and of the one for its frames. -/
def stackRegister : Nat := 4
def frameRegister : Nat := 5

/-- The registers of accumulator, counter and data. -/
def accumulator : Nat := 0
def counter : Nat := 1
def dataRegister : Nat := 2

/-- The value of a register. -/
def register (p : Processor) (number : Nat) : Nat := p.registers.getD number 0

/-- With another value of a register. -/
def withRegister (p : Processor) (number value : Nat) : Processor :=
  { p with registers := p.registers.set number (value % Width.quad.count) }

/-- The number that a number counts as at a size. -/
def cut (width : Width) (value : Int) : Nat := (value % (width.count : Int)).toNat

/-- A number with its sign. -/
def signed (width : Width) (n : Nat) : Int :=
  if n < width.count / 2 then n else (n : Int) - width.count

/-- Whether the sign of a number is set. -/
def isNegative (width : Width) (n : Nat) : Bool := width.count / 2 ≤ n

/-- An address. -/
def addressOf (p : Processor) (a : Address) : Nat :=
  let base := if a.isRelative then p.position else a.base.elim 0 p.register
  let index := a.index.elim 0 fun (number, factor) => p.register number * factor
  cut .quad ((base + index : Nat) + a.offset)

/-- The value of an operand. -/
def value (p : Processor) (width : Width) : Operand → Execution Nat
  | .register number => return p.register number % width.count
  | .upper number => return p.register number / 256 % 256
  | .immediate value => return cut width value
  | .memory a =>
    match p.memory.load? (p.addressOf a) width.bytes with
    | some n => return n
    | none => throw memorySignal

/-- Stores a number in memory. -/
def store (p : Processor) (address : Nat) (width : Width) (n : Nat) : Execution Processor :=
  match p.memory.store? address width.bytes n with
  | some memory => return { p with memory }
  | none => throw memorySignal

/-- With a number in a register. Its upper half is cleared by numbers of half its size, and its
    upper bits are kept by smaller ones. -/
def withLower (p : Processor) (width : Width) (number n : Nat) : Processor :=
  match width with
  | .quad => p.withRegister number n
  | .double => p.withRegister number n
  | _ =>
    let old := p.register number
    p.withRegister number (old - old % width.count + n)

/-- Gives an operand a value. -/
def put (p : Processor) (width : Width) (n : Nat) : Operand → Execution Processor
  | .register number => return p.withLower width number n
  | .upper number =>
    let old := p.register number
    return p.withRegister number (old - old / 256 % 256 * 256 + n * 256)
  | .immediate _ => throw instructionSignal
  | .memory a => p.store (p.addressOf a) width n

/-! ## Calculations -/

/-- Whether the number of bits that are set in a byte is even. -/
def isEven (byte : Nat) : Bool :=
  ((List.range 8).filter fun bit => byte.testBit bit).length % 2 == 0

/-- What a calculation has found out that came to a number. -/
def found (width : Width) (carry overflow : Bool) (n : Nat) : Findings :=
  ⟨carry, n == 0, isNegative width n, overflow, isEven (n % 256)⟩

/-- A sum of two numbers and a carry. -/
def sum (width : Width) (a b carry : Nat) : Nat × Findings :=
  let n := (a + b + carry) % width.count
  let overflow := isNegative width a == isNegative width b && isNegative width n != isNegative width a
  (n, found width (decide (width.count ≤ a + b + carry)) overflow n)

/-- A difference of two numbers with a borrow. -/
def difference (width : Width) (a b borrow : Nat) : Nat × Findings :=
  let n := cut width ((a : Int) - b - borrow)
  let overflow := isNegative width a != isNegative width b && isNegative width n != isNegative width a
  (n, found width (decide (a < b + borrow)) overflow n)

/-- What a calculation comes to. -/
def calculate (kind : Calculation) (width : Width) (carry : Bool) (a b : Nat) : Nat × Findings :=
  let logical (n : Nat) : Nat × Findings := (n, found width false false n)
  match kind with
  | .add => sum width a b 0
  | .addWithCarry => sum width a b carry.toNat
  | .subtract => difference width a b 0
  | .subtractWithBorrow => difference width a b carry.toNat
  | .compare => difference width a b 0
  | .or => logical (a ||| b)
  | .and => logical (a &&& b)
  | .test => logical (a &&& b)
  | .exclusiveOr => logical (a ^^^ b)

/-- What a change of a number comes to. -/
def changed (change : Change) (width : Width) (before : Findings) (n : Nat) : Nat × Findings :=
  match change with
  | .complement => (width.count - 1 - n, before)
  | .negate => difference width 0 n 0
  | .increase =>
    let (n, after) := sum width n 1 0
    (n, { after with carry := before.carry })
  | .decrease =>
    let (n, after) := difference width n 1 0
    (n, { after with carry := before.carry })

/-- What a shift comes to. -/
def shifted (shift : Shift) (width : Width) (before : Findings) (n count : Nat) :
    Nat × Findings :=
  let count := count % (if width = .quad then 64 else 32)
  let bits := width.bits
  if count = 0 then (n, before)
  else
    match shift with
    | .left =>
      let all := n <<< count
      let n := all % width.count
      let carry := (all / width.count) % 2 == 1
      (n, found width carry (isNegative width n != carry) n)
    | .right =>
      let m := n >>> count
      (m, found width ((n >>> (count - 1)) % 2 == 1) (isNegative width n) m)
    | .arithmeticRight =>
      let m := cut width (signed width n / ((1 <<< count : Nat) : Int))
      (m, found width (cut width (signed width n / ((1 <<< (count - 1) : Nat) : Int)) % 2 == 1)
        false m)
    | .rotateLeft =>
      let k := count % bits
      let m := (n <<< k) % width.count + n >>> (bits - k)
      (m % width.count, { before with carry := m % 2 == 1 })
    | .rotateRight =>
      let k := count % bits
      let m := (n >>> k + n <<< (bits - k)) % width.count
      (m, { before with carry := isNegative width m })

/-- Whether a condition holds. One with an odd number is the negation of the one before it. -/
def holds (f : Findings) (condition : Nat) : Bool :=
  let base := match condition / 2 with
    | 0 => f.overflow
    | 1 => f.carry
    | 2 => f.zero
    | 3 => f.carry || f.zero
    | 4 => f.sign
    | 5 => f.parity
    | 6 => f.sign != f.overflow
    | _ => f.zero || f.sign != f.overflow
  base != (condition % 2 == 1)

/-! ## Instructions -/

/-- Puts a number on the stack. -/
def push (p : Processor) (n : Nat) : Execution Processor :=
  let top := cut .quad (p.register stackRegister - (8 : Int))
  (p.withRegister stackRegister top).store top .quad n

/-- Takes a number from the stack. -/
def pop (p : Processor) : Execution (Nat × Processor) :=
  let top := p.register stackRegister
  match p.memory.load? top 8 with
  | some n => return (n, p.withRegister stackRegister (top + 8))
  | none => throw memorySignal

/-- The processor some bytes further on. -/
def moved (p : Processor) (distance : Int) : Processor :=
  { p with position := cut .quad (p.position + distance) }

/-- The product of the accumulator and a number, which takes up another register as well. -/
def multiply (p : Processor) (isSigned : Bool) (width : Width) (n : Nat) : Processor :=
  let own := p.register accumulator % width.count
  let product : Int :=
    if isSigned then signed width own * signed width n else ((own * n : Nat) : Int)
  let low := cut width product
  let high := cut width (product / width.count)
  let isLarge := if isSigned then signed width low != product else high != 0
  let p := { p with findings := { p.findings with carry := isLarge, overflow := isLarge } }
  if width = .byte then p.withLower .word accumulator (low + 256 * high)
  else (p.withLower width accumulator low).withLower width dataRegister high

/-- Divides what multiplying makes by a number. -/
def divide (p : Processor) (isSigned : Bool) (width : Width) (n : Nat) : Execution Processor := do
  let low := p.register accumulator % width.count
  let high := if width = .byte then p.register accumulator / 256 % 256
    else p.register dataRegister % width.count
  let whole := low + width.count * high
  let a : Int := if isSigned && isNegative width high
    then (whole : Int) - width.count * width.count else whole
  let b : Int := if isSigned then signed width n else n
  if b = 0 then throw calculationSignal
  let quotient := a.tdiv b
  let fits := if isSigned then signed width (cut width quotient) == quotient
    else (cut width quotient : Int) == quotient
  if !fits then throw calculationSignal
  let remainder := cut width (a.tmod b)
  if width = .byte then return p.withLower .word accumulator (cut width quotient + 256 * remainder)
  return (p.withLower width accumulator (cut width quotient)).withLower width dataRegister remainder

/-- The number of times that something is repeated, and the processor after it. -/
def repetitions (p : Processor) (isRepeated : Bool) : Nat × Processor :=
  if isRepeated then (p.register counter, p.withRegister counter 0) else (1, p)

/-- Stores the accumulator a number of times. -/
def fill (width : Width) : Nat → Processor → Execution Processor
  | 0, p => return p
  | count + 1, p => do
    let place := p.register 7
    let p ← p.store place width (p.register accumulator % width.count)
    fill width count (p.withRegister 7 (place + width.bytes))

/-- Copies a number of numbers. -/
def copy (width : Width) : Nat → Processor → Execution Processor
  | 0, p => return p
  | count + 1, p => do
    let source := p.register 6
    let target := p.register 7
    match p.memory.load? source width.bytes with
    | none => throw memorySignal
    | some n =>
      let p ← p.store target width n
      copy width count
        ((p.withRegister 7 (target + width.bytes)).withRegister 6 (source + width.bytes))

/-- Executes an instruction that asks the system for nothing. -/
def execute (p : Processor) : Instruction → Execution Processor
  | .move width target source => do p.put width (← p.value width source) target
  | .extend isSigned old new target source => do
    let n ← p.value old source
    return p.withLower new target (if isSigned then cut new (signed old n) else n)
  | .calculate kind width target source => do
    let a ← p.value width target
    let b ← p.value width source
    let (n, findings) := calculate kind width p.findings.carry a b
    let p := { p with findings }
    if kind = .compare || kind = .test then return p else p.put width n target
  | .change kind width target => do
    let (n, findings) := changed kind width p.findings (← p.value width target)
    put { p with findings } width n target
  | .shift kind width target count => do
    let n ← p.value width target
    let (n, findings) := shifted kind width p.findings n (← p.value .byte count)
    put { p with findings } width n target
  | .multiply isSigned width source => do return p.multiply isSigned width (← p.value width source)
  | .divide isSigned width source => do p.divide isSigned width (← p.value width source)
  | .multiplyInto width target source factor => do
    let product := signed width (← p.value width source) * signed width (← p.value width factor)
    let n := cut width product
    let isLarge := signed width n != product
    let findings := { p.findings with carry := isLarge, overflow := isLarge }
    return withLower { p with findings } width target n
  | .calculateAddress width target address =>
    return p.withLower width target (p.addressOf address % width.count)
  | .push source => do p.push (← p.value .quad source)
  | .pop target => do
    let (n, p) ← p.pop
    p.put .quad n target
  | .exchange width target other => do
    let n ← p.value width target
    let own := p.register other % width.count
    return (← p.put width own target).withLower width other n
  | .jump condition distance =>
    return if condition.all (holds p.findings) then p.moved distance else p
  | .jumpTo target => do return { p with position := ← p.value .quad target }
  | .call distance => do return (← p.push p.position).moved distance
  | .callTo target => do
    let place ← p.value .quad target
    return { (← p.push p.position) with position := place }
  | .goBack dropped => do
    let (place, p) ← p.pop
    let p := p.withRegister stackRegister (p.register stackRegister + dropped)
    return { p with position := place }
  | .setIf condition target => p.put .byte (holds p.findings condition).toNat target
  | .moveIf condition width target source => do
    let n ← p.value width source
    let own := p.register target % width.count
    return p.withLower width target (if holds p.findings condition then n else own)
  | .widen width =>
    let half : Width := match width with
      | .quad => .double
      | .double => .word
      | _ => .byte
    let n := signed half (p.register accumulator % half.count)
    return p.withLower width accumulator (cut width n)
  | .spreadSign width =>
    let isSet := isNegative width (p.register accumulator % width.count)
    return p.withLower width dataRegister (if isSet then width.count - 1 else 0)
  | .repeatUnless rule distance =>
    let left := if rule = .ifNone then p.register counter
      else cut .quad (p.register counter - (1 : Int))
    let p := p.withRegister counter left
    let goesOn := match rule with
      | .ifNone => left == 0
      | .always => left != 0
      | .ifEqual => left != 0 && p.findings.zero
      | .unlessEqual => left != 0 && !p.findings.zero
    return if goesOn then p.moved distance else p
  | .fill isRepeated width =>
    let (count, p) := p.repetitions isRepeated
    fill width count p
  | .copy isRepeated width =>
    let (count, p) := p.repetitions isRepeated
    copy width count p
  | .leave => do
    let (n, p) ← (p.withRegister stackRegister (p.register frameRegister)).pop
    return p.withRegister frameRegister n
  | .nothing => return p
  | .ask _ => return p
  | .trap signal => throw signal

/-- Executes the next instruction. -/
def step (p : Processor) : Except Halt Processor × Processor :=
  let bytes := p.memory.code p.position Instruction.sizeLimit
  match Instruction.ofBytes? bytes with
  | none =>
    let isCut := bytes.length < Instruction.sizeLimit
    (.error (.signal (if isCut then memorySignal else instructionSignal)), p)
  | some (instruction, size) =>
    let next := p.moved size
    match instruction with
    | .ask isFormer => (.error (.asking isFormer), next)
    | instruction =>
      match next.execute instruction with
      | .ok after => (.ok after, after)
      | .error signal => (.error (.signal signal), p)

/-- Executes a number of instructions, or as many as there are up to where the machine stops. -/
def run : Nat → Processor → Option Halt × Processor
  | 0, p => (none, p)
  | count + 1, p =>
    match p.step with
    | (.ok after, _) => run count after
    | (.error halt, after) => (some halt, after)

/-! ## Start -/

/-- Where the stack ends and how large it is. -/
def stackEnd : Nat := 0x7FFFFFFFE000
def stackSize : Nat := 65536

/-- The texts that a program is given, each with a zero at its end, and the addresses at which they
    are if the first of them is at the given one. -/
def placed (start : Nat) : List ByteArray → List UInt8 × List Nat
  | [] => ([], [])
  | text :: rest =>
    let (bytes, places) := placed (start + text.size + 1) rest
    (text.toList ++ 0 :: bytes, start :: places)

/-- The stack that a program starts with, and the address of its top: the number of arguments,
    where they are, and where the settings of the environment are. -/
def stack (arguments settings : List ByteArray) : Region × Nat :=
  let texts := arguments ++ settings
  let size := texts.foldl (fun size text => size + text.size + 1) 0
  let start := stackEnd - size
  let (bytes, places) := placed start texts
  let numbers := arguments.length :: places.take arguments.length ++ 0 ::
    places.drop arguments.length ++ [0, 0, 0]
  let top := (start - 8 * numbers.length) / 16 * 16
  let table := numbers.flatMap (Memory.bytesOf 8)
  let gap : List UInt8 := List.replicate (start - top - table.length) 0
  let free := (Image.zeros (stackSize - (stackEnd - top))).toList
  ({ start := stackEnd - stackSize
     content := ⟨(free ++ table ++ gap ++ bytes).toArray⟩
     isWritable := true
     isExecutable := false }, top)

/-- The machine at the start of a program. -/
def ofImage (image : Image) (arguments settings : List ByteArray) : Processor :=
  let (region, top) := stack arguments settings
  { registers := (List.replicate 16 0).set stackRegister top
    position := image.entry
    findings := ⟨false, false, false, false, false⟩
    memory := ⟨image.memory.regions ++ [region]⟩ }

end Processor
end Machine
end SuiteCoverage
