import SuiteCoverage.Machine.Memory

/-!
# Instructions of the machine

What the machine can be told to do. It has sixteen registers of 64 bits; most instructions are
about a number of their lower bits.
-/

set_option autoImplicit false

namespace SuiteCoverage
namespace Machine

/-- The size of a number. -/
inductive Width where
  | byte
  | word
  | double
  | quad
deriving DecidableEq, Repr

/-- The number of bytes in a number. -/
def Width.bytes : Width → Nat
  | byte => 1
  | word => 2
  | double => 4
  | quad => 8

/-- The number of bits in a number. -/
def Width.bits (width : Width) : Nat := 8 * width.bytes

/-- How many numbers there are of a size. -/
def Width.count (width : Width) : Nat := 1 <<< width.bits

/-- An address that is calculated. -/
structure Address where
  base : Option Nat
  /-- A register and what its value is multiplied with. -/
  index : Option (Nat × Nat)
  offset : Int
  /-- Whether it is counted from the next instruction on. -/
  isRelative : Bool
deriving DecidableEq, Repr

/-- What an instruction is about. -/
inductive Operand where
  | register (number : Nat)
  /-- The second lowest byte of a register. -/
  | upper (number : Nat)
  | memory (address : Address)
  | immediate (value : Int)
deriving DecidableEq, Repr

/-- A calculation with two numbers. -/
inductive Calculation where
  | add
  | or
  | addWithCarry
  | subtractWithBorrow
  | and
  | subtract
  | exclusiveOr
  /-- The same as subtracting, for the flags alone. -/
  | compare
  /-- The same as the logical and, for the flags alone. -/
  | test
deriving DecidableEq, Repr

/-- A calculation with one number. -/
inductive Change where
  | complement
  | negate
  | increase
  | decrease
deriving DecidableEq, Repr

/-- A shift of bits. -/
inductive Shift where
  | rotateLeft
  | rotateRight
  | left
  | right
  /-- With the sign kept. -/
  | arithmeticRight
deriving DecidableEq, Repr

/-- When a loop goes on, besides its counter not being zero. -/
inductive LoopRule where
  | unlessEqual
  | ifEqual
  | always
  /-- Goes on if the counter is zero, and leaves it. -/
  | ifNone
deriving DecidableEq, Repr

/-- An instruction. Conditions have numbers. -/
inductive Instruction where
  | move (width : Width) (target source : Operand)
  | extend (isSigned : Bool) (old new : Width) (target : Nat) (source : Operand)
  | calculate (calculation : Calculation) (width : Width) (target source : Operand)
  | change (change : Change) (width : Width) (target : Operand)
  | shift (shift : Shift) (width : Width) (target count : Operand)
  /-- Multiplies the accumulator. -/
  | multiply (isSigned : Bool) (width : Width) (source : Operand)
  | divide (isSigned : Bool) (width : Width) (source : Operand)
  | multiplyInto (width : Width) (target : Nat) (source factor : Operand)
  | calculateAddress (width : Width) (target : Nat) (address : Address)
  | push (source : Operand)
  | pop (target : Operand)
  | exchange (width : Width) (target : Operand) (other : Nat)
  | jump (condition : Option Nat) (distance : Int)
  | jumpTo (target : Operand)
  | call (distance : Int)
  | callTo (target : Operand)
  /-- Goes back, and drops bytes of the stack. -/
  | goBack (dropped : Nat)
  | setIf (condition : Nat) (target : Operand)
  | moveIf (condition : Nat) (width : Width) (target : Nat) (source : Operand)
  /-- Doubles the size of the accumulator. -/
  | widen (width : Width)
  /-- Fills the data register with the sign of the accumulator. -/
  | spreadSign (width : Width)
  | repeatUnless (rule : LoopRule) (distance : Int)
  /-- Stores the accumulator. -/
  | fill (isRepeated : Bool) (width : Width)
  | copy (isRepeated : Bool) (width : Width)
  | leave
  | nothing
  /-- Asks the system for something, in the present or in the former way. -/
  | ask (isFormer : Bool)
  /-- What nothing but a signal comes of. -/
  | trap (signal : Nat)
deriving DecidableEq, Repr

end Machine
end SuiteCoverage

/-!
## Reading instructions

An instruction takes up some bytes. It may start with marks that change its size or its registers;
then its kind follows, what it is about, and a number.
-/

namespace SuiteCoverage
namespace Machine

/-- Marks in front of an instruction. -/
structure Marks where
  /-- Whether it is about numbers of 16 bits. -/
  isShort : Bool
  isRepeated : Bool
  /-- The mark for longer numbers and for the upper registers, if there is one. -/
  extension : Option Nat
deriving DecidableEq, Repr

namespace Marks

/-- No marks. -/
def none : Marks := ⟨false, false, Option.none⟩

/-- Whether a bit of the extension is set. -/
def has (marks : Marks) (bit : Nat) : Bool := (marks.extension.getD 0).testBit bit

/-- Eight, if a bit of the extension is set. -/
def upper (marks : Marks) (bit : Nat) : Nat := if marks.has bit then 8 else 0

/-- The size of the numbers that an instruction is about. -/
def width (marks : Marks) : Width :=
  if marks.has 3 then .quad else if marks.isShort then .word else .double

/-- The same for instructions on the stack and on addresses. -/
def widthFor (marks : Marks) (isByte : Bool) : Width := if isByte then .byte else marks.width

end Marks

/-- Reads bytes. -/
abbrev Decoder := StateT (List UInt8) Option

namespace Decoder

/-- The next byte. -/
def byte : Decoder Nat := do
  match ← get with
  | [] => failure
  | b :: rest =>
    set rest
    return b.toNat

/-- The next bytes as a number. -/
def number (count : Nat) : Decoder Nat := do
  let bytes ← get
  if bytes.length < count then failure
  set (bytes.drop count)
  return Memory.numberOf (bytes.take count)

/-- The next bytes as a number with a sign. -/
def signed (width : Width) : Decoder Int := do
  let n ← number width.bytes
  return if n < width.count / 2 then (n : Int) else (n : Int) - width.count

/-- The number at the end of an instruction. It has 32 bits at most. -/
def immediate (width : Width) : Decoder Operand := do
  return .immediate (← signed (if width = .quad then .double else width))

/-- The marks in front of an instruction, and the byte behind them. -/
def marked : Nat → Marks → Decoder (Marks × Nat)
  | 0, _ => failure
  | fuel + 1, marks => do
    let b ← byte
    if b = 0x66 then marked fuel { marks with isShort := true, extension := none }
    else if b = 0xF2 || b = 0xF3 then
      marked fuel { marks with isRepeated := true, extension := none }
    else if b = 0x2E || b = 0x3E then marked fuel { marks with extension := none }
    else if 0x40 ≤ b && b < 0x50 then marked fuel { marks with extension := some (b - 0x40) }
    else return (marks, b)

/-- A register as what an instruction is about. -/
def register (marks : Marks) (width : Width) (number : Nat) : Operand :=
  if width = .byte && marks.extension.isNone && 4 ≤ number && number < 8 then .upper (number - 4)
  else .register number

/-- The address that a byte behind the kind of an instruction starts. -/
def address (marks : Marks) (form lower : Nat) : Decoder Address := do
  let offsetOf (form : Nat) : Decoder Int :=
    if form = 1 then signed .byte else if form = 2 then signed .double else pure 0
  if lower = 4 then
    let b ← byte
    let index := (b >>> 3) % 8 + marks.upper 1
    let base := b % 8
    let index := if index = 4 then none else some (index, 1 <<< (b >>> 6))
    if base = 5 ∧ form = 0 then return ⟨none, index, ← signed .double, false⟩
    return ⟨some (base + marks.upper 0), index, ← offsetOf form, false⟩
  else if lower = 5 ∧ form = 0 then return ⟨none, none, ← signed .double, true⟩
  else return ⟨some (lower + marks.upper 0), none, ← offsetOf form, false⟩

/-- A register and another thing that an instruction is about. -/
def operands (marks : Marks) (width : Width) : Decoder (Nat × Operand) := do
  let b ← byte
  let form := b >>> 6
  let number := (b >>> 3) % 8 + marks.upper 2
  if form = 3 then return (number, register marks width (b % 8 + marks.upper 0))
  else return (number, .memory (← address marks form (b % 8)))

/-- The calculations that have numbers. -/
def calculation (number : Nat) : Calculation :=
  match number with
  | 0 => .add
  | 1 => .or
  | 2 => .addWithCarry
  | 3 => .subtractWithBorrow
  | 4 => .and
  | 5 => .subtract
  | 6 => .exclusiveOr
  | _ => .compare

/-- The shifts that have numbers. -/
def shift? (number : Nat) : Option Shift :=
  match number with
  | 0 => some .rotateLeft
  | 1 => some .rotateRight
  | 4 => some .left
  | 5 => some .right
  | 7 => some .arithmeticRight
  | _ => none

/-- A calculation in one of its six usual forms. -/
def usualForm (marks : Marks) (kind : Calculation) (form : Nat) : Decoder Instruction := do
  let width := marks.widthFor (form % 2 = 0)
  if form < 4 then
    let (number, other) ← operands marks width
    let own := register marks width number
    return if form < 2 then .calculate kind width other own else .calculate kind width own other
  else return .calculate kind width (.register 0) (← immediate width)

/-- An instruction with one operand, of those that are told apart by three bits. -/
def single (marks : Marks) (isByte : Bool) : Decoder Instruction := do
  let width := marks.widthFor isByte
  let (number, operand) ← operands marks width
  match number % 8 with
  | 0 => return .calculate .test width operand (← immediate width)
  | 1 => return .calculate .test width operand (← immediate width)
  | 2 => return .change .complement width operand
  | 3 => return .change .negate width operand
  | 4 => return .multiply false width operand
  | 5 => return .multiply true width operand
  | 6 => return .divide false width operand
  | _ => return .divide true width operand

/-- The same for counting and for leaving. -/
def another (marks : Marks) (isByte : Bool) : Decoder Instruction := do
  let width := marks.widthFor isByte
  let (number, operand) ← operands marks width
  match number % 8 with
  | 0 => return .change .increase width operand
  | 1 => return .change .decrease width operand
  | 2 => if isByte then failure else return .callTo operand
  | 4 => if isByte then failure else return .jumpTo operand
  | 6 => if isByte then failure else return .push operand
  | _ => failure

/-- A shift by a number that is told elsewhere. -/
def shifting (marks : Marks) (isByte : Bool) (count : Decoder Operand) : Decoder Instruction := do
  let width := marks.widthFor isByte
  let (number, operand) ← operands marks width
  match shift? (number % 8) with
  | some kind => return .shift kind width operand (← count)
  | none => failure

/-- An instruction whose kind is told by two bytes, the second of which is given. -/
def twoBytes (marks : Marks) (b : Nat) : Decoder Instruction := do
  if b = 0x05 then return .ask false
  else if b = 0x0B then return .trap 4
  else if b = 0x1E || b = 0x1F then
    let _ ← operands marks marks.width
    return .nothing
  else if 0x40 ≤ b && b < 0x50 then
    let (number, other) ← operands marks marks.width
    return .moveIf (b - 0x40) marks.width number other
  else if 0x80 ≤ b && b < 0x90 then return .jump (some (b - 0x80)) (← signed .double)
  else if 0x90 ≤ b && b < 0xA0 then
    let (_, operand) ← operands marks .byte
    return .setIf (b - 0x90) operand
  else if b = 0xAF then
    let (number, other) ← operands marks marks.width
    return .multiplyInto marks.width number other (.register number)
  else if b = 0xB6 || b = 0xB7 || b = 0xBE || b = 0xBF then
    let old : Width := if b % 2 = 0 then .byte else .word
    let (number, other) ← operands marks old
    return .extend (0xBE ≤ b) old marks.width number other
  else failure

/-- An instruction whose kind is told by a byte. -/
def ofKind (marks : Marks) (b : Nat) : Decoder Instruction := do
  let low := b % 8 + marks.upper 0
  let isByte := b % 2 = 0
  let width := marks.widthFor isByte
  if b < 0x40 && b % 8 < 6 then usualForm marks (calculation (b >>> 3)) (b % 8)
  else if b = 0x0F then twoBytes marks (← byte)
  else if 0x50 ≤ b && b < 0x58 then return .push (.register low)
  else if 0x58 ≤ b && b < 0x60 then return .pop (.register low)
  else if b = 0x63 then
    let (number, other) ← operands marks .double
    return .extend true .double marks.width number other
  else if b = 0x68 then return .push (← immediate .double)
  else if b = 0x6A then return .push (← immediate .byte)
  else if b = 0x69 || b = 0x6B then
    let (number, other) ← operands marks marks.width
    return .multiplyInto marks.width number other
      (← immediate (if b = 0x6B then .byte else marks.width))
  else if 0x70 ≤ b && b < 0x80 then return .jump (some (b - 0x70)) (← signed .byte)
  else if b = 0x80 || b = 0x81 || b = 0x83 then
    let (number, operand) ← operands marks width
    return .calculate (calculation (number % 8)) width operand
      (← immediate (if b = 0x83 then .byte else width))
  else if b = 0x84 || b = 0x85 then
    let (number, operand) ← operands marks width
    return .calculate .test width operand (register marks width number)
  else if b = 0x86 || b = 0x87 then
    let (number, operand) ← operands marks width
    match register marks width number with
    | .register number => return .exchange width operand number
    | _ => failure
  else if 0x88 ≤ b && b < 0x8C then
    let (number, operand) ← operands marks width
    let own := register marks width number
    return if b < 0x8A then .move width operand own else .move width own operand
  else if b = 0x8D then
    match ← operands marks marks.width with
    | (number, .memory address) => return .calculateAddress marks.width number address
    | _ => failure
  else if b = 0x8F then
    let (_, operand) ← operands marks .quad
    return .pop operand
  else if b = 0x90 && !marks.has 0 then return .nothing
  else if 0x90 ≤ b && b < 0x98 then return .exchange marks.width (.register low) 0
  else if b = 0x98 then return .widen marks.width
  else if b = 0x99 then return .spreadSign marks.width
  else if b = 0xA4 || b = 0xA5 then return .copy marks.isRepeated width
  else if b = 0xA8 || b = 0xA9 then
    return .calculate .test width (.register 0) (← immediate width)
  else if b = 0xAA || b = 0xAB then return .fill marks.isRepeated width
  else if 0xB0 ≤ b && b < 0xB8 then
    return .move .byte (register marks .byte low) (← immediate .byte)
  else if 0xB8 ≤ b && b < 0xC0 then
    let value ← signed marks.width
    return .move marks.width (.register low) (.immediate value)
  else if b = 0xC0 || b = 0xC1 then shifting marks isByte (immediate .byte)
  else if b = 0xC2 then return .goBack (← number 2)
  else if b = 0xC3 then return .goBack 0
  else if b = 0xC6 || b = 0xC7 then
    let (number, operand) ← operands marks width
    if number % 8 = 0 then return .move width operand (← immediate width) else failure
  else if b = 0xC9 then return .leave
  else if b = 0xCC then return .trap 5
  else if b = 0xCD then
    if (← byte) = 0x80 then return .ask true else return .trap 11
  else if b = 0xD0 || b = 0xD1 then shifting marks isByte (pure (.immediate 1))
  else if b = 0xD2 || b = 0xD3 then shifting marks isByte (pure (.register 1))
  else if b = 0xE0 then return .repeatUnless .unlessEqual (← signed .byte)
  else if b = 0xE1 then return .repeatUnless .ifEqual (← signed .byte)
  else if b = 0xE2 then return .repeatUnless .always (← signed .byte)
  else if b = 0xE3 then return .repeatUnless .ifNone (← signed .byte)
  else if b = 0xE8 then return .call (← signed .double)
  else if b = 0xE9 then return .jump none (← signed .double)
  else if b = 0xEB then return .jump none (← signed .byte)
  else if b = 0xF4 then return .trap 11
  else if b = 0xF6 || b = 0xF7 then single marks isByte
  else if b = 0xFE || b = 0xFF then another marks isByte
  else failure

/-- An instruction. -/
def instruction : Decoder Instruction := do
  let (marks, b) ← marked 15 .none
  ofKind marks b

end Decoder

/-- The most bytes that an instruction takes up. -/
def Instruction.sizeLimit : Nat := 15

/-- The instruction at the front of some bytes, and the number of bytes that it takes up. -/
def Instruction.ofBytes? (bytes : List UInt8) : Option (Instruction × Nat) :=
  (Decoder.instruction.run bytes).map fun (instruction, rest) =>
    (instruction, bytes.length - rest.length)

end Machine
end SuiteCoverage
