/-!
# Memory of a machine

What a program that consists of machine code has in its hands: bytes at addresses. Memory comes in
regions, and between them there is nothing. Numbers are stored with their lowest byte first.
-/

set_option autoImplicit false

namespace SuiteCoverage
namespace Machine

/-- Bytes at consecutive addresses, and what can be done with them besides reading them. -/
structure Region where
  start : Nat
  content : ByteArray
  isWritable : Bool
  isExecutable : Bool

namespace Region

/-- Whether an address is in a region. -/
def has (region : Region) (address : Nat) : Bool :=
  region.start ≤ address && address < region.start + region.content.size

/-- The byte at an address of a region. -/
def byte? (region : Region) (address : Nat) : Option UInt8 :=
  if region.start ≤ address then region.content[address - region.start]? else none

end Region

/-- Memory. If regions overlap the first of them counts. -/
structure Memory where
  regions : List Region

namespace Memory

/-- The region that an address is in. -/
def regionOf? (memory : Memory) (address : Nat) : Option Region :=
  memory.regions.find? fun region => region.has address

/-- The byte at an address. -/
def byte? (memory : Memory) (address : Nat) : Option UInt8 :=
  (memory.regionOf? address).bind fun region => region.byte? address

/-- As many bytes from an address on as there are, up to a number. -/
def bytes (memory : Memory) : Nat → Nat → List UInt8
  | _, 0 => []
  | address, count + 1 =>
    match memory.byte? address with
    | some byte => byte :: memory.bytes (address + 1) count
    | none => []

/-- As many bytes of code from an address on as there are, up to a number. -/
def code (memory : Memory) (address count : Nat) : List UInt8 :=
  match memory.regionOf? address with
  | some region => if region.isExecutable then memory.bytes address count else []
  | none => []

/-- The bytes from an address on up to one that is zero. -/
def text (memory : Memory) : Nat → Nat → List UInt8
  | _, 0 => []
  | address, count + 1 =>
    match memory.byte? address with
    | some byte => if byte == 0 then [] else byte :: memory.text (address + 1) count
    | none => []

/-- The number that bytes make up. -/
def numberOf : List UInt8 → Nat
  | [] => 0
  | byte :: rest => byte.toNat + 256 * numberOf rest

/-- A number as a number of bytes. -/
def bytesOf : Nat → Nat → List UInt8
  | 0, _ => []
  | count + 1, n => UInt8.ofNat (n % 256) :: bytesOf count (n / 256)

/-- The number that is stored in a number of bytes. -/
def load? (memory : Memory) (address count : Nat) : Option Nat :=
  let bytes := memory.bytes address count
  if bytes.length = count then some (numberOf bytes) else none

/-- Stores a byte, if it can be. -/
def storeByte? (memory : Memory) (address : Nat) (byte : UInt8) : Option Memory :=
  match memory.regionOf? address with
  | some region =>
    if region.isWritable then
      some ⟨memory.regions.map fun other =>
        if other.start == region.start then
          { other with content := other.content.set! (address - other.start) byte }
        else other⟩
    else none
  | none => none

/-- Stores bytes, if all of them can be. -/
def storeBytes? (memory : Memory) : Nat → List UInt8 → Option Memory
  | _, [] => some memory
  | address, byte :: rest =>
    match memory.storeByte? address byte with
    | some memory => memory.storeBytes? (address + 1) rest
    | none => none

/-- Stores a number in a number of bytes, if it can be. -/
def store? (memory : Memory) (address count n : Nat) : Option Memory :=
  memory.storeBytes? address (bytesOf count n)

end Memory

/-!
## Images of programs

A file can hold the code of a program for the machine. Its head tells where the code starts and
which parts of the file are put where into memory. Memory is put together of pages, so that more of
the file may come into it than a part has.
-/

/-- A part of a file that is put into memory. What it has in memory beyond the file is zero. -/
structure Part where
  offset : Nat
  address : Nat
  sizeInFile : Nat
  sizeInMemory : Nat
  isWritable : Bool
  isExecutable : Bool
deriving DecidableEq, Repr

/-- A program for the machine. -/
structure Image where
  entry : Nat
  memory : Memory

namespace Image

/-- The size of a page. -/
def pageSize : Nat := 4096

/-- Where programs are put that may be put anywhere. -/
def usualBase : Nat := 0x555555554000

/-- The sizes of the head and of the entry for a part. -/
def headSize : Nat := 64
def entrySize : Nat := 56

/-- A number in the bytes of a file. -/
def field (content : ByteArray) (offset count : Nat) : Nat :=
  Memory.numberOf (content.extract offset (offset + count)).toList

/-- The part that the entry at a place tells of, if it is one to be put into memory. -/
def partAt (content : ByteArray) (place : Nat) : Option Part :=
  let flags := field content (place + 4) 4
  if field content place 4 = 1 then
    some {
      offset := field content (place + 8) 8
      address := field content (place + 16) 8
      sizeInFile := field content (place + 32) 8
      sizeInMemory := field content (place + 40) 8
      isWritable := flags &&& 2 != 0
      isExecutable := flags &&& 1 != 0 }
  else none

/-- The end of the page that the address before another is in. -/
def pageEnd (address : Nat) : Nat := (address + pageSize - 1) / pageSize * pageSize

/-- Zeros. -/
def zeros (count : Nat) : ByteArray := ⟨(List.replicate count 0).toArray⟩

/-- The most that is put into memory. -/
def sizeLimit : Nat := 16777216

/-- The region that a part becomes. -/
def regionOf (content : ByteArray) (base : Nat) (part : Part) : Region :=
  let lead := part.address % pageSize
  let start := part.address - lead
  let size := min sizeLimit (pageEnd (part.address + part.sizeInMemory) - start)
  let isZeroed := part.sizeInFile < part.sizeInMemory
  let taken := if isZeroed then lead + part.sizeInFile else size
  let fromFile := content.extract (part.offset - lead) (part.offset - lead + taken)
  { start := base + start
    content := fromFile ++ zeros (size - fromFile.size)
    isWritable := part.isWritable
    isExecutable := part.isExecutable }

/-- The program in a file, if there is one that the machine can execute. -/
def ofBytes? (content : ByteArray) : Option Image :=
  let kind := field content 16 2
  let place := field content 32 8
  let count := field content 56 2
  let isProgram :=
    content.extract 0 4 == ⟨#[0x7F, 0x45, 0x4C, 0x46]⟩ && headSize ≤ content.size
      && (kind == 2 || kind == 3) && field content 18 2 == 62
      && field content 54 2 == entrySize && 0 < count
      && place + count * entrySize ≤ content.size
  if isProgram then
    let base := if kind == 3 then usualBase else 0
    let parts := (List.range count).filterMap fun n => partAt content (place + n * entrySize)
    some ⟨base + field content 24 8, ⟨(parts.map (regionOf content base)).reverse⟩⟩
  else none

end Image
end Machine
end SuiteCoverage
