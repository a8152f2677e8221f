/-!
# Digests of texts

A digest is a short sequence of bytes that is computed from a longer one. The longer one is filled
up to a whole number of blocks, with its length at the end, and the blocks are worked into a few
words one after the other.

The words have 32 or 64 bits. All are kept in 64 bits, of which only the lower ones count where
words have 32.
-/

set_option autoImplicit false

namespace SuiteCoverage
namespace Digest

/-- The bits of a word that count. -/
def mask (width : UInt64) : UInt64 :=
  if width = 32 then 0xffffffff else 0xffffffffffffffff

/-- A word with its bits moved to the right; what leaves it there enters it on the left. -/
def rotatedRight (width : UInt64) (x n : UInt64) : UInt64 :=
  ((x >>> n) ||| (x <<< (width - n))) &&& mask width

/-- A word of 32 bits with its bits moved to the left; what leaves it there enters it on the right. -/
def rotatedLeft (x n : UInt64) : UInt64 := rotatedRight 32 x (32 - n)

/-- The bytes of a number, the lowest first. -/
def littleBytes (count n : Nat) : List UInt8 :=
  (List.range count).map fun i => UInt8.ofNat (n >>> (8 * i))

/-- The bytes of a number, the highest first. -/
def bigBytes (count n : Nat) : List UInt8 := (littleBytes count n).reverse

/-- The number with some bytes, the highest first. -/
def ofBigBytes (bytes : List UInt8) : Nat := bytes.foldl (fun n byte => n * 256 + byte.toNat) 0

/-- A text filled up to whole blocks, with its length in bits at the end. -/
def padded (blockSize : Nat) (lengthBytes : Nat → List UInt8) (text : ByteArray) : ByteArray :=
  let tail := lengthBytes (8 * text.size)
  let used := (text.size + 1 + tail.length) % blockSize
  let zeros := (blockSize - used) % blockSize
  text.push 0x80 ++ ⟨(List.replicate zeros 0 ++ tail).toArray⟩

/-- The words of a block. -/
def wordsAt (wordSize : Nat) (isBig : Bool) (text : ByteArray) (start : Nat) : Array UInt64 :=
  ((List.range 16).map fun i =>
    let bytes := (List.range wordSize).map fun k => text[start + i * wordSize + k]?.getD 0
    UInt64.ofNat (ofBigBytes (if isBig then bytes else bytes.reverse))).toArray

/-- Works the blocks of a text into words. -/
def absorb (blockSize : Nat) (work : Array UInt64 → Nat → Array UInt64) (start : Array UInt64)
    (text : ByteArray) : Array UInt64 :=
  (List.range (text.size / blockSize)).foldl (fun state i => work state (i * blockSize)) start

/-- The sums of the words of two lists. -/
def added (width : UInt64) (xs ys : Array UInt64) : Array UInt64 :=
  (xs.zip ys).map fun pair => (pair.1 + pair.2) &&& mask width

/-- A word of an array. -/
def word (xs : Array UInt64) (i : Nat) : UInt64 := xs[i]?.getD 0

/-! ## The digest of 128 bits -/

/-- What is added in each of the 64 rounds. -/
def sineTable : Array UInt64 :=
  #[0xd76aa478, 0xe8c7b756, 0x242070db, 0xc1bdceee, 0xf57c0faf, 0x4787c62a, 0xa8304613, 0xfd469501,
    0x698098d8, 0x8b44f7af, 0xffff5bb1, 0x895cd7be, 0x6b901122, 0xfd987193, 0xa679438e, 0x49b40821,
    0xf61e2562, 0xc040b340, 0x265e5a51, 0xe9b6c7aa, 0xd62f105d, 0x02441453, 0xd8a1e681, 0xe7d3fbc8,
    0x21e1cde6, 0xc33707d6, 0xf4d50d87, 0x455a14ed, 0xa9e3e905, 0xfcefa3f8, 0x676f02d9, 0x8d2a4c8a,
    0xfffa3942, 0x8771f681, 0x6d9d6122, 0xfde5380c, 0xa4beea44, 0x4bdecfa9, 0xf6bb4b60, 0xbebfbc70,
    0x289b7ec6, 0xeaa127fa, 0xd4ef3085, 0x04881d05, 0xd9d4d039, 0xe6db99e5, 0x1fa27cf8, 0xc4ac5665,
    0xf4292244, 0x432aff97, 0xab9423a7, 0xfc93a039, 0x655b59c3, 0x8f0ccc92, 0xffeff47d, 0x85845dd1,
    0x6fa87e4f, 0xfe2ce6e0, 0xa3014314, 0x4e0811a1, 0xf7537e82, 0xbd3af235, 0x2ad7d2bb, 0xeb86d391]

/-- How far the bits are moved in each round. -/
def sineShifts : Array UInt64 :=
  #[7, 12, 17, 22, 5, 9, 14, 20, 4, 11, 16, 23, 6, 10, 15, 21]

/-- Works a block into four words. -/
def sineWork (text : ByteArray) (state : Array UInt64) (start : Nat) : Array UInt64 :=
  let words := wordsAt 4 false text start
  let round (s : Array UInt64) (i : Nat) : Array UInt64 :=
    let (a, b, c, d) := (word s 0, word s 1, word s 2, word s 3)
    let (f, g) :=
      if i < 16 then ((b &&& c) ||| ((b ^^^ mask 32) &&& d), i)
      else if i < 32 then ((d &&& b) ||| ((d ^^^ mask 32) &&& c), (5 * i + 1) % 16)
      else if i < 48 then (b ^^^ c ^^^ d, (3 * i + 5) % 16)
      else (c ^^^ (b ||| (d ^^^ mask 32)), 7 * i % 16)
    let sum := (f + a + word sineTable i + word words g) &&& mask 32
    let shift := word sineShifts (4 * (i / 16) + i % 4)
    #[d, (b + rotatedLeft sum shift) &&& mask 32, b, c]
  added 32 state ((List.range 64).foldl round state)

/-- The digest of 128 bits. -/
def md5 (text : ByteArray) : List UInt8 :=
  let full := padded 64 (littleBytes 8) text
  let state := absorb 64 (sineWork full) #[0x67452301, 0xefcdab89, 0x98badcfe, 0x10325476] full
  state.toList.flatMap fun x => littleBytes 4 x.toNat

/-! ## The digest of 160 bits -/

/-- The words of a block, made longer: each further word comes from four before it. -/
def shaOneWords (text : ByteArray) (start : Nat) : Array UInt64 :=
  (List.range' 16 64).foldl
    (fun words i =>
      words.push (rotatedLeft
        (word words (i - 3) ^^^ word words (i - 8) ^^^ word words (i - 14) ^^^ word words (i - 16))
        1))
    (wordsAt 4 true text start)

/-- Works a block into five words. -/
def shaOneWork (text : ByteArray) (state : Array UInt64) (start : Nat) : Array UInt64 :=
  let words := shaOneWords text start
  let round (s : Array UInt64) (i : Nat) : Array UInt64 :=
    let (a, b, c, d, e) := (word s 0, word s 1, word s 2, word s 3, word s 4)
    let (f, k) :=
      if i < 20 then ((b &&& c) ||| ((b ^^^ mask 32) &&& d), (0x5a827999 : UInt64))
      else if i < 40 then (b ^^^ c ^^^ d, 0x6ed9eba1)
      else if i < 60 then ((b &&& c) ||| (b &&& d) ||| (c &&& d), 0x8f1bbcdc)
      else (b ^^^ c ^^^ d, 0xca62c1d6)
    #[(rotatedLeft a 5 + f + e + k + word words i) &&& mask 32, a, rotatedLeft b 30, c, d]
  added 32 state ((List.range 80).foldl round state)

/-- The digest of 160 bits. -/
def shaOne (text : ByteArray) : List UInt8 :=
  let full := padded 64 (bigBytes 8) text
  let state := absorb 64 (shaOneWork full)
    #[0x67452301, 0xefcdab89, 0x98badcfe, 0x10325476, 0xc3d2e1f0] full
  state.toList.flatMap fun x => bigBytes 4 x.toNat

/-! ## The digests of 224 to 512 bits -/

/-- The first primes. -/
def primes (count : Nat) : List Nat :=
  ((List.range' 2 410).filter fun n =>
    (List.range' 2 (n - 2)).all fun d => n % d != 0).take count

/-- The largest number with a power that is not above another, below a bound. -/
def rootUpTo (power : Nat → Nat) (n : Nat) : Nat → Nat → Nat
  | 0, found => found
  | bit + 1, found =>
    let next := found + (1 <<< bit)
    rootUpTo power n bit (if power next ≤ n then next else found)

/-- The first 64 bits behind the point of a square root. -/
def squareRootBits (n : Nat) : UInt64 :=
  UInt64.ofNat (rootUpTo (fun x => x * x) (n <<< 128) 72 0)

/-- The first 64 bits behind the point of a cube root. -/
def cubeRootBits (n : Nat) : UInt64 :=
  UInt64.ofNat (rootUpTo (fun x => x * x * x) (n <<< 192) 72 0)

/-- How words are mixed: their width, the number of rounds, and how far bits are moved. -/
structure Mixing where
  width : UInt64
  rounds : Nat
  constants : Array UInt64
  /-- Two rotations and a shift for the words that are made longer, twice; then three rotations for
      the rounds, twice. -/
  moves : Array UInt64

namespace Mixing

/-- The mixing of words of 32 bits. -/
def narrow : Mixing where
  width := 32
  rounds := 64
  constants := ((primes 64).map fun p => (cubeRootBits p >>> 32 : UInt64)).toArray
  moves := #[7, 18, 3, 17, 19, 10, 2, 13, 22, 6, 11, 25]

/-- The mixing of words of 64 bits. -/
def wide : Mixing where
  width := 64
  rounds := 80
  constants := ((primes 80).map cubeRootBits).toArray
  moves := #[1, 8, 7, 19, 61, 6, 28, 34, 39, 14, 18, 41]

/-- The number of bytes of a word. -/
def wordSize (m : Mixing) : Nat := m.width.toNat / 8

/-- A word combined with itself, moved as one of the entries of the table says. -/
def stirred (m : Mixing) (i : Nat) (shifts : Bool) (x : UInt64) : UInt64 :=
  let last := word m.moves (i + 2)
  rotatedRight m.width x (word m.moves i) ^^^ rotatedRight m.width x (word m.moves (i + 1))
    ^^^ (if shifts then x >>> last else rotatedRight m.width x last)

/-- The words of a block, made longer. -/
def words (m : Mixing) (text : ByteArray) (start : Nat) : Array UInt64 :=
  (List.range' 16 (m.rounds - 16)).foldl
    (fun words i =>
      let next := word words (i - 16) + m.stirred 0 true (word words (i - 15))
        + word words (i - 7) + m.stirred 3 true (word words (i - 2))
      words.push (next &&& mask m.width))
    (wordsAt m.wordSize true text start)

/-- Works a block into eight words. -/
def work (m : Mixing) (text : ByteArray) (state : Array UInt64) (start : Nat) : Array UInt64 :=
  let words := m.words text start
  let round (s : Array UInt64) (i : Nat) : Array UInt64 :=
    let (a, b, c, d) := (word s 0, word s 1, word s 2, word s 3)
    let (e, f, g, h) := (word s 4, word s 5, word s 6, word s 7)
    let choice := (e &&& f) ^^^ ((e ^^^ mask m.width) &&& g)
    let most := (a &&& b) ^^^ (a &&& c) ^^^ (b &&& c)
    let one := h + m.stirred 9 false e + choice + word m.constants i + word words i
    let two := m.stirred 6 false a + most
    #[(one + two) &&& mask m.width, a, b, c, (d + one) &&& mask m.width, e, f, g]
  added m.width state ((List.range m.rounds).foldl round state)

/-- The digest of a text: as many bytes as asked for. -/
def digest (m : Mixing) (start : Array UInt64) (size : Nat) (text : ByteArray) : List UInt8 :=
  let blockSize := 16 * m.wordSize
  let full := padded blockSize (bigBytes (2 * m.wordSize)) text
  let state := absorb blockSize (m.work full) start full
  (state.toList.flatMap fun x => bigBytes m.wordSize x.toNat).take size

end Mixing

/-- The words to start with: from the first eight primes, or from the eight after them. -/
def startWords (skipped : Nat) : Array UInt64 :=
  (((primes 16).drop skipped).take 8 |>.map squareRootBits).toArray

/-- The digest of 256 bits. -/
def sha256 (text : ByteArray) : List UInt8 :=
  Mixing.narrow.digest ((startWords 0).map fun (x : UInt64) => x >>> 32) 32 text

/-- The digest of 224 bits. -/
def sha224 (text : ByteArray) : List UInt8 :=
  Mixing.narrow.digest ((startWords 8).map fun (x : UInt64) => x &&& mask 32) 28 text

/-- The digest of 512 bits. -/
def sha512 (text : ByteArray) : List UInt8 := Mixing.wide.digest (startWords 0) 64 text

/-- The digest of 384 bits. -/
def sha384 (text : ByteArray) : List UInt8 := Mixing.wide.digest (startWords 8) 48 text

/-! ## The digest that takes any length -/

/-- The orders in which the words of a block are taken. -/
def blockOrders : Array (Array Nat) :=
  #[#[0, 1, 2, 3, 4, 5, 6, 7, 8, 9, 10, 11, 12, 13, 14, 15],
    #[14, 10, 4, 8, 9, 15, 13, 6, 1, 12, 0, 2, 11, 7, 5, 3],
    #[11, 8, 12, 0, 5, 2, 15, 13, 10, 14, 3, 6, 7, 1, 9, 4],
    #[7, 9, 3, 1, 13, 12, 11, 14, 2, 6, 5, 10, 4, 0, 15, 8],
    #[9, 0, 5, 7, 2, 4, 10, 15, 14, 1, 11, 12, 6, 8, 3, 13],
    #[2, 12, 6, 10, 0, 11, 8, 3, 4, 13, 7, 5, 15, 14, 1, 9],
    #[12, 5, 1, 15, 14, 13, 4, 10, 0, 7, 6, 3, 9, 2, 8, 11],
    #[13, 11, 7, 14, 12, 1, 3, 9, 5, 0, 15, 4, 8, 6, 2, 10],
    #[6, 15, 14, 9, 11, 3, 0, 8, 12, 2, 13, 7, 1, 4, 10, 5],
    #[10, 2, 8, 4, 7, 6, 1, 5, 15, 11, 9, 14, 3, 12, 13, 0]]

/-- Mixes four of sixteen words with two words of the block. -/
def quarter (v : Array UInt64) (a b c d : Nat) (x y : UInt64) : Array UInt64 :=
  let half (v : Array UInt64) (x first second : UInt64) : Array UInt64 :=
    let v := v.setIfInBounds a (word v a + word v b + x)
    let v := v.setIfInBounds d (rotatedRight 64 (word v d ^^^ word v a) first)
    let v := v.setIfInBounds c (word v c + word v d)
    v.setIfInBounds b (rotatedRight 64 (word v b ^^^ word v c) second)
  half (half v x 32 24) y 16 63

/-- Works a block into eight words; `passed` is how much of the text has been worked in then. -/
def blakeWork (start : Array UInt64) (isLast : Bool) (passed : Nat) (block : Array UInt64)
    (state : Array UInt64) : Array UInt64 :=
  let v := state ++ start
  let v := v.setIfInBounds 12 (word v 12 ^^^ UInt64.ofNat passed)
  let v := if isLast then v.setIfInBounds 14 (word v 14 ^^^ mask 64) else v
  let places := [(0, 4, 8, 12), (1, 5, 9, 13), (2, 6, 10, 14), (3, 7, 11, 15), (0, 5, 10, 15),
    (1, 6, 11, 12), (2, 7, 8, 13), (3, 4, 9, 14)]
  let round (v : Array UInt64) (i : Nat) : Array UInt64 :=
    let order := blockOrders[i % 10]?.getD #[]
    (places.zipIdx).foldl
      (fun v ((a, b, c, d), k) =>
        quarter v a b c d (word block (order[2 * k]?.getD 0)) (word block (order[2 * k + 1]?.getD 0)))
      v
  let v := (List.range 12).foldl round v
  ((List.range 8).map fun i => word state i ^^^ word v i ^^^ word v (i + 8)).toArray

/-- The digest of some bytes, at most 64. -/
def blake (size : Nat) (text : ByteArray) : List UInt8 :=
  let start := startWords 0
  let first := start.setIfInBounds 0 (word start 0 ^^^ 0x01010000 ^^^ UInt64.ofNat size)
  let blocks := max 1 ((text.size + 127) / 128)
  let state := (List.range blocks).foldl
    (fun state i =>
      let isLast := i + 1 == blocks
      let passed := if isLast then text.size else 128 * (i + 1)
      blakeWork start isLast passed (wordsAt 8 false text (128 * i)) state)
    first
  (state.toList.flatMap fun x => littleBytes 8 x.toNat).take size

/-! ## Check sums -/

/-- A remainder of 32 bits after one more byte, the highest bit first. -/
def crcStep (crc : UInt32) (byte : UInt8) : UInt32 :=
  (List.range 8).foldl
    (fun crc _ => if crc &&& 0x80000000 != 0 then (crc <<< 1) ^^^ 0x04c11db7 else crc <<< 1)
    (crc ^^^ (byte.toUInt32 <<< 24))

/-- The bytes of a number as far as it needs them, the lowest first. -/
def lengthBytes (n : Nat) : List UInt8 :=
  littleBytes ((n.log2 + 8) / 8 * (if n = 0 then 0 else 1)) n

/-- The check sum of a text and its length. -/
def crc (text : ByteArray) : Nat :=
  ((text.toList ++ lengthBytes text.size).foldl crcStep 0 ^^^ 0xffffffff).toNat

/-- The sum of 16 bits that is turned before every byte. -/
def turnedSum (text : ByteArray) : Nat :=
  text.toList.foldl
    (fun sum byte => ((sum >>> 1) + ((sum &&& 1) <<< 15) + byte.toNat) &&& 0xffff) 0

/-- The sum of all bytes, taken to 16 bits. -/
def foldedSum (text : ByteArray) : Nat :=
  let sum := text.toList.foldl (fun sum byte => sum + byte.toNat) 0
  let half := (sum &&& 0xffff) + ((sum &&& 0xffffffff) >>> 16)
  (half &&& 0xffff) + (half >>> 16)

/-! ## Bytes in letters -/

/-- Bytes in hexadecimal digits. -/
def hexadecimal (bytes : List UInt8) : String :=
  String.ofList (bytes.flatMap fun byte =>
    [Nat.digitChar (byte.toNat / 16), Nat.digitChar (byte.toNat % 16)])

/-- Letters for bits, so many of them for a letter. -/
structure Letters where
  bits : Nat
  alphabet : List Char
  /-- The number of letters that are written together, filled up at the end. -/
  group : Nat

namespace Letters

/-- Six bits for a letter. -/
def base64 : Letters where
  bits := 6
  alphabet := "ABCDEFGHIJKLMNOPQRSTUVWXYZabcdefghijklmnopqrstuvwxyz0123456789+/".toList
  group := 4

/-- Five bits for a letter. -/
def base32 : Letters where
  bits := 5
  alphabet := "ABCDEFGHIJKLMNOPQRSTUVWXYZ234567".toList
  group := 8

/-- Four bits for a letter. -/
def base16 : Letters where
  bits := 4
  alphabet := "0123456789ABCDEF".toList
  group := 2

/-- The number of bytes in a group. -/
def groupBytes (l : Letters) : Nat := l.group * l.bits / 8

/-- Bytes in groups. -/
def groupsUpTo {α : Type} (size : Nat) : Nat → List α → List (List α)
  | 0, _ => []
  | _, [] => []
  | fuel + 1, items => items.take size :: groupsUpTo size fuel (items.drop size)

/-- The letters of a group of bytes. -/
def encodeGroup (l : Letters) (bytes : List UInt8) : List Char :=
  let full := bytes ++ List.replicate (l.groupBytes - bytes.length) 0
  let n := ofBigBytes full
  let count := (8 * bytes.length + l.bits - 1) / l.bits
  (List.range l.group).map fun i =>
    if i < count then
      let digit := (n >>> (l.bits * (l.group - 1 - i))) % (1 <<< l.bits)
      l.alphabet[digit]?.getD '='
    else '='

/-- Bytes in letters. -/
def encode (l : Letters) (bytes : List UInt8) : List Char :=
  (groupsUpTo l.groupBytes (bytes.length + 1) bytes).flatMap l.encodeGroup

/-- The bytes of the letters at the front of a group that stand for any, and whether the group is as it
    should be. -/
def decodeGroup (l : Letters) (letters : List Char) : List UInt8 × Bool :=
  let digits := (letters.map fun c => l.alphabet.findIdx? (· == c)).takeWhile Option.isSome
  let count := digits.length * l.bits / 8
  let isGood := letters.length == l.group && (letters.drop digits.length).all (· == '=')
    && count != 0 && (8 * count + l.bits - 1) / l.bits == digits.length
  let n := (digits.filterMap id ++ List.replicate (l.group - digits.length) 0).foldl
    (fun n digit => (n <<< l.bits) + digit) 0
  ((bigBytes l.groupBytes n).take count, isGood)

/-- The bytes that letters stand for, up to what does not stand for any, and whether all do. -/
def decode (l : Letters) (letters : List Char) : List UInt8 × Bool :=
  let (found, isGood) := (groupsUpTo l.group (letters.length + 1) letters).foldl
    (fun (found, isGood) letters =>
      if !isGood then (found, false)
      else
        let (bytes, isGood) := l.decodeGroup letters
        (bytes :: found, isGood))
    (([] : List (List UInt8)), true)
  (found.reverse.flatten, isGood)

end Letters
end Digest
end SuiteCoverage
