import SuiteCoverage.Digest.Basic
import SuiteCoverage.Shell.Utility.Excerpts
import SuiteCoverage.Text.Column

/-!
# Digests and letters for bytes

The utilities that show digests of files, check files against digests shown before, and turn bytes
into letters and back.
-/

set_option autoImplicit false

namespace SuiteCoverage
namespace Shell
namespace Utility

open Effect

/-- A kind of digest: the name that is shown with it, its number of bytes, and how it is computed. -/
structure DigestKind where
  tag : String
  size : Nat
  digest : ByteArray → List UInt8

namespace DigestKind

def md5 : DigestKind := ⟨"MD5", 16, Digest.md5⟩
def sha1 : DigestKind := ⟨"SHA1", 20, Digest.shaOne⟩
def sha224 : DigestKind := ⟨"SHA224", 28, Digest.sha224⟩
def sha256 : DigestKind := ⟨"SHA256", 32, Digest.sha256⟩
def sha384 : DigestKind := ⟨"SHA384", 48, Digest.sha384⟩
def sha512 : DigestKind := ⟨"SHA512", 64, Digest.sha512⟩
def blake : DigestKind := ⟨"BLAKE2b", 64, Digest.blake 64⟩

end DigestKind

/-- The options of the utilities that show digests. -/
def digestFlags : Flags :=
  ⟨"bctwzqTSGI".toList, "l".toList,
    [("binary", 'b'), ("check", 'c'), ("text", 't'), ("warn", 'w'), ("zero", 'z'),
      ("quiet", 'q'), ("tag", 'T'), ("status", 'S'), ("strict", 'G'), ("ignore-missing", 'I'),
      ("length", 'l')]⟩

/-- A name in a line with a digest, and whether it had to be changed so that it fits on the line. -/
def lineName (name : String) : String × Bool :=
  let chars := name.toList.flatMap fun c =>
    if c == '\\' then ['\\', '\\'] else if c == '\n' then ['\\', 'n']
    else if c == '\r' then ['\\', 'r'] else [c]
  (String.ofList chars, chars != name.toList)

/-- The line for a digest. -/
def digestLine (choice : Flags.Choice) (tag digest name : String) : String :=
  let (shown, isChanged) := if choice.has 'z' then (name, false) else lineName name
  let lead := if isChanged then "\\" else ""
  let last := (choice.options.reverse.find? fun option => option.1 == 'b' || option.1 == 't')
  let isBinary := last.any fun option => option.1 == 'b'
  let text :=
    if choice.has 'T' then tag ++ " (" ++ shown ++ ") = " ++ digest
    else digest ++ (if isBinary then " *" else "  ") ++ shown
  lead ++ text.push (if choice.has 'z' then '\x00' else '\n')

/-- A digest and the name of its file in a line, if there are some. -/
def listedDigest? (kind : DigestKind) (line : String) : Option (String × String) :=
  let chars := line.toList
  let isChanged := chars.head? == some '\\'
  let chars := if isChanged then chars.drop 1 else chars
  let named (name : List Char) : String :=
    if isChanged then
      String.ofList ((splitEscapes name.length name))
    else String.ofList name
  let isHex (c : Char) : Bool := (Quantity.hexDigit? c).isSome
  let digest := chars.takeWhile isHex
  let lead := (kind.tag ++ " (").toList
  if lead.isPrefixOf chars then
    let inside := chars.drop lead.length
    let behind := inside.reverse.takeWhile isHex |>.reverse
    let before := inside.take (inside.length - behind.length)
    let middle := ") = ".toList
    if middle.isSuffixOf before && behind.length == 2 * kind.size then
      some (String.ofList behind, named (before.take (before.length - middle.length)))
    else none
  else if digest.length == 2 * kind.size then
    match chars.drop digest.length with
    | ' ' :: c :: name =>
      if (c == ' ' || c == '*') && !name.isEmpty then some (String.ofList digest, named name)
      else none
    | _ => none
  else none
where
  /-- A name without its escapes. -/
  splitEscapes : Nat → List Char → List Char
    | 0, text => text
    | fuel + 1, '\\' :: 'n' :: rest => '\n' :: splitEscapes fuel rest
    | fuel + 1, '\\' :: c :: rest => c :: splitEscapes fuel rest
    | fuel + 1, c :: rest => c :: splitEscapes fuel rest
    | _, [] => []

/-- A number of things, with the word for them. -/
def several (n : Nat) (one many : String) : String :=
  toString n ++ " " ++ (if n == 1 then one else many)

/-- What has come of checking files. -/
structure Checked where
  isFormatted : Bool
  badLines : Nat
  unreadable : Nat
  different : Nat
  matching : Nat

/-- Checks files against the digests in the lines of a text. -/
def checkDigests (kind : DigestKind) (choice : Flags.Choice) (argument : String) :
    Effect Bool := do
  match ← wholeText argument with
  | .error fault =>
    blameName argument fault
    return false
  | .ok text =>
    let isSilent := choice.has 'S'
    let step (found : Checked) (entry : String × Nat) : Effect Checked := do
      match listedDigest? kind entry.1 with
      | none =>
        if entry.1.startsWith "#" || entry.1.isEmpty then return found
        if choice.has 'w' then
          blame (argument ++ ": " ++ toString entry.2 ++ ": improperly formatted " ++ kind.tag
            ++ " checksum line")
        return { found with badLines := found.badLines + 1 }
      | some (digest, name) =>
        let found := { found with isFormatted := true }
        let (shown, isChanged) := lineName name
        let shown := if isChanged then "\\" ++ shown else shown
        match ← wholeText name with
        | .error fault =>
          if choice.has 'I' && fault == .notFound then return found
          blameName name fault
          if !isSilent then say (shown ++ ": FAILED open or read\n")
          return { found with unreadable := found.unreadable + 1 }
        | .ok content =>
          if Digest.hexadecimal (kind.digest (toBytes content)) == digest.toLower then
            if !isSilent && !choice.has 'q' then say (shown ++ ": OK\n")
            return { found with matching := found.matching + 1 }
          else
            if !isSilent then say (shown ++ ": FAILED\n")
            return { found with different := found.different + 1 }
    let found ← ((linesOf text).zipIdx 1).foldlM step ⟨false, 0, 0, 0, 0⟩
    if !found.isFormatted then
      blame (Quoting.nameIfNeeded argument ++ ": no properly formatted checksum lines found")
      return false
    if !isSilent then
      if 0 < found.badLines then
        blame ("WARNING: " ++ several found.badLines "line is improperly formatted"
          "lines are improperly formatted")
      if 0 < found.unreadable then
        blame ("WARNING: " ++ several found.unreadable "listed file could not be read"
          "listed files could not be read")
      if 0 < found.different then
        blame ("WARNING: " ++ several found.different "computed checksum did NOT match"
          "computed checksums did NOT match")
      if choice.has 'I' && found.matching == 0 then
        blame (Quoting.nameIfNeeded argument ++ ": no file was verified")
    return found.unreadable == 0 && found.different == 0
      && !(choice.has 'G' && 0 < found.badLines) && !(choice.has 'I' && found.matching == 0)

/-- Shows digests of files, or checks files. -/
def digests (kind : DigestKind) (arguments : List String) : Effect Unit :=
  withFlags 1 digestFlags arguments fun choice => do
    let names := orInput choice.operands
    let lone := [('q', "quiet"), ('S', "status"), ('G', "strict"), ('w', "warn"),
      ('I', "ignore-missing")].find? fun entry => choice.has entry.1
    match lone.filter (fun _ => !choice.has 'c') with
    | some (_, name) =>
      blameCall ("the --" ++ name ++ " option is meaningful only when verifying checksums")
    | none =>
      let results ← names.mapM fun argument => do
        if choice.has 'c' then checkDigests kind choice argument
        else
          match ← wholeText argument with
          | .error fault =>
            blameName argument fault
            return false
          | .ok text =>
            let digest := Digest.hexadecimal (kind.digest (toBytes text))
            say (digestLine choice kind.tag digest argument)
            return true
      Builtin.answer (results.all id)

/-- Shows digests of files whose length can be chosen. -/
def blakeDigests (arguments : List String) : Effect Unit :=
  withFlags 1 digestFlags arguments fun choice => do
    match choice.value? 'l' with
    | none => digests .blake arguments
    | some text =>
      match count? text with
      | some bits =>
        if bits % 8 != 0 then
          blame ("invalid length: " ++ Quoting.name text)
          blame "length is not a multiple of 8"
          setStatus 1
        else if 512 < bits then
          blame ("invalid length: " ++ Quoting.name text)
          blame "maximum digest length for 'BLAKE2b' is 512 bits"
          setStatus 1
        else if bits == 0 then digests .blake arguments
        else
          digests ⟨"BLAKE2b-" ++ toString bits, bits / 8, Digest.blake (bits / 8)⟩ arguments
      | none =>
        blame ("invalid length: " ++ Quoting.name text)
        setStatus 1

/-! ## Check sums -/

/-- Shows a line for every file. -/
def sums (names : List String) (line : ByteArray → String → String) : Effect Unit := do
  let results ← names.mapM fun argument => do
    match ← wholeText argument with
    | .error fault =>
      blameName argument fault
      return false
    | .ok text =>
      say (line (toBytes text) argument)
      return true
  Builtin.answer (results.all id)

/-- Shows check sums of files, or digests if asked for. -/
def cksum (arguments : List String) : Effect Unit :=
  let flags : Flags := ⟨"cUTzw".toList, "al".toList,
    [("algorithm", 'a'), ("check", 'c'), ("untagged", 'U'), ("tag", 'T'), ("length", 'l'),
      ("zero", 'z')]⟩
  withFlags 1 flags arguments fun choice => do
    let kinds : List (String × DigestKind) :=
      [("md5", .md5), ("sha1", .sha1), ("sha224", .sha224), ("sha256", .sha256),
        ("sha384", .sha384), ("sha512", .sha512), ("blake2b", .blake)]
    let algorithm := (choice.value? 'a').getD "crc"
    let shownName (name : String) : String :=
      if choice.operands.isEmpty then "" else " " ++ name
    match kinds.find? fun entry => entry.1 == algorithm with
    | some (_, kind) =>
      let tag := if choice.has 'U' || choice.has 'c' then [] else ["--tag"]
      let check := if choice.has 'c' then ["-c"] else []
      digests kind (tag ++ check ++ ["--"] ++ choice.operands)
    | none =>
      if algorithm == "bsd" then sums (orInput choice.operands) (turned shownName)
      else if algorithm == "sysv" then sums (orInput choice.operands) (folded shownName)
      else
        sums (orInput choice.operands) fun content name =>
          toString (Digest.crc content) ++ " " ++ toString content.size ++ shownName name ++ "\n"
where
  /-- The line with the sum that is turned. -/
  turned (shownName : String → String) (content : ByteArray) (name : String) : String :=
    let digits := toString (Digest.turnedSum content)
    String.ofList (List.replicate (5 - digits.length) '0') ++ digits ++ " "
      ++ Text.padLeft 5 (toString ((content.size + 1023) / 1024)) ++ shownName name ++ "\n"
  /-- The line with the sum of all bytes. -/
  folded (shownName : String → String) (content : ByteArray) (name : String) : String :=
    toString (Digest.foldedSum content) ++ " " ++ toString ((content.size + 511) / 512)
      ++ shownName name ++ "\n"

/-- Shows short check sums of files. -/
def sum (arguments : List String) : Effect Unit :=
  withFlags 1 ⟨"rs".toList, [], [("sysv", 's')]⟩ arguments fun choice => do
    let shownName (name : String) : String :=
      if choice.operands.isEmpty then "" else " " ++ name
    let last := choice.options.getLast?.map (·.1)
    let line := if last == some 's' then cksum.folded shownName else cksum.turned shownName
    sums (orInput choice.operands) line

/-! ## Letters -/

/-- Turns bytes into letters, or back. -/
def inLetters (letters : Digest.Letters) (choice : Flags.Choice) : Effect Unit := do
  match choice.operands with
  | _ :: extra :: _ => blameCall ("extra operand " ++ Quoting.name extra)
  | operands =>
    let widthText := (choice.value? 'w').getD "76"
    match count? widthText, ← wholeText (operands.headD "-") with
    | none, _ =>
      blame ("invalid wrap size: " ++ Quoting.name widthText)
      setStatus 1
    | some _, .error fault =>
      blameName (operands.headD "-") fault
      setStatus 1
    | some width, .ok text =>
      if choice.has 'd' then
        let isKept (c : Char) : Bool :=
          if choice.has 'i' then letters.alphabet.contains c || c == '=' else c != '\n'
        let (bytes, isGood) := letters.decode (text.toList.filter isKept)
        sayBytes ⟨bytes.toArray⟩
        if isGood then Builtin.answer true
        else
          blame "invalid input"
          setStatus 1
      else
        let found := letters.encode (toBytes text).toList
        if width == 0 then say (String.ofList found)
        else
          let lines := Digest.Letters.groupsUpTo width (found.length + 1) found
          say (String.join (lines.map fun line => String.ofList line ++ "\n"))
        Builtin.answer true

/-- The options of the utilities that turn bytes into letters. -/
def lettersFlags : Flags :=
  ⟨"di".toList, "w".toList, [("decode", 'd'), ("ignore-garbage", 'i'), ("wrap", 'w')]⟩

/-- Six bits for a letter. -/
def base64 (arguments : List String) : Effect Unit :=
  withFlags 1 lettersFlags arguments (inLetters .base64)

/-- Five bits for a letter. -/
def base32 (arguments : List String) : Effect Unit :=
  withFlags 1 lettersFlags arguments (inLetters .base32)

/-- Any of several alphabets. -/
def basenc (arguments : List String) : Effect Unit :=
  let flags : Flags := ⟨"di6u3h1".toList, "w".toList,
    lettersFlags.long ++ [("base64", '6'), ("base64url", 'u'), ("base32", '3'), ("base32hex", 'h'),
      ("base16", '1')]⟩
  let url : Digest.Letters :=
    { Digest.Letters.base64 with alphabet := Digest.Letters.base64.alphabet.take 62 ++ ['-', '_'] }
  let hex : Digest.Letters :=
    { Digest.Letters.base32 with alphabet := "0123456789ABCDEFGHIJKLMNOPQRSTUV".toList }
  withFlags 1 flags arguments fun choice =>
    let kinds := [('6', Digest.Letters.base64), ('u', url), ('3', .base32), ('h', hex),
      ('1', .base16)]
    match kinds.find? fun entry => choice.has entry.1 with
    | some (_, letters) => inLetters letters choice
    | none => blameCall "missing encoding type"

end Utility
end Shell
end SuiteCoverage
