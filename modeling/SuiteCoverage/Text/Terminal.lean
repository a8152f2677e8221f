/-!
# Text without terminal control

Help is shown as plain text, so control sequences for a terminal are taken out of it, wherever
they come from. A sequence starts with an escape character. The character after that one tells
of what form it is: a short sequence, a control sequence that goes on to a letter, a string, or a
call for a string, which goes on to a letter and then is a string. A string goes on to the next
escape or cancel character, a title also to a bell, and any other string also to a byte of the
value 156, which may be part of a longer character. Control characters that are no white space
are not shown either.

White space among the control characters is shown even inside a short sequence or a control
sequence, and with it all that follows, up to the next character that is not shown. In a text that
is taken as a whole this ends the sequence. In one that is sent on bit by bit the sequence is taken
up again where it was, unless a character beyond ASCII has ended it. Inside a string white space is
swallowed. So is a character beyond ASCII in any sequence.
-/

set_option autoImplicit false

namespace SuiteCoverage
namespace Text

/-- What kind of sequence a terminal is in. -/
inductive Sequence where
  /-- None. -/
  | ground
  /-- One that has just begun. -/
  | escape
  /-- A short sequence. -/
  | short
  /-- A control sequence. -/
  | control
  /-- A call for a string: at its start, among its numbers, and after them. -/
  | call
  | callNumbers
  | callEnd
  /-- A string. -/
  | string
  /-- A string that is a title. -/
  | title
deriving DecidableEq, Repr

namespace Sequence

/-- Whether it is a string or a call for one. -/
def inString (t : Sequence) : Bool :=
  t = call || t = callNumbers || t = callEnd || t = string || t = title

/-- What it is after a printable ASCII character. -/
def next : Sequence → Char → Sequence
  | ground, _ => ground
  | escape, c =>
    if c < '0' then short
    else if c = '[' then control
    else if c = ']' then title
    else if c = 'P' then call
    else if c = 'X' || c = '^' || c = '_' then string
    else ground
  | short, c => if c < '0' then short else ground
  | control, c => if c < '@' then control else ground
  | call, c => if c < '0' then callEnd else if c < '@' then callNumbers else string
  | callNumbers, c => if c < '0' then callEnd else if c < '<' then callNumbers else string
  | callEnd, c => if c < '0' then callEnd else string
  | string, _ => string
  | title, _ => title

end Sequence

/-- What becomes of a sequence in the midst of which something is shown. -/
inductive Interruption where
  | ends
  | pauses
deriving DecidableEq, Repr

/-- Where a terminal is in the text that it is sent. -/
structure Terminal where
  /-- The sequence that was begun last and has not ended. -/
  sequence : Sequence
  /-- Whether the last character was shown. -/
  isShowing : Bool
deriving DecidableEq, Repr

namespace Terminal

/-- Between sequences. -/
def ground : Terminal := ⟨.ground, true⟩

/-- Whether `c` is an ASCII character with a meaning of its own on a line of text. -/
def isSpacing (c : Char) : Bool :=
  c = '\t' || c = '\n' || c = '\x0C' || c = '\r'

/-- Whether the byte that ends strings is among those of `c`. -/
def hasTerminator (c : Char) : Bool :=
  (String.singleton c).toUTF8.data.contains 0x9C

/-- Whether a character is shown between sequences. -/
def isPlain (c : Char) : Bool := isSpacing c || (' ' ≤ c && c != '\x7F')

/-- One character on after one that was not shown: what the sequence is then, and whether the
    character is shown. -/
def skip (t : Sequence) (c : Char) : Sequence × Bool :=
  if c = '\x1B' then (.escape, false)
  else if c = '\x18' || c = '\x1A' then (.ground, false)
  else if c = '\x07' && t = .title then (.ground, false)
  else if c = '\x7F' then (t, false)
  else if c < ' ' then (t, isSpacing c && !t.inString)
  else if c < '\x7F' then (t.next c, t = .ground)
  else if t = .string && hasTerminator c then (.ground, false)
  else (t, t = .ground)

/-- One character on: where it takes the terminal, and whether it is shown. -/
def step (interruption : Interruption) (t : Terminal) (c : Char) : Terminal :=
  if t.isShowing && isPlain c then
    if c < '\x7F' then t else ground
  else
    let (sequence, isShown) := skip t.sequence c
    if isShown && interruption = .ends then ground else ⟨sequence, isShown⟩

/-- What is shown of a text from a given place on. -/
def shown (interruption : Interruption) : Terminal → List Char → List Char
  | _, [] => []
  | t, c :: rest =>
    let after := t.step interruption c
    if after.isShowing then c :: shown interruption after rest else shown interruption after rest

end Terminal

/-- What is shown of a text. -/
def withoutControl (interruption : Interruption) (text : String) : String :=
  String.ofList (Terminal.ground.shown interruption text.toList)

end Text
end SuiteCoverage
