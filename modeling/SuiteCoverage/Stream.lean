import SuiteCoverage.Fault

/-!
# Streams

Something that texts can be written to. Writing may fail, and then what follows is not written;
whether that matters is for the writer to say. What is to be written is a list of pieces, so that
it can be spoken of apart from the stream that it goes to.
-/

set_option autoImplicit false

namespace SuiteCoverage

/-- A part of what is written. -/
inductive Piece where
  | text (text : String)
  /-- What has been written so far must be seen. -/
  | flush
deriving DecidableEq, Repr

/-- The text of some pieces. -/
def Piece.textOf (pieces : List Piece) : String :=
  String.join (pieces.map fun
    | .text written => written
    | .flush => "")

/-- A text and the end of a line. -/
def Piece.line (text : String) : Piece := .text (text ++ "\n")

/-- A stream whose state is a `σ`. -/
structure Stream (σ : Type) where
  put : Piece → σ → Except Fault Unit × σ

namespace Stream

variable {σ : Type}

/-- Writes pieces up to the first that cannot be written. -/
def send (stream : Stream σ) : List Piece → σ → Except Fault Unit × σ
  | [], s => (.ok (), s)
  | piece :: rest, s =>
    match stream.put piece s with
    | (.ok (), next) => send stream rest next
    | (.error fault, next) => (.error fault, next)

/-- The stream that keeps all that is written. -/
def memory : Stream String where
  put piece written := (.ok (), written ++ Piece.textOf [piece])

/-- The stream that refuses everything. -/
def broken (fault : Fault) : Stream σ where
  put _ s := (.error fault, s)

end Stream
end SuiteCoverage
