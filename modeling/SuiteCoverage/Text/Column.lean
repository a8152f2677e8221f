/-!
# Columns

A column is a text filled up with blanks to a number of characters. A text that is longer
already stays as it is, so a table may run over but never loses anything.

A text of several lines can be hung into a column: all its lines but the first are indented.
-/

set_option autoImplicit false

namespace SuiteCoverage
namespace Text

/-- The blanks that `text` lacks to a number of characters. -/
def filling (width : Nat) (text : String) : String :=
  String.ofList (List.replicate (width - text.length) ' ')

/-- `text` at the left of its column. -/
def padRight (width : Nat) (text : String) : String :=
  text ++ filling width text

/-- `text` at the right of its column. -/
def padLeft (width : Nat) (text : String) : String :=
  filling width text ++ text

/-- `text` with `width` blanks before each of its lines but the first. -/
def hang (width : Nat) (text : String) : String :=
  String.ofList (text.toList.flatMap fun c =>
    if c = '\n' then '\n' :: List.replicate width ' ' else [c])

end Text
end SuiteCoverage
