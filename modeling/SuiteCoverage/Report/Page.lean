import SuiteCoverage.Measurement
import SuiteCoverage.Account
import SuiteCoverage.Report.Table
import SuiteCoverage.Text.Lines

/-!
# Pages

The long report is a set of pages: one for every file, which shows its source line by line with
what came of each line, and an index that lists the files and links to their pages. This module
makes the texts of the pages; where they go is another matter.

A page is named after its file. Characters that could mean something in a path become
underscores, so different files may come out alike; then later ones get a number.
-/

set_option autoImplicit false

/-!
## Text inside a page

In the text of a page, the characters that would open a tag or a character reference are
written as character references. Quotes stand for themselves there; between the quotes of an
attribute they are written as references as well.
-/

namespace SuiteCoverage
namespace Entity

/-- How a character is written in the text of a page. -/
def encodeChar (c : Char) : List Char :=
  if c = '&' then "&amp;".toList
  else if c = '<' then "&lt;".toList
  else if c = '>' then "&gt;".toList
  else [c]

/-- How a text is written in a page. -/
def encode (text : List Char) : List Char :=
  text.flatMap encodeChar

/-- How a text is written between the double quotes of an attribute. -/
def encodeQuoted (text : List Char) : List Char :=
  text.flatMap fun c => if c = '"' then "&quot;".toList else encodeChar c

end Entity
end SuiteCoverage

namespace SuiteCoverage
namespace Page

/-! ## Names -/

/-- The name of a file as a single word without separators. -/
def flatten (name : String) : String :=
  String.ofList ((name.toList.dropWhile (· == '/')).map fun c =>
    if c.isAlphanum || c == '-' then c else '_')

/-- The names that a page may get, in the order in which they are tried. -/
def candidate (stem : String) : Nat → String
  | 0 => stem ++ ".html"
  | n + 1 => stem ++ "_" ++ toString (n + 2) ++ ".html"

/-- The first name for a page that none of the pages before it has. As many names as there are
    pages and one more are different names, so one of them is free. -/
def uniqueName (taken : List String) (name : String) : String :=
  let stem := flatten name
  match (List.range (taken.length + 1)).find? fun n => !taken.contains (candidate stem n) with
  | some n => candidate stem n
  | none => candidate stem 0

/-- The names of the pages of files with the given names, in order. -/
def namesFrom (taken : List String) : List String → List String
  | [] => []
  | name :: rest =>
    let page := uniqueName taken name
    page :: namesFrom (page :: taken) rest

/-- The names of the pages of files with the given names. -/
def names (files : List String) : List String :=
  namesFrom [] files

/-! ## Style -/

/-- The rules of the style sheet: what they apply to and what they say. -/
def styleRules : List (String × List String) :=
  [("body", ["font-family: -apple-system, BlinkMacSystemFont, \"Segoe UI\", Roboto, sans-serif",
      "margin: 0", "padding: 20px 40px", "color: #333"]),
    ("h1", ["font-size: 1.4em"]),
    ("table.index", ["border-collapse: collapse"]),
    ("table.index th, table.index td", ["padding: 4px 12px", "text-align: right",
      "border-bottom: 1px solid #eee"]),
    ("table.index th.name, table.index td.name", ["text-align: left"]),
    ("tr.total td", ["font-weight: bold", "border-top: 2px solid #333"]),
    (".source", ["font-family: Menlo, Consolas, monospace", "font-size: 13px",
      "white-space: pre"]),
    (".source p", ["margin: 0", "padding: 0 8px"]),
    (".source .n", ["display: inline-block", "width: 4em", "color: #999", "text-align: right",
      "margin-right: 1em"]),
    (".run", ["background: #ddffdd"]),
    (".mis", ["background: #ffdddd"]),
    (".exc", ["background: #eeeeee", "color: #808080"]),
    (".footer", ["margin-top: 20px", "color: #999", "font-size: 0.85em"])]

/-- A rule as it is written in a style sheet. -/
def styleRule (rule : String × List String) : String :=
  rule.1 ++ " \x7b " ++ String.join (rule.2.map (· ++ "; ")) ++ "\x7d\n"

/-- The style sheet of every page. -/
def style : String :=
  "\n" ++ String.join (styleRules.map styleRule)

/-! ## Parts -/

/-- A text inside a page. -/
def encode (text : String) : String :=
  String.ofList (Entity.encode text.toList)

/-- A text inside an attribute. -/
def encodeQuoted (text : String) : String :=
  String.ofList (Entity.encodeQuoted text.toList)

/-- A page with a title, a heading, a body and a footer. -/
def frame (title heading body footer : String) : String :=
  "<!DOCTYPE html>\n<html>\n<head>\n    <meta charset=\"UTF-8\">\n    <title>" ++ title
    ++ "</title>\n    <style>" ++ style ++ "</style>\n</head>\n<body>\n    <h1>" ++ heading
    ++ "</h1>\n" ++ body ++ "    <p class=\"footer\">" ++ footer
    ++ "</p>\n</body>\n</html>\n"

/-! ## The page of a file -/

/-- What came of a line. -/
inductive LineMark where
  | excluded
  | run
  | missing
  /-- There is nothing to execute. -/
  | plain
deriving DecidableEq, Repr

/-- What the account of a file says about a line. -/
def LineMark.ofLine (account : FileAccount) (n : LineNumber) : LineMark :=
  if n ∈ account.excluded then .excluded
  else if n ∈ account.executed then .run
  else if n ∈ account.statements then .missing
  else .plain

/-- How a line is marked in the page. -/
def LineMark.className : LineMark → String
  | excluded => "exc"
  | run => "run"
  | missing => "mis"
  | plain => "pln"

/-- A line of the source: its mark, its number and its text. -/
def sourceLine (mark : LineMark) (n : LineNumber) (text : List Char) : String :=
  "<p class=\"" ++ mark.className ++ "\"><span class=\"n\">" ++ toString n.toNat ++ "</span>"
    ++ encode (String.ofList text) ++ "</p>\n"

/-- Lines of the source from a given number on. -/
def sourceLines (account : FileAccount) : Nat → List (List Char) → List String
  | _, [] => []
  | n, text :: rest =>
    let number := UInt32.ofNat n
    sourceLine (LineMark.ofLine account number) number text :: sourceLines account (n + 1) rest

/-- The source in the page: its lines, or why they cannot be shown. -/
def sourceBody (account : FileAccount) : Except Fault String → String
  | .ok source => String.join (sourceLines account 1 (Text.lines source.toList))
  | .error fault => "<p>Source unavailable: " ++ encode fault.message ++ "</p>\n"

/-- The page of a file. -/
def ofFile (account : FileAccount) (name : String) (source : Except Fault String)
    (today : String) : String :=
  let totals := account.totals
  let title := "Coverage for " ++ encode name
  frame title (title ++ ": " ++ totals.percentText)
    ("    <p>" ++ toString totals.statements ++ " statements, " ++ toString totals.executed
      ++ " run, " ++ toString totals.missing ++ " missing, " ++ toString account.excluded.size
      ++ " excluded. <a href=\"index.html\">Back to index</a></p>\n    <div class=\"source\">\n"
      ++ sourceBody account source ++ "    </div>\n")
    ("Created at " ++ today ++ ".")

/-! ## The index -/

/-- A line of the index. -/
structure Row where
  name : String
  page : String
  totals : Totals
  excluded : Nat
deriving DecidableEq, Repr

/-- The cells that tell how much of a file or of everything has run. -/
def cells (totals : Totals) (excluded : Nat) : String :=
  "<td>" ++ toString totals.statements ++ "</td><td>" ++ toString totals.missing ++ "</td><td>"
    ++ toString excluded ++ "</td><td>" ++ totals.percentText ++ "</td>"

/-- A line of the index, which links to a page. -/
def Row.line (row : Row) : String :=
  "<tr><td class=\"name\"><a href=\"" ++ encodeQuoted row.page ++ "\">" ++ encode row.name
    ++ "</a></td>" ++ cells row.totals row.excluded ++ "</tr>\n"

/-- The lines of the index of a measurement whose files have the given names and pages. -/
def indexRows (m : Measurement) (names pages : List String) : List Row :=
  (m.files.zip (names.zip pages)).map fun (file, name, page) =>
    ⟨name, page, file.totals, file.excluded.size⟩

/-- The index of a measurement. -/
def index (m : Measurement) (rows : List Row) (today : String) : String :=
  frame "Coverage report" ("Coverage report: " ++ m.totals.percentText)
    ("    <table class=\"index\">\n        <thead>\n            <tr><th class=\"name\">Module</th>"
      ++ "<th>statements</th><th>missing</th><th>excluded</th><th>coverage</th></tr>\n"
      ++ "        </thead>\n        <tbody>\n" ++ String.join (rows.map Row.line)
      ++ "        </tbody>\n        <tfoot>\n            <tr class=\"total\">"
      ++ "<td class=\"name\">Total</td>" ++ cells m.totals m.excluded
      ++ "</tr>\n        </tfoot>\n    </table>\n")
    ("Measured source: " ++ encode (", ".intercalate m.source) ++ ". Created at " ++ today ++ ".")

end Page
end SuiteCoverage
