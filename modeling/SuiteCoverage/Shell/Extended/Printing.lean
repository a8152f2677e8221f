import SuiteCoverage.Shell.Extended.Escape
import SuiteCoverage.Shell.Extended.Script

/-!
# Commands as they are shown

The text of a command as the shell shows it. Inside a function every command stands on a line of
its own, indented by how deep it is; elsewhere commands stand behind one another. The documents of
a command follow the line that announces them.
-/

set_option autoImplicit false

namespace SuiteCoverage
namespace Shell
namespace Extended
namespace Printing

/-- What has been written so far. -/
structure Sheet where
  text : String
  indentation : Nat
  /-- The number of blanks for every level. -/
  unit : Nat
  /-- The number of functions around what is being written. -/
  functions : Nat
  /-- Whether the next command stands where the writing is. -/
  skipsIndent : Bool
  /-- The documents that have been announced. -/
  deferred : List Document
  /-- Whether a document has just been written. -/
  wroteDocument : Bool
  documents : List (Nat × Document)

/-- Writes. -/
abbrev Writer := StateM Sheet

/-- Writes a text. -/
def put (text : String) : Writer Unit := modify fun sheet => { sheet with text := sheet.text ++ text }

/-- Writes the indentation. -/
def indent : Writer Unit := do
  put (String.ofList (List.replicate (← get).indentation ' '))

/-- Writes a text on a new line. -/
def newline (text : String) : Writer Unit := do
  put "\n"
  indent
  put text

/-- Writes something one level deeper. -/
def deeper (writer : Writer Unit) : Writer Unit := do
  modify fun sheet => { sheet with indentation := sheet.indentation + sheet.unit }
  writer
  modify fun sheet => { sheet with indentation := sheet.indentation - sheet.unit }

/-- Lets the next command stand where the writing is. -/
def skipIndent : Writer Unit := modify fun sheet => { sheet with skipsIndent := true }

/-- Writes what ends a command, unless it has ended already. -/
def semicolon : Writer Unit := do
  if !(← get).text.toList.getLast?.any fun c => c == '&' || c == '\n' then put ";"

/-- Writes a sign and then the documents that have been announced. -/
def documents (sign : String) : Writer Unit := do
  if !sign.isEmpty && sign != ";" then put sign
  let deferred := (← get).deferred
  if !deferred.isEmpty then
    put "\n"
    deferred.forM fun document =>
      let last := (document.delimiter.toList.filter fun c => !"'\"\\".toList.contains c)
      put (document.text ++ String.ofList last ++ "\n")
    if !sign.isEmpty && sign != ";" then put " "
    modify fun sheet => { sheet with deferred := [], wroteDocument := true }

/-- An assignment as it stands in the script. -/
def assignmentText : Assignment → String
  | .mk name place adds given =>
    let place := match place with
      | .none => ""
      | .all joined => if joined then "[*]" else "[@]"
      | .at_ raw _ => "[" ++ raw ++ "]"
    let value := match given with
      | .text raw _ => raw
      | .list entries =>
        let shown (entry : Entry) : String := match entry with
          | .plain word => word.raw
          | .placed place _ adds raw _ => "[" ++ place ++ "]" ++ (if adds then "+=" else "=") ++ raw
        "(" ++ " ".intercalate (entries.map shown) ++ ")"
    name ++ place ++ (if adds then "+=" else "=") ++ value

/-- An argument as it stands in the script. -/
def argumentText : Argument → String
  | .word word => word.raw
  | .assignment assignment => assignmentText assignment

/-- The start of a redirection: what it is about, unless that is the usual thing. -/
def redirectedText (usual : Nat) : Redirected → String
  | .usual => ""
  | .number n => if n = usual then "" else toString n
  | .variable_ name => "\x7b" ++ name ++ "\x7d"

/-- Writes a redirection. -/
def redirect : Redirect → Writer Unit
  | .text redirected word => put (redirectedText 0 redirected ++ "<<< " ++ word.raw)
  | .document redirected number => do
    match (← get).documents.find? fun entry => entry.1 == number with
    | none => pure ()
    | some (_, document) =>
      let isQuoted := document.delimiter.toList.any fun c => "'\"\\".toList.contains c
      let bare := String.ofList
        (document.delimiter.toList.filter fun c => !"'\"\\".toList.contains c)
      put (redirectedText 0 redirected ++ (if document.indented then "<<-" else "<<")
        ++ if isQuoted then Escape.singleQuoted bare else bare)
      modify fun sheet => { sheet with deferred := sheet.deferred ++ [document] }
  | .to redirected direction target => do
    let numbered (usual : Nat) : String := match redirected with
      | .usual => toString usual
      | redirected => redirectedText 1000 redirected
    match direction with
    | .sameInput =>
      let isNumber := target.raw.toList.all Char.isDigit
      put ((if isNumber then numbered 0 else redirectedText 0 redirected) ++ "<&" ++ target.raw)
    | .sameOutput =>
      let isNumber := target.raw.toList.all Char.isDigit || target.raw = "-"
      put ((if isNumber then numbered 1 else redirectedText 1 redirected) ++ ">&" ++ target.raw)
    | .all => put ("&> " ++ target.raw)
    | .appendAll => put ("&>> " ++ target.raw)
    | .input => put (redirectedText 0 redirected ++ "< " ++ target.raw)
    | direction => put (redirectedText 1 redirected ++ direction.sign ++ " " ++ target.raw)

/-- Writes redirections. -/
def redirects : List Redirect → Writer Unit
  | [] => pure ()
  | [last] => redirect last
  | first :: rest => do
    redirect first
    put " "
    redirects rest

/-- Writes redirections behind a command. -/
def redirectsAfter (all : List Redirect) : Writer Unit := do
  if !all.isEmpty then
    put " "
    redirects all

/-- The text of a question. -/
def questionText : Question → String
  | .one operator word => operator ++ " " ++ word.raw
  | .two operator left right => left.raw ++ " " ++ operator ++ " " ++ right.raw
  | .negation inner => "! " ++ questionText inner
  | .both left right => questionText left ++ " && " ++ questionText right
  | .either left right => questionText left ++ " || " ++ questionText right
  | .grouped inner => "( " ++ questionText inner ++ " )"

/-- A part of a counting loop, which counts as one if it is empty. -/
def countPart (raw : String) : String :=
  let text := String.ofList (raw.toList.dropWhile fun c => c == ' ' || c == '\t')
  if text.isEmpty then "1" else text

/-- The items of a loop, which are the arguments if there are none. -/
def itemsText (items : Option (List Word)) : String :=
  (items.map fun words => " ".intercalate (words.map Word.raw)).getD "\"$@\""

/-- The steps of the body of a function, and its redirections. -/
def partsOf (body : Task) : List Step × List Redirect :=
  match body with
  | .group inside all => (inside, all)
  | body => ([.mk .always false none [body] false], [])

mutual

/-- Writes steps. -/
def steps : Nat → List Step → Writer Unit
  | 0, _ => pure ()
  | _, [] => pure ()
  | fuel + 1, first :: rest => do
    stepOf fuel first
    match rest with
    | [] => if first.isDetached then documents " &" else documents ""
    | next :: _ =>
      match next.join with
      | .ifPassed =>
        documents " && "
        skipIndent
      | .ifFailed =>
        documents " || "
        skipIndent
      | .always =>
        if first.isDetached then
          documents " &"
          put " "
          skipIndent
        else
          let sheet ← get
          let isInside := 0 < sheet.functions
          if sheet.deferred.isEmpty then
            if !sheet.wroteDocument then put ";"
            modify fun sheet => { sheet with wroteDocument := false }
          else documents (if isInside then "" else ";")
          if isInside then put "\n"
          else
            put " "
            skipIndent
      steps fuel rest

/-- Writes a step. -/
def stepOf : Nat → Step → Writer Unit
  | 0, _ => pure ()
  | fuel + 1, .mk _ negated timing tasks _ => do
    if (← get).skipsIndent then modify fun sheet => { sheet with skipsIndent := false }
    else indent
    timing.forM fun isShort => put (if isShort then "time -p " else "time ")
    if negated then put "! "
    tasksOf fuel tasks

/-- Writes the commands of a pipeline. -/
def tasksOf : Nat → List Task → Writer Unit
  | 0, _ => pure ()
  | _, [] => pure ()
  | fuel + 1, first :: rest => do
    task fuel first
    if !rest.isEmpty then
      documents " |"
      put " "
      tasksOf fuel rest

/-- Writes the body of a loop. -/
def bodyOf : Nat → List Step → String → Writer Unit
  | 0, _, _ => pure ()
  | fuel + 1, body, closer => do
    deeper do
      steps fuel body
      documents ""
    semicolon
    newline closer

/-- Writes a command. -/
def task : Nat → Task → Writer Unit
  | 0, _ => pure ()
  | fuel + 1, command => do
    match command with
    | .simple _ assignments words all =>
      let shown := assignments.map assignmentText ++ words.map argumentText
      put (" ".intercalate shown)
      if !all.isEmpty then
        if !shown.isEmpty then put " "
        redirects all
    | .group body all =>
      put "\x7b "
      if (← get).functions = 0 then
        skipIndent
        steps fuel body
        documents ""
        semicolon
        put " "
      else
        put "\n"
        deeper do
          steps fuel body
          documents ""
        put "\n"
        indent
      put "\x7d"
      redirectsAfter all
    | .separate _ body all =>
      put "( "
      skipIndent
      steps fuel body
      documents ""
      put " )"
      redirectsAfter all
    | .branch cases otherwise all =>
      branches fuel cases otherwise
      redirectsAfter all
    | .loop untilPassed condition body all =>
      put (if untilPassed then "until " else "while ")
      skipIndent
      steps fuel condition
      documents ""
      semicolon
      put " do\n"
      bodyOf fuel body "done"
      redirectsAfter all
    | .each _ name items body all =>
      put ("for " ++ name ++ " in " ++ itemsText items ++ ";")
      newline "do\n"
      bodyOf fuel body "done"
      redirectsAfter all
    | .count _ _ _ _ (start, condition, next) body all =>
      put ("for ((" ++ countPart start ++ "; " ++ countPart condition ++ "; " ++ countPart next
        ++ "))")
      newline "do\n"
      bodyOf fuel body "done"
      redirectsAfter all
    | .choose _ name items body all =>
      put ("select " ++ name ++ " in " ++ itemsText items ++ ";")
      newline "do\n"
      bodyOf fuel body "done"
      redirectsAfter all
    | .select _ subject clauses all =>
      put ("case " ++ subject.raw ++ " in ")
      deeper (clausesOf fuel clauses)
      newline "esac"
      redirectsAfter all
    | .define _ name body =>
      put ("function " ++ name ++ " () \n")
      indent
      functionBody fuel body
    | .question _ question all =>
      put ("[[ " ++ questionText question ++ " ]]")
      redirectsAfter all
    | .calculate _ raw _ all =>
      put ("((" ++ raw ++ "))")
      redirectsAfter all
    | .beside _ name body =>
      put ("coproc " ++ name ++ " ")
      task fuel body

/-- Writes the branches of a condition. -/
def branches : Nat → List (List Step × List Step) → Option (List Step) → Writer Unit
  | 0, _, _ => pure ()
  | _, [], _ => pure ()
  | fuel + 1, (condition, body) :: rest, otherwise => do
    put "if "
    skipIndent
    steps fuel condition
    semicolon
    put " then\n"
    deeper do
      steps fuel body
      documents ""
    if !rest.isEmpty || otherwise.isSome then
      semicolon
      newline "else\n"
      deeper do
        if rest.isEmpty then steps fuel (otherwise.getD [])
        else
          indent
          branches fuel rest otherwise
        documents ""
    semicolon
    newline "fi"

/-- Writes the clauses of a selection. -/
def clausesOf : Nat → List Clause → Writer Unit
  | 0, _ => pure ()
  | _, [] => pure ()
  | fuel + 1, .mk patterns body ends :: rest => do
    newline (" | ".intercalate (patterns.map Word.raw) ++ ")\n")
    deeper (steps fuel body)
    documents ""
    newline (match ends with
      | .stop => ";;"
      | .goOn => ";&"
      | .tryOn => ";;&")
    clausesOf fuel rest

/-- Writes the body of a function. -/
def functionBody : Nat → Task → Writer Unit
  | 0, _ => pure ()
  | fuel + 1, body => do
    put "\x7b \n"
    let (inside, all) := partsOf body
    modify fun sheet => { sheet with functions := sheet.functions + 1 }
    deeper do
      steps fuel inside
      documents ""
    modify fun sheet => { sheet with functions := sheet.functions - 1 }
    newline "\x7d"
    redirectsAfter all

end

/-- A sheet on which nothing has been written. -/
def blank (documents : List (Nat × Document)) : Sheet :=
  ⟨"", 0, 4, 0, false, [], false, documents⟩

/-- How deep commands are written in commands. -/
def depth : Nat := 100000

/-- The text of a command. -/
def ofTask (documents : List (Nat × Document)) (command : Task) : String :=
  ((task depth command).run (blank documents)).2.text

/-- The text of steps. -/
def ofSteps (documents : List (Nat × Document)) (all : List Step) : String :=
  let all := match all.getLast? with
    | some last => all.dropLast ++ [last.setDetached false]
    | none => []
  let writer : Writer Unit := do
    skipIndent
    steps depth all
  (writer.run (blank documents)).2.text

/-- The text of a function. -/
def ofFunction (documents : List (Nat × Document)) (name : String) (body : Task) : String :=
  name ++ " () \n" ++ ((functionBody depth body).run (blank documents)).2.text

/-- The text that programs are given for a function. -/
def ofPassedFunction (documents : List (Nat × Document)) (body : Task) : String :=
  let (inside, all) := partsOf body
  let writer : Writer Unit := do
    put "() \x7b "
    steps depth inside
    Printing.documents ""
    modify fun sheet => { sheet with indentation := 0, functions := 0 }
    newline "\x7d"
    redirectsAfter all
  (writer.run { blank documents with indentation := 1, unit := 0, functions := 1 }).2.text

end Printing
end Extended
end Shell
end SuiteCoverage
