import SuiteCoverage.Shell.Extended.Escape
import SuiteCoverage.Shell.Extended.Pattern
import SuiteCoverage.Shell.Extended.Reader
import SuiteCoverage.Shell.Extended.Setting
import SuiteCoverage.Shell.Extended.Variable
import SuiteCoverage.Shell.Home

/-!
# Expanding words

What the words of a script stand for. The value of a parameter is one text or several, and what is
done to it is done to every one of them. Several texts become fields of their own where fields are
divided, unless they are asked for as one.

What a script inside a word writes is found out from outside.
-/

set_option autoImplicit false

/-!
## Variables as they are shown

The commands that make variables what they are.
-/

namespace SuiteCoverage
namespace Shell
namespace Extended

namespace Value

/-- A value as it stands behind the sign of an assignment; `none` if there is nothing. -/
def shown? : Value → Option String
  | nothing => none
  | text content => some (Escape.declared content)
  | list entries =>
    some ("(" ++ " ".intercalate (entries.map fun entry =>
      "[" ++ toString entry.1 ++ "]=" ++ Escape.declared entry.2) ++ ")")
  | table entries =>
    some ("(" ++ String.join ((inChains entries).map fun entry =>
      "[" ++ Escape.declaredKey entry.1 ++ "]=" ++ Escape.declared entry.2 ++ " ") ++ ")")

/-- The places and texts of a value, one behind the other. -/
def pairs : Value → List (String × String)
  | nothing => []
  | text content => [("0", content)]
  | list entries => entries.map fun entry => (toString entry.1, entry.2)
  | table entries => inChains entries

end Value

namespace Variable

/-- The option that gives a variable its attributes. -/
def option (v : Variable) : String :=
  if v.letters.isEmpty then "--" else "-" ++ String.ofList v.letters

/-- The command that declares a variable. -/
def declaration (name : String) (v : Variable) : String :=
  "declare " ++ v.option ++ " " ++ name ++ (v.value.shown?.map ("=" ++ ·)).getD ""

/-- The command that makes a variable have a text. -/
def assignment (name : String) (v : Variable) (text : Option String) : String :=
  let value := (text.map fun text => "=" ++ Escape.quoted text).getD ""
  if v.letters.isEmpty then name ++ value
  else "declare " ++ v.option ++ " " ++ name ++ value

/-- A variable as it is shown among all variables. -/
def shownAmongAll (name : String) (v : Variable) : Option String :=
  match v.value with
  | .nothing => none
  | .text text => some (name ++ "=" ++ Escape.shownValue text)
  | value => some (name ++ "=" ++ value.shown?.getD "")

end Variable
end Extended
end Shell
end SuiteCoverage

namespace SuiteCoverage
namespace Shell
namespace Extended

open Effect

/-- What words need besides variables. -/
structure Carrier where
  /-- What steps write, carried out as a process of their own. -/
  output : List Step → Effect String
  /-- What a text writes that is a script. -/
  outputOf : String → Effect String
  /-- The path of a pipe from which can be read what steps write, or to which can be written what
      they read. -/
  pipe : Bool → List Step → Effect String

/-- What a parameter comes to. -/
inductive Content where
  | missing
  | one (text : String)
  /-- Several texts, which are asked for as one if `joined`. -/
  | many (texts : List String) (joined : Bool)

namespace Content

/-- The texts of a content. -/
def texts : Content → List String
  | missing => []
  | one text => [text]
  | many texts _ => texts

/-- A content with other texts. -/
def mapTexts (f : String → String) : Content → Content
  | missing => missing
  | one text => one (f text)
  | many texts joined => many (texts.map f) joined

/-- Whether there is nothing. -/
def isMissing (content : Content) : Bool := content.texts.isEmpty

/-- Whether there is nothing in it. -/
def isEmpty (content : Content) : Bool := content.texts.isEmpty || content.texts == [""]

end Content

namespace Expansion

/-! ## Parameters -/

/-- The characters that divide fields. -/
def dividers (s : State) : List Char :=
  ((Store.textOf? s "IFS").getD Field.usualDividers).toList

/-- What stands between texts that are made one. -/
def divider (s : State) : String := String.ofList ((dividers s).take 1)

/-- The letters of the switches that are set. -/
def switchLetters : List (String × Char) :=
  [("allexport", 'a'), ("notify", 'b'), ("errexit", 'e'), ("noglob", 'f'), ("hashall", 'h'),
    ("keyword", 'k'), ("monitor", 'm'), ("noexec", 'n'), ("privileged", 'p'), ("onecmd", 't'),
    ("nounset", 'u'), ("verbose", 'v'), ("xtrace", 'x'), ("braceexpand", 'B'), ("noclobber", 'C'),
    ("errtrace", 'E'), ("histexpand", 'H'), ("physical", 'P'), ("functrace", 'T')]

/-- The switches as a parameter shows them. -/
def shownSwitches (s : State) : String :=
  let letters := switchLetters.filterMap fun entry =>
    if s.own.has entry.1 then some entry.2 else none
  String.ofList (letters ++ if s.own.commandText.isSome then ['c'] else
    if s.own.has "stdin" then ['s'] else [])

/-- Whether a name is that of a parameter that is no variable. -/
def isSpecial (name : String) : Bool :=
  match name.toList with
  | [c] => Reader.isSpecial c || c.isDigit
  | chars => !chars.isEmpty && chars.all Char.isDigit

/-- The content of a parameter that is no variable. -/
def special (s : State) (name : String) : Content :=
  match name with
  | "@" => .many s.arguments false
  | "*" => .many s.arguments true
  | "#" => .one (toString s.arguments.length)
  | "?" => .one (toString s.status)
  | "$" => .one (toString s.shell)
  | "-" => .one (shownSwitches s)
  | "!" => (s.lastDetached.map fun n => Content.one (toString n)).getD .missing
  | "0" => .one s.self
  | name =>
    match name.toNat?.bind fun n => s.arguments[n - 1]? with
    | some text => .one text
    | none => .missing

/-- A place that a text in brackets names. -/
def placeOf (text : String) : Place :=
  if text = "@" then .all false
  else if text = "*" then .all true
  else .at_ text (Reader.ofDocument text.toList)

/-- What a text refers to, if it can refer to anything. -/
def referenceOf? (text : String) : Option (String × Place) :=
  if isSpecial text then some (text, .none)
  else
    let target := Store.Target.ofText text
    if Setting.isName target.name then
      some (target.name, (target.place.map placeOf).getD .none)
    else none

/-- How a parameter is called where something is wrong with it. -/
def title (name : String) : Place → String
  | .none => name
  | .all joined => name ++ (if joined then "[*]" else "[@]")
  | .at_ raw _ => name ++ "[" ++ raw ++ "]"

/-- The directory that the name behind a tilde stands for. -/
def directoryOf (s : State) (name : String) : Option String :=
  match name with
  | "" => Store.textOf? s "HOME"
  | "+" => Store.textOf? s "PWD"
  | "-" => Store.textOf? s "OLDPWD"
  | name => (Home.users.find? fun entry => entry.1 == name).map (·.2)

/-- A word with the directories of users in place of tildes. -/
def atHome (s : State) (isValue : Bool) : Home.Place → List Fragment → List Fragment
  | _, [] => []
  | place, .text text false :: rest =>
    let chars := text.toList
    let next := chars.foldl (fun place c => place.after isValue c) place
    let found := Home.replaced (directoryOf s) isValue rest.isEmpty (chars.length + 1) place [] chars
    (found.filterMap fun
      | .text text quoted => some (Fragment.text text quoted)
      | _ => none) ++ atHome s isValue next rest
  | place, fragment :: rest =>
    let next : Home.Place :=
      if place = .here then (if isValue then .behindColon else .nowhere) else place
    fragment :: atHome s isValue next rest

/-- Whether a word has the form of an assignment. -/
def isAssignment (word : List Fragment) : Bool :=
  match word with
  | .text text false :: rest =>
    let name := text.toList.takeWhile Reader.continuesName
    let after := text.toList.drop name.length
    let signed (after : List Char) : Bool := match after with
      | '=' :: _ => true
      | '+' :: '=' :: _ => true
      | _ => false
    let afterPlace (after : List Char) : Bool := match after with
      | '[' :: inside =>
        ((Reader.afterBracket (inside.length + 1) 0 inside).map signed).getD
          (rest.any fun
            | .text text false =>
              (text.toList.dropWhile (· != ']')).drop 1 |> signed
            | _ => false)
      | _ => false
    name.head?.any Reader.startsName && (signed after || afterPlace after)
  | _ => false

/-- A word with directories in place of tildes, wherever one may stand in it. -/
def homed (s : State) (word : List Fragment) : List Fragment :=
  if isAssignment word then atHome s true .behindSign word else atHome s false .here word

/-! ## Cells -/

/-- The cells of a content. Several texts become fields of their own if fields are divided. -/
def cellsOf (s : State) (divides quoted : Bool) : Content → List Cell
  | .missing => if quoted then [.mark] else []
  | .one text => Cell.ofValue text quoted
  | .many texts joined =>
    if joined && (quoted || !divides) then Cell.ofValue ((divider s).intercalate texts) quoted
    else [Cell.border].intercalate (texts.map fun text => Cell.ofValue text quoted)

/-- The text of cells, with blanks between fields. -/
def textOfCells (cells : List Cell) : String := Cell.textWith " " cells

/-- How patterns match. -/
def globbing (s : State) : Globbing :=
  ⟨s.own.has "extglob", s.own.has "nocaseglob", s.own.has "dotglob", s.own.has "globstar"⟩

/-- Letters in another case. -/
def cased (casing : Casing) (c : Char) : Char :=
  match casing with
  | .upper => c.toUpper
  | .lower => c.toLower
  | .toggled => if c.isUpper then c.toLower else c.toUpper

/-- A text with the letters that match a pattern in another case, all of them or the first. -/
def recased (casing : Casing) (all : Bool) (pieces : List Piece) (text : String) : String :=
  let change (c : Char) : Char :=
    if pieces.isEmpty || Piece.isMatch false pieces (String.singleton c) then cased casing c else c
  match text.toList with
  | [] => text
  | c :: rest => String.ofList (change c :: if all then rest.map change else rest)

/-- What a cell of a replacement comes to for a text that is replaced: what is not quoted may stand
    for that text. -/
def replacementPart (cell : Cell) (taken : List Char) : List Char :=
  if cell.active? = some '&' then taken else cell.char?.toList

/-- What a replacement comes to for a text that is replaced. -/
def replacementOf (taken : List Char) : List Cell → List Char
  | [] => []
  | [cell] => replacementPart cell taken
  | cell :: next :: more =>
    if cell.active? = some '\\' && (next.char? = some '&' || next.char? = some '\\') then
      next.char?.toList ++ replacementOf taken more
    else replacementPart cell taken ++ replacementOf taken (next :: more)

/-- What stands in a prompt for a character behind a backslash. -/
def promptPart (s : State) (c : Char) : Option String :=
  let directory := (Store.textOf? s "PWD").getD ""
  let name := ((s.self.splitOn "/").getLast?).getD s.self
  match c with
  | 'n' => some "\n"
  | 'r' => some "\r"
  | 'a' => some "\x07"
  | 'e' => some "\x1b"
  | '\\' => some "\\"
  | '$' => some "$"
  | '[' => some ""
  | ']' => some ""
  | 's' => some name
  | 'v' => some "5.2"
  | 'V' => some "5.2.15"
  | 'w' => some directory
  | 'W' => some (((directory.splitOn "/").getLast?).getD directory)
  | '#' => some "1"
  | '!' => some "1"
  | 'j' => some (toString s.own.jobs.length)
  | _ => none

/-- A text with what stands in a prompt for its escapes. -/
def prompted (s : State) : List Char → List Char
  | '\\' :: c :: rest =>
    match promptPart s c with
    | some text => text.toList ++ prompted s rest
    | none => '\\' :: c :: prompted s rest
  | c :: rest => c :: prompted s rest
  | [] => []

/-- What a letter makes of a content; the variable is given if there is one. -/
def transformed (s : State) (name : String) (v : Option Variable) (letter : Char)
    (content : Content) : Content :=
  let isWhole : Bool := match content with
    | .many .. => true
    | _ => false
  match letter with
  | 'Q' => content.mapTexts Escape.quoted
  | 'E' => content.mapTexts fun text => Escape.word text.toList
  | 'U' => content.mapTexts String.toUpper
  | 'L' => content.mapTexts String.toLower
  | 'u' => content.mapTexts (recased .upper false [])
  | 'P' => content.mapTexts fun text => String.ofList (prompted s text.toList)
  | 'a' =>
    match v with
    | some v =>
      let letters := String.ofList v.letters
      if isWhole then content.mapTexts fun _ => letters else .one letters
    | none => content.mapTexts fun _ => ""
  | 'A' =>
    match v with
    | some v =>
      if isWhole && v.isMany then .one (v.declaration name)
      else if v.isSet || !v.letters.isEmpty then
        .one (v.assignment name content.texts.head?)
      else .missing
    | none =>
      if isWhole then .one ("set -- " ++ " ".intercalate (content.texts.map Escape.quoted))
      else .missing
  | _ =>
    match v, isWhole with
    | some v, true =>
      if letter = 'K' then
        .one (" ".intercalate (v.value.pairs.map fun entry =>
          (if v.has 'A' then Escape.declaredKey entry.1 else entry.1) ++ " "
            ++ Escape.declared entry.2))
      else .many (v.value.pairs.flatMap fun entry => [entry.1, entry.2]) false
    | _, _ => content.mapTexts Escape.quoted

/-- The texts of a content from an offset on, so many of them if that is told. `whole` tells how
    many there would be without gaps. -/
def sliceOf (entries : List (Nat × String)) (whole : Nat) (offset : Int) (length : Option Nat) :
    List String :=
  let start := if offset < 0 then offset + whole else offset
  if start < 0 then []
  else
    let found := entries.filter fun entry => start ≤ (entry.1 : Int)
    ((length.elim found found.take)).map (·.2)

/-- The part of several texts from an offset on. Arguments are counted with the name of the script in
    front of them. -/
def partOf (s : State) (name : String) (v : Option Variable) (start : Int) (size : Option Nat)
    (found : Content) : Content :=
  let joined : Bool := match found with
    | .many _ joined => joined
    | _ => false
  let numbered (texts : List String) : List (Nat × String) × Nat :=
    (texts.mapIdx fun n text => (n, text), texts.length)
  let (entries, whole) : List (Nat × String) × Nat :=
    if isSpecial name then numbered (s.self :: found.texts)
    else
      match v.map Variable.value with
      | some (.list entries) => (entries, Value.nextNumber entries)
      | some value => numbered value.texts
      | none => ([], 0)
  .many (sliceOf entries whole start size) joined

mutual

/-- The cells that fragments stand for; `divides` tells whether fields are divided. -/
def cells (carrier : Carrier) : Nat → Bool → List Fragment → Effect (List Cell)
  | 0, _, _ => throw .exhausted
  | _, _, [] => return []
  | fuel + 1, divides, fragment :: rest => do
    let first ← fragmentCells carrier fuel divides fragment
    return first ++ (← cells carrier fuel divides rest)

/-- The text that fragments stand for. -/
def text (carrier : Carrier) : Nat → List Fragment → Effect String
  | 0, _ => throw .exhausted
  | fuel + 1, fragments => do
    return textOfCells (← cells carrier fuel false fragments)

/-- The pattern that fragments stand for. -/
def pattern (carrier : Carrier) : Nat → List Fragment → Effect (List Piece)
  | 0, _ => throw .exhausted
  | fuel + 1, fragments => do
    let found ← cells carrier fuel false (atHome (← state) false .here fragments)
    return Piece.ofCells (← isOn "extglob") found

/-- The cells that a fragment stands for. -/
def fragmentCells (carrier : Carrier) : Nat → Bool → Fragment → Effect (List Cell)
  | 0, _, _ => throw .exhausted
  | fuel + 1, divides, fragment => do
    match fragment with
    | .text text quoted => return Cell.ofScript text quoted
    | .output steps quoted => return Cell.ofValue (← carrier.output steps) quoted
    | .outputOf script quoted => return Cell.ofValue (← carrier.outputOf script) quoted
    | .arithmetic expression quoted =>
      let n ← demanded "" (← text carrier fuel expression)
      return Cell.ofValue (toString n) quoted
    | .pipe isInput steps => return Cell.ofValue (← carrier.pipe isInput steps) false
    | .parameter _ (.wrong raw) _ =>
      tell ("$\x7b" ++ raw ++ "\x7d: bad substitution")
      discard
    | .parameter (.mk name .none _) (.names joined) quoted =>
      let s ← state
      let all := (s.own.scopes.visible.filter fun entry => entry.2.isSet).map (·.1) ++
        (Store.keptNames.filter fun kept => (Store.find? s kept).any (·.isSet))
      let names := (all.filter (·.startsWith name)).eraseDups.mergeSort fun a b =>
        (compare a b).isLE
      return cellsOf s divides quoted (.many names joined)
    | .parameter reference rule quoted =>
      match reference with
      | .mk name place isIndirect => do
        match ← meant carrier fuel name place isIndirect with
        | .inl content => return cellsOf (← state) divides quoted content
        | .inr (meantName, meantPlace) =>
          let shown := if isIndirect then "!" ++ title name place else title meantName meantPlace
          ruled carrier fuel divides quoted shown meantName meantPlace rule

/-- What a reference is about, or what it comes to at once. -/
def meant (carrier : Carrier) :
    Nat → String → Place → Bool → Effect (Content ⊕ (String × Place))
  | 0, _, _, _ => throw .exhausted
  | fuel + 1, name, place, isIndirect => do
    if !isIndirect then return .inr (name, place)
    let s ← state
    let isBare : Bool := match place with
      | .none => true
      | _ => false
    if isBare && (s.own.scopes.find? name).any fun v => v.has 'n' then
      let target := Store.resolve s name
      return .inl (.one (target.name ++ (target.place.map fun p => "[" ++ p ++ "]").getD ""))
    match (← content carrier fuel name place).texts with
    | [] =>
      tell (title name place ++ ": invalid indirect expansion")
      discard
    | texts =>
      let text := " ".intercalate texts
      match referenceOf? text with
      | some found => return .inr found
      | none =>
        tell (text ++ ": invalid variable name")
        discard

/-- What a parameter comes to. -/
def content (carrier : Carrier) : Nat → String → Place → Effect Content
  | 0, _, _ => throw .exhausted
  | fuel + 1, name, place => do
    if isSpecial name then return special (← state) name
    let target := Store.resolve (← state) name
    let place := match place, target.place with
      | .none, some text => placeOf text
      | place, _ => place
    let (found, after) := Store.fetch (← state) target.name
    change fun _ => after
    match place with
    | .none =>
      return ((found.bind fun v => v.value.text?).map Content.one).getD .missing
    | .all joined => return .many ((found.map fun v => v.value.texts).getD []) joined
    | .at_ raw word =>
      let key ← text carrier fuel word
      let v := found.getD ⟨.nothing, []⟩
      if v.has 'A' then
        return ((Store.textAt? v (.key key)).map Content.one).getD .missing
      let n ← if key.isEmpty then discardAt target.name raw else demanded "" key
      let count : Int := match v.value with
        | .list entries => Value.nextNumber entries
        | .text _ => 1
        | .nothing => 0
        | _ => 0
      let n := if n < 0 then n + count else n
      if n < 0 then
        tell (target.name ++ ": bad array subscript")
        return .missing
      return ((Store.textAt? v (.number n.toNat)).map Content.one).getD .missing

/-- Gives up because of a place without a name. -/
def discardAt (name raw : String) : Effect Int := do
  tell (name ++ "[" ++ raw ++ "]: bad array subscript")
  discard

/-- The cells of a parameter with which something is done. -/
def ruled (carrier : Carrier) :
    Nat → Bool → Bool → String → String → Place → Rule → Effect (List Cell)
  | 0, _, _, _, _, _, _ => throw .exhausted
  | fuel + 1, divides, quoted, shown, name, place, rule => do
    let found ← content carrier fuel name place
    let refuse : Effect (List Cell) := do
      if (← isOn "nounset") && found.isMissing then
        match found with
        | .many .. => pure ()
        | _ => refuseUnset (if isSpecial shown then "$" ++ shown else shown)
      return []
    match rule with
    | .substitute kind orEmpty word =>
      let isMissing := if orEmpty then found.isEmpty else found.isMissing
      substituted carrier fuel divides quoted shown name place found isMissing
        (kind, orEmpty, word)
    | .size =>
      let _ ← match found with
        | .many .. =>
          if (← isOn "nounset") && !isSpecial name && (Store.find? (← state) name).isNone then
            refuseUnset name
          else pure []
        | _ => refuse
      let n := match found with
        | .missing => 0
        | .one text => text.length
        | .many texts _ => texts.length
      return Cell.ofValue (toString n) quoted
    | .places joined =>
      let target := Store.resolve (← state) name
      let v := (Store.find? (← state) target.name).getD ⟨.nothing, []⟩
      return cellsOf (← state) divides quoted (.many v.value.places joined)
    | .slice offset length =>
      let _ ← refuse
      let content ← sliced carrier fuel name found offset length
      return cellsOf (← state) divides quoted content
    | rule =>
      let _ ← refuse
      let content ← changed carrier fuel name found rule
      return cellsOf (← state) divides quoted content

/-- The cells of a parameter in whose place something else may stand. -/
def substituted (carrier : Carrier) :
    Nat → Bool → Bool → String → String → Place → Content → Bool →
      (Substitute × Bool × List Fragment) → Effect (List Cell)
  | 0, _, _, _, _, _, _, _, _ => throw .exhausted
  | fuel + 1, divides, quoted, shown, name, place, found, isMissing, (kind, orEmpty, word) => do
    let mark := if quoted then [Cell.mark] else []
    let own : Effect (List Cell) := do return cellsOf (← state) divides quoted found
    let other : Effect (List Cell) := do
      let s ← state
      let word := if quoted then word else atHome s false .here word
      let found ← cells carrier fuel divides word
      return mark ++ if divides then found.map fun
        | .plain c => .value c
        | cell => cell
      else found
    match kind with
    | .use => if isMissing then other else own
    | .alternative => if isMissing then return mark else other
    | .assign =>
      if !isMissing then own
      else
        let target := match place with
          | .none => some name
          | .at_ raw _ => some (name ++ "[" ++ raw ++ "]")
          | .all _ => none
        match target.filter fun _ => Setting.isName name with
        | none =>
          tell ((if isSpecial name then "$" ++ name else shown) ++ ": cannot assign in this way")
          discard
        | some _ =>
          let s ← state
          let word := if quoted then word else atHome s false .here word
          let value ← text carrier fuel word
          let isDone ← match place with
            | .at_ raw key => do
              let resolved := (Store.resolve (← state) name).name
              let key ← text carrier fuel key
              match ← Setting.spotOf resolved raw key with
              | some spot => Setting.putText resolved spot false value
              | none => pure false
            | _ => Setting.give name value
          if !isDone then discard
          let after ← content carrier fuel name place
          return cellsOf (← state) divides quoted after
    | .demand =>
      if !isMissing then own
      else
        let usual := if orEmpty then "parameter null or not set" else "parameter not set"
        let s ← state
        let word := if quoted then word else atHome s false .here word
        let told ← text carrier fuel word
        tell (shown ++ ": " ++ if word.isEmpty then usual else told)
        breakOff

/-- A part of what a parameter comes to. -/
def sliced (carrier : Carrier) :
    Nat → String → Content → List Fragment → Option (List Fragment) → Effect Content
  | 0, _, _, _, _ => throw .exhausted
  | fuel + 1, name, found, offset, length => do
    if offset.isEmpty && length.isNone then
      tell ("$\x7b" ++ name ++ ":\x7d: bad substitution")
      discard
    let start ← demanded name (← text carrier fuel offset)
    let size : Option (Int × String) ← match length with
      | none => pure none
      | some length => do
        let shown ← text carrier fuel length
        pure (some (← demanded name shown, shown))
    let refuse (shown : String) : Effect Content := do
      tell (shown ++ ": substring expression < 0")
      discard
    let v := Store.find? (← state) (Store.resolve (← state) name).name
    let isText : Bool := match found, v with
      | .many .., some ⟨.text _, _⟩ => true
      | .many .., _ => false
      | _, _ => true
    if isText then
      let chars := (found.texts.headD "").toList
      let first := if start < 0 then start + chars.length else start
      if first < 0 || (chars.length : Int) < first then
        return if found.isMissing then .missing else .one ""
      let last : Int := match size with
        | none => chars.length
        | some (n, _) => if n < 0 then chars.length + n else first + n
      if last < first then refuse ((size.map (·.2)).getD "")
      else
        return .one (String.ofList ((chars.drop first.toNat).take (last - first).toNat))
    else
      match size with
      | some (n, shown) =>
        if n < 0 then refuse shown
        else return partOf (← state) name v start (some n.toNat) found
      | none => return partOf (← state) name v start none found

/-- What a parameter comes to with something changed in it. -/
def changed (carrier : Carrier) : Nat → String → Content → Rule → Effect Content
  | 0, _, _, _ => throw .exhausted
  | fuel + 1, name, found, rule => do
    match rule with
    | .trim atEnd longest word =>
      let pieces ← pattern carrier fuel word
      let trim := if atEnd then Piece.trimEnd else Piece.trimFront
      return found.mapTexts (trim false pieces longest)
    | .replace spot word replacement =>
      let pieces ← pattern carrier fuel word
      let by_ ← cells carrier fuel false (atHome (← state) false .here replacement)
      let s ← state
      let replacement : List Char → List Char :=
        if s.own.has "patsub_replacement" then
        fun taken => replacementOf taken by_ else fun _ => by_.filterMap Cell.char?
      if pieces.isEmpty && (spot = .first || spot = .everywhere) then return found
      return found.mapTexts (Piece.replaceIn (s.own.has "nocasematch") pieces spot replacement)
    | .letters casing all word =>
      let pieces ← pattern carrier fuel word
      return found.mapTexts (recased casing all pieces)
    | .transform letter =>
      let s ← state
      let target := Store.resolve s name
      let v := if isSpecial name then none else Store.find? s target.name
      return transformed s target.name v letter found
    | _ => return found

end

/-! ## Fields -/

/-- Fields of words, as cells. -/
def fieldCells (carrier : Carrier) (fuel : Nat) : List (List Fragment) → Effect (List (List Cell))
  | [] => return []
  | word :: rest => do
    let found ← cells carrier fuel true (homed (← state) word)
    let s ← state
    let first := Field.split (dividers s) .none found
    return first ++ (← fieldCells carrier fuel rest)

/-- What a field stands for. -/
def pathsOf (field : List Cell) : Effect (List String) := do
  let s ← state
  let g := globbing s
  if s.own.has "noglob" || !g.isPattern field then return [Cell.text field]
  match g.paths s.world field with
  | [] =>
    if s.own.has "failglob" then
      tell ("no match: " ++ Cell.text field)
      discard
    return if s.own.has "nullglob" then [] else [Cell.text field]
  | found => return found

/-- The fields that words stand for. -/
def fields (carrier : Carrier) (fuel : Nat) (words : List Word) : Effect (List String) := do
  let found ← fieldCells carrier fuel (words.flatMap Word.choices)
  return (← found.mapM pathsOf).flatten

/-- The text that a word stands for whose fields are not divided. -/
def single (carrier : Carrier) (fuel : Nat) (word : Word) : Effect String := do
  text carrier fuel (atHome (← state) false .here word.fragments)

/-- The text that the value of an assignment stands for. -/
def value (carrier : Carrier) (fuel : Nat) (word : List Fragment) : Effect String := do
  text carrier fuel (atHome (← state) true .here word)

/-- The items that the entries of a list stand for; `isTable` tells that they are for a table. -/
def items (carrier : Carrier) (fuel : Nat) (isTable : Bool) :
    List Entry → Effect (List Setting.Item)
  | [] => return []
  | .plain word :: rest => do
    let texts ← if isTable then pure [← single carrier fuel word] else fields carrier fuel [word]
    return texts.map Setting.Item.plain ++ (← items carrier fuel isTable rest)
  | .placed raw key adds _ word :: rest => do
    let place ← text carrier fuel key
    let content ← value carrier fuel word
    return .placed raw place adds content :: (← items carrier fuel isTable rest)

/-- An assignment of a text as it is shown. -/
def shownAssignment (name : String) (place : Place) (adds : Bool) (text : String) : String :=
  title name place ++ (if adds then "+=" else "=")
    ++ if text.isEmpty then "" else Escape.traced text

/-- Carries out an assignment, which is shown by `trace`. Where it cannot be done the rest of what was
    read at once is dropped. -/
def assign (carrier : Carrier) (trace : String → Effect Unit) (fuel : Nat) :
    Assignment → Effect Unit
  | .mk name place adds given => do
    let resolved := Store.resolve (← state) name
    match given, place with
    | .list entries, .none =>
      trace (Printing.assignmentText (.mk name place adds given))
      let isTable := (Store.variableOr (← state) resolved.name).has 'A'
      let all ← items carrier fuel isTable entries
      if !(← Setting.putAll resolved.name adds all) then discard
    | .list _, place =>
      tell (title name place ++ ": cannot assign list to array member")
      discard
    | .text _ word, place =>
      let content ← value carrier fuel word
      trace (shownAssignment name place adds content)
      let spot ← match place, resolved.place with
        | .none, none => pure (some Store.Spot.whole)
        | .none, some inner => Setting.spotOf resolved.name inner inner
        | .at_ raw key, _ => do Setting.spotOf resolved.name raw (← text carrier fuel key)
        | .all joined, _ => Setting.spotOf resolved.name (if joined then "*" else "@") ""
      match spot with
      | none => discard
      | some spot => if !(← Setting.putText resolved.name spot adds content) then discard

end Expansion
end Extended
end Shell
end SuiteCoverage
