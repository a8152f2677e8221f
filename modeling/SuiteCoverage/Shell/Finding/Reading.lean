import SuiteCoverage.Shell.Finding.Query
import SuiteCoverage.Shell.Utility.Times

/-!
# Reading questions about files

The arguments of `find` are read one after the other. Options count for all of it wherever they
stand; what is asked and done is put together afterwards, *not* before *and*, and *and* before *or*.
-/

set_option autoImplicit false

namespace SuiteCoverage
namespace Shell
namespace Finding

open Utility

/-- What is wrong with the arguments. -/
inductive Flaw where
  | missing (name : String)
  | invalid (argument name : String)
  | unknown (name : String)
  | refused (name : String)
  /-- An argument that is no question behind the first of them, and the question before it if the
      argument is the name of a file. -/
  | misplaced (argument : String) (before : Option String)
  | noFile (path : String) (fault : Fault)
  | noNumber (name argument : String)
  | unknownKind (c : Char)
  | unseparatedKinds (name : String)
  | noKind (name : String)
  | endedKinds (name : String)
  | repeatedKind (c : Char) (name : String)
  | unknownUnit (c : Char)
  | noSize
  | badMode (argument : String)
  | badExpression (argument : String) (flaw : Regex.Flaw)
  | unknownForm (name : String)
  | badTime (argument : String)
  | unknownOwner (name kind : String)
  | severalPlaces (name : String)
  | openFormat
  | pruneAndDelete
  | nothingBefore (operator : String)
  | nothingAfter (operator : String)
  | nothingBetween (operator : String)
  | emptyGroup
  | openGroup
  | lonelyOpening (operator : String)
  | closedGroup

/-- What is wrong with the arguments, in words. -/
def Flaw.message : Flaw → List String
  | missing name => ["missing argument to \u0060" ++ name ++ "'"]
  | invalid argument name => ["invalid argument \u0060" ++ argument ++ "' to \u0060" ++ name ++ "'"]
  | unknown name => ["unknown predicate \u0060" ++ name ++ "'"]
  | refused name => ["invalid predicate \u0060" ++ name ++ "'"]
  | misplaced argument before =>
    ("paths must precede expression: \u0060" ++ argument ++ "'")
      :: (before.map fun name =>
        "possible unquoted pattern after predicate \u0060" ++ name ++ "'?").toList
  | noFile path fault => [Quoting.name path ++ ": " ++ fault.reason]
  | noNumber name argument =>
    ["Expected a positive decimal integer argument to " ++ name ++ ", but got "
      ++ Quoting.name argument]
  | unknownKind c => ["Unknown argument to -type: " ++ String.singleton c]
  | unseparatedKinds name => ["Must separate multiple arguments to " ++ name ++ " using: ','"]
  | noKind name => ["Arguments to " ++ name ++ " should contain at least one letter"]
  | endedKinds name =>
    ["Last file type in list argument to " ++ name ++ " is missing, i.e., list is ending on: ','"]
  | repeatedKind c name =>
    ["Duplicate file type '" ++ String.singleton c ++ "' in the argument list to " ++ name ++ "."]
  | unknownUnit c => ["invalid -size type \u0060" ++ String.singleton c ++ "'"]
  | noSize => ["invalid null argument to -size"]
  | badMode argument => ["invalid mode " ++ Quoting.name argument]
  | badExpression argument flaw =>
    ["failed to compile regular expression " ++ Quoting.name argument ++ ": " ++ flaw.message]
  | unknownForm name =>
    ["Unknown regular expression type " ++ Quoting.name name
      ++ "; valid types are 'findutils-default', 'ed', 'emacs', 'gnu-awk', 'grep', 'posix-awk', "
      ++ "'awk', 'posix-basic', 'posix-egrep', 'egrep', 'posix-extended', "
      ++ "'posix-minimal-basic', 'sed'."]
  | badTime argument =>
    ["I cannot figure out how to interpret " ++ Quoting.name argument ++ " as a date or time"]
  | unknownOwner name kind => [Quoting.name name ++ " is not the name of a known " ++ kind]
  | severalPlaces name => ["Only one instance of \x7b\x7d is supported with " ++ name ++ " ... +"]
  | openFormat => ["error: % at end of format string"]
  | pruneAndDelete =>
    ["The -delete action automatically turns on -depth, but -prune does nothing when -depth is in "
      ++ "effect.  If you want to carry on anyway, just explicitly use the -depth option."]
  | nothingBefore operator =>
    ["invalid expression; you have used a binary operator '" ++ operator
      ++ "' with nothing before it."]
  | nothingAfter operator => ["expected an expression after '" ++ operator ++ "'"]
  | nothingBetween operator => ["expected an expression between '" ++ operator ++ "' and ')'"]
  | emptyGroup => ["invalid expression; empty parentheses are not allowed."]
  | openGroup =>
    ["invalid expression; I was expecting to find a ')' somewhere but did not see one."]
  | lonelyOpening operator =>
    ["invalid expression; expected to find a ')' but didn't see one. Perhaps you need an extra "
      ++ "predicate after '" ++ operator ++ "'"]
  | closedGroup => ["you have too many ')'"]

/-- A part of what is asked. -/
inductive Token where
  | opening
  | closing
  | not
  | both
  | either
  | after
  | query (query : Query)

/-- Whether something that is asked ends with a part. -/
def Token.ends : Token → Bool
  | closing => true
  | query _ => true
  | _ => false

/-- Whether something that is asked starts with a part. -/
def Token.starts : Token → Bool
  | opening => true
  | not => true
  | query _ => true
  | _ => false

/-- What has been read. -/
structure Progress where
  world : World
  /-- The seconds and the millionths of a second of the present. -/
  now : Int × Nat
  arguments : List String
  /-- The parts of what is asked and how they were called, the last one first. -/
  tokens : List (Token × String)
  course : Course
  form : Regex.Form
  /-- Whether days start at midnight. -/
  fromDayStart : Bool
  targets : List String
  places : Nat
  isDepthGiven : Bool
  /-- What is worth a word though it is not wrong. -/
  warnings : List String

/-- Reads arguments. -/
abbrev Reader := StateT Progress (Except Flaw)

namespace Reader

/-- The argument of something. -/
def argument (name : String) : Reader String := do
  match (← get).arguments with
  | [] => throw (.missing name)
  | argument :: rest =>
    modify fun p => { p with arguments := rest }
    return argument

/-- Adds a part. Two questions one behind the other are joined. -/
def add (token : Token) (name : String) : Reader Unit :=
  modify fun p =>
    let joint := match p.tokens with
      | (last, _) :: _ => if last.ends && token.starts then [(Token.both, "-a")] else []
      | [] => []
    { p with tokens := (token, name) :: (joint ++ p.tokens) }

/-- Adds a question. -/
def ask (name : String) (test : Test) : Reader Unit := add (.query (.test test)) name

/-- Adds an action. -/
def act (name : String) (action : Action) : Reader Unit := add (.query (.action action)) name

/-- The side and the digits of a number with a sign in front. -/
def sided (text : String) : Side × String :=
  if text.startsWith "+" then (.more, (text.drop 1).toString)
  else if text.startsWith "-" then (.less, (text.drop 1).toString)
  else (.equal, text)

/-- An amount. -/
def amount (name : String) : Reader Amount := do
  let text ← argument name
  let (side, digits) := sided text
  match count? digits with
  | some n => return ⟨side, n⟩
  | none => throw (.invalid text name)

/-- A number of seconds, or of other units, which may have digits behind a point, in millionths. -/
def micros? (unit : Nat) (text : String) : Option Int :=
  match text.splitOn "." with
  | [whole] => (count? whole).map fun n => ((n * unit * Duration.second : Nat) : Int)
  | [whole, part] => do
    let n ← if whole.isEmpty then some 0 else count? whole
    let m ← if part.isEmpty then some 0 else count? part
    let parts := Nat.pow 10 part.length
    return ((n * unit * Duration.second + m * unit * Duration.second / parts : Nat) : Int)
  | _ => none

/-- The present in millionths of a second, or the end of the day. -/
def present (p : Progress) : Int :=
  let now := p.now.1 * Duration.second + (p.now.2 / 1000 : Nat)
  let day : Int := Calendar.daySeconds * Duration.second
  if p.fromDayStart then (Int.fdiv now day + 1) * day else now

/-- Asks for an age in days. A part of a day does not count. -/
def ageInDays (name : String) : Reader Unit := do
  let text ← argument name
  let (side, digits) := sided text
  match micros? 86400 digits with
  | none => throw (.invalid text name)
  | some age =>
    let now := present (← get)
    let day : Int := Calendar.daySeconds * Duration.second
    let reference := if side == .less then now - Duration.second - age else now - day - age
    ask name (.time ⟨turned side, reference, day⟩)
where
  /-- What is older comes before. -/
  turned : Side → Side
    | .more => .less
    | .less => .more
    | .equal => .equal

/-- Asks for an age in minutes. -/
def ageInMinutes (name : String) : Reader Unit := do
  let text ← argument name
  let (side, digits) := sided text
  match micros? 60 digits with
  | none => throw (.invalid text name)
  | some age =>
    let reference := present (← get) - age
    ask name (.time ⟨ageInDays.turned side, reference, 60 * Duration.second⟩)

/-- Asks for times behind that of a file. -/
def newer (name : String) : Reader Unit := do
  let path ← argument name
  let p ← get
  let node := if p.course.following == .none then nodeAt p.world (pathOf path)
    else p.world.stat (pathOf path)
  match node with
  | .ok node => ask name (.time ⟨.more, node.facts.changed, 0⟩)
  | .error fault => throw (.noFile path fault)

/-- Asks for times behind one that is given in words. -/
def newerThanTime (name : String) : Reader Unit := do
  let text ← argument name
  match Calendar.read? (← get).now 0 text with
  | some (seconds, nanos) =>
    ask name (.time ⟨.more, seconds * Duration.second + (nanos / 1000 : Nat), 0⟩)
  | none => throw (.badTime text)

/-- A number of levels. -/
def levels (name : String) : Reader Nat := do
  let text ← argument name
  match count? text with
  | some n => return n
  | none => throw (.noNumber name text)

/-- The letters for kinds of files, with commas between them. -/
def kinds (name : String) : Reader (List Char) := do
  let text ← argument name
  if text.isEmpty then throw (.noKind name)
  let rec go : List Char → List Char → Except Flaw (List Char)
    | [], seen => .ok seen
    | c :: rest, seen =>
      if !"bcdpflsD".toList.contains c then .error (.unknownKind c)
      else if seen.contains c then .error (.repeatedKind c name)
      else
        match rest with
        | [] => .ok (c :: seen)
        | [','] => .error (.endedKinds name)
        | ',' :: more => go more (c :: seen)
        | _ => .error (.unseparatedKinds name)
  go text.toList []

/-- The bytes of a unit of size. -/
def unit? (c : Char) : Option Nat :=
  match c with
  | 'b' => some 512
  | 'c' => some 1
  | 'w' => some 2
  | 'k' => some 1024
  | 'M' => some (1024 * 1024)
  | 'G' => some (1024 * 1024 * 1024)
  | c => if c.isDigit then some 512 else none

/-- Asks for a size. -/
def size (name : String) : Reader Unit := do
  let text ← argument name
  match text.toList.getLast? with
  | none => throw .noSize
  | some c =>
    match unit? c with
    | none => throw (.unknownUnit c)
    | some unit =>
      let (side, digits) := sided (if c.isDigit then text else (text.dropEnd 1).toString)
      match count? digits with
      | some n => ask name (.size ⟨side, n⟩ unit)
      | none => throw (.invalid text name)

/-- Asks for a mode. -/
def mode (name : String) : Reader Unit := do
  let text ← argument name
  let (agreement, rest) : Agreement × String :=
    if text.startsWith "-" then (.all, (text.drop 1).toString)
    else if text.startsWith "/" then (.some, (text.drop 1).toString)
    else (.exact, text)
  match Mode.Adjustment.ofText? rest with
  | none => throw (.badMode text)
  | some adjustment =>
    let bits (isDirectory : Bool) : Nat := (Mode.Adjustment.apply 0 isDirectory ⟨0⟩ adjustment).bits
    ask name (.mode agreement (bits false) (bits true))

/-- The form of expressions that a name calls. -/
def form? (name : String) : Option Regex.Form :=
  if ["findutils-default", "emacs"].contains name then some .mixed
  else if ["ed", "grep", "posix-basic", "posix-minimal-basic", "sed"].contains name then some .basic
  else if ["gnu-awk", "posix-awk", "awk", "posix-egrep", "egrep", "posix-extended"].contains name then
    some { Regex.Form.extendedForm with stray := .literal }
  else none

/-- Asks for an expression that a whole path matches. -/
def expression (name : String) (folds : Bool) : Reader Unit := do
  let text ← argument name
  match Regex.ofText (← get).form text with
  | .ok regex => ask name (.expression regex folds)
  | .error flaw => throw (.badExpression text (if flaw == .openBracket then .emptySet else flaw))

/-- Asks for a pattern. -/
def pattern (name : String) (test : List Glob.Token → Bool → Test) : Reader Unit := do
  let folds := name.startsWith "-i"
  let text ← argument name
  ask name (test (patternOf (if folds then text.toLower else text)) folds)

/-! ## Lines -/

/-- The control character that a letter behind a backslash stands for. -/
def control? (c : Char) : Option Char :=
  match c with
  | 'a' => some '\x07'
  | 'b' => some '\x08'
  | 'f' => some '\x0c'
  | 'n' => some '\n'
  | 'r' => some '\r'
  | 't' => some '\t'
  | 'v' => some '\x0b'
  | '\\' => some '\\'
  | _ => none

/-- The letters that ask for something about a file. -/
def fieldLetters : List Char := "pfhPHdskbmMniugUGlyYtacDFS".toList

/-- The portions of a line, and what is worth a word about it. -/
def portions : Nat → List Char → Except Flaw (List Portion × List String)
  | 0, _ => .ok ([], [])
  | _, [] => .ok ([], [])
  | fuel + 1, '\\' :: rest =>
    let digits := (rest.takeWhile fun c => '0' ≤ c && c ≤ '7').take 3
    if !digits.isEmpty then
      let code := digits.foldl (fun n c => n * 8 + (c.toNat - '0'.toNat)) 0
      before (.text (String.singleton (Char.ofNat (code % 256)))) (portions fuel (rest.drop digits.length))
    else
      match rest with
      | [] => .ok ([.text "\\"], ["warning: escape \u0060\\' followed by nothing at all"])
      | 'c' :: _ => .ok ([.halt], [])
      | c :: more =>
        match control? c with
        | some d => before (.text (String.singleton d)) (portions fuel more)
        | none =>
          (before (.text (String.ofList ['\\', c])) (portions fuel more)).map fun (found, warnings) =>
            (found, ("warning: unrecognized escape \u0060\\" ++ String.singleton c ++ "'") :: warnings)
  | fuel + 1, '%' :: rest =>
    let flags := rest.takeWhile fun c => "-+ #0".toList.contains c
    let afterFlags := rest.drop flags.length
    let width := afterFlags.takeWhile Char.isDigit
    let afterWidth := afterFlags.drop width.length
    let number (digits : List Char) : Nat := ((String.ofList digits).toNat?).getD 0
    let (precision, afterAll) := match afterWidth with
      | '.' :: more =>
        let digits := more.takeWhile Char.isDigit
        (some (number digits), more.drop digits.length)
      | _ => (none, afterWidth)
    match afterAll with
    | [] => .error .openFormat
    | '%' :: more => before (.text "%") (portions fuel more)
    | letter :: more =>
      if "ATC".toList.contains letter then
        match more with
        | sub :: more =>
          before (.field letter sub flags (number width) precision) (portions fuel more)
        | [] => before (.text (String.ofList ('%' :: [letter]))) (.ok ([], []))
      else if fieldLetters.contains letter then
        before (.field letter ' ' flags (number width) precision) (portions fuel more)
      else
        let shown := String.ofList ('%' :: flags ++ [letter])
        (before (.text shown) (portions fuel more)).map fun (found, warnings) =>
          (found, ("warning: unrecognized format directive \u0060" ++ shown ++ "'") :: warnings)
  | fuel + 1, c :: rest => before (.text (String.singleton c)) (portions fuel rest)
where
  /-- Puts a portion in front of others. -/
  before (portion : Portion) (result : Except Flaw (List Portion × List String)) :
      Except Flaw (List Portion × List String) :=
    result.map fun (found, warnings) => (portion :: found, warnings)

/-- Reads the form of a line. -/
def lineForm (name : String) : Reader (List Portion) := do
  let text ← argument name
  let (found, warnings) ← portions (text.length + 1) text.toList
  modify fun p => { p with warnings := p.warnings ++ warnings }
  return found

/-- A file that is written to. -/
def target (name : String) : Reader String := do
  let path ← argument name
  modify fun p => { p with targets := if p.targets.contains path then p.targets else p.targets ++ [path] }
  return path

/-- What is written by default: the path and a character behind it. -/
def pathAnd (c : Char) : List Portion := [.field 'p' ' ' [] 0 none, .text (String.singleton c)]

/-! ## Commands -/

/-- Reads a command up to its end. -/
def command (name : String) (isLocal asks : Bool) : Reader Unit := do
  let arguments := (← get).arguments
  let rec split : List String → Option String → Option (List String × List String × Bool)
    | [], _ => none
    | ";" :: rest, _ => some ([], rest, false)
    | "+" :: rest, some "\x7b\x7d" =>
      if asks then (split rest (some "+")).map fun (words, after, batch) => ("+" :: words, after, batch)
      else some ([], rest, true)
    | word :: rest, _ =>
      (split rest (some word)).map fun (words, after, batch) => (word :: words, after, batch)
  match split arguments none with
  | none => throw (.missing name)
  | some ([], _, _) => throw (.invalid (arguments.headD "") name)
  | some (words, after, isBatch) =>
    let words := if isBatch then words.dropLast else words
    if isBatch && words.any (fun word => ((word.splitOn "\x7b\x7d").length != 1)) then
      throw (.severalPlaces name)
    if isBatch && words.isEmpty then throw (.invalid (arguments.headD "") name)
    modify fun p => { p with arguments := after, places := p.places + 1 }
    act name (.run (← get).places words ⟨isBatch, isLocal, asks⟩)

/-! ## Predicates -/

/-- Changes how the files are gone through. An option is a question that is always answered. -/
def option (name : String) (f : Course → Course) : Reader Unit := do
  modify fun p => { p with course := f p.course }
  ask name (.always true)

/-- Names that have to do with times of files. -/
def times : List String := ["-mtime", "-atime", "-ctime"]

/-- Reads what stands behind a name. -/
def predicate (name : String) : Reader Unit := do
  match name with
  | "(" => add .opening name
  | ")" => add .closing name
  | "!" => add .not name
  | "-not" => add .not name
  | "-a" => add .both name
  | "-and" => add .both name
  | "-o" => add .either name
  | "-or" => add .either name
  | "," => add .after name
  | "-true" => ask name (.always true)
  | "-false" => ask name (.always false)
  | "-name" => pattern name .name
  | "-iname" => pattern name .name
  | "-path" => pattern name .path
  | "-ipath" => pattern name .path
  | "-wholename" => pattern name .path
  | "-iwholename" => pattern name .path
  | "-lname" => pattern name .leadsTo
  | "-ilname" => pattern name .leadsTo
  | "-regex" => expression name false
  | "-iregex" => expression name true
  | "-regextype" =>
    let text ← argument name
    match form? text with
    | some form => modify fun p => { p with form }
    | none => throw (.unknownForm text)
    ask name (.always true)
  | "-type" => ask name (.kind (← kinds name))
  | "-xtype" => ask name (.kindBehind (← kinds name))
  | "-size" => size name
  | "-empty" => ask name .empty
  | "-perm" => mode name
  | "-newer" => newer name
  | "-anewer" => newer name
  | "-cnewer" => newer name
  | "-mmin" => ageInMinutes name
  | "-amin" => ageInMinutes name
  | "-cmin" => ageInMinutes name
  | "-links" => ask name (.links (← amount name))
  | "-inum" => ask name (.identity (← amount name))
  | "-uid" => ask name (.owner (← amount name))
  | "-gid" => ask name (.owner (← amount name))
  | "-user" => owner name "user"
  | "-group" => owner name "group"
  | "-nouser" => ask name (.always false)
  | "-nogroup" => ask name (.always false)
  | "-samefile" =>
    let path ← argument name
    match nodeAt (← get).world (pathOf path) with
    | .ok _ => ask name (.sameAs path)
    | .error fault => throw (.noFile path fault)
  | "-readable" => ask name (.allowed 4)
  | "-writable" => ask name (.allowed 2)
  | "-executable" => ask name (.allowed 1)
  | "-print" => act name (.write none (pathAnd '\n'))
  | "-print0" => act name (.write none (pathAnd '\x00'))
  | "-printf" => act name (.write none (← lineForm name))
  | "-fprint" => act name (.write (some (← target name)) (pathAnd '\n'))
  | "-fprint0" => act name (.write (some (← target name)) (pathAnd '\x00'))
  | "-fprintf" =>
    let file ← target name
    act name (.write (some file) (← lineForm name))
  | "-ls" => act name (.list none)
  | "-fls" => act name (.list (some (← target name)))
  | "-prune" => act name .prune
  | "-quit" => act name .quit
  | "-delete" =>
    modify fun p => { p with course := { p.course with isDeepFirst := true } }
    act name .delete
  | "-exec" => command name false false
  | "-execdir" => command name true false
  | "-ok" => command name false true
  | "-okdir" => command name true true
  | "-depth" => deepFirst name
  | "-d" => deepFirst name
  | "-maxdepth" =>
    let n ← levels name
    option name fun course => { course with most := some n }
  | "-mindepth" =>
    let n ← levels name
    option name fun course => { course with least := n }
  | "-follow" => option name fun course => { course with following := .all }
  | "-daystart" =>
    modify fun p => { p with fromDayStart := true }
    ask name (.always true)
  | _ =>
    if ["-mount", "-xdev", "-noleaf", "-warn", "-nowarn", "-ignore_readdir_race",
        "-noignore_readdir_race"].contains name then ask name (.always true)
    else if times.contains name then ageInDays name
    else if name.startsWith "-newer" then
      match (name.drop 6).toString.toList with
      | [x, 't'] => if "aBcm".toList.contains x then newerThanTime name else throw (.refused name)
      | [x, y] =>
        if "aBcm".toList.contains x && "aBcm".toList.contains y then newer name
        else throw (.refused name)
      | _ => throw (.unknown name)
    else throw (.unknown name)
where
  /-- Asks for an owner. -/
  owner (name kind : String) : Reader Unit := do
    let text ← argument name
    match count? text with
    | some n => ask name (.owner ⟨.equal, n⟩)
    | none =>
      if text == "root" then ask name (.owner ⟨.equal, 0⟩)
      else if text == "user" then ask name (.owner ⟨.equal, 1000⟩)
      else throw (.unknownOwner text kind)
  /-- What is in a directory is to come before it. -/
  deepFirst (name : String) : Reader Unit := do
    modify fun p => { p with isDepthGiven := true }
    option name fun course => { course with isDeepFirst := true }

/-- Whether an argument belongs to what is asked. -/
def isQuestion (isFirst : Bool) (argument : String) : Bool :=
  match argument.toList with
  | '-' :: rest => !rest.isEmpty
  | [')'] => !isFirst
  | [','] => !isFirst
  | ['!'] => true
  | ['('] => true
  | _ => false

/-- Reads all that is asked. -/
def predicates : Nat → Option String → Reader Unit
  | 0, _ => return ()
  | fuel + 1, before => do
    let p ← get
    match p.arguments with
    | [] => return ()
    | name :: rest =>
      if !isQuestion false name then
        let isThere := p.world.pathExists (pathOf name)
        throw (.misplaced name (if isThere then before else none))
      set { p with arguments := rest }
      predicate name
      predicates fuel (some name)

end Reader

/-! ## Putting together -/

/-- The rank of an operator; those of higher ranks bind more closely. -/
def rank : Token → Nat
  | .after => 1
  | .either => 2
  | .both => 3
  | _ => 0

/-- What two questions and an operator between them ask. -/
def Token.joined (token : Token) (first second : Query) : Query :=
  match token with
  | .either => .either first second
  | .after => .after first second
  | _ => .both first second

mutual

/-- What the parts at the front ask, up to an operator whose rank is not above `floor`; `before` is
    the name of the part before them. -/
def question : Nat → Nat → String → Bool → List (Token × String) →
    Except Flaw (Query × List (Token × String))
  | 0, _, _, _, _ => .error .openGroup
  | fuel + 1, floor, before, isOpen, tokens => do
    match tokens with
    | [] => throw (if isOpen then .lonelyOpening before else .nothingAfter before)
    | (.query query, _) :: rest => operators fuel floor query rest
    | (.not, name) :: rest =>
      let (query, rest) ← question fuel 4 name false rest
      operators fuel floor (.not query) rest
    | (.opening, name) :: rest =>
      match rest with
      | (.closing, _) :: _ => throw .emptyGroup
      | _ =>
        let (query, rest) ← question fuel 0 name true rest
        match rest with
        | (.closing, _) :: rest => operators fuel floor query rest
        | _ => throw .openGroup
    | (.closing, _) :: _ => throw (if before.isEmpty then .closedGroup else .nothingBetween before)
    | (_, name) :: _ => throw (.nothingBefore name)

/-- Goes on behind a question. -/
def operators : Nat → Nat → Query → List (Token × String) →
    Except Flaw (Query × List (Token × String))
  | 0, _, _, _ => .error .openGroup
  | fuel + 1, floor, query, tokens => do
    match tokens with
    | (token, name) :: rest =>
      if floor < rank token then
        let (second, rest) ← question fuel (rank token) name false rest
        operators fuel floor (token.joined query second) rest
      else return (query, tokens)
    | [] => return (query, [])

end

/-- Whether nothing is done but leaving directories out. -/
def Query.isQuiet : Query → Bool
  | .test _ => true
  | .action .prune => true
  | .action .quit => true
  | .action _ => false
  | .not query => query.isQuiet
  | .both a b => a.isQuiet && b.isQuiet
  | .either a b => a.isQuiet && b.isQuiet
  | .after a b => a.isQuiet && b.isQuiet

/-- Whether directories are left out. -/
def Query.prunes : Query → Bool
  | .action .prune => true
  | .test _ => false
  | .action _ => false
  | .not query => query.prunes
  | .both a b => a.prunes || b.prunes
  | .either a b => a.prunes || b.prunes
  | .after a b => a.prunes || b.prunes

/-- Whether files are deleted. -/
def Query.deletes : Query → Bool
  | .action .delete => true
  | .test _ => false
  | .action _ => false
  | .not query => query.deletes
  | .both a b => a.deletes || b.deletes
  | .either a b => a.deletes || b.deletes
  | .after a b => a.deletes || b.deletes

/-- What is to be looked for. -/
structure Search where
  starts : List String
  query : Query
  course : Course
  targets : List String
  warnings : List String

/-- Reads the arguments; without any action what is found is written. -/
def Search.ofArguments (world : World) (now : Int × Nat) (arguments : List String) :
    Except Flaw Search := do
  let isLead (argument : String) : Bool := ["-H", "-L", "-P"].contains argument
  let leads := arguments.takeWhile isLead
  let following : Following := match leads.getLast? with
    | some "-L" => .all
    | some "-H" => .given
    | _ => .none
  let others := arguments.drop leads.length
  let starts := others.takeWhile fun argument => !Reader.isQuestion true argument
  let course : Course := ⟨following, 0, none, false⟩
  let first : Progress :=
    { world, now, arguments := others.drop starts.length, tokens := [], course, form := .mixed
      fromDayStart := false, targets := [], places := 0, isDepthGiven := false, warnings := [] }
  let ((), p) ← (Reader.predicates (others.length + 1) none).run first
  let tokens := p.tokens.reverse
  let printing : Query := .action (.write none (Reader.pathAnd '\n'))
  let query ← if tokens.isEmpty then pure printing else do
    let (query, rest) ← question (4 * tokens.length + 8) 0 "" false tokens
    if !rest.isEmpty then throw .closedGroup
    pure (if query.isQuiet then .both query printing else query)
  if query.deletes && query.prunes && !p.isDepthGiven then throw .pruneAndDelete
  return ⟨if starts.isEmpty then ["."] else starts, query, p.course, p.targets, p.warnings⟩

end Finding
end Shell
end SuiteCoverage
