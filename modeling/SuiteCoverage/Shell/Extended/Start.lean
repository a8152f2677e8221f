import SuiteCoverage.Shell.Extended.Run

/-!
# Starting the extended shell

What an extended shell does with its arguments and its environment: which switches are set, and
where the script comes from. It may be one of the arguments, stand in a file, or be what there is
to be read; then what the script has not read yet can be read by its commands.
-/

set_option autoImplicit false

namespace SuiteCoverage
namespace Shell
namespace Extended
namespace Start

open Effect
open Utility (Launcher)

/-! ## Arguments -/

/-- What the arguments of a shell ask for. -/
structure Wish where
  /-- Whether the script is an argument. -/
  hasText : Bool
  /-- Whether the script is what there is to be read. -/
  readsInput : Bool
  /-- The switches that are set and those that are not, by their names. -/
  switches : List (String × Bool)
  /-- What is asked for instead of carrying out a script. -/
  shown : Option String
  words : List String

/-- What is wrong with the arguments of a shell. -/
inductive Flaw where
  | unknown (option : String)
  | noValue (option : String)
  | noSwitch (name : String)
deriving DecidableEq, Repr

/-- The long options, and whether they have values. -/
def longOptions : List (String × Bool) :=
  [("debug", false), ("debugger", false), ("dump-po-strings", false), ("dump-strings", false),
    ("help", false), ("init-file", true), ("login", false), ("noediting", false),
    ("noprofile", false), ("norc", false), ("posix", false), ("pretty-print", false),
    ("rcfile", true), ("restricted", false), ("verbose", false), ("version", false)]

/-- Nothing asked for. -/
def Wish.nothing : Wish := ⟨false, false, [], none, []⟩

/-- Reads long options, and gives back the words that follow them. -/
def readLong : Nat → Wish → List String → Except Flaw (Wish × List String)
  | 0, wish, words => .ok (wish, words)
  | _, wish, [] => .ok (wish, [])
  | fuel + 1, wish, word :: rest =>
    if !word.startsWith "-" then .ok (wish, word :: rest)
    else
      let isLong := word.startsWith "--"
      let name := (word.drop (if isLong then 2 else 1)).toString
      match longOptions.find? fun entry => entry.1 == name with
      | none =>
        if isLong && !name.isEmpty then .error (.unknown word) else .ok (wish, word :: rest)
      | some (name, hasValue) =>
        if hasValue then
          match rest with
          | [] => .error (.noValue name)
          | _ :: rest => readLong fuel wish rest
        else
          let wish :=
            if name = "version" || name = "help" then { wish with shown := some name }
            else if name = "verbose" || name = "posix" then
              { wish with switches := wish.switches ++ [(name, true)] }
            else wish
          readLong fuel wish rest

/-- Reads the letters of an option; `rest` are the words that follow. -/
def readLetters (isOn : Bool) : Wish → List Char → List String →
    Except Flaw (Wish × List String)
  | wish, [], rest => .ok (wish, rest)
  | wish, c :: letters, rest =>
    let turned (name : String) : Wish := { wish with switches := wish.switches ++ [(name, isOn)] }
    if c = 'c' then readLetters isOn { wish with hasText := true } letters rest
    else if c = 's' then readLetters isOn { wish with readsInput := true } letters rest
    else if c = 'l' || c = 'i' || c = 'D' || c = 'r' then readLetters isOn wish letters rest
    else if c = 'o' || c = 'O' then
      let known := if c = 'o' then Switches.older else Switches.newer
      match rest with
      | [] => readLetters isOn wish letters rest
      | name :: rest =>
        if known.contains name then readLetters isOn (turned name) letters rest
        else .error (.noSwitch name)
    else
      match Switches.nameOf? c with
      | some name => readLetters isOn (turned name) letters rest
      | none => .error (.unknown (String.ofList [if isOn then '-' else '+', c]))

/-- Reads options with letters, and gives back the words that follow them. -/
def readShort : Nat → Wish → List String → Except Flaw Wish
  | 0, wish, words => .ok { wish with words }
  | _, wish, [] => .ok wish
  | fuel + 1, wish, word :: rest =>
    match word.toList with
    | ['-'] => .ok { wish with words := rest }
    | ['-', '-'] => .ok { wish with words := rest }
    | sign :: c :: letters =>
      if sign = '-' || sign = '+' then
        match readLetters (sign == '-') wish (c :: letters) rest with
        | .ok (wish, rest) => readShort fuel wish rest
        | .error flaw => .error flaw
      else .ok { wish with words := word :: rest }
    | _ => .ok { wish with words := word :: rest }

/-- What arguments ask for. -/
def Wish.ofArguments (arguments : List String) : Except Flaw Wish := do
  let fuel := arguments.length + 1
  let (wish, words) ← readLong fuel .nothing arguments
  readShort fuel wish words

/-- How a shell is used. -/
def usage : List String :=
  ["\tbash [GNU long option] [option] ...",
    "\tbash [GNU long option] [option] script-file ...", "GNU long options:"]
    ++ longOptions.map (fun entry => "\t--" ++ entry.1)
    ++ ["Shell options:",
      "\t-ilrsD or -c command or -O shopt_option\t\t(invocation only)",
      "\t-abefhkmnptuvxBCEHPT or -o option"]

/-- Tells what is wrong with the arguments of a shell. -/
def refuse (flaw : Flaw) : Effect Unit := do
  let name := (← state).self
  match flaw with
  | .unknown option =>
    complain (name ++ ": " ++ option ++ ": invalid option")
    complain ("Usage:" ++ "\n".intercalate usage)
  | .noValue option => complain (name ++ ": " ++ option ++ ": option requires an argument")
  | .noSwitch switch => complain (name ++ ": line 0: " ++ name ++ ": " ++ switch
    ++ ": invalid option name")
  throw (.exit misuse)

/-! ## Variables -/

/-- The name of the function that an entry of the environment is for. -/
def functionIn? (name : String) : Option String :=
  if name.startsWith "BASH_FUNC_" && name.endsWith "%%" then
    some ((name.drop 10).toString.dropEnd 2).toString
  else none

/-- The function that a text defines. -/
def functionOf? (text : String) : Option Task :=
  if !text.startsWith "() \x7b" then none
  else
    match (Source.ofText ("f " ++ text) 1).readLine true [] 1 |>.1.steps with
    | [.mk _ _ _ [.define _ _ body] _] => some body
    | _ => none

/-- Takes over an entry of the environment. -/
def takeOver (s : State) (entry : String × String) : State :=
  match functionIn? entry.1 with
  | some name =>
    match functionOf? entry.2 with
    | some body =>
      let f : Function := ⟨body, "environment", 0, true, false⟩
      { s with own := { s.own with functions := (name, f) :: s.own.functions } }
    | none => s
  | none =>
    if Setting.isName entry.1 && !(["SHELLOPTS", "BASHOPTS", "_"].contains entry.1) then
      Store.withScopes s fun scopes => scopes.put entry.1 ⟨.text entry.2, ['x']⟩
    else s

/-- Gives a variable a text and attributes, if it has none or in any case. -/
def give (always : Bool) (name text : String) (attributes : List Char) (s : State) : State :=
  match s.own.scopes.find? name with
  | some v =>
    if always then
      Store.withScopes s fun scopes =>
        scopes.put name { (attributes.foldl Variable.withAttribute v) with value := .text text }
    else s
  | none => Store.withScopes s fun scopes => scopes.put name ⟨.text text, attributes⟩

/-- The places in which programs are looked for unless the environment lists others. -/
def usualPlaces : String := "/usr/local/sbin:/usr/local/bin:/usr/sbin:/usr/bin:/sbin:/bin"

/-- The variables of a shell that is called by a name. -/
def withVariables (s : State) : State :=
  let own : Own :=
    { Own.initial with enabled := Switches.initial, start := Store.now s, seed := s.process }
  let s := s.values.foldl takeOver { s with own }
  let level := ((Store.textOf? s "SHLVL").bind String.toNat?).getD 0
  let path := (Store.textOf? s "PATH").getD usualPlaces
  let found := if s.self.toList.contains '/' then s.self
    else (Lookup.path? s path s.self).getD s.self
  let steps : List (State → State) :=
    [give false "PATH" usualPlaces [], give false "TERM" "dumb" [], give false "PS4" "+ " [],
      give true "IFS" Field.usualDividers [], give false "HOSTTYPE" "x86_64" [],
      give false "OSTYPE" "linux-gnu" [], give false "MACHTYPE" "x86_64-pc-linux-gnu" [],
      give true "SHLVL" (toString (level + 1)) ['x'],
      give true "PPID" (toString (s.ancestors.headD 1)) ['i', 'r'],
      give true "OPTIND" "1" ['i'], give true "OPTERR" "1" [], give true "BASH" found [],
      give true "UID" (toString Store.userNumber) ['i', 'r'],
      give true "EUID" (toString Store.userNumber) ['i', 'r'],
      give true "BASH_VERSION" version []]
  let s := steps.foldl (fun s step => step s) s
  Store.withScopes s fun scopes =>
    scopes.put "BASH_VERSINFO" ⟨.ofTexts versionParts, ['a', 'r']⟩

/-! ## Scripts -/

section
variable (launcher : Launcher)

/-- Whether enough has been read for the next line of a script. -/
def isWhole (s : State) (number : Nat) (bytes : ByteArray) : Bool :=
  let text := ofBytes bytes
  text.endsWith "\n"
    && ((Run.lineOf s (.ofText text number)).1.flaw.all fun flaw => !flaw.isAtEnd)

/-- Carries out the script that there is to be read, line by line. -/
def runInput : Nat → Nat → Effect Unit
  | 0, _ => throw .exhausted
  | fuel + 1, number => do
    let s ← state
    let channel := s.channelOf 0
    match ← offered channel (isWhole s number) with
    | .error _ => pure ()
    | .ok bytes =>
      if !bytes.isEmpty then
        let (line, after) := Run.lineOf (← state) (.ofText (ofBytes bytes) number)
        passOver channel (toBytes (String.ofList line.source)).size
        if ← Run.runLine launcher fuel .plain none line after.line then
          if !line.source.isEmpty then runInput fuel after.line

/-- Carries out the script in a file. -/
def runScript (fuel : Nat) (name file : String) (rest : List String) : Effect Unit := do
  let s ← state
  let found := if file.toList.contains '/' then none
    else match s.world.stat ⟨toText file⟩ with
      | .ok _ => none
      | .error _ => Lookup.path? s (Lookup.places s) file
  let p := found.getD file
  match ← Run.scriptText s ⟨toText p⟩ with
  | .ok text =>
    if Programs.isBinary (toBytes text) then
      complain (file ++ ": " ++ file ++ ": cannot execute binary file")
      throw (.exit 126)
    let call : Call := ⟨"main", file, 0, false, rest⟩
    change fun s =>
      { s with self := file, arguments := rest, own := { s.own with calls := [call] } }
    Run.concluded launcher fuel
      (deeper (Run.runLines launcher fuel .plain none false (.ofText text 1)))
  | .error .isADirectory =>
    complain (file ++ ": " ++ file ++ ": Is a directory")
    throw (.exit 126)
  | .error fault =>
    complain (name ++ ": " ++ file ++ ": " ++ fault.reason)
    throw (.exit (if fault = .notFound then 127 else 126))

/-- Does what the extended shell does with its arguments. -/
def run (fuel : Nat) (arguments : List String) : Effect Unit := do
  change fun s => { withVariables s with dialect := some .extended }
  let name := (← state).self
  match Wish.ofArguments arguments with
  | .error flaw => refuse flaw
  | .ok wish =>
    wish.switches.forM fun (switch, isOn) => changeOwn fun own => own.turn switch isOn
    if wish.shown.isSome then
      say ("GNU bash, version " ++ version ++ " (x86_64-pc-linux-gnu)\n")
    else
      Directories.start
      changeOwn fun own => { own with lastArgument := name }
      match wish.hasText, wish.words with
      | true, [] =>
        complain (name ++ ": -c: option requires an argument")
        throw (.exit misuse)
      | true, text :: words =>
        change fun s =>
          { give true "BASH_EXECUTION_STRING" text [] s with
            self := words.headD s.self
            arguments := words.drop 1 }
        changeOwn fun own => { own with commandText := some text }
        let standing := Standing.plain.asLast
        Run.concluded launcher fuel (deeper (Run.runText launcher fuel standing "-c" 1 text))
      | false, words =>
        match words, wish.readsInput with
        | file :: rest, false => runScript launcher fuel name file rest
        | rest, _ =>
          change fun s => { s with arguments := rest }
          changeOwn fun own => own.turn "stdin" true
          Run.concluded launcher fuel (deeper (runInput launcher fuel 1))

end

end Start
end Extended
end Shell
end SuiteCoverage
