import SuiteCoverage.Shell.Utility.Order

/-!
# Listing directories

The names in directories are shown one below the other, those that start with a point only if they
are asked for. What is known of the files can be shown along with their names.
-/

set_option autoImplicit false

namespace SuiteCoverage
namespace Shell
namespace Utility

open Effect

/-- The options of `ls`. -/
def lsFlags : Flags :=
  ⟨"aAbBcCdfFgGhHiklLmnNopqQrRsStuUvxXZ1DYEM".toList, "ITwYWE".toList,
    [("all", 'a'), ("almost-all", 'A'), ("classify", 'F'), ("directory", 'd'), ("recursive", 'R'),
      ("reverse", 'r'), ("human-readable", 'h'), ("inode", 'i'), ("size", 's'),
      ("numeric-uid-gid", 'n'), ("no-group", 'G'), ("literal", 'N'), ("quote-name", 'Q'),
      ("escape", 'b'), ("ignore", 'I'), ("ignore-backups", 'B'), ("dereference", 'L'),
      ("color", 'Y'), ("group-directories-first", 'D'), ("width", 'w'), ("sort", 'W'),
      ("file-type", 'M'), ("zero", 'E')]⟩

/-- Something that is listed. -/
structure Listable where
  name : String
  node : Node
  /-- The number of names that it has. -/
  links : Nat

/-- The number of bytes of a node. -/
def sizeOfNode : Node → Nat
  | .file content _ => content.size
  | .link target => target.utf8ByteSize
  | .program name => name.utf8ByteSize
  | .directory .. => 4096
  | _ => 0

/-- The number of names that a node has. A directory has one from above, one of its own, and one
    from each directory in it. -/
def linksOf (disk : Disk) (node : Node) : Nat :=
  match node with
  | .directory _ entries => 2 + (entries.filter fun entry => entry.2.isDirectory).length
  | node =>
    match node.facts.identity with
    | some identity => ((Entries.identities disk.root).filter (· == identity)).length
    | none => 1

/-- The letter for the kind of a node. -/
def kindLetter : Node → Char
  | .directory .. => 'd'
  | .link _ => 'l'
  | .device _ => 'c'
  | .queue .. => 'p'
  | _ => '-'

/-- The kind and the mode of a node in letters. -/
def nodeLetters (node : Node) : String :=
  String.ofList (kindLetter node :: node.mode.shown.toList)

/-- The sign behind the name of a node. -/
def signOf (choice : Flags.Choice) (node : Node) : String :=
  let isClassified := choice.has 'F'
  let isMarked := isClassified || choice.has 'M'
  match node with
  | .directory .. => if isMarked || choice.has 'p' then "/" else ""
  | .link _ => if isMarked then "@" else ""
  | .queue .. => if isMarked then "|" else ""
  | node => if isClassified && node.isExecutableBySome then "*" else ""

/-- The part of a name from its last point on. -/
def nameEnding (name : String) : List Char :=
  let chars := name.toList
  let ending := chars.reverse.takeWhile (· != '.')
  if ending.length == chars.length then [] else '.' :: ending.reverse

/-- How options ask for names to be sorted. -/
def sortingOf (choice : Flags.Choice) : Char :=
  match (choice.value? 'W') with
  | some "time" => 't'
  | some "size" => 'S'
  | some "extension" => 'X'
  | some "version" => 'v'
  | some "none" => 'U'
  | _ =>
    (((choice.options.reverse.find? fun option => "tSXvUf".toList.contains option.1).map
      (·.1)).getD 'n')

/-- Entries in the order in which they are shown. -/
def arranged (choice : Flags.Choice) (items : List Listable) : List Listable :=
  let byName (a b : Listable) : Ordering := compare a.name b.name
  let order (a b : Listable) : Ordering :=
    match sortingOf choice with
    | 't' => (compare b.node.facts.changed a.node.facts.changed).then (byName a b)
    | 'S' => (compare (sizeOfNode b.node) (sizeOfNode a.node)).then (byName a b)
    | 'X' =>
      (compare (String.ofList (nameEnding a.name)) (String.ofList (nameEnding b.name))).then
        (byName a b)
    | 'v' =>
      (Comparing.compareVersions (a.name.length + b.name.length + 1) a.name.toList
        b.name.toList).then (byName a b)
    | _ => byName a b
  let isUnsorted := ['U', 'f'].contains (sortingOf choice)
  let sorted := if isUnsorted then items else items.mergeSort fun a b => (order a b).isLE
  let turned := if choice.has 'r' && !isUnsorted then sorted.reverse else sorted
  if choice.has 'D' then
    turned.filter (·.node.isDirectory) ++ turned.filter fun item => !item.node.isDirectory
  else turned

/-- A name as it is shown. -/
def shownName (choice : Flags.Choice) (name : String) : String :=
  if choice.has 'Q' then "\"" ++ String.ofList (name.toList.flatMap escaped) ++ "\""
  else if choice.has 'b' then
    String.ofList (name.toList.flatMap fun c => if c == ' ' then ['\\', ' '] else escaped c)
  else if choice.has 'q' then
    String.ofList (name.toList.map fun c => if Quoting.isVisible c then c else '?')
  else name
where
  /-- A character with a backslash in front if it has to have one. -/
  escaped (c : Char) : List Char :=
    if c == '"' && choice.has 'Q' then ['\\', '"']
    else if c == '\\' then ['\\', '\\']
    else if Quoting.isVisible c then [c]
    else Quoting.escapeOf c

/-- The number of blocks of a node, 1024 bytes each. -/
def blocksOf (node : Node) : Nat :=
  match node with
  | .file content _ => (content.size + 4095) / 4096 * 4
  | .program _ => 4
  | .directory .. => 4
  | _ => 0

/-- A size with a unit behind it: at least ten of the unit as a whole number, less with one digit
    behind the point, always rounded up. -/
def humanSize (base n : Nat) : String :=
  let units := ["", "K", "M", "G", "T", "P", "E"]
  let rec climb : Nat → Nat → List String → String
    | 0, _, _ => toString n
    | _, _, [] => toString n
    | fuel + 1, scale, unit :: rest =>
      if n < scale * base || rest.isEmpty then
        if scale == 1 then toString n
        else
          let tenths := (10 * n + scale - 1) / scale
          if tenths < 100 then toString (tenths / 10) ++ "." ++ toString (tenths % 10) ++ unit
          else
            let whole := (n + scale - 1) / scale
            if base ≤ whole && !rest.isEmpty then "1.0" ++ rest.headD "" else toString whole ++ unit
      else climb fuel (scale * base) rest
  climb 8 1 units

/-- The name of the owner of a node. -/
def ownerOf (node : Node) : String := if node.facts.isForeign then "root" else "user"

/-- What follows a name: a sign, and where a link leads if that is asked for. -/
def behindName (choice : Flags.Choice) (item : Listable) : String :=
  match item.node with
  | .link target =>
    if "lgno".toList.any choice.has then " -> " ++ ofText target else signOf choice item.node
  | node => signOf choice node

/-- The lines with all that is known of some entries. -/
def longLines (choice : Flags.Choice) (items : List Listable) : List String :=
  let size (item : Listable) : String :=
    if choice.has 'h' then humanSize 1024 (sizeOfNode item.node)
    else toString (sizeOfNode item.node)
  let width (text : Listable → String) : Nat := (items.map fun item => (text item).length).foldl max 0
  let links (item : Listable) : String := toString item.links
  let owner (item : Listable) : String :=
    if choice.has 'n' then (if item.node.facts.isForeign then "0" else "1000") else ownerOf item.node
  let isOwned := !choice.has 'g'
  let isGrouped := !(choice.has 'o' || choice.has 'G')
  items.map fun item =>
    nodeLetters item.node ++ " " ++ Text.padLeft (width links) (links item)
      ++ (if isOwned then " " ++ Text.padRight (width owner) (owner item) else "")
      ++ (if isGrouped then " " ++ Text.padRight (width owner) (owner item) else "")
      ++ " " ++ Text.padLeft (width size) (size item) ++ " Jun 15 15:06 "
      ++ shownName choice item.name ++ behindName choice item

/-- Names with commas between them, in lines that are not too wide. -/
def commaLines (width : Nat) (names : List String) : List String :=
  let step (found : List String × String) (name : String) : List String × String :=
    let (done, current) := found
    if current.isEmpty then (done, name)
    else if width ≤ current.length + 2 + name.length + 1 then (done ++ [current ++ ","], name)
    else (done, current ++ ", " ++ name)
  let (done, current) := names.foldl step ([], "")
  if names.isEmpty then [] else done ++ [current]

/-- Names in columns, in lines that are not too wide. -/
def columnLines (across : Bool) (width : Nat) (names : List String) : List String :=
  let count := names.length
  let fits (columns : Nat) : Option (List Nat × Nat) :=
    let rows := (count + columns - 1) / columns
    let place (i : Nat) : Nat := if across then i % columns else i / rows
    let widths := (List.range columns).map fun column =>
      ((names.zipIdx.filter fun entry => place entry.2 == column).map
        fun entry => entry.1.length + 2).foldl max 0
    let used := widths.foldl (· + ·) 0 - 2
    if used < width && widths.all (0 < ·) then some (widths, rows) else none
  match ((List.range' 1 count).reverse.findSome? fits) with
  | none => names
  | some (widths, rows) =>
    let columns := widths.length
    (List.range rows).map fun row =>
      let cells := (List.range columns).filterMap fun column =>
        let i := if across then row * columns + column else column * rows + row
        (names[i]?).map fun name => (name, widths[column]?.getD 0)
      let last := cells.length - 1
      String.join (cells.zipIdx.map fun ((name, width), i) =>
        if i == last then name else Text.padRight width name)

/-- The lines for some entries. -/
def entryLines (choice : Flags.Choice) (items : List Listable) : List String :=
  let items := arranged choice items
  let isLong := "lgno".toList.any choice.has
  let lead (item : Listable) : String :=
    if choice.has 's' then
      let width := (items.map fun item => (toString (blocksOf item.node)).length).foldl max 0
      Text.padLeft width (toString (blocksOf item.node)) ++ " "
    else ""
  let last := (choice.options.reverse.find? fun option =>
    "1mCxlgno".toList.contains option.1).map (·.1)
  if isLong then (items.zip (longLines choice items)).map fun (item, line) => lead item ++ line
  else
    let names := items.map fun item =>
      lead item ++ shownName choice item.name ++ behindName choice item
    let width := ((choice.value? 'w').bind count?).getD 80
    match last with
    | some 'm' => commaLines width names
    | some 'C' => columnLines false width names
    | some 'x' => columnLines true width names
    | _ => names

/-- Whether an entry of a directory is shown. -/
def isListed (choice : Flags.Choice) (name : String) : Bool :=
  let isHidden := name.toList.head? == some '.'
  let matchesAny := (choice.options.filter (·.1 == 'I')).any fun option =>
    Glob.isMatch (patternOf option.2) name.toList
  (!isHidden || "aAf".toList.any choice.has) && !matchesAny
    && !(choice.has 'B' && name.toList.getLast? == some '~')

/-- Lists a directory, and behind it the directories in it if they are asked for, each with its path
    in front. Gives back whether all of them could be read. -/
def listDirectory (choice : Flags.Choice) : Nat → Bool → Bool → String → Effect Bool
  | 0, _, _, _ => return true
  | fuel + 1, hasTitle, isFirst, path => do
    let w := (← state).world
    let title := (if isFirst then "" else "\n") ++ if hasTitle then path ++ ":\n" else ""
    match w.list (pathOf path) with
    | .error fault =>
      blame (usual "cannot open directory" path fault)
      return false
    | .ok entries =>
      say title
      let itemOf (entry : String × Node) : Listable :=
        let node := if choice.has 'L' then
            ((w.stat (pathOf (path ++ "/" ++ ofText entry.1))).toOption).getD entry.2
          else entry.2
        ⟨ofText entry.1, node, linksOf w.disk node⟩
      let items := (entries.map itemOf).filter fun item => isListed choice item.name
      let here := ((w.stat (pathOf path)).toOption).getD Node.gone
      let own := if "af".toList.any choice.has then
          [⟨".", here, linksOf w.disk here⟩, ⟨"..", Node.gone, 2⟩]
        else ([] : List Listable)
      if "lgnos".toList.any choice.has then
        let blocks := ((own ++ items).map fun item => blocksOf item.node).foldl (· + ·) 0
        say ("total " ++ (if choice.has 'h' then humanSize 1024 (blocks * 1024) else toString blocks)
          ++ "\n")
      say (String.join ((entryLines choice (own ++ items)).map (· ++ "\n")))
      if choice.has 'R' then
        let inner := (arranged choice items).filter (·.node.isDirectory)
        let results ← inner.mapM fun item =>
          let start := if path.toList.getLast? == some '/' then path else path ++ "/"
          listDirectory choice fuel true false (start ++ item.name)
        return results.all id
      else return true

/-- Lists directories in turn. -/
def listDirectories (choice : Flags.Choice) (hasTitles : Bool) : Bool → List Listable → Effect Bool
  | _, [] => return true
  | isFirst, item :: rest => do
    let isRead ← listDirectory choice 10000 hasTitles isFirst item.name
    let others ← listDirectories choice hasTitles (isFirst && !isRead) rest
    return isRead && others

/-- Lists what is in directories: the names that do not start with a point, or all of them. -/
def ls (arguments : List String) : Effect Unit :=
  withFlags 2 lsFlags arguments fun choice => do
    let operands := if choice.operands.isEmpty then ["."] else choice.operands
    let w := (← state).world
    let isLong := "lgno".toList.any choice.has
    let find (argument : String) : Except Fault Node :=
      if (choice.has 'd' || choice.has 'F' || isLong) && !choice.has 'L' && !choice.has 'H' then
        nodeAt w (pathOf argument)
      else
        match w.stat (pathOf argument) with
        | .error .notFound => nodeAt w (pathOf argument)
        | result => result
    let found ← operands.filterMapM fun argument => do
      match find argument with
      | .ok node => return some (⟨argument, node, linksOf w.disk node⟩ : Listable)
      | .error fault =>
        blame (usual "cannot access" argument fault)
        return none
    let isShown (item : Listable) : Bool := item.node.isDirectory && !choice.has 'd'
    let files := found.filter fun item => !isShown item
    let directories := arranged choice (found.filter isShown)
    say (String.join ((entryLines choice files).map (· ++ "\n")))
    let hasTitles := 1 < operands.length || choice.has 'R'
    let isRead ← listDirectories choice hasTitles files.isEmpty directories
    setStatus (if found.length != operands.length then 2
      else if isRead then 0
      else if choice.has 'R' && directories.length == operands.length then 1 else 2)

end Utility
end Shell
end SuiteCoverage
