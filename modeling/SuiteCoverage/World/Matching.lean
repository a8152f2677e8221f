import SuiteCoverage.Glob
import SuiteCoverage.World.Basic

/-!
# Paths that match a pattern

A pattern of paths is a path whose steps are patterns of names. A step without wildcards is taken
as it is if there is something there; one with wildcards stands for the names in the directory
that match it, in their order, and for the directory itself or the one above it only if it starts
with a point. A step `**` stands for any number of directories on the way, none included, links
to directories among them.

The search keeps what it has still to look at in a list of leads. A lead is a path that was found
and the steps that it has yet to be matched with, the first of them by its own name.
-/

set_option autoImplicit false

namespace SuiteCoverage

/-- The name that tokens without wildcards stand for. -/
def Glob.literal? (tokens : List Glob.Token) : Option String :=
  (tokens.mapM fun
    | Token.char c => some c
    | _ => none).map String.ofList

/-- Whether a step stands for any number of directories. -/
def Glob.isDeep (tokens : List Glob.Token) : Bool :=
  tokens.contains .anySteps

/-- A path that was found, and what is yet to be matched. -/
structure Lead where
  path : Pathname
  isDirectory : Bool
  /-- The steps yet to be matched; `none` if there are none left. -/
  steps : Option (List (List Glob.Token))

namespace World

/-- A path to go on from. -/
def leadTo (w : World) (p : Pathname) (steps : Option (List (List Glob.Token))) : Lead :=
  ⟨p, w.isDirectory p, steps⟩

/-- Whether a path is nothing but the directory worked in. -/
def isHere (p : Pathname) : Bool := p.same ⟨"."⟩

/-- The path of something in a directory; in the one worked in, only the name. -/
def within (p : Pathname) (name : String) : Pathname :=
  if isHere p then ⟨name⟩ else p.join ⟨name⟩

/-- The names in the directory at a path, in order. -/
def namesIn (w : World) (p : Pathname) : List String :=
  match w.list p with
  | .ok entries => (entries.map (·.1)).mergeSort fun a b => (compare a b).isLE
  | .error _ => []

/-- The leads on from a directory with the given steps. -/
def leadsFrom (w : World) : List (List Glob.Token) → Pathname → List Lead
  | [], p => [w.leadTo p none]
  | tokens :: rest, p =>
    if !w.isDirectory p && (Glob.literal? tokens).isNone then []
    else
      match Glob.literal? tokens with
      | some name =>
        let next := within p name
        let there := if name = "." ∨ name = ".." then w.isDirectory p else w.pathExists next
        if there then leadsFrom w rest next else []
      | none =>
        let special (name : String) : List Lead :=
          if tokens.head? = some (.char '.') ∧ Glob.isMatch tokens name.toList then
            leadsFrom w rest (p.join ⟨name⟩)
          else []
        special ".." ++ special "." ++
          (w.namesIn p).map fun name => w.leadTo (within p name) (some (tokens :: rest))

/-- The steps from the last of some deep ones at their start on. -/
def lastDeep : List (List Glob.Token) → List (List Glob.Token)
  | first :: second :: rest =>
    if Glob.isDeep first && Glob.isDeep second then lastDeep (second :: rest)
    else first :: second :: rest
  | steps => steps

/-- Matches the name that a lead has come to: the paths that are complete with it, and the leads
    on from it. -/
def matchName (w : World) (lead : Lead) : List (List Glob.Token) → List Pathname × List Lead
  | [] => ([], [])
  | tokens :: rest =>
    match lead.path.fileName? with
    | none => ([], [])
    | some name =>
      if !Glob.isMatch tokens name.toList then ([], [])
      else if rest.isEmpty then ([lead.path], [])
      else ([], w.leadsFrom rest lead.path)

/-- Follows a lead: the paths that are complete with it, and the leads on from it. -/
def followLead (w : World) (lead : Lead) : List Pathname × List Lead :=
  match lead.steps with
  | none => ([lead.path], [])
  | some steps =>
    match lastDeep steps with
    | [] => ([], [])
    | first :: rest =>
      if !Glob.isDeep first then w.matchName lead (first :: rest)
      else
        let below := if lead.isDirectory then w.leadsFrom (first :: rest) lead.path else []
        if rest.isEmpty then (if lead.isDirectory then [lead.path] else [], below)
        else
          let (found, leads) := w.matchName lead rest
          (found, leads ++ below)

/-- Follows leads, one after another, as many as are granted. -/
def followLeads (w : World) : Nat → List Lead → List Pathname
  | 0, _ => []
  | _, [] => []
  | granted + 1, lead :: rest =>
    let (found, leads) := w.followLead lead
    found ++ followLeads w granted (leads ++ rest)

/-- More leads than there are below any directory of ordinary size. -/
def leadsGranted : Nat := 100000

/-- The root that a path pattern starts from, and the steps behind it. -/
def splitRoot (pattern : List Char) : Pathname × List (List Char) :=
  let pieces := Pathname.pieces pattern
  if pattern.head? = some '/' then (⟨"/"⟩, pieces.drop 1) else (⟨"."⟩, pieces)

/-- The paths that match a pattern. -/
def pathsMatching (w : World) (pattern : String) : Except Glob.Flaw (List Pathname) := do
  let _ ← Glob.read pattern
  let (root, pieces) := splitRoot pattern.toList
  let pieces := if pieces.getLast? = some [] then pieces.dropLast else pieces
  let steps ← pieces.mapM fun piece => Glob.read (String.ofList piece)
  return w.followLeads leadsGranted (w.leadsFrom steps root)

end World
end SuiteCoverage
