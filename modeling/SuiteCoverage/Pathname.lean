/-!
# Path names

A path name is kept in the spelling it was given in, and that spelling is what messages and
reports show. Two path names are *the same path* when their components agree: doubled
separators, a separator at the end and `.` inside a path do not count, while a leading `.` and
every `..` do. Order is by components too, so that a directory comes right before what is in
it.

Everything that does not depend on the spelling is defined through `Pathname.components`.
-/

set_option autoImplicit false

namespace SuiteCoverage

/-- A step of a path. -/
inductive Component where
  /-- The root of the file system. -/
  | root
  /-- A leading `.`. -/
  | here
  /-- `..`. -/
  | up
  | name (text : String)
deriving DecidableEq, Repr

namespace Component

/-- The kinds of components in ascending order, and the text of a name. -/
def rank : Component → Nat × String
  | root => (0, "")
  | here => (1, "")
  | up => (2, "")
  | name text => (3, text)

theorem rank_injective {a b : Component} (h : a.rank = b.rank) : a = b := by
  cases a <;> cases b <;> simp_all [rank]

/-- The order of components: by kind, names among themselves by their characters. The order of
    code points is also the order of the bytes that encode them. -/
def order : Component → Component → Ordering :=
  compareLex (compareOn fun c => c.rank.1) (compareOn fun c => c.rank.2)

instance : Ord Component := ⟨order⟩

instance : Std.TransOrd Component :=
  inferInstanceAs
    (Std.TransCmp (compareLex (compareOn fun c : Component => c.rank.1)
      (compareOn fun c : Component => c.rank.2)))

instance : Std.LawfulEqOrd Component where
  eq_of_compare {a b} h := by
    have h : order a b = .eq := h
    simp only [order, compareLex, compareOn, Ordering.then_eq_eq,
      Std.LawfulEqCmp.compare_eq_iff_eq] at h
    exact rank_injective (Prod.ext h.1 h.2)
  compare_self := by
    intro a
    show order a a = .eq
    simp [order, compareLex, compareOn]

end Component

/-- A path in a definite spelling. -/
structure Pathname where
  spelling : String
deriving DecidableEq, Repr, Inhabited

namespace Pathname

/-! ## Components -/

/-- The characters between separators: an empty piece for every doubled separator. -/
def pieces : List Char → List (List Char)
  | [] => [[]]
  | '/' :: rest => [] :: pieces rest
  | c :: rest =>
    match pieces rest with
    | [] => [[c]]
    | piece :: more => (c :: piece) :: more

/-- What a piece stands for, if for anything, anywhere but at the start of a path. -/
def meaning (piece : List Char) : Option Component :=
  if piece = [] ∨ piece = ['.'] then none
  else if piece = ['.', '.'] then some .up
  else some (.name (String.ofList piece))

/-- What a path starts with, if that is the root or a leading `.`, and the pieces behind it. -/
def split (p : Pathname) : Option Component × List (List Char) :=
  match p.spelling.toList with
  | '/' :: rest => (some .root, pieces rest)
  | text =>
    match pieces text with
    | ['.'] :: more => (some .here, more)
    | all => (none, all)

/-- The components of a path, in order. -/
def components (p : Pathname) : List Component :=
  p.split.1.toList ++ p.split.2.filterMap meaning

/-- Whether the path starts at the root. -/
def isAbsolute (p : Pathname) : Bool :=
  p.spelling.toList.head? == some '/'

/-- Whether `p` and `q` are the same path, whatever their spelling. -/
def same (p q : Pathname) : Bool :=
  p.components == q.components

/-- The order of paths: component by component, a directory before what is in it. -/
def order : Pathname → Pathname → Ordering :=
  compareOn components

instance : Std.TransCmp order :=
  inferInstanceAs (Std.TransCmp (compareOn components))

/-- Paths that neither comes before the other are the same path. -/
theorem order_eq_iff {p q : Pathname} : order p q = .eq ↔ p.components = q.components := by
  simp [order, compareOn, Std.LawfulEqCmp.compare_eq_iff_eq]

theorem same_iff {p q : Pathname} : p.same q = true ↔ p.components = q.components := by
  simp [same]

theorem same_symm {p q : Pathname} (h : p.same q = true) : q.same p = true :=
  same_iff.2 (same_iff.1 h).symm

theorem same_trans {p q r : Pathname} (h : p.same q = true) (h' : q.same r = true) :
    p.same r = true :=
  same_iff.2 ((same_iff.1 h).trans (same_iff.1 h'))

/-! ## Combining and taking apart -/

/-- `q` behind the directory `p`: a separator goes between them unless `p` is empty or ends in
    one, and an absolute `q` stands alone. -/
def join (p q : Pathname) : Pathname :=
  if q.isAbsolute then q
  else if p.spelling.isEmpty || p.spelling.toList.getLast? == some '/' then
    ⟨p.spelling ++ q.spelling⟩
  else ⟨p.spelling ++ "/" ++ q.spelling⟩

/-- The spelling of a path without the separators at its end. -/
def withoutEndSeparators (p : Pathname) : Pathname :=
  ⟨String.ofList (p.spelling.toList.reverse.dropWhile (· == '/')).reverse⟩

/-- The last component, if it is a name. -/
def fileName? (p : Pathname) : Option String :=
  match p.components.getLast? with
  | some (.name text) => some text
  | _ => none

/-- What follows the last point of a file name that has something before that point. -/
def extensionOf? (name : String) : Option String :=
  let tail := name.toList.reverse.takeWhile (· != '.')
  if tail.length + 1 < name.length then some (String.ofList tail.reverse) else none

/-- The extension of the last component. -/
def extension? (p : Pathname) : Option String :=
  p.fileName?.bind extensionOf?

/-- Whether the components of `base` are the first of those of `p`. -/
def startsWith (p base : Pathname) : Bool :=
  base.components.isPrefixOf p.components

/-- Takes pieces that stand for nothing off the front. -/
def trimFront (body : List (List Char)) : List (List Char) :=
  body.dropWhile fun piece => (meaning piece).isNone

/-- Takes pieces that stand for nothing off the end. -/
def trimBack (body : List (List Char)) : List (List Char) :=
  (trimFront body.reverse).reverse

/-- The path that starts as given and goes on with the given pieces. -/
def spell : Option Component → List (List Char) → Pathname
  | some .root, [] => ⟨"/"⟩
  | some .root, body => ⟨String.ofList (List.intercalate ['/'] ([] :: body))⟩
  | some .here, body => ⟨String.ofList (List.intercalate ['/'] (['.'] :: body))⟩
  | _, body => ⟨String.ofList (List.intercalate ['/'] body)⟩

/-- The directory that `p` is in, if `p` has a last component that can be taken off. -/
def parent? (p : Pathname) : Option Pathname :=
  match p.split with
  | (start, body) =>
    match trimBack body, start with
    | [], some .here => some ⟨""⟩
    | [], _ => none
    | pieces, start => some (spell start (trimBack pieces.dropLast))

/-- Takes the given components off the front of a body, if they stand there. -/
def dropComponents : List Component → List (List Char) → Option (List (List Char))
  | [], body => some body
  | _ :: _, [] => none
  | c :: wanted, piece :: rest =>
    match meaning piece with
    | none => dropComponents (c :: wanted) rest
    | some d => if c = d then dropComponents wanted rest else none

/-- What is left of `p` behind the directory `base`, spelled as in `p` but without separators
    and `.` at its ends; `none` if `p` does not start with the components of `base`. -/
def below? (p base : Pathname) : Option Pathname :=
  match base.components, p.split with
  | [], (start, body) => some (spell start (trimBack body))
  | c :: wanted, (some d, body) =>
    if c = d then
      (dropComponents wanted body).map fun rest => spell none (trimBack (trimFront rest))
    else none
  | wanted, (none, body) =>
    (dropComponents wanted body).map fun rest => spell none (trimBack (trimFront rest))

end Pathname
end SuiteCoverage
