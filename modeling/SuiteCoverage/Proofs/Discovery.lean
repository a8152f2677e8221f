import SuiteCoverage.Discovery
import SuiteCoverage.Proofs.World.Places
import SuiteCoverage.Proofs.World.Walk

/-!
# Which tests are found

A member is a file that the pattern asks for, told by the names on the way to it (`IsMember`). What
a walk comes to counts as a test or is in the way exactly if it is a member that can be run or one
that offends, so a discovery either has all members that can be run or stops at the first that
offends (`discover_cases`).

The name of a test is the way to it with a slash for every backslash. A backslash can stand in the
name of a file, and then it is lost: the name leads somewhere else (`same_testName_iff`), and two
tests can share it (`twinTree`).
-/

set_option autoImplicit false

namespace SuiteCoverage

namespace Discovery

/-! ## Members -/

/-- A file that the pattern asks for: a regular file below the directory with a name that matches,
    on the way to which there is no directory that is left alone. -/
structure IsMember (facts : Facts) (entries : Entries) (tokens : List Glob.Token) (loc : Location)
    (node : Node) : Prop where
  found : Disk.nodeIn facts entries loc = some node
  regular : node.isRegular = true
  fits : ∃ name, loc.getLast? = some name ∧ Glob.isMatch tokens name.toList = true
  apart : ∀ name ∈ loc.dropLast,
    name ∉ ["target", ".git", "CMakeFiles", ".coverage_profraw", "coverage_html_report"]

/-- Whether the last name of a location has an extension. -/
def HasExtension (loc : Location) : Prop :=
  ∃ name, loc.getLast? = some name ∧ (Pathname.extensionOf? name).isSome

/-- A member that cannot be run and is not passed over either. -/
def Offends (pattern : String) (facts : Facts) (entries : Entries) (tokens : List Glob.Token)
    (loc : Location) : Prop :=
  ∃ node, IsMember facts entries tokens loc node ∧ node.isExecutableBySome = false ∧
    ¬ (pattern = TestCase.usualPattern ∧ HasExtension loc)

/-- The test at a location. -/
def caseAt (root : Pathname) (loc : Location) : TestCase :=
  ⟨testName root (root.at loc), root.at loc⟩

section Members

variable {w : World} {root : Pathname} {pattern : String} {facts : Facts} {entries : Entries}
  {tokens : List Glob.Token} {loc : Location} {node : Node}

theorem IsMember.ne_nil (h : IsMember facts entries tokens loc node) : loc ≠ [] := by
  rintro rfl
  obtain ⟨name, hname, -⟩ := h.fits
  cases hname

theorem isDirectory_of_isRegular (h : node.isRegular = true) : node.isDirectory = false := by
  cases node <;> first | rfl | cases h

/-- A walk comes to every member. -/
theorem isMember_iff (hproper : entries.IsProper) :
    IsMember facts entries tokens loc node ↔
      Visits skipped.contains entries loc node ∧ node.isRegular = true ∧
        Glob.isMatch tokens (loc.getLastD "").toList = true := by
  have hskipped (name : String) : skipped.contains name = false ↔
      name ∉ ["target", ".git", "CMakeFiles", ".coverage_profraw", "coverage_html_report"] := by
    rw [← Bool.not_eq_true, List.contains_iff_mem]
    rfl
  rw [visits_iff hproper facts]
  constructor
  · intro h
    obtain ⟨name, hname, hmatch⟩ := h.fits
    refine ⟨⟨h.ne_nil, h.found, fun dir hdir => (hskipped dir).2 (h.apart dir hdir), ?_⟩, h.regular, ?_⟩
    · rw [isDirectory_of_isRegular h.regular]
      nofun
    · rw [List.getLastD_eq_getLast?, hname]
      exact hmatch
  · rintro ⟨⟨hne, hnode, hdirs, -⟩, hregular, hmatch⟩
    refine ⟨hnode, hregular, ⟨loc.getLast hne, List.getLast?_eq_some_getLast hne, ?_⟩,
      fun dir hdir => (hskipped dir).1 (hdirs dir hdir)⟩
    rw [List.getLastD_eq_getLast?, List.getLast?_eq_some_getLast hne] at hmatch
    exact hmatch

theorem role_eq_test_iff {explicit isMatch : Bool} {found : Found} :
    role explicit isMatch found = .test ↔
      (found.node.isRegular = true ∧ isMatch = true) ∧ found.node.isExecutableBySome = true := by
  unfold role
  cases found.node.isRegular <;> cases isMatch <;> cases found.node.isExecutableBySome <;> simp
  split <;> simp

theorem role_eq_unusable_iff {explicit isMatch : Bool} {found : Found} :
    role explicit isMatch found = .unusable ↔
      (found.node.isRegular = true ∧ isMatch = true) ∧ found.node.isExecutableBySome = false ∧
        (explicit = true ∨ found.path.extension? = none) := by
  unfold role
  cases explicit <;> cases found.node.isRegular <;> cases isMatch <;>
    cases found.node.isExecutableBySome <;> simp

/-- What a walk has come to at a location counts as. -/
def roleAt (root : Pathname) (pattern : String) (tokens : List Glob.Token)
    (site : Location × Node) : Role :=
  role (pattern != TestCase.usualPattern) (Glob.isMatch tokens (site.1.getLastD "").toList)
    (Found.at root site)

/-- What a walk has come to is a test if it is a member that can be run. -/
theorem roleAt_eq_test_iff (hproper : entries.IsProper)
    (hvisits : Visits skipped.contains entries loc node) :
    roleAt root pattern tokens (loc, node) = .test ↔
      IsMember facts entries tokens loc node ∧ node.isExecutableBySome = true := by
  rw [isMember_iff hproper, roleAt, role_eq_test_iff]
  exact ⟨fun h => ⟨⟨hvisits, h.1⟩, h.2⟩, fun h => ⟨h.1.2, h.2⟩⟩

theorem hasExtension_iff (hroot : root.spelling.toList ≠ [])
    (hloc : ∀ name ∈ loc, Pathname.IsEntry name) (hne : loc ≠ []) :
    HasExtension loc ↔ (root.at loc).extension? ≠ none := by
  have hlast := List.getLast?_eq_some_getLast hne
  rw [Pathname.extension?_at hroot hloc hlast, ← Option.isSome_iff_ne_none, HasExtension, hlast]
  constructor
  · rintro ⟨name, hname, hextension⟩
    cases hname
    exact hextension
  · exact fun h => ⟨_, rfl, h⟩

/-- What a walk has come to cannot be used if it is a member that offends. -/
theorem roleAt_eq_unusable_iff (hproper : entries.IsProper) (hroot : root.spelling.toList ≠ [])
    (hvisits : Visits skipped.contains entries loc node) :
    roleAt root pattern tokens (loc, node) = .unusable ↔
      IsMember facts entries tokens loc node ∧ node.isExecutableBySome = false ∧
        ¬ (pattern = TestCase.usualPattern ∧ HasExtension loc) := by
  have hexempt : ((pattern != TestCase.usualPattern) = true ∨
      (root.at loc).extension? = none) ↔
        ¬ (pattern = TestCase.usualPattern ∧ HasExtension loc) := by
    rw [hasExtension_iff hroot (hvisits.isEntry hproper) hvisits.ne_nil, bne_iff_ne, not_and_or,
      not_ne_iff]
  rw [isMember_iff hproper, roleAt, role_eq_unusable_iff, ← hexempt]
  exact ⟨fun h => ⟨⟨hvisits, h.1⟩, h.2⟩, fun h => ⟨h.1.2, h.2⟩⟩

/-! ## What comes of a discovery -/

theorem collect_of_test {site : Location × Node} {rest : List Found}
    (h : roleAt root pattern tokens site = .test) :
    collect root (pattern != TestCase.usualPattern) (fun name => Glob.isMatch tokens name.toList)
        (Found.at root site :: rest)
      = (collect root (pattern != TestCase.usualPattern)
          (fun name => Glob.isMatch tokens name.toList) rest).map (caseAt root site.1 :: ·) := by
  unfold roleAt at h
  rw [collect, Found.name_at, h]
  rfl

theorem collect_of_other {site : Location × Node} {rest : List Found}
    (h : roleAt root pattern tokens site = .other) :
    collect root (pattern != TestCase.usualPattern) (fun name => Glob.isMatch tokens name.toList)
        (Found.at root site :: rest)
      = collect root (pattern != TestCase.usualPattern)
          (fun name => Glob.isMatch tokens name.toList) rest := by
  unfold roleAt at h
  rw [collect, Found.name_at, h]

theorem collect_of_unusable {site : Location × Node} {rest : List Found}
    (h : roleAt root pattern tokens site = .unusable) :
    collect root (pattern != TestCase.usualPattern) (fun name => Glob.isMatch tokens name.toList)
        (Found.at root site :: rest)
      = .error (.notExecutable (root.at site.1)) := by
  unfold roleAt at h
  rw [collect, Found.name_at, h]
  rfl

/-- If nothing that a walk has come to is in the way, its tests are collected. -/
theorem collect_ok {sites : List (Location × Node)}
    (h : ∀ site ∈ sites, roleAt root pattern tokens site ≠ .unusable) :
    collect root (pattern != TestCase.usualPattern) (fun name => Glob.isMatch tokens name.toList)
        (sites.map (Found.at root))
      = .ok ((sites.filter fun site => roleAt root pattern tokens site = .test).map fun site =>
          caseAt root site.1) := by
  induction sites with
  | nil => rfl
  | cons site rest ih =>
    rw [List.forall_mem_cons] at h
    rw [List.map_cons, List.filter_cons]
    cases hrole : roleAt root pattern tokens site with
    | test =>
      rw [collect_of_test hrole, ih h.2]
      rfl
    | other =>
      rw [collect_of_other hrole, ih h.2]
      rfl
    | unusable => exact absurd hrole h.1

/-- What is in the way is told, unless something is in the way before it. -/
theorem collect_error {before behind : List (Location × Node)} {site : Location × Node}
    (h : ∀ other ∈ before, roleAt root pattern tokens other ≠ .unusable)
    (hsite : roleAt root pattern tokens site = .unusable) :
    collect root (pattern != TestCase.usualPattern) (fun name => Glob.isMatch tokens name.toList)
        ((before ++ site :: behind).map (Found.at root))
      = .error (.notExecutable (root.at site.1)) := by
  induction before with
  | nil => exact collect_of_unusable hsite
  | cons other rest ih =>
    rw [List.forall_mem_cons] at h
    rw [List.cons_append, List.map_cons]
    cases hrole : roleAt root pattern tokens other with
    | test =>
      rw [collect_of_test hrole, ih h.2]
      rfl
    | other => rw [collect_of_other hrole, ih h.2]
    | unusable => exact absurd hrole h.1

theorem discover_eq (hroot : w.stat root = .ok (.directory facts entries))
    (hpattern : Glob.read pattern = .ok tokens) :
    discover w root pattern
      = (collect root (pattern != TestCase.usualPattern)
          (fun name => Glob.isMatch tokens name.toList)
          (Node.descendants skipped.contains root (.directory facts entries))).map Suite.ofCases := by
  have hdirectory : w.isDirectory root = true := by
    rw [World.isDirectory, hroot]
    rfl
  rw [discover, hdirectory, hpattern, World.walk, hroot]
  rfl

theorem exists_tokens_of_discover {suite : Suite} (h : discover w root pattern = .ok suite) :
    ∃ tokens, Glob.read pattern = .ok tokens := by
  unfold discover at h
  split at h
  · cases h
  split at h
  · cases h
  · exact ⟨_, ‹_›⟩

theorem spelling_of_stat (hroot : w.stat root = .ok (.directory facts entries)) :
    root.spelling.toList ≠ [] := by
  have hdirectory : w.isDirectory root = true := by
    rw [World.isDirectory, hroot]
    rfl
  intro hempty
  exact World.routeOf_spelling (World.routeOf_of_isDirectory hdirectory)
    (String.toList_eq_nil_iff.1 hempty)

/-- Where the tests are among what a walk has come to. -/
def testsAmong (root : Pathname) (pattern : String) (tokens : List Glob.Token)
    (sites : List (Location × Node)) : List Location :=
  (sites.filter fun site => roleAt root pattern tokens site = .test).map Prod.fst

theorem nodup_testsAmong {sites : List (Location × Node)}
    (horder : sites.Pairwise fun a b => Location.Before a.1 b.1) :
    (testsAmong root pattern tokens sites).Nodup := by
  refine List.pairwise_map.2 ((horder.filter _).imp ?_)
  rintro a b hbefore heq
  rw [heq] at hbefore
  exact Location.not_before_self _ hbefore

/-- A walk comes to every test. -/
theorem mem_testsAmong_iff {sites : List (Location × Node)} (hproper : entries.IsProper)
    (hsites : ∀ loc node, (loc, node) ∈ sites ↔ Visits skipped.contains entries loc node) :
    loc ∈ testsAmong root pattern tokens sites ↔
      ∃ node, IsMember facts entries tokens loc node ∧ node.isExecutableBySome = true := by
  rw [testsAmong, List.mem_map]
  constructor
  · rintro ⟨⟨loc, node⟩, hsite, rfl⟩
    obtain ⟨hmem, hrole⟩ := List.mem_filter.1 hsite
    have hvisits := (hsites _ _).1 hmem
    exact ⟨node, (roleAt_eq_test_iff hproper hvisits).1 (of_decide_eq_true hrole)⟩
  · rintro ⟨node, hmember, hexecutable⟩
    have hvisits := ((isMember_iff hproper).1 hmember).1
    have hrole : roleAt root pattern tokens (loc, node) = .test :=
      (roleAt_eq_test_iff hproper hvisits).2 ⟨hmember, hexecutable⟩
    exact ⟨(loc, node), List.mem_filter.2 ⟨(hsites _ _).2 hvisits, decide_eq_true hrole⟩, rfl⟩

/-- A walk comes to every member that offends. -/
theorem offends_iff {sites : List (Location × Node)} (hproper : entries.IsProper)
    (hroot : root.spelling.toList ≠ [])
    (hsites : ∀ loc node, (loc, node) ∈ sites ↔ Visits skipped.contains entries loc node) :
    Offends pattern facts entries tokens loc ↔
      ∃ node, (loc, node) ∈ sites ∧ roleAt root pattern tokens (loc, node) = .unusable := by
  constructor
  · rintro ⟨node, hmember, hoffends⟩
    have hvisits := ((isMember_iff hproper).1 hmember).1
    exact ⟨node, (hsites _ _).2 hvisits,
      (roleAt_eq_unusable_iff hproper hroot hvisits).2 ⟨hmember, hoffends⟩⟩
  · rintro ⟨node, hsite, hrole⟩
    exact ⟨node, (roleAt_eq_unusable_iff hproper hroot ((hsites _ _).1 hsite)).1 hrole⟩

/-- What comes of a discovery: all members that can be run, or the first one that offends. -/
theorem discover_cases (hroot : w.stat root = .ok (.directory facts entries))
    (hproper : entries.IsProper) (hpattern : Glob.read pattern = .ok tokens) :
    ((∀ loc, ¬ Offends pattern facts entries tokens loc) ∧
      ∃ locs : List Location, locs.Nodup ∧
        (∀ loc, loc ∈ locs ↔ ∃ node, IsMember facts entries tokens loc node ∧
          node.isExecutableBySome = true) ∧
        discover w root pattern = .ok (Suite.ofCases (locs.map (caseAt root)))) ∨
    ∃ loc, Offends pattern facts entries tokens loc ∧
      (∀ other, Offends pattern facts entries tokens other → other ≠ loc → loc.Before other) ∧
      discover w root pattern = .error (.notExecutable (root.at loc)) := by
  have hspelling := spelling_of_stat hroot
  have hwalk : IsWalk skipped.contains root entries _ := isWalk_descendants hproper root facts
  obtain ⟨sites, hfound, horder, hsites⟩ := hwalk
  have hoffends {loc : Location} : Offends pattern facts entries tokens loc ↔
      ∃ node, (loc, node) ∈ sites ∧ roleAt root pattern tokens (loc, node) = .unusable :=
    offends_iff hproper hspelling hsites
  rw [discover_eq hroot hpattern, hfound]
  cases hfind : sites.find? fun site => roleAt root pattern tokens site = .unusable with
  | none =>
    have husable : ∀ site ∈ sites, roleAt root pattern tokens site ≠ .unusable := by
      simpa [List.find?_eq_none] using hfind
    left
    refine ⟨fun loc hoffending => ?_, testsAmong root pattern tokens sites,
      nodup_testsAmong horder, fun loc => mem_testsAmong_iff hproper hsites, ?_⟩
    · obtain ⟨node, hsite, hrole⟩ := hoffends.1 hoffending
      exact husable _ hsite hrole
    · rw [collect_ok husable, testsAmong, List.map_map]
      rfl
  | some site =>
    obtain ⟨hsite, before, behind, rfl, hbefore⟩ := List.find?_eq_some_iff_append.1 hfind
    have hrole := of_decide_eq_true hsite
    have hfirst : ∀ other ∈ before, roleAt root pattern tokens other ≠ .unusable := by
      simpa using hbefore
    right
    refine ⟨site.1, hoffends.2 ⟨site.2, by simp, hrole⟩, ?_, ?_⟩
    · intro other hoffending hne
      obtain ⟨node, hmem, hother⟩ := hoffends.1 hoffending
      rcases List.mem_append.1 hmem with hmem | hmem
      · exact absurd hother (hfirst _ hmem)
      rcases List.mem_cons.1 hmem with rfl | hmem
      · exact absurd rfl hne
      · exact (List.pairwise_cons.1 (List.pairwise_append.1 horder).2.1).1 _ hmem
    · rw [collect_error hfirst hrole]
      rfl

/-- There is no member in the way if all can be run, or if the usual pattern passes over those that
    cannot. -/
theorem forall_not_offends_iff :
    (∀ loc, ¬ Offends pattern facts entries tokens loc) ↔
      (∀ loc node, IsMember facts entries tokens loc node → node.isExecutableBySome = true) ∨
        pattern = TestCase.usualPattern ∧ ∀ loc node, IsMember facts entries tokens loc node →
          node.isExecutableBySome = false → HasExtension loc := by
  constructor
  · intro h
    by_cases hpattern : pattern = TestCase.usualPattern
    · refine .inr ⟨hpattern, fun loc node hmember hnot => ?_⟩
      by_contra hextension
      exact h loc ⟨node, hmember, hnot, fun hexempt => hextension hexempt.2⟩
    · refine .inl fun loc node hmember => ?_
      by_contra hnot
      exact h loc ⟨node, hmember, Bool.eq_false_of_not_eq_true hnot,
        fun hexempt => hpattern hexempt.1⟩
  · rintro (hall | ⟨hpattern, hexempt⟩) loc ⟨node, hmember, hnot, hoffends⟩
    · rw [hall loc node hmember] at hnot
      cases hnot
    · exact hoffends ⟨hpattern, hexempt loc node hmember hnot⟩

/-- A suite has the tests that it is made of, in the order of the bytes of their names. -/
theorem cases_ofCases (root : Pathname) (locs : List Location) :
    ∃ sorted : List Location, sorted.Perm locs ∧
      (Suite.ofCases (locs.map (caseAt root))).cases = sorted.map (caseAt root) ∧
      (Suite.ofCases (locs.map (caseAt root))).cases.Pairwise
        fun a b => bytesOf a.name ≤ bytesOf b.name := by
  have hmap : (locs.mergeSort fun a b =>
        (compare (caseAt root a).name (caseAt root b).name).isLE).map (caseAt root)
      = (Suite.ofCases (locs.map (caseAt root))).cases := List.map_mergeSort fun _ _ _ _ => rfl
  have hsorted : (Suite.ofCases (locs.map (caseAt root))).cases.Pairwise
      fun a b => a.name ≤ b.name := pairwise_mergeSort_compare TestCase.name _
  refine ⟨_, List.mergeSort_perm _ _, hmap.symm, hsorted.imp fun {a b} hle hlt => ?_⟩
  exact absurd hle (not_le_of_gt (lt_iff_bytesOf_lt.2 hlt))

/-- Discovery finds exactly the members that can be run: if no member is in the way, each of them is
    a test of the suite, once, and the tests are in the order of their names; otherwise the first
    member in the way is told, in the order of a walk. -/
theorem discover_exact (hroot : w.stat root = .ok (.directory facts entries))
    (hproper : entries.IsProper) (hpattern : Glob.read pattern = .ok tokens) :
    let member := IsMember facts entries tokens
    let usable := (∀ loc node, member loc node → node.isExecutableBySome = true) ∨
      pattern = TestCase.usualPattern ∧
        ∀ loc node, member loc node → node.isExecutableBySome = false → HasExtension loc
    (usable → ∃ (suite : Suite) (locs : List Location), discover w root pattern = .ok suite ∧
      suite.cases = locs.map (caseAt root) ∧ locs.Nodup ∧
      (∀ loc, loc ∈ locs ↔ ∃ node, member loc node ∧ node.isExecutableBySome = true) ∧
      (suite.cases.map (·.path)).Nodup ∧
      suite.cases.Pairwise fun a b => bytesOf a.name ≤ bytesOf b.name) ∧
    (¬ usable → ∃ loc, Offends pattern facts entries tokens loc ∧
      (∀ other, Offends pattern facts entries tokens other → other ≠ loc → loc.Before other) ∧
      discover w root pattern = .error (.notExecutable (root.at loc))) := by
  intro member usable
  have husable : (∀ loc, ¬ Offends pattern facts entries tokens loc) ↔ usable :=
    forall_not_offends_iff
  rcases discover_cases hroot hproper hpattern with
    ⟨hnone, locs, hnodup, hlocs, hdiscover⟩ | ⟨loc, hoffends, hfirst, hdiscover⟩
  · refine ⟨fun _ => ?_, fun hnot => absurd (husable.1 hnone) hnot⟩
    obtain ⟨sorted, hperm, hcases, horder⟩ := cases_ofCases root locs
    have hmem (loc : Location) : loc ∈ sorted ↔ ∃ node, member loc node ∧
        node.isExecutableBySome = true := hperm.mem_iff.trans (hlocs loc)
    have hentries : ∀ loc ∈ sorted, ∀ name ∈ loc, Pathname.IsEntry name := by
      intro loc hloc
      obtain ⟨node, hmember, -⟩ := (hmem loc).1 hloc
      exact ((isMember_iff hproper).1 hmember).1.isEntry hproper
    refine ⟨_, sorted, hdiscover, hcases, hperm.nodup_iff.2 hnodup, hmem, ?_, horder⟩
    rw [hcases, List.map_map]
    exact Pathname.nodup_map_at (spelling_of_stat hroot) hentries (hperm.nodup_iff.2 hnodup)
  · exact ⟨fun h => absurd hoffends (husable.2 h loc), fun _ => ⟨loc, hoffends, hfirst, hdiscover⟩⟩

/-- A directory of the given entries. -/
def folder (entries : Entries) : Node := .directory (.new .program 0) entries

/-- An empty file with a mode. -/
def blank (mode : Mode) : Node := .file .empty (.new mode 0)

/-- A world with the given entries in its root, where a run works. -/
def worldOf (entries : Entries) : World :=
  ⟨⟨entries⟩, .ofLocation [], [], 0, [], World.usualMask, ⟨"", ""⟩, 0⟩

theorem stat_worldOf (entries : Entries) :
    (worldOf entries).stat ⟨"."⟩ = .ok (.directory Disk.rootFacts entries) := by
  have hshort : ¬ pathLimit ≤ ".".utf8ByteSize := by decide +kernel
  have hroute : World.routeOf ⟨"."⟩ = .ok (Route.ofText ".") := by
    unfold World.routeOf
    simp [hshort]
  have hsteps : (Route.ofText ".").steps = [.stay] := by decide +kernel
  have hrelative : Pathname.isAbsolute ⟨"."⟩ = false := by decide +kernel
  have hlocate : (worldOf entries).locate .through ⟨"."⟩
      = .ok (.present [] (.directory Disk.rootFacts entries)) := by
    unfold World.locate World.follow
    rw [hroute]
    simp only [hsteps, hrelative]
    rw [if_neg Bool.false_ne_true, Disk.followFrom_of_lost_nil rfl, World.linkLimit, Disk.follow,
      Disk.walk]
    exact if_pos (show Disk.rootFacts.isExecutable = true by decide +kernel)
  rw [World.stat, hlocate]

/-- What the usual pattern is read as. -/
def usualTokens : List Glob.Token :=
  [.char 't', .char 'e', .char 's', .char 't', .char '_', .anyText]

theorem read_usualPattern : Glob.read TestCase.usualPattern = .ok usualTokens := by
  decide +kernel

/-- A directory as builds leave it, with a test that has lost its mode. -/
def buildTree : Entries :=
  [("test_model.cpp", blank .plain), ("target", folder [("test_old", blank .plain)]),
    ("bin", folder [("test_model", blank .program), ("test_data", blank .plain)])]

theorem isProper_buildTree : buildTree.IsProper := by
  refine isProper_of_names (by decide +kernel) (by decide +kernel) ?_
  intro name facts inner hmem
  simp only [buildTree, folder, blank, List.mem_cons, Prod.mk.injEq, Node.directory.injEq,
    reduceCtorEq, and_false, false_or, List.not_mem_nil, or_false] at hmem
  rcases hmem with ⟨-, -, rfl⟩ | ⟨-, -, rfl⟩
  · exact isProper_of_names (by decide +kernel) (by decide +kernel) (by simp)
  · exact isProper_of_names (by decide +kernel) (by decide +kernel) (by simp)

theorem discover_exact_in_build_tree :
    ∃ loc, Offends TestCase.usualPattern Disk.rootFacts buildTree usualTokens loc ∧
      (∀ other, Offends TestCase.usualPattern Disk.rootFacts buildTree usualTokens other →
        other ≠ loc → loc.Before other) ∧
      discover (worldOf buildTree) ⟨"."⟩ TestCase.usualPattern
        = .error (.notExecutable (Pathname.at ⟨"."⟩ loc)) := by
  refine (discover_exact (stat_worldOf buildTree) isProper_buildTree read_usualPattern).2 ?_
  have hmember : IsMember Disk.rootFacts buildTree usualTokens ["bin", "test_data"]
      (blank .plain) :=
    ⟨rfl, rfl, ⟨_, rfl, by decide +kernel⟩, by decide +kernel⟩
  have hnot : (blank .plain).isExecutableBySome = false := by decide +kernel
  rintro (hall | ⟨-, hexempt⟩)
  · exact Bool.false_ne_true (hnot.symm.trans (hall _ _ hmember))
  · obtain ⟨name, hname, hextension⟩ := hexempt _ _ hmember hnot
    cases hname
    exact absurd hextension (by decide +kernel)

/-! ## Names of tests -/

/-- What a character of a path becomes in a name. -/
def nameChar (c : Char) : Char := if c == '\\' then '/' else c

theorem testName_at (hroot : root.spelling.toList ≠ [])
    (hloc : ∀ name ∈ loc, Pathname.IsEntry name) :
    (testName root (root.at loc)).toList
      = (List.intercalate ['/'] (loc.map String.toList)).map nameChar := by
  rw [testName, Pathname.below?_at hroot hloc, Option.getD_some, String.toList_ofList,
    String.toList_ofList]
  rfl

/-- Whether a backslash stands in a name of a location. -/
def HasBackslash (loc : Location) : Prop := ∃ name ∈ loc, '\\' ∈ name.toList

theorem backslash_not_mem_testName (hroot : root.spelling.toList ≠ [])
    (hloc : ∀ name ∈ loc, Pathname.IsEntry name) :
    '\\' ∉ (testName root (root.at loc)).toList := by
  rw [testName_at hroot hloc]
  intro hmem
  obtain ⟨c, -, hc⟩ := List.mem_map.1 hmem
  unfold nameChar at hc
  split at hc
  · cases hc
  · rename_i hne
    exact hne (by rw [hc]; rfl)

/-- Without a backslash, the name of a test is the way to it. -/
theorem testName_eq (hroot : root.spelling.toList ≠ [])
    (hloc : ∀ name ∈ loc, Pathname.IsEntry name) (hplain : ¬ HasBackslash loc) :
    (testName root (root.at loc)).toList = List.intercalate ['/'] (loc.map String.toList) := by
  rw [testName_at hroot hloc]
  refine List.map_congr_left (g := id) (fun c hc => ?_) |>.trans (List.map_id _)
  have hne : c ≠ '\\' := by
    rintro rfl
    rcases Text.mem_of_mem_intercalate hc with hseparator | ⟨piece, hpiece, hmem⟩
    · exact absurd hseparator (by decide)
    · obtain ⟨name, hname, rfl⟩ := List.mem_map.1 hpiece
      exact hplain ⟨name, hname, hmem⟩
  rw [nameChar, if_neg (by simpa using hne)]
  rfl

/-- Names that are told apart by their ways are told apart. -/
theorem testName_inj {other : Location} (hroot : root.spelling.toList ≠ [])
    (hloc : ∀ name ∈ loc, Pathname.IsEntry name) (hother : ∀ name ∈ other, Pathname.IsEntry name)
    (hne : loc ≠ []) (hne' : other ≠ []) (hplain : ¬ HasBackslash loc)
    (hplain' : ¬ HasBackslash other)
    (h : testName root (root.at loc) = testName root (root.at other)) : loc = other := by
  have hpieces := congrArg (fun name => Pathname.pieces name.toList) h
  rw [testName_eq hroot hloc hplain, testName_eq hroot hother hplain',
    Pathname.pieces_intercalate (by simpa using hne) (Pathname.single_of_isEntry hloc),
    Pathname.pieces_intercalate (by simpa using hne') (Pathname.single_of_isEntry hother)] at hpieces
  exact List.map_injective_iff.2 (fun _ _ hchars => String.toList_inj.1 hchars) hpieces

/-- The name of a test leads to it if there is no backslash on the way, and only then. -/
theorem same_testName_iff (hroot : root.spelling.toList ≠ [])
    (hloc : ∀ name ∈ loc, Pathname.IsEntry name) (hne : loc ≠ []) :
    (root.join ⟨testName root (root.at loc)⟩).same (root.at loc) = true ↔ ¬ HasBackslash loc := by
  rw [Pathname.same_iff, Pathname.components_at hroot hloc]
  constructor
  · rintro hsame ⟨name, hname, hbackslash⟩
    have hnot := backslash_not_mem_testName hroot hloc
    -- The name would be a component of what is spelled without a backslash.
    by_cases habsolute : (⟨testName root (root.at loc)⟩ : Pathname).isAbsolute = true
    · rw [Pathname.join, if_pos habsolute] at hsame
      have hmem : Component.name name
          ∈ (⟨testName root (root.at loc)⟩ : Pathname).components := by
        rw [hsame, List.mem_append]
        exact .inr (List.mem_map_of_mem hname)
      exact hnot (Pathname.mem_of_mem_components hmem hbackslash)
    · rw [Pathname.components_join (Pathname.components_ne_nil hroot) (by simpa using habsolute)]
        at hsame
      have hmem : Component.name name
          ∈ (Pathname.pieces (testName root (root.at loc)).toList).filterMap Pathname.meaning := by
        rw [List.append_cancel_left hsame]
        exact List.mem_map_of_mem hname
      exact hnot (Pathname.mem_of_mem_meaning hmem hbackslash)
  · intro hplain
    have hname := testName_eq hroot hloc hplain
    have hbody : loc.map String.toList ≠ [] := by simpa using hne
    have hrelative : (⟨testName root (root.at loc)⟩ : Pathname).isAbsolute = false := by
      have hspell : (⟨testName root (root.at loc)⟩ : Pathname)
          = Pathname.spell none (loc.map String.toList) := by
        rw [← String.ofList_toList (s := testName root (root.at loc)), hname]
        rfl
      rw [hspell, Pathname.isAbsolute_spell (.inr (.inr rfl)) fun _ piece hpiece => ?_]
      · rfl
      · obtain ⟨name, hmem, rfl⟩ := List.mem_map.1 (List.mem_of_head? hpiece)
        exact ⟨(hloc name hmem).filled, (hloc name hmem).single⟩
    rw [Pathname.components_join (Pathname.components_ne_nil hroot) hrelative, hname,
      Pathname.pieces_intercalate hbody (Pathname.single_of_isEntry hloc),
      Pathname.filterMap_meaning hloc]

/-- The name of a test leads from the directory to the test if no name on the way to it has a
    backslash, which the name has as a separator, and only then. The tests are in the order of their
    names all the same; that no two of them share one takes that there is no backslash. -/
theorem name_leads_to_test_iff (hroot : w.stat root = .ok (.directory facts entries))
    (hproper : entries.IsProper) {suite : Suite} (hsuite : discover w root pattern = .ok suite) :
    ∃ (tokens : List Glob.Token) (locs : List Location), Glob.read pattern = .ok tokens ∧
      suite.cases = locs.map (caseAt root) ∧ locs.Nodup ∧
      (∀ loc, loc ∈ locs ↔ ∃ node, IsMember facts entries tokens loc node ∧
        node.isExecutableBySome = true) ∧
      (∀ loc ∈ locs, (root.join ⟨(caseAt root loc).name⟩).same (caseAt root loc).path = true ↔
        ¬ HasBackslash loc) ∧
      suite.cases.Pairwise (fun a b => bytesOf a.name ≤ bytesOf b.name) ∧
      ((∀ loc ∈ locs, ¬ HasBackslash loc) →
        suite.cases.Pairwise fun a b => bytesOf a.name < bytesOf b.name) := by
  have hspelling := spelling_of_stat hroot
  obtain ⟨tokens, hpattern⟩ := exists_tokens_of_discover hsuite
  rcases discover_cases hroot hproper hpattern with
    ⟨-, locs, hnodup, hlocs, hdiscover⟩ | ⟨loc, -, -, hdiscover⟩
  · cases hsuite.symm.trans hdiscover
    obtain ⟨sorted, hperm, hcases, horder⟩ := cases_ofCases root locs
    have hmem (loc : Location) : loc ∈ sorted ↔ ∃ node, IsMember facts entries tokens loc node ∧
        node.isExecutableBySome = true := hperm.mem_iff.trans (hlocs loc)
    have hmembers : ∀ loc ∈ sorted, (∀ name ∈ loc, Pathname.IsEntry name) ∧ loc ≠ [] := by
      intro loc hloc
      obtain ⟨node, hmember, -⟩ := (hmem loc).1 hloc
      exact ⟨((isMember_iff hproper).1 hmember).1.isEntry hproper, hmember.ne_nil⟩
    refine ⟨tokens, sorted, hpattern, hcases, hperm.nodup_iff.2 hnodup, hmem, ?_, horder, ?_⟩
    · intro loc hloc
      exact same_testName_iff hspelling (hmembers loc hloc).1 (hmembers loc hloc).2
    · intro hplain
      have hdistinct : (sorted.map fun loc => (caseAt root loc).name).Nodup := by
        refine List.Nodup.map_on (fun a ha b hb => ?_) (hperm.nodup_iff.2 hnodup)
        exact testName_inj hspelling (hmembers a ha).1 (hmembers b hb).1 (hmembers a ha).2
          (hmembers b hb).2 (hplain a ha) (hplain b hb)
      rw [hcases] at horder ⊢
      rw [List.pairwise_map] at horder ⊢
      refine (horder.and (List.pairwise_map.1 hdistinct)).imp ?_
      rintro a b ⟨hle, hne⟩
      refine lt_iff_bytesOf_lt.1 (lt_of_le_of_ne ?_ hne)
      exact not_lt.1 fun hlt => hle (lt_iff_bytesOf_lt.1 hlt)
  · cases hsuite.symm.trans hdiscover

end Members

/-- Two tests whose paths differ in what stands between two names. -/
def twinTree : Entries :=
  [("test_d", folder [("test_x", blank .program)]), ("test_d\\test_x", blank .program)]

theorem isProper_twinTree : twinTree.IsProper := by
  refine isProper_of_names (by decide +kernel) (by decide +kernel) ?_
  intro name facts inner hmem
  simp only [twinTree, folder, blank, List.mem_cons, Prod.mk.injEq, Node.directory.injEq,
    reduceCtorEq, and_false, List.not_mem_nil, or_false] at hmem
  obtain ⟨-, -, rfl⟩ := hmem
  exact isProper_of_names (by decide +kernel) (by decide +kernel) (by simp)

theorem node_of_visits_twinTree {loc : Location} {node : Node}
    (h : Visits skipped.contains twinTree loc node) (hregular : node.isRegular = true) :
    node = blank .program := by
  cases h with
  | entry hmem =>
    simp only [twinTree, List.mem_cons, Prod.mk.injEq, List.not_mem_nil, or_false] at hmem
    rcases hmem with ⟨-, rfl⟩ | ⟨-, rfl⟩
    · cases hregular
    · rfl
  | inside hmem _ hinner =>
    simp only [twinTree, folder, blank, List.mem_cons, Prod.mk.injEq, Node.directory.injEq,
      reduceCtorEq, and_false, List.not_mem_nil, or_false] at hmem
    obtain ⟨-, -, rfl⟩ := hmem
    cases hinner with
    | entry hmem => exact (Prod.mk.inj (List.mem_singleton.1 hmem)).2
    | inside hmem => cases (Prod.mk.inj (List.mem_singleton.1 hmem)).2

theorem discover_twinTree : ∃ suite,
    discover (worldOf twinTree) ⟨"."⟩ TestCase.usualPattern = .ok suite ∧
      caseAt ⟨"."⟩ ["test_d", "test_x"] ∈ suite.cases ∧
      caseAt ⟨"."⟩ ["test_d\\test_x"] ∈ suite.cases := by
  have hexecutable : (blank .program).isExecutableBySome = true := by decide +kernel
  rcases discover_cases (stat_worldOf twinTree) isProper_twinTree read_usualPattern with
    ⟨-, locs, -, hlocs, hdiscover⟩ | ⟨loc, ⟨node, hmember, hnot, -⟩, -⟩
  · have hmem {loc : Location}
        (hmember : IsMember Disk.rootFacts twinTree usualTokens loc (blank .program)) :
        caseAt ⟨"."⟩ loc ∈ (Suite.ofCases (locs.map (caseAt ⟨"."⟩))).cases := by
      obtain ⟨sorted, hperm, hcases, -⟩ := cases_ofCases ⟨"."⟩ locs
      rw [hcases]
      exact List.mem_map_of_mem (hperm.mem_iff.2 ((hlocs loc).2 ⟨_, hmember, hexecutable⟩))
    exact ⟨_, hdiscover,
      hmem ⟨rfl, rfl, ⟨_, rfl, by decide +kernel⟩, by decide +kernel⟩,
      hmem ⟨rfl, rfl, ⟨_, rfl, by decide +kernel⟩, by decide +kernel⟩⟩
  · have hvisits := ((isMember_iff isProper_twinTree).1 hmember).1
    rw [node_of_visits_twinTree hvisits hmember.regular, hexecutable] at hnot
    cases hnot

/-- The tests of this tree share a name: it leads to one of them only. -/
theorem twins_share_name : ∃ suite,
    discover (worldOf twinTree) ⟨"."⟩ TestCase.usualPattern = .ok suite ∧
      ⟨"test_d/test_x", ⟨"./test_d/test_x"⟩⟩ ∈ suite.cases ∧
      ⟨"test_d/test_x", ⟨"./test_d\\test_x"⟩⟩ ∈ suite.cases ∧
      (Pathname.join ⟨"."⟩ ⟨"test_d/test_x"⟩).same ⟨"./test_d\\test_x"⟩ = false ∧
      ¬ suite.cases.Pairwise fun a b => bytesOf a.name < bytesOf b.name := by
  obtain ⟨suite, hsuite, hslash, hbackslash⟩ := discover_twinTree
  have hcase : caseAt ⟨"."⟩ ["test_d", "test_x"] = ⟨"test_d/test_x", ⟨"./test_d/test_x"⟩⟩ := by
    decide +kernel
  have htwin : caseAt ⟨"."⟩ ["test_d\\test_x"] = ⟨"test_d/test_x", ⟨"./test_d\\test_x"⟩⟩ := by
    decide +kernel
  rw [hcase] at hslash
  rw [htwin] at hbackslash
  refine ⟨suite, hsuite, hslash, hbackslash, by decide +kernel, fun horder => ?_⟩
  have hnames : (suite.cases.map fun test => bytesOf test.name).Nodup := by
    refine List.pairwise_map.2 (horder.imp ?_)
    intro a b hlt heq
    rw [heq] at hlt
    exact List.lt_irrefl _ hlt
  exact absurd (List.inj_on_of_nodup_map hnames hslash hbackslash rfl) (by decide +kernel)

theorem name_leads_to_test_iff_among_twins : ∃ (suite : Suite) (locs : List Location),
    discover (worldOf twinTree) ⟨"."⟩ TestCase.usualPattern = .ok suite ∧
      suite.cases = locs.map (caseAt ⟨"."⟩) ∧
      ∀ loc ∈ locs, (Pathname.join ⟨"."⟩ ⟨(caseAt ⟨"."⟩ loc).name⟩).same (caseAt ⟨"."⟩ loc).path
        = true ↔ ¬ HasBackslash loc := by
  obtain ⟨suite, hsuite, -⟩ := discover_twinTree
  obtain ⟨_, locs, -, hcases, -, -, hsame, -⟩ :=
    name_leads_to_test_iff (stat_worldOf twinTree) isProper_twinTree hsuite
  exact ⟨suite, locs, hsuite, hcases, hsame⟩

end Discovery
end SuiteCoverage
