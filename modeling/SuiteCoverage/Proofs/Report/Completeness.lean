import Mathlib.Data.List.Basic
import SuiteCoverage.Proofs.Report.Filling

/-!
# Complete reports

A report is complete if there is an index, a page for every file behind the link that the index has
for it, the note, and nothing else. `write_complete_iff` tells when: if nothing else was in the
directory once it had been made afresh, and no file is flattened to the name of the index. The page
of such a file is written first and the index over it, and the index then links to itself.

By a plain path the directory is made empty. A path that returns to where it has been may have to
be led through a directory that is made for it, and what is found behind that stays.
-/

set_option autoImplicit false

namespace SuiteCoverage

/-- A path that ends in a name and does not ascend any more once it has descended. -/
structure Pathname.IsPlain (p : Pathname) : Prop where
  ends : ∃ start name, p.route.steps = start ++ [.enter name]
  never_returns : p.NeverReturns

namespace Pages

variable {m : Measurement} {root directory : Pathname} {w renewed next after : World}
  {loc : Location} {percent : Binary64}

/-! ## Reports on a disk -/

/-- The files of a report with their names and the names of their pages. -/
def listing (m : Measurement) (root : Pathname) : List (FileAccount × String × String) :=
  let names := m.files.map fun file => displayName root file.path
  m.files.zip (names.zip (Page.names names))

/-- The lines of the index. -/
def rows (m : Measurement) (root : Pathname) : List Page.Row :=
  let names := m.files.map fun file => displayName root file.path
  Page.indexRows m names (Page.names names)

/-- The names of the files that a report consists of. -/
def fileNames (m : Measurement) (root : Pathname) : List String :=
  Page.names (m.files.map fun file => displayName root file.path) ++ ["index.html"] ++ [ignoreFile]

/-- The world right before the page at a position is written, where `w` is the world before the
    first page. -/
def worldBefore (directory : Pathname) (files : List (FileAccount × String × String)) (w : World)
    (i : Nat) : World :=
  (putFiles directory (files.take i) w).2

/-- There is a file with a text at a location. -/
def HasText (disk : Disk) (loc : Location) (text : String) : Prop :=
  ∃ facts, disk.node? loc = some (.file text.toUTF8 facts)

/-- A complete report on a measurement in the directory at a location; `renewed` is the world after
    the directory has been made afresh. -/
structure Complete (m : Measurement) (root directory : Pathname) (renewed : World) (loc : Location)
    (disk : Disk) : Prop where
  /-- The index, the note and a page for every file are there, and nothing else. -/
  entries : ∃ facts entries, disk.node? loc = some (.directory facts entries) ∧
    entries.length = m.files.length + 2 ∧
    ∀ name, name ∈ Entries.names entries ↔
      name = "index.html" ∨ name = ignoreFile ∨ ∃ row ∈ rows m root, row.page = name
  /-- Behind the link in the line of a file there is the page of that file, made from its source
      as it was right before. -/
  pages : ∀ i file, m.files[i]? = some file → ∃ row, (rows m root)[i]? = some row ∧
    row.name = displayName root file.path ∧
    HasText disk (loc ++ [row.page])
      (Page.ofFile file row.name
        ((worldBefore directory (listing m root) renewed i).readText file.path)
        (worldBefore directory (listing m root) renewed i).clock.today)
  index : HasText disk (loc ++ ["index.html"])
    (Page.index m (rows m root)
      (worldBefore directory (listing m root) renewed m.files.length).clock.today)

theorem length_listing (m : Measurement) (root : Pathname) :
    (listing m root).length = m.files.length := by
  simp [listing, Page.names]

theorem listing_getElem? {i : Nat} {file : FileAccount} (h : m.files[i]? = some file) :
    ∃ page, (listing m root)[i]? = some (file, displayName root file.path, page) := by
  have hpages : i < (Page.names (m.files.map fun file => displayName root file.path)).length := by
    rw [Page.names, Page.length_namesFrom, List.length_map]
    exact (List.getElem?_eq_some_iff.1 h).1
  refine ⟨(Page.names (m.files.map fun file => displayName root file.path))[i], ?_⟩
  simp [listing, List.getElem?_zip_eq_some, h]

theorem rows_eq (m : Measurement) (root : Pathname) :
    rows m root = (listing m root).map fun entry =>
      ⟨entry.2.1, entry.2.2, entry.1.totals, entry.1.excluded.size⟩ := rfl

/-- The names of the pages, in the order of the files. -/
theorem pages_listing (m : Measurement) (root : Pathname) :
    (listing m root).map (·.2.2)
      = Page.names (m.files.map fun file => displayName root file.path) := by
  have hpages : (Page.names (m.files.map fun file => displayName root file.path)).length
      = (m.files.map fun file => displayName root file.path).length := Page.length_namesFrom _ _
  have hboth : ((m.files.map fun file => displayName root file.path).zip
      (Page.names (m.files.map fun file => displayName root file.path))).length
        ≤ m.files.length := by
    rw [List.length_zip, hpages, List.length_map]
    omega
  rw [show (fun entry : FileAccount × String × String => entry.2.2) = Prod.snd ∘ Prod.snd from rfl,
    ← List.map_map, listing, List.map_snd_zip hboth, List.map_snd_zip (Nat.le_of_eq hpages)]

theorem pages_rows (m : Measurement) (root : Pathname) :
    (rows m root).map (·.page)
      = Page.names (m.files.map fun file => displayName root file.path) := by
  rw [rows_eq, List.map_map, ← pages_listing]
  rfl

/-! ## Writing the report -/

theorem bind_eq {α β : Type} {x : ExceptT CoverageError (StateM World) α}
    {f : α → ExceptT CoverageError (StateM World) β} {a : α} (h : x w = (.ok a, next)) :
    (x >>= f) w = f a next := by
  show (match x w with | (result, middle) => ExceptT.bindCont f result middle) = _
  rw [h]
  rfl

/-- What is done one after the other succeeds if each does. -/
theorem bind_ok {α β : Type} {x : ExceptT CoverageError (StateM World) α}
    {f : α → ExceptT CoverageError (StateM World) β} {b : β}
    (h : (x >>= f) w = (.ok b, after)) :
    ∃ a middle, x w = (.ok a, middle) ∧ f a middle = (.ok b, after) := by
  rcases hx : x w with ⟨result, middle⟩
  cases result with
  | error e =>
    have hstop : (x >>= f) w = (.error e, middle) := by
      show (match x w with | (result, middle) => ExceptT.bindCont f result middle) = _
      rw [hx]
      rfl
    rw [hstop] at h
    cases h
  | ok a => exact ⟨a, middle, rfl, (bind_eq hx).symm.trans h⟩

theorem putFile_eq (directory : Pathname) (file : FileAccount) (name page : String) (w : World) :
    putFile directory file name page w
      = put directory page (Page.ofFile file name (w.readText file.path) w.clock.today) w := by
  rfl

/-- What is written with the pages. -/
def texts (directory : Pathname) (files : List (FileAccount × String × String)) (w : World) :
    List (String × String) :=
  files.mapIdx fun i entry => (entry.2.2,
    Page.ofFile entry.1 entry.2.1 ((worldBefore directory files w i).readText entry.1.path)
      (worldBefore directory files w i).clock.today)

theorem texts_cons {file : FileAccount} {name page : String}
    {rest : List (FileAccount × String × String)}
    (h : putFile directory file name page w = (.ok (), next)) :
    texts directory ((file, name, page) :: rest) w
      = (page, Page.ofFile file name (w.readText file.path) w.clock.today)
          :: texts directory rest next := by
  have hbefore (i : Nat) : worldBefore directory ((file, name, page) :: rest) w (i + 1)
      = worldBefore directory rest next i := by
    rw [worldBefore, List.take_succ_cons, putFiles, bind_eq h, worldBefore]
  unfold texts
  rw [List.mapIdx_cons]
  simp only [hbefore]
  rfl

theorem names_texts (directory : Pathname) (files : List (FileAccount × String × String))
    (w : World) : (texts directory files w).map (·.1) = files.map (·.2.2) := by
  refine List.ext_getElem? fun i => ?_
  rw [texts, List.getElem?_map, List.getElem?_mapIdx, Option.map_map, List.getElem?_map]
  rfl

/-- The pages are written into the directory, each after those before it. -/
theorem Filled.putFiles {v : World} {node : Node} {base : Entries}
    {written : List (String × String)} {files : List (FileAccount × String × String)}
    (hloc : v.locate .through directory = .ok (.present loc node))
    (h : Filled v loc base written w)
    (hnames : ∀ entry ∈ files, Pathname.IsEntry entry.2.2 ∧ Direct base entry.2.2)
    (hput : Pages.putFiles directory files w = (.ok (), next)) :
    Filled v loc base (written ++ texts directory files w) next := by
  induction files generalizing w written with
  | nil =>
    cases hput
    simpa [texts] using h
  | cons entry rest ih =>
    obtain ⟨file, name, page⟩ := entry
    rw [Pages.putFiles] at hput
    obtain ⟨_, middle, hpage, hrest⟩ := bind_ok hput
    obtain ⟨hentry, hdirect⟩ := hnames (file, name, page) (by simp)
    have hfilled :=
      h.put hloc hentry hdirect ((putFile_eq directory file name page w).symm.trans hpage)
    rw [texts_cons hpage, List.append_cons]
    exact ih hfilled (fun entry hentry => hnames entry (by simp [hentry])) hrest

/-- The files that a report consists of, in the order in which they are written. -/
def reportTexts (m : Measurement) (root directory : Pathname) (renewed : World) :
    List (String × String) :=
  texts directory (listing m root) renewed ++
    [("index.html", Page.index m (rows m root)
      (worldBefore directory (listing m root) renewed m.files.length).clock.today)] ++
    [(ignoreFile, "*\n")]

theorem names_reportTexts (m : Measurement) (root directory : Pathname) (renewed : World) :
    (reportTexts m root directory renewed).map (·.1) = fileNames m root := by
  rw [reportTexts, List.map_append, List.map_append, names_texts, pages_listing]
  rfl

theorem isEntry_index : Pathname.IsEntry "index.html" := by
  constructor <;> decide

theorem isEntry_ignoreFile : Pathname.IsEntry ignoreFile := by
  constructor <;> decide

theorem page_mem_of_mem_listing {entry : FileAccount × String × String}
    (h : entry ∈ listing m root) :
    entry.2.2 ∈ Page.names (m.files.map fun file => displayName root file.path) := by
  rw [← pages_listing]
  exact List.mem_map_of_mem h

theorem mem_fileNames {name : String} : name ∈ fileNames m root ↔
    name ∈ Page.names (m.files.map fun file => displayName root file.path) ∨
      name = "index.html" ∨ name = ignoreFile := by
  rw [fileNames, List.mem_append, List.mem_append, List.mem_singleton, List.mem_singleton,
    or_assoc]

/-- What writing a report consists of: making the directory afresh, the pages, the index and the
    note. -/
theorem write_ok (h : write m root directory w = (.ok percent, after)) :
    ∃ renewed middle last, renew directory w = (.ok (), renewed) ∧
      putFiles directory (listing m root) renewed = (.ok (), middle) ∧
      put directory "index.html" (Page.index m (rows m root) middle.clock.today) middle
        = (.ok (), last) ∧
      put directory ignoreFile "*\n" last = (.ok (), after) := by
  unfold write at h
  obtain ⟨_, renewed, hrenew, h⟩ := bind_ok h
  obtain ⟨_, middle, hpages, h⟩ := bind_ok h
  obtain ⟨w', _, hget, h⟩ := bind_ok h
  cases hget
  obtain ⟨_, last, hindex, h⟩ := bind_ok h
  obtain ⟨_, final, hnote, h⟩ := bind_ok h
  cases h
  exact ⟨renewed, middle, last, hrenew, hpages, hindex, hnote⟩

/-- The world right before the index is written. -/
theorem worldBefore_of_putFiles {middle : World} {result : Except CoverageError Unit}
    (h : putFiles directory (listing m root) renewed = (result, middle)) :
    worldBefore directory (listing m root) renewed m.files.length = middle := by
  rw [worldBefore, ← length_listing m root, List.take_length, h]

/-- The directory of a report that has been written holds the files of the report. -/
theorem filled_of_write (h : write m root directory w = (.ok percent, after))
    (hrenew : renew directory w = (.ok (), renewed)) {facts : Facts} {base : Entries}
    (hloc : renewed.locate .through directory = .ok (.present loc (.directory facts base)))
    (hnodup : base.names.Nodup) (hdirect : ∀ name ∈ fileNames m root, Direct base name) :
    Filled renewed loc base (reportTexts m root directory renewed) after := by
  obtain ⟨other, middle, last, hother, hpages, hindex, hnote⟩ := write_ok h
  rw [hrenew] at hother
  cases hother
  have hmiddle := worldBefore_of_putFiles hpages
  have hindexDirect : Direct base "index.html" := hdirect _ (mem_fileNames.2 (.inr (.inl rfl)))
  have hnoteDirect : Direct base ignoreFile := hdirect _ (mem_fileNames.2 (.inr (.inr rfl)))
  have hbefore := filled_nil (World.node?_of_locate hloc) hnodup
  have hfilled := hbefore.putFiles hloc (fun entry hentry => by
    have hpage := page_mem_of_mem_listing hentry
    exact ⟨Page.isEntry_of_mem hpage, hdirect _ (mem_fileNames.2 (.inl hpage))⟩) hpages
  rw [reportTexts, hmiddle]
  exact (hfilled.put hloc isEntry_index hindexDirect hindex).put hloc isEntry_ignoreFile
    hnoteDirect hnote

/-- Writing a report writes some file first, right after the directory has been made afresh. -/
theorem exists_put_of_write (h : write m root directory w = (.ok percent, after))
    (hrenew : renew directory w = (.ok (), renewed)) :
    ∃ name text next, Pathname.IsEntry name ∧
      put directory name text renewed = (.ok (), next) := by
  obtain ⟨other, middle, last, hother, hpages, hindex, -⟩ := write_ok h
  rw [hrenew] at hother
  cases hother
  -- The first file is a page, or the index if there are no pages.
  cases hlisting : listing m root with
  | nil =>
    rw [hlisting] at hpages
    cases hpages
    exact ⟨_, _, last, isEntry_index, hindex⟩
  | cons entry rest =>
    obtain ⟨file, name, page⟩ := entry
    rw [hlisting, putFiles] at hpages
    obtain ⟨_, next, hpage, -⟩ := bind_ok hpages
    have hmem : (file, name, page) ∈ listing m root := by
      rw [hlisting]
      exact List.mem_cons_self
    have hentry : Pathname.IsEntry page := Page.isEntry_of_mem (page_mem_of_mem_listing hmem)
    exact ⟨page, _, next, hentry, (putFile_eq directory file name page renewed).symm.trans hpage⟩

/-! ## When a report is complete -/

/-- A plain path leads to an empty directory once it has been made afresh, if a file can be written
    there. -/
theorem empty_of_plain (hplain : directory.IsPlain) (hrenew : renew directory w = (.ok (), renewed))
    {name text : String} (hname : Pathname.IsEntry name)
    (hput : put directory name text renewed = (.ok (), next)) :
    ∃ loc facts, renewed.locate .through directory = .ok (.present loc (.directory facts [])) := by
  obtain ⟨start, last, hsteps⟩ := hplain.ends
  -- A file can be written at the path with a name behind it, so the path leads to a directory.
  obtain ⟨place, hplace⟩ := writeText_located (put_ok hput)
  obtain ⟨hroute, hfollow⟩ := World.locate_ok hplace
  rw [Pathname.route_join hname] at hfollow
  obtain ⟨mid, left, -, hleads, hholds⟩ := Disk.followFrom_last hfollow
  obtain ⟨facts, entries, hmid⟩ :=
    hleads (hholds ⟨last, by simp [hsteps]⟩) directory.route.toDirectory
  have hbase : renewed.baseOf (directory.join ⟨name⟩) = renewed.baseOf directory := by
    rw [World.baseOf, Pathname.isAbsolute_join hname, World.baseOf]
  have hspelling : directory.spelling ≠ "" := by
    intro hempty
    rw [Pathname.steps_route, hempty] at hsteps
    cases start <;> cases hsteps
  obtain ⟨text, htext⟩ := Pathname.join_spelling hname directory
  have hdirectory := World.routeOf_of_append htext hspelling ⟨_, hroute⟩
  rw [hbase, ← World.locate_of_followFrom hdirectory] at hmid
  have hempty := World.bare_renew hplain.never_returns hsteps hrenew mid facts entries hmid
  rw [hempty] at hmid
  exact ⟨mid, facts, hmid⟩

/-- The pages, the index and the note have different names, unless a page is called like the
    index. -/
theorem nodup_fileNames
    (h : "index.html" ∉ Page.names (m.files.map fun file => displayName root file.path)) :
    (fileNames m root).Nodup := by
  have hpages := (Page.nodup_namesFrom [] (m.files.map fun file => displayName root file.path)).1
  rw [fileNames, List.append_assoc]
  refine List.nodup_append.2 ⟨hpages, by decide, fun page hpage name hname => ?_⟩
  rcases List.mem_append.1 hname with hindex | hnote
  · rw [List.mem_singleton] at hindex
    exact fun he => h (hindex ▸ he ▸ hpage)
  · -- The name of the note ends in another letter than those of pages do.
    rw [List.mem_singleton] at hnote
    subst hnote
    exact Page.ne_of_mem_of_getLast? hpage (by decide)

theorem length_fileNames (m : Measurement) (root : Pathname) :
    (fileNames m root).length = m.files.length + 2 := by
  rw [fileNames, List.length_append, List.length_append, Page.names, Page.length_namesFrom,
    List.length_map]
  rfl

/-- The names of the files of a report, with the pages told by the lines of the index. -/
theorem mem_fileNames_iff_rows {name : String} : name ∈ fileNames m root ↔
    name = "index.html" ∨ name = ignoreFile ∨ ∃ row ∈ rows m root, row.page = name := by
  rw [mem_fileNames, ← pages_rows, List.mem_map]
  constructor
  · rintro (hpage | hindex | hnote)
    · exact .inr (.inr hpage)
    · exact .inl hindex
    · exact .inr (.inl hnote)
  · rintro (hindex | hnote | hpage)
    · exact .inr (.inl hindex)
    · exact .inr (.inr hnote)
    · exact .inl hpage

section Held

variable {base : Entries}

/-- What was written last under a name can be read there. -/
theorem Filled.hasText {v : World} {written : List (String × String)}
    (h : Filled v loc base written w) {name text : String}
    (hlast : lastText? written name = some text) : HasText w.disk (loc ++ [name]) text := by
  obtain ⟨facts, entries, hnode, hshows⟩ := h.held
  obtain ⟨found, -, hfind⟩ := hshows.texts name text hlast
  exact ⟨found, by rw [Disk.node?_child hnode, hfind]⟩

/-- The names in the directory of a report that has been written. -/
theorem mem_names_of_filled
    (h : Filled renewed loc base (reportTexts m root directory renewed) after)
    {facts : Facts} {entries : Entries}
    (hnode : after.disk.node? loc = some (.directory facts entries)) :
    entries.names.Nodup ∧
      ∀ name, name ∈ entries.names ↔ name ∈ base.names ∨ name ∈ fileNames m root := by
  obtain ⟨_, _, hthere, hshows⟩ := h.held
  rw [hnode] at hthere
  cases hthere
  refine ⟨hshows.nodup, fun name => ?_⟩
  rw [hshows.mem_names_iff, names_reportTexts]

/-- There is nothing else in the directory of a complete report, and no page is called like the
    index, because the index would have taken its place and there would be one entry too few. -/
theorem names_of_complete
    (h : Filled renewed loc base (reportTexts m root directory renewed) after)
    (hcomplete : Complete m root directory renewed loc after.disk) :
    (∀ name ∈ base.names, name ∈ fileNames m root) ∧
      "index.html" ∉ Page.names (m.files.map fun file => displayName root file.path) := by
  obtain ⟨facts, entries, hnode, hlength, hentries⟩ := hcomplete.entries
  obtain ⟨hnodup, hnames⟩ := mem_names_of_filled h hnode
  have honly {name : String} (hname : name ∈ Entries.names entries) : name ∈ fileNames m root :=
    mem_fileNames_iff_rows.2 ((hentries name).1 hname)
  refine ⟨fun name hname => honly ((hnames name).2 (.inl hname)), fun hmem => ?_⟩
  have hsubset : Entries.names entries
      ⊆ Page.names (m.files.map fun file => displayName root file.path) ++ [ignoreFile] := by
    intro name hname
    rw [List.mem_append, List.mem_singleton]
    rcases mem_fileNames.1 (honly hname) with hpage | rfl | hnote
    · exact .inl hpage
    · exact .inl hmem
    · exact .inr hnote
  have hfew := hnodup.length_le_of_subset hsubset
  rw [List.length_append, Page.names, Page.length_namesFrom, List.length_map, Entries.names,
    List.length_map, List.length_singleton] at hfew
  omega

/-- A report is complete if its names are all different and there is nothing else. -/
theorem complete_of_filled
    (h : Filled renewed loc base (reportTexts m root directory renewed) after)
    (hnothing : ∀ name ∈ base.names, name ∈ fileNames m root)
    (hfree : "index.html" ∉ Page.names (m.files.map fun file => displayName root file.path)) :
    Complete m root directory renewed loc after.disk := by
  obtain ⟨facts, entries, hnode, -⟩ := h.held
  obtain ⟨hnodup, hnames⟩ := mem_names_of_filled h hnode
  have honly (name : String) : name ∈ Entries.names entries ↔ name ∈ fileNames m root :=
    (hnames name).trans (or_iff_right_of_imp (hnothing name))
  have hdifferent : ((reportTexts m root directory renewed).map (·.1)).Nodup := by
    rw [names_reportTexts]
    exact nodup_fileNames hfree
  constructor
  case entries =>
    refine ⟨facts, entries, hnode, ?_, fun name => (honly name).trans mem_fileNames_iff_rows⟩
    have hperm : (Entries.names entries).Perm (fileNames m root) :=
      (List.perm_ext_iff_of_nodup hnodup (nodup_fileNames hfree)).2 honly
    rw [← length_fileNames m root, ← hperm.length_eq, Entries.names, List.length_map]
  case pages =>
    intro i file hfile
    obtain ⟨page, hentry⟩ := @listing_getElem? m root i file hfile
    refine ⟨⟨displayName root file.path, page, file.totals, file.excluded.size⟩, ?_, rfl, ?_⟩
    · rw [rows_eq, List.getElem?_map, hentry]
      rfl
    · refine h.hasText (lastText?_of_mem hdifferent ?_)
      refine List.mem_append_left _ (List.mem_append_left _ (List.mem_of_getElem? (i := i) ?_))
      rw [texts, List.getElem?_mapIdx, hentry]
      rfl
  case index =>
    refine h.hasText (lastText?_of_mem hdifferent ?_)
    exact List.mem_append_left _ (List.mem_append_right _ (List.mem_singleton.2 rfl))

end Held

/-- When a report that has been written is complete. It has been written into a directory made
    afresh, which is empty if the path is plain. If the names of the report stand there for nothing
    but files of their own, the path of the directory leads nowhere else afterwards, and the report
    in it is complete just if no other names were left in it and no file is flattened to the name
    of the index. -/
theorem write_complete_iff (h : write m root directory w = (.ok percent, after)) :
    ∃ renewed, renew directory w = (.ok (), renewed) ∧
      (directory.IsPlain → ∃ loc facts,
        renewed.locate .through directory = .ok (.present loc (.directory facts []))) ∧
      ∀ (loc : Location) (facts : Facts) (base : Entries),
        renewed.locate .through directory = .ok (.present loc (.directory facts base)) →
        base.names.Nodup → (∀ name ∈ fileNames m root, Direct base name) →
        (∀ place, after.locate .through directory = .ok place →
          ∃ facts entries, place = .present loc (.directory facts entries)) ∧
        (Complete m root directory renewed loc after.disk ↔
          (∀ name ∈ base.names, name ∈ fileNames m root) ∧
            ∀ file ∈ m.files, Page.flatten (displayName root file.path) ≠ "index") := by
  obtain ⟨renewed, _, _, hrenew, -⟩ := write_ok h
  refine ⟨renewed, hrenew, fun hplain => ?_, fun loc facts base hloc hnodup hdirect => ?_⟩
  · obtain ⟨name, text, next, hname, hput⟩ := exists_put_of_write h hrenew
    exact empty_of_plain hplain hrenew hname hput
  · have hfilled := filled_of_write h hrenew hloc hnodup hdirect
    refine ⟨fun place hplace => hfilled.leads hloc hplace, ?_⟩
    constructor
    · intro hcomplete
      obtain ⟨hnothing, hfree⟩ := names_of_complete hfilled hcomplete
      refine ⟨hnothing, fun file hfile hflat => hfree ?_⟩
      exact (Page.index_mem_names_iff _).2 ⟨_, List.mem_map_of_mem hfile, hflat⟩
    · rintro ⟨hnothing, hnone⟩
      refine complete_of_filled hfilled hnothing fun hmem => ?_
      obtain ⟨name, hname, hflat⟩ := (Page.index_mem_names_iff _).1 hmem
      obtain ⟨file, hfile, rfl⟩ := List.mem_map.1 hname
      exact hnone file hfile hflat

/-- A world with a directory that an earlier report has been left in, and a link in it that leads
    to the directory worked in. -/
def staleWorld : World where
  disk := ⟨[("home", .directory (.new ⟨0o755⟩ 0)
    [("a", .directory (.new ⟨0o755⟩ 0) [("b", .file "one\n".toUTF8 (.new ⟨0o644⟩ 0))]),
      ("out", .directory (.new ⟨0o755⟩ 0) [("report", .directory (.new ⟨0o755⟩ 0)
        [("index.html", .link "../.."), ("old.html", .file .empty (.new ⟨0o644⟩ 0))])])])]⟩
  cwd := .ofLocation ["home"]
  waiting := []
  started := 0
  env := []
  mask := World.usualMask
  clock := ⟨"today", ""⟩
  now := 0

/-- Two files that are flattened alike, and one that is not there. -/
def flattenedAlike : Measurement :=
  ⟨["a"],
    [⟨⟨"/home/a/b"⟩, .ofList [1], .ofList [1], .empty⟩,
      ⟨⟨"/home/a_b"⟩, .empty, .empty, .empty⟩,
      ⟨⟨"../index"⟩, .ofList [3], .empty, .ofList [4, 5]⟩]⟩

/-- Nothing is left of an earlier report, and both files have their pages. -/
theorem write_complete_iff_stale :
    ∃ after, write flattenedAlike ⟨"/home"⟩ ⟨"out/report"⟩ staleWorld
        = (.ok flattenedAlike.totals.percent, after) ∧
      Pathname.IsPlain ⟨"out/report"⟩ ∧
      (∀ file ∈ flattenedAlike.files,
        Page.flatten (displayName ⟨"/home"⟩ file.path) ≠ "index") ∧
      ∃ renewed loc,
        Complete flattenedAlike ⟨"/home"⟩ ⟨"out/report"⟩ renewed loc after.disk := by
  have hok : (write flattenedAlike ⟨"/home"⟩ ⟨"out/report"⟩ staleWorld).1
      = .ok flattenedAlike.totals.percent := by decide +kernel
  have hplain : Pathname.IsPlain ⟨"out/report"⟩ :=
    ⟨⟨[.enter "out"], "report", by decide⟩, Pathname.neverReturns_of_not_mem (by decide)⟩
  have hnone : ∀ file ∈ flattenedAlike.files,
      Page.flatten (displayName ⟨"/home"⟩ file.path) ≠ "index" := by decide
  rcases hwrite : write flattenedAlike ⟨"/home"⟩ ⟨"out/report"⟩ staleWorld with ⟨result, after⟩
  rw [hwrite] at hok
  subst hok
  obtain ⟨renewed, -, hempty, hiff⟩ := write_complete_iff hwrite
  obtain ⟨loc, facts, hloc⟩ := hempty hplain
  obtain ⟨-, hcomplete⟩ := hiff loc facts [] hloc List.nodup_nil fun name _ => direct_nil name
  have hnothing : ∀ name ∈ Entries.names [], name ∈ fileNames flattenedAlike ⟨"/home"⟩ := by
    intro name hname
    cases hname
  exact ⟨after, rfl, hplain, hnone, renewed, loc, hcomplete.2 ⟨hnothing, hnone⟩⟩

/-- A file that is flattened to the name of the index. -/
def calledIndex : Measurement :=
  ⟨["a"], [⟨⟨"/home/index"⟩, .ofList [1], .ofList [1], .empty⟩]⟩

/-- One file is measured, and there are two entries and not three: the index links to itself, and
    the page of the file is not there. And the path of a directory that returns leaves in it what
    had to be made on the way. -/
theorem index_takes_place_of_page :
    (write calledIndex ⟨"/home"⟩ ⟨"out/report"⟩ staleWorld).1 = .ok calledIndex.totals.percent ∧
      ((write calledIndex ⟨"/home"⟩ ⟨"out/report"⟩ staleWorld).2.disk.entries?
        ["home", "out", "report"]).map Entries.names = some ["index.html", ".gitignore"] ∧
      (rows calledIndex ⟨"/home"⟩).map (·.page) = ["index.html"] ∧
      (write ⟨[], []⟩ ⟨"/home"⟩ ⟨"new/sub/.."⟩ staleWorld).1
        = .ok (Measurement.totals ⟨[], []⟩).percent ∧
      ((write ⟨[], []⟩ ⟨"/home"⟩ ⟨"new/sub/.."⟩ staleWorld).2.disk.entries?
        ["home", "new"]).map Entries.names = some ["sub", "index.html", ".gitignore"] := by
  refine ⟨?_, ?_, ?_, ?_, ?_⟩ <;> decide +kernel

end Pages
end SuiteCoverage
