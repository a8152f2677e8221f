import Mathlib.Data.List.Dedup
import SuiteCoverage.Proofs.Numeral
import SuiteCoverage.Proofs.Pathname
import SuiteCoverage.Report.Page

/-!
# Names of pages

A page is named after a file by a flattening that loses information, and a number is put behind a
name that is taken. The number is looked for from two on, with no end in sight; but different
numbers make different names, so the search ends as soon as it has passed over all that are taken
(`tries_le`). Among themselves the names are therefore different, whatever the files are called, and
they can stand in an attribute as they are.

But the index has a name as well, and that is not among the names that are taken: a page
gets it as soon as some file is flattened to it (`index_mem_names_iff`).
-/

set_option autoImplicit false

namespace SuiteCoverage

/-! ## Texts between quotes -/

namespace Entity

/-- A text that has none of the characters in it stands for itself. -/
theorem encodeQuoted_eq_self {text : List Char} (h : ∀ c ∈ text, c ∉ ['"', '&', '<', '>']) :
    encodeQuoted text = text := by
  induction text with
  | nil => rfl
  | cons c rest ih =>
    have hc := h c List.mem_cons_self
    have hrest := ih fun d hd => h d (List.mem_cons_of_mem _ hd)
    simp only [List.mem_cons, List.not_mem_nil, or_false, not_or] at hc
    rw [encodeQuoted] at hrest ⊢
    rw [List.flatMap_cons, hrest, if_neg hc.1, encodeChar, if_neg hc.2.1, if_neg hc.2.2.1,
      if_neg hc.2.2.2, List.singleton_append]

end Entity

namespace Page

variable {taken files : List String} {stem name page : String}

/-! ## Candidates -/

/-- The characters that are left in a flattened name. -/
def IsFlat (stem : String) : Prop :=
  ∀ c ∈ stem.toList, c.isAlphanum = true ∨ c = '-' ∨ c = '_'

theorem IsFlat.not_mem {c : Char} (h : IsFlat stem)
    (hc : ¬ (c.isAlphanum = true ∨ c = '-' ∨ c = '_')) : c ∉ stem.toList :=
  fun hmem => hc (h c hmem)

theorem isFlat_flatten (name : String) : IsFlat (flatten name) := by
  intro c hc
  rw [flatten, String.toList_ofList] at hc
  obtain ⟨d, -, rfl⟩ := List.mem_map.1 hc
  split
  · rename_i h
    rw [Bool.or_eq_true, beq_iff_eq] at h
    exact h.imp id .inl
  · exact .inr (.inr rfl)

/-- What is put behind the name of a file so that the name of a page is not taken. -/
def mark : Nat → List Char
  | 0 => []
  | n + 1 => '_' :: Nat.toDigits 10 (n + 2)

theorem toList_candidate (stem : String) (n : Nat) :
    (candidate stem n).toList = stem.toList ++ mark n ++ ".html".toList := by
  cases n with
  | zero => simp [candidate, mark]
  | succ n =>
    rw [candidate, mark, String.toList_append, String.toList_append, String.toList_append,
      Numeral.toList_toString]
    simp

theorem mark_injective {a b : Nat} (h : mark a = mark b) : a = b := by
  cases a with
  | zero => cases b <;> simp [mark] at h ⊢
  | succ a =>
    cases b with
    | zero => simp [mark] at h
    | succ b =>
      simp only [mark, List.cons.injEq, true_and] at h
      -- Digits are read back as the number that they stand for.
      have hvalue := congrArg (Nat.ofDigitChars 10 · 0) h
      simp only [Nat.ofDigitChars_ten_toDigits] at hvalue
      omega

/-- Different tries are different names. -/
theorem candidate_injective {a b : Nat} (h : candidate stem a = candidate stem b) : a = b := by
  have htext := congrArg String.toList h
  rw [toList_candidate, toList_candidate, List.append_cancel_right_eq,
    List.append_cancel_left_eq] at htext
  exact mark_injective htext

theorem getLast?_candidate (stem : String) (n : Nat) :
    (candidate stem n).toList.getLast? = some 'l' := by
  rw [toList_candidate, List.getLast?_append]
  rfl

theorem mem_mark {n : Nat} {c : Char} (h : c ∈ mark n) : c = '_' ∨ c.isDigit = true := by
  cases n with
  | zero => cases h
  | succ n =>
    rcases List.mem_cons.1 h with rfl | hdigit
    · exact .inl rfl
    · exact .inr (Numeral.isDigit_of_mem_toDigits hdigit)

/-- The name of a page is one that a directory can hold. -/
theorem isEntry_candidate (h : IsFlat stem) (n : Nat) : Pathname.IsEntry (candidate stem n) := by
  have hlast := getLast?_candidate stem n
  constructor
  · intro hempty
    simp [hempty] at hlast
  · intro hmem
    rw [toList_candidate, List.mem_append, List.mem_append] at hmem
    rcases hmem with (hstem | hmark) | hend
    · exact h.not_mem (by decide) hstem
    · have hdigit := mem_mark hmark
      revert hdigit
      decide
    · revert hend
      decide
  · -- Neither of the two dotted names ends in a letter.
    intro hhere
    simp [hhere] at hlast
  · intro hup
    simp [hup] at hlast

/-- No page is called like the note that goes with the pages. -/
theorem candidate_ne_of_getLast? {other : String} {n : Nat}
    (h : other.toList.getLast? ≠ some 'l') : candidate stem n ≠ other := by
  intro he
  exact h (he ▸ getLast?_candidate stem n)

/-- A page is called like the index if that is the first name tried for it. -/
theorem candidate_eq_index_iff {n : Nat} :
    candidate stem n = "index.html" ↔ n = 0 ∧ stem = "index" := by
  constructor
  · intro h
    have htext := congrArg String.toList h
    rw [toList_candidate] at htext
    cases n with
    | zero =>
      rw [mark, List.append_nil,
        show "index.html".toList = "index".toList ++ ".html".toList from rfl,
        List.append_cancel_right_eq] at htext
      exact ⟨rfl, String.toList_inj.1 htext⟩
    | succ n =>
      have hmem : '_' ∈ "index.html".toList := by
        rw [← htext]
        simp [mark]
      exact absurd hmem (by decide)
  · rintro ⟨rfl, rfl⟩
    rfl

/-! ## A name that is not taken -/

/-- As many different names have to be taken as are tried in vain. -/
theorem tries_le {tries : Nat} (h : ∀ k < tries, candidate stem k ∈ taken) :
    tries ≤ taken.dedup.length := by
  have hnodup : ((List.range tries).map (candidate stem)).Nodup :=
    List.pairwise_map.2 (List.nodup_range.imp fun hne he => hne (candidate_injective he))
  have htaken : (List.range tries).map (candidate stem) ⊆ taken.dedup := fun page hpage => by
    obtain ⟨n, hn, rfl⟩ := List.mem_map.1 hpage
    exact List.mem_dedup.2 (h n (List.mem_range.1 hn))
  simpa using hnodup.length_le_of_subset htaken

theorem uniqueName_spec (taken : List String) (name : String) :
    ∃ n, uniqueName taken name = candidate (flatten name) n ∧
      candidate (flatten name) n ∉ taken ∧ ∀ k < n, candidate (flatten name) k ∈ taken := by
  unfold uniqueName
  simp only
  cases hfind : (List.range (taken.length + 1)).find? fun n =>
      !taken.contains (candidate (flatten name) n) with
  | some n =>
    obtain ⟨hnot, -, hbefore⟩ := List.find?_range_eq_some.1 hfind
    exact ⟨n, rfl, by simpa using hnot, fun k hk => by simpa using hbefore k hk⟩
  | none =>
    -- One name more than are taken cannot all be taken.
    exfalso
    have hall : ∀ n < taken.length + 1, candidate (flatten name) n ∈ taken := fun n hn => by
      simpa using List.find?_eq_none.1 hfind n (List.mem_range.2 hn)
    have hmany := tries_le hall
    have hdedup := (List.dedup_sublist taken).length_le
    omega

theorem uniqueName_not_mem (taken : List String) (name : String) :
    uniqueName taken name ∉ taken := by
  obtain ⟨n, hname, hfree, -⟩ := uniqueName_spec taken name
  rwa [hname]

/-! ## The names of all pages -/

@[simp] theorem length_namesFrom (taken files : List String) :
    (namesFrom taken files).length = files.length := by
  induction files generalizing taken with
  | nil => rfl
  | cons name rest ih => simp [namesFrom, ih]

/-- The pages have names of their own, different from those that are taken. -/
theorem nodup_namesFrom (taken files : List String) :
    (namesFrom taken files).Nodup ∧ ∀ page ∈ namesFrom taken files, page ∉ taken := by
  induction files generalizing taken with
  | nil => simp [namesFrom]
  | cons name rest ih =>
    obtain ⟨hnodup, hfree⟩ := ih (uniqueName taken name :: taken)
    rw [namesFrom]
    refine ⟨List.nodup_cons.2 ⟨fun hmem => hfree _ hmem (by simp), hnodup⟩, fun page hpage => ?_⟩
    rcases List.mem_cons.1 hpage with rfl | hrest
    · exact uniqueName_not_mem taken name
    · exact fun hmem => hfree page hrest (List.mem_cons_of_mem _ hmem)

/-- Every page is named after some file. -/
theorem exists_candidate_of_mem (h : page ∈ namesFrom taken files) :
    ∃ name ∈ files, ∃ n, page = candidate (flatten name) n := by
  induction files generalizing taken with
  | nil => cases h
  | cons name rest ih =>
    rcases List.mem_cons.1 h with rfl | hrest
    · obtain ⟨n, hname, -⟩ := uniqueName_spec taken name
      exact ⟨name, by simp, n, hname⟩
    · obtain ⟨other, hother, n, hname⟩ := ih hrest
      exact ⟨other, by simp [hother], n, hname⟩

theorem isEntry_of_mem (h : page ∈ namesFrom taken files) : Pathname.IsEntry page := by
  obtain ⟨name, -, n, rfl⟩ := exists_candidate_of_mem h
  exact isEntry_candidate (isFlat_flatten name) n

theorem ne_of_mem_of_getLast? (h : page ∈ namesFrom taken files) {other : String}
    (hlast : other.toList.getLast? ≠ some 'l') : page ≠ other := by
  obtain ⟨name, -, n, rfl⟩ := exists_candidate_of_mem h
  exact candidate_ne_of_getLast? hlast

/-- The first name tried for a file is taken in the end. -/
theorem candidate_zero_mem (h : name ∈ files) :
    candidate (flatten name) 0 ∈ taken ∨ candidate (flatten name) 0 ∈ namesFrom taken files := by
  induction files generalizing taken with
  | nil => cases h
  | cons first rest ih =>
    rw [namesFrom, List.mem_cons]
    rcases List.mem_cons.1 h with rfl | hrest
    · obtain ⟨n, hname, -, hbefore⟩ := uniqueName_spec taken name
      cases n with
      | zero => exact .inr (.inl hname.symm)
      | succ n => exact .inl (hbefore 0 (by omega))
    · rcases @ih (uniqueName taken first :: taken) hrest with htaken | hnames
      · rcases List.mem_cons.1 htaken with hfirst | htaken
        · exact .inr (.inl hfirst)
        · exact .inl htaken
      · exact .inr (.inr hnames)

/-- A page is called like the index just if a file is flattened to its name. -/
theorem index_mem_names_iff (files : List String) :
    "index.html" ∈ names files ↔ ∃ name ∈ files, flatten name = "index" := by
  constructor
  · intro h
    obtain ⟨name, hname, n, hcandidate⟩ := exists_candidate_of_mem h
    exact ⟨name, hname, (candidate_eq_index_iff.1 hcandidate.symm).2⟩
  · rintro ⟨name, hname, hflat⟩
    have hmem : candidate (flatten name) 0 ∈ [] ∨ candidate (flatten name) 0 ∈ names files :=
      candidate_zero_mem hname
    rcases hmem with htaken | hnames
    · cases htaken
    · rw [hflat] at hnames
      exact hnames

/-! ## Looking for a name -/

/-- A name with a number behind it. -/
def suffixed (stem : String) (n : Nat) : String := stem ++ "_" ++ toString n ++ ".html"

/-- Looking for a number to put behind a name, from some number on and without an end in sight: a
    name that is taken is passed over, and the first that is not is the one. -/
inductive Search (taken : List String) (stem : String) : Nat → Nat → Prop
  | found {n : Nat} (hfree : suffixed stem n ∉ taken) : Search taken stem n n
  | onward {n last : Nat} (htaken : suffixed stem n ∈ taken)
      (hrest : Search taken stem (n + 1) last) : Search taken stem n last

/-- A search that ends has passed over names that are taken and nothing else. -/
theorem search_iff {first last : Nat} :
    Search taken stem first last ↔
      first ≤ last ∧ suffixed stem last ∉ taken ∧
        ∀ k, first ≤ k → k < last → suffixed stem k ∈ taken := by
  constructor
  · intro h
    induction h with
    | found hfree => exact ⟨Nat.le_refl _, hfree, fun k hk hlt => absurd hlt (by omega)⟩
    | onward htaken hrest ih =>
      obtain ⟨hle, hfree, hbefore⟩ := ih
      refine ⟨by omega, hfree, fun k hk hlt => ?_⟩
      rcases Nat.eq_or_lt_of_le hk with rfl | hk
      · exact htaken
      · exact hbefore k hk hlt
  · rintro ⟨hle, hfree, hbefore⟩
    obtain ⟨more, rfl⟩ := Nat.exists_eq_add_of_le hle
    induction more generalizing first with
    | zero => exact .found hfree
    | succ more ih =>
      have hlast : first + (more + 1) = first + 1 + more := by omega
      rw [hlast] at hfree hbefore ⊢
      exact .onward (hbefore first (Nat.le_refl _) (by omega))
        (ih (by omega) hfree fun k hk => hbefore k (by omega))

/-- The end of a reversed text without the extensions of pages that it starts with. -/
def dropExtensions : List Char → List Char
  | 'l' :: 'm' :: 't' :: 'h' :: '.' :: rest => dropExtensions rest
  | text => text

/-- The name of a page without its extension, and without any other that stands before it. -/
def stemOf (page : String) : String :=
  String.ofList (dropExtensions page.toList.reverse).reverse

/-- A text without points has no extension to lose. -/
theorem dropExtensions_of_not_mem {text : List Char} (h : '.' ∉ text) :
    dropExtensions text = text := by
  fun_cases dropExtensions text with
  | case1 rest => simp at h
  | case2 => rfl

theorem stemOf_append (h : IsFlat stem) : stemOf (stem ++ ".html") = stem := by
  have hpoint : '.' ∉ stem.toList.reverse := fun hmem =>
    h.not_mem (by decide) (List.mem_reverse.1 hmem)
  have hreverse : (stem ++ ".html").toList.reverse
      = 'l' :: 'm' :: 't' :: 'h' :: '.' :: stem.toList.reverse := by simp
  rw [stemOf, hreverse, dropExtensions, dropExtensions_of_not_mem hpoint, List.reverse_reverse,
    String.ofList_toList]

/-- The name that a page gets if no other page has it. -/
def plainName (name : String) : String := flatten name ++ ".html"

/-- The name of a page is the plain one, or the one that a search from two on ends with. -/
theorem uniqueName_cases (taken : List String) (name : String) :
    (plainName name ∉ taken ∧ uniqueName taken name = plainName name) ∨
      (plainName name ∈ taken ∧ ∃ n, Search taken (stemOf (plainName name)) 2 n ∧
        n ≤ taken.dedup.length + 1 ∧
        uniqueName taken name = suffixed (stemOf (plainName name)) n) := by
  obtain ⟨n, hname, hfree, hbefore⟩ := uniqueName_spec taken name
  rw [plainName, stemOf_append (isFlat_flatten name)]
  cases n with
  | zero => exact .inl ⟨hfree, hname⟩
  | succ n =>
    refine .inr ⟨hbefore 0 (Nat.succ_pos n), n + 2, ?_, ?_, hname⟩
    · refine search_iff.2 ⟨by omega, hfree, fun k hk hlt => ?_⟩
      obtain ⟨k, rfl⟩ := Nat.exists_eq_add_of_le' hk
      exact hbefore (k + 1) (by omega)
    · exact Nat.succ_le_succ (tries_le hbefore)

/-! ## One name after the other -/

/-- What is put behind the name of a file is made of the characters that are left in it. -/
theorem exists_stem_candidate (h : IsFlat stem) (n : Nat) :
    ∃ whole, candidate stem n = whole ++ ".html" ∧ IsFlat whole := by
  refine ⟨String.ofList (stem.toList ++ mark n), ?_, fun c hc => ?_⟩
  · rw [← String.toList_inj, toList_candidate]
    simp
  · rw [String.toList_ofList, List.mem_append] at hc
    rcases hc with hstem | hmark
    · exact h c hstem
    · rcases mem_mark hmark with rfl | hdigit
      · exact .inr (.inr rfl)
      · exact .inl (by simp [Char.isAlphanum, hdigit])

/-- Every name of a page is a run of letters, digits, hyphens and underscores, and the extension. -/
theorem exists_stem_of_mem (h : page ∈ namesFrom taken files) :
    ∃ whole, page = whole ++ ".html" ∧ IsFlat whole := by
  obtain ⟨name, -, n, rfl⟩ := exists_candidate_of_mem h
  exact exists_stem_candidate (isFlat_flatten name) n

theorem encodeQuoted_page (h : IsFlat stem) : encodeQuoted (stem ++ ".html") = stem ++ ".html" := by
  rw [encodeQuoted, Entity.encodeQuoted_eq_self, String.ofList_toList]
  intro c hc hspecial
  rw [String.toList_append, List.mem_append] at hc
  simp only [List.mem_cons, List.not_mem_nil, or_false] at hspecial
  rcases hc with hstem | hend
  · rcases hspecial with rfl | rfl | rfl | rfl
    all_goals exact h.not_mem (by decide) hstem
  · rcases hspecial with rfl | rfl | rfl | rfl
    all_goals exact absurd hend (by decide)

/-- The names are given in turn, and each is taken from then on. -/
theorem namesFrom_append (taken earlier later : List String) :
    namesFrom taken (earlier ++ later)
      = namesFrom taken earlier
        ++ namesFrom ((namesFrom taken earlier).reverse ++ taken) later := by
  induction earlier generalizing taken with
  | nil => rfl
  | cons name rest ih => simp [namesFrom, ih]

/-- Names are given to pages in turn, whatever the files are called and whatever is taken at first.
    A page gets a name that is not taken, and that name and no other is taken in addition for the
    pages that follow. It is the plain name unless that is taken; if it is, the search for a number
    ends with the smallest from two on that makes a name not taken, and that is at most two more
    than there are names taken. So the names are all different. Each is a run of letters, digits,
    hyphens and underscores with the extension behind it: there is no separator in it and no point
    but the one of the extension, and an attribute holds it as it is. -/
theorem names_given_in_turn (taken files : List String) :
    (∀ (earlier later : List String) (name : String),
      let held := (namesFrom taken earlier).reverse ++ taken
      let page := uniqueName held name
      let stem := stemOf (plainName name)
      namesFrom taken (earlier ++ name :: later)
          = namesFrom taken earlier ++ page :: namesFrom (page :: held) later ∧
        page ∉ held ∧
        (plainName name ∉ held → page = plainName name) ∧
        (plainName name ∈ held → ∃ n, Search held stem 2 n ∧ n ≤ held.dedup.length + 2 ∧
          page = suffixed stem n ∧ ∀ k, 2 ≤ k → k < n → suffixed stem k ∈ held)) ∧
    (namesFrom taken files).Nodup ∧
    ∀ page ∈ namesFrom taken files, page ∉ taken ∧
      ∃ stem, page = stem ++ ".html" ∧
        (∀ c ∈ stem.toList, c.isAlphanum = true ∨ c = '-' ∨ c = '_') ∧
        '/' ∉ stem.toList ∧ '.' ∉ stem.toList ∧
        encodeQuoted page = page := by
  obtain ⟨hnodup, hfree⟩ := nodup_namesFrom taken files
  refine ⟨?_, hnodup, fun page hpage => ?_⟩
  · intro earlier later name held page stem
    refine ⟨?_, uniqueName_not_mem held name, fun hplain => ?_, fun hplain => ?_⟩
    · rw [namesFrom_append, namesFrom]
    · obtain ⟨-, hname⟩ | ⟨htaken, -⟩ := uniqueName_cases held name
      · exact hname
      · exact absurd htaken hplain
    · obtain ⟨hnot, -⟩ | ⟨-, n, hsearch, hbound, hname⟩ := uniqueName_cases held name
      · exact absurd hplain hnot
      · exact ⟨n, hsearch, Nat.le_succ_of_le hbound, hname, (search_iff.1 hsearch).2.2⟩
  · obtain ⟨stem, rfl, hflat⟩ := exists_stem_of_mem hpage
    exact ⟨hfree _ hpage, stem, rfl, hflat, hflat.not_mem (by decide), hflat.not_mem (by decide),
      encodeQuoted_page hflat⟩

end Page
end SuiteCoverage
