import SuiteCoverage.Disk.Route

/-!
# Routes of paths

How the steps of a path change when a name is put behind it and when its last component is taken
off. Both are done to the spelling, and both keep what stands before.
-/

set_option autoImplicit false

namespace SuiteCoverage
namespace Pathname

/-! ## Pieces -/

theorem pieces_ne_nil (text : List Char) : pieces text ≠ [] := by
  unfold pieces
  split
  · simp
  · simp
  · split <;> simp

theorem pieces_cons {c : Char} (h : c ≠ '/') (text : List Char) :
    ∃ piece more, pieces text = piece :: more ∧ pieces (c :: text) = (c :: piece) :: more := by
  obtain ⟨piece, more, hpieces⟩ := List.exists_cons_of_ne_nil (pieces_ne_nil text)
  refine ⟨piece, more, hpieces, ?_⟩
  rw [pieces]
  · rw [hpieces]
  · exact fun he => h he

/-- A separator divides the pieces. -/
theorem pieces_append_separator (a b : List Char) :
    pieces (a ++ '/' :: b) = pieces a ++ pieces b := by
  induction a with
  | nil => rfl
  | cons c rest ih =>
    by_cases h : c = '/'
    · subst h
      rw [List.cons_append, pieces, pieces, ih, List.cons_append]
    · obtain ⟨piece, more, hpieces, hcons⟩ := pieces_cons h rest
      obtain ⟨first, after, hfirst, hlong⟩ := pieces_cons h (rest ++ '/' :: b)
      rw [ih, hpieces, List.cons_append, List.cons.injEq] at hfirst
      rw [List.cons_append, hlong, hcons, List.cons_append, hfirst.1, hfirst.2]

theorem pieces_of_not_mem {text : List Char} (h : '/' ∉ text) : pieces text = [text] := by
  induction text with
  | nil => rfl
  | cons c rest ih =>
    rw [List.mem_cons, not_or] at h
    obtain ⟨piece, more, hpieces, hcons⟩ := pieces_cons (Ne.symm h.1) rest
    rw [ih h.2, List.cons.injEq] at hpieces
    rw [hcons, ← hpieces.1, ← hpieces.2]

theorem not_mem_of_mem_pieces {text piece : List Char} (h : piece ∈ pieces text) : '/' ∉ piece := by
  induction text generalizing piece with
  | nil =>
    have hempty : piece = [] := by simpa [pieces] using h
    simp [hempty]
  | cons c rest ih =>
    by_cases hc : c = '/'
    · subst hc
      rcases List.mem_cons.1 h with rfl | hrest
      · simp
      · exact ih hrest
    · obtain ⟨first, more, hpieces, hcons⟩ := pieces_cons hc rest
      rw [hcons] at h
      rcases List.mem_cons.1 h with rfl | hmore
      · have hfirst : '/' ∉ first := ih (by simp [hpieces])
        simp [hfirst, Ne.symm hc]
      · exact ih (by simp [hpieces, hmore])

/-- Pieces with separators between them are the pieces of what comes out. -/
theorem pieces_intercalate {body : List (List Char)} (hne : body ≠ [])
    (h : ∀ piece ∈ body, '/' ∉ piece) : pieces (List.intercalate ['/'] body) = body := by
  induction body with
  | nil => exact absurd rfl hne
  | cons piece rest ih =>
    have hpiece := pieces_of_not_mem (h piece (by simp))
    cases rest with
    | nil => simpa [List.intercalate] using hpiece
    | cons next more =>
      have hrest := ih (by simp) fun other hother => h other (List.mem_cons_of_mem _ hother)
      rw [List.intercalate_cons_cons, List.append_assoc, List.singleton_append,
        pieces_append_separator, hpiece, hrest, List.singleton_append]

/-! ## A name behind a path -/

/-- A name that a directory can hold: no path of several steps, and none that stays or ascends. -/
structure IsEntry (name : String) : Prop where
  filled : name.toList ≠ []
  single : '/' ∉ name.toList
  ne_here : name.toList ≠ ['.']
  ne_up : name.toList ≠ ['.', '.']

/-- How a path is followed. -/
def route (p : Pathname) : Route := Route.ofText p.spelling

theorem steps_route (p : Pathname) :
    p.route.steps = (pieces p.spelling.toList).filterMap Route.step? := rfl

theorem IsEntry.step? {name : String} (h : IsEntry name) :
    Route.step? name.toList = some (.enter name) := by
  unfold Route.step?
  rw [if_neg h.filled, if_neg h.ne_here, if_neg h.ne_up, String.ofList_toList]

theorem IsEntry.isAbsolute {name : String} (h : IsEntry name) :
    isAbsolute ⟨name⟩ = false := by
  obtain ⟨c, rest, hname⟩ := List.exists_cons_of_ne_nil h.filled
  have hc : c ≠ '/' := by
    intro he
    exact h.single (by simp [hname, he])
  simp [Pathname.isAbsolute, hname, hc]

/-- What comes out when a name is put behind a path: a separator is there, or one is put. -/
theorem join_cases {name : String} (h : IsEntry name) (p : Pathname) :
    (p.spelling.toList = [] ∧ (p.join ⟨name⟩).spelling.toList = name.toList) ∨
    ∃ text, (p.spelling.toList = text ∧ text ≠ [] ∨ p.spelling.toList = text ++ ['/']) ∧
      (p.join ⟨name⟩).spelling.toList = text ++ '/' :: name.toList := by
  unfold join
  rw [if_neg (by simp [h.isAbsolute])]
  by_cases hempty : p.spelling.toList = []
  · have hspelling : p.spelling = "" := String.toList_eq_nil_iff.1 hempty
    exact .inl ⟨hempty, by simp [hspelling]⟩
  · refine .inr ?_
    have hspelling : p.spelling.isEmpty = false := by
      simpa using fun he => hempty (String.toList_eq_nil_iff.2 he)
    by_cases hlast : p.spelling.toList.getLast? = some '/'
    · obtain ⟨text, htext⟩ := List.getLast?_eq_some_iff.1 hlast
      exact ⟨text, .inr htext, by simp [hspelling, htext]⟩
    · exact ⟨p.spelling.toList, .inl ⟨rfl, hempty⟩, by simp [hspelling, hlast]⟩

/-- What is put behind a path is put behind its spelling. -/
theorem join_spelling {name : String} (h : IsEntry name) (p : Pathname) :
    ∃ text, (p.join ⟨name⟩).spelling = p.spelling ++ text := by
  unfold join
  rw [if_neg (by simp [h.isAbsolute])]
  split
  · exact ⟨name, rfl⟩
  · exact ⟨"/" ++ name, String.append_assoc ..⟩

theorem steps_append_separator (text : List Char) :
    (pieces (text ++ ['/'])).filterMap Route.step? = (pieces text).filterMap Route.step? := by
  rw [pieces_append_separator, List.filterMap_append]
  simp [pieces, Route.step?]

/-- A name behind a path is one more step. -/
theorem route_join {name : String} (h : IsEntry name) (p : Pathname) :
    (p.join ⟨name⟩).route = ⟨p.route.steps ++ [.enter name], false⟩ := by
  have hname : (pieces name.toList).filterMap Route.step? = [.enter name] := by
    rw [pieces_of_not_mem h.single, List.filterMap_cons, h.step?, List.filterMap_nil]
  have hlast (text : List Char) : ((text ++ name.toList).getLast? == some '/') = false := by
    obtain ⟨last, hlast⟩ := Option.isSome_iff_exists.1 (List.getLast?_isSome.2 h.filled)
    have hne : last ≠ '/' := fun he => h.single (he ▸ List.mem_of_getLast? hlast)
    rw [List.getLast?_append, hlast]
    simpa using hne
  have hroute : ∀ text, (p.join ⟨name⟩).spelling.toList = text ++ name.toList →
      (pieces (text ++ name.toList)).filterMap Route.step? = p.route.steps ++ [.enter name] →
      (p.join ⟨name⟩).route = ⟨p.route.steps ++ [.enter name], false⟩ := by
    intro text htext hsteps
    rw [route, Route.ofText, htext, hsteps, hlast]
  rcases join_cases h p with ⟨hempty, hjoin⟩ | ⟨text, hp, hjoin⟩
  · refine hroute [] hjoin ?_
    rw [List.nil_append, hname, steps_route, hempty]
    rfl
  · refine hroute (text ++ ['/']) (by simpa using hjoin) ?_
    rw [List.append_assoc, List.singleton_append, pieces_append_separator, List.filterMap_append,
      hname, steps_route]
    rcases hp with ⟨hp, -⟩ | hp
    · rw [hp]
    · rw [hp, steps_append_separator]

/-- A path with a name behind it starts where the path does. -/
theorem isAbsolute_join {name : String} (h : IsEntry name) (p : Pathname) :
    (p.join ⟨name⟩).isAbsolute = p.isAbsolute := by
  rcases join_cases h p with ⟨hempty, hjoin⟩ | ⟨text, hp, hjoin⟩
  · have hname := h.isAbsolute
    unfold isAbsolute at hname ⊢
    rw [hjoin, hempty, hname]
    rfl
  · unfold isAbsolute
    rw [hjoin]
    rcases hp with ⟨hp, hne⟩ | hp
    · obtain ⟨c, rest, rfl⟩ := List.exists_cons_of_ne_nil hne
      rw [hp]
      rfl
    · rw [hp]
      cases text <;> rfl

/-! ## The directory that a path is in -/

/-- A piece without a meaning is no step or one that stays. -/
theorem eq_stay_of_meaning {piece : List Char} (h : meaning piece = none) {step : RouteStep}
    (hstep : Route.step? piece = some step) : step = .stay := by
  unfold meaning at h
  unfold Route.step? at hstep
  split at hstep
  · cases hstep
  · split at hstep
    · cases hstep
      rfl
    · rename_i hempty hhere
      simp only [hempty, hhere, or_self, if_false] at h
      split at h <;> cases h

/-- A piece with a meaning is a step that goes somewhere. -/
theorem exists_step_of_meaning {piece : List Char} (h : meaning piece ≠ none) :
    ∃ step, Route.step? piece = some step ∧ step ≠ .stay := by
  unfold meaning at h
  unfold Route.step?
  split at h
  · exact absurd rfl h
  · rename_i hnot
    rw [not_or] at hnot
    rw [if_neg hnot.1, if_neg hnot.2]
    split <;> exact ⟨_, rfl, by simp⟩

theorem stays_of_meaningless {junk : List (List Char)} (h : ∀ piece ∈ junk, meaning piece = none) :
    ∀ step ∈ junk.filterMap Route.step?, step = .stay := by
  intro step hmem
  obtain ⟨piece, hpiece, hstep⟩ := List.mem_filterMap.1 hmem
  exact eq_stay_of_meaning (h piece hpiece) hstep

/-- What is taken off the end stands for nothing, and what is left ends in something. -/
theorem trimBack_spec (body : List (List Char)) :
    ∃ junk, body = trimBack body ++ junk ∧ (∀ piece ∈ junk, meaning piece = none) ∧
      ∀ piece, (trimBack body).getLast? = some piece → meaning piece ≠ none := by
  refine ⟨(body.reverse.takeWhile fun piece => (meaning piece).isNone).reverse, ?_, ?_, ?_⟩
  · rw [trimBack, trimFront, ← List.reverse_append, List.takeWhile_append_dropWhile,
      List.reverse_reverse]
  · intro piece hmem
    have hall := List.all_eq_true.1 List.all_takeWhile piece (List.mem_reverse.1 hmem)
    simpa using hall
  · intro piece hlast hnone
    rw [trimBack, trimFront, List.getLast?_reverse] at hlast
    have hnot := List.head?_dropWhile_not (fun piece => (meaning piece).isNone) body.reverse
    rw [hlast] at hnot
    simp [hnone] at hnot

/-- The steps of what a path starts with. -/
def startSteps : Option Component → List RouteStep
  | some .here => [.stay]
  | _ => []

/-- The ways in which a path is taken apart. -/
theorem split_cases (p : Pathname) :
    (∃ rest, p.spelling.toList = '/' :: rest ∧ p.split = (some .root, pieces rest)) ∨
    p.spelling.toList.head? ≠ some '/' ∧
      ((∃ more, pieces p.spelling.toList = ['.'] :: more ∧ p.split = (some .here, more)) ∨
        p.split = (none, pieces p.spelling.toList)) := by
  unfold split
  split
  · rename_i rest htext
    exact .inl ⟨rest, htext, rfl⟩
  · rename_i htext
    refine .inr ⟨?_, ?_⟩
    · intro hhead
      obtain ⟨rest, hrest⟩ := List.head?_eq_some_iff.1 hhead
      exact htext rest hrest
    · split
      · rename_i more hpieces
        exact .inl ⟨more, hpieces, rfl⟩
      · exact .inr rfl

/-- The steps of a path, from its parts. -/
theorem steps_of_split {p : Pathname} {start : Option Component} {body : List (List Char)}
    (h : p.split = (start, body)) :
    p.route.steps = startSteps start ++ body.filterMap Route.step? ∧
      ∀ piece ∈ body, '/' ∉ piece := by
  rw [steps_route]
  rcases split_cases p with ⟨rest, htext, hsplit⟩ | ⟨-, ⟨more, hpieces, hsplit⟩ | hsplit⟩
  · rw [hsplit] at h
    cases h
    rw [htext, pieces]
    exact ⟨rfl, fun piece hmem => not_mem_of_mem_pieces hmem⟩
  · rw [hsplit] at h
    cases h
    rw [hpieces]
    refine ⟨rfl, fun piece hmem => ?_⟩
    have hpiece : piece ∈ pieces p.spelling.toList := by
      rw [hpieces]
      exact List.mem_cons_of_mem _ hmem
    exact not_mem_of_mem_pieces hpiece
  · rw [hsplit] at h
    cases h
    exact ⟨rfl, fun piece hmem => not_mem_of_mem_pieces hmem⟩

/-- The steps of a path that is put together from parts. -/
theorem steps_spell {start : Option Component} {body : List (List Char)}
    (hstart : start = some .root ∨ start = some .here ∨ start = none)
    (h : ∀ piece ∈ body, '/' ∉ piece) :
    (spell start body).route.steps = startSteps start ++ body.filterMap Route.step? := by
  rw [steps_route]
  rcases hstart with rfl | rfl | rfl
  · cases body with
    | nil => rfl
    | cons piece rest =>
      rw [spell, String.toList_ofList, pieces_intercalate (by simp) (by simpa using h)]
      · rfl
      · simp
  · rw [spell, String.toList_ofList, pieces_intercalate (by simp) (by simpa using h)]
    rfl
  · cases body with
    | nil => rfl
    | cons piece rest =>
      rw [spell, String.toList_ofList, pieces_intercalate (by simp) h]
      · rfl
      all_goals simp

/-- A path that is put together from parts is absolute if it starts at the root. -/
theorem isAbsolute_spell {start : Option Component} {body : List (List Char)}
    (hstart : start = some .root ∨ start = some .here ∨ start = none)
    (h : start = none → ∀ piece, body.head? = some piece → piece ≠ [] ∧ '/' ∉ piece) :
    (spell start body).isAbsolute = decide (start = some .root) := by
  unfold isAbsolute
  rcases hstart with rfl | rfl | rfl
  · cases body with
    | nil => rfl
    | cons piece rest =>
      rw [spell, String.toList_ofList, List.intercalate_cons_cons]
      · rfl
      · simp
  · rw [spell, String.toList_ofList]
    cases body with
    | nil => rfl
    | cons piece rest =>
      rw [List.intercalate_cons_cons]
      rfl
  · cases body with
    | nil => rfl
    | cons piece rest =>
      obtain ⟨hne, hpiece⟩ := h rfl piece rfl
      obtain ⟨c, more, rfl⟩ := List.exists_cons_of_ne_nil hne
      have hc : c ≠ '/' := fun he => hpiece (by simp [he])
      rw [spell, String.toList_ofList]
      · cases rest with
        | nil => simp [List.intercalate, hc]
        | cons next after =>
          rw [List.intercalate_cons_cons]
          simp [hc]
      all_goals simp

/-- What a path starts with, and how its first piece shows that it is not absolute. -/
theorem start_of_split {p : Pathname} {start : Option Component} {body : List (List Char)}
    (h : p.split = (start, body)) :
    (start = some .root ∨ start = some .here ∨ start = none) ∧
      p.isAbsolute = decide (start = some .root) ∧
      (start = none → ∀ piece, body.head? = some piece → piece = [] → body = [[]]) := by
  rcases split_cases p with ⟨rest, htext, hsplit⟩ | ⟨hhead, ⟨more, hpieces, hsplit⟩ | hsplit⟩
  · rw [hsplit] at h
    cases h
    exact ⟨.inl rfl, by simp [isAbsolute, htext], by simp⟩
  · rw [hsplit] at h
    cases h
    exact ⟨.inr (.inl rfl), by simpa [isAbsolute] using hhead, by simp⟩
  · rw [hsplit] at h
    cases h
    refine ⟨.inr (.inr rfl), by simpa [isAbsolute] using hhead, fun _ piece hpiece hempty => ?_⟩
    cases htext : p.spelling.toList with
    | nil => rfl
    | cons c rest =>
      have hc : c ≠ '/' := fun he => hhead (by simp [htext, he])
      obtain ⟨first, more, -, hcons⟩ := pieces_cons hc rest
      rw [htext, hcons] at hpiece
      cases hpiece
      cases hempty

/-- A path is the directory it is in, and then one step that goes somewhere, among others that do
    not. -/
theorem parent?_spec {p q : Pathname} (h : p.parent? = some q) :
    q.spelling = "" ∨ ∃ stays step rest,
      p.route.steps = q.route.steps ++ (stays ++ step :: rest) ∧
      (∀ other ∈ stays, other = .stay) ∧ step ≠ .stay ∧ (∀ other ∈ rest, other = .stay) ∧
      q.isAbsolute = p.isAbsolute := by
  unfold parent? at h
  rcases hsplit : p.split with ⟨start, body⟩
  rw [hsplit] at h
  simp only at h
  obtain ⟨hsteps, hbody⟩ := steps_of_split hsplit
  obtain ⟨hstart, habsolute, hfirst⟩ := start_of_split hsplit
  obtain ⟨junk, htrim, hjunk, hlast⟩ := trimBack_spec body
  split at h
  · cases h
    exact .inl rfl
  · cases h
  rename_i hnil _
  cases h
  refine .inr ?_
  rcases (trimBack body).eq_nil_or_concat with hempty | ⟨init, last, hinit⟩
  · exact (hnil hempty).elim
  rw [List.concat_eq_append] at hinit
  obtain ⟨between, hkept, hbetween, -⟩ := trimBack_spec init
  obtain ⟨step, hstep, hgoes⟩ := exists_step_of_meaning (hlast last (by simp [hinit]))
  rw [hinit, List.dropLast_concat]
  have hwhole : body = trimBack init ++ (between ++ last :: junk) := by
    rw [← List.append_assoc, ← hkept, ← List.singleton_append, ← List.append_assoc, ← hinit,
      ← htrim]
  have hpieces : ∀ piece ∈ trimBack init, '/' ∉ piece := fun piece hmem =>
    hbody piece (by rw [hwhole]; exact List.mem_append_left _ hmem)
  refine ⟨between.filterMap Route.step?, step, junk.filterMap Route.step?, ?_,
    stays_of_meaningless hbetween, hgoes, stays_of_meaningless hjunk, ?_⟩
  · rw [hsteps, steps_spell hstart hpieces, hwhole]
    simp [hstep]
  · rw [habsolute]
    refine isAbsolute_spell hstart fun hnone piece hhead => ?_
    obtain ⟨rest, hrest⟩ := List.head?_eq_some_iff.1 hhead
    have hmem : piece ∈ trimBack init := by simp [hrest]
    refine ⟨fun hempty => ?_, hpieces piece hmem⟩
    -- Only the empty path has an empty first piece, and that is all it has.
    have hshort := hfirst hnone piece (by rw [hwhole, hrest]; rfl) hempty
    rw [hwhole, hrest] at hshort
    simp at hshort

/-- A path that does not ascend any more once it has descended. -/
def NeverReturns (p : Pathname) : Prop :=
  ∀ down rest, p.route.steps = down ++ .ascend :: rest → ∀ name, .enter name ∉ down

/-- A path without a step that ascends. -/
theorem neverReturns_of_not_mem {p : Pathname} (h : .ascend ∉ p.route.steps) : p.NeverReturns := by
  intro down rest hdown
  exact absurd (by simp [hdown]) h

/-- A path that never returns is in a directory whose path never returns. -/
theorem NeverReturns.parent? {p q : Pathname} (h : p.NeverReturns) (hparent : p.parent? = some q) :
    q.NeverReturns := by
  intro down rest hdown
  rcases parent?_spec hparent with hempty | ⟨stays, step, others, hsteps, -⟩
  · rw [steps_route, hempty] at hdown
    cases down <;> cases hdown
  · refine h down (rest ++ (stays ++ step :: others)) ?_
    rw [hsteps, hdown]
    simp

/-- A path that does not return does not do so with a name behind it. -/
theorem NeverReturns.join {p : Pathname} {name : String} (h : p.NeverReturns)
    (hname : IsEntry name) : (p.join ⟨name⟩).NeverReturns := by
  intro down rest hdown
  rw [route_join hname] at hdown
  rcases rest.eq_nil_or_concat with rfl | ⟨front, last, rfl⟩
  · have hlast := (List.append_inj' hdown rfl).2
    cases hlast
  · rw [List.concat_eq_append, ← List.cons_append, ← List.append_assoc] at hdown
    exact h down front (List.append_inj' hdown rfl).1

end Pathname
end SuiteCoverage
