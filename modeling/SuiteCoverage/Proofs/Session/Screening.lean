import SuiteCoverage.Proofs.Session.Exactness

/-!
# What lies behind the marker

The short report shows how many lines count and how many of them ran, file by file and in all. So
it can tell no more of a measurement than the paths, the lines that count and the lines that ran,
and two sessions report the same if they agree on these: whether a line in front of the marker is
recorded, and whether it ran at all. How often it ran, and whatever is recorded at the marker or
behind it, is screened off.
-/

set_option autoImplicit false

namespace SuiteCoverage

/-- Accounts of which the short report shows the same. -/
structure FileAccount.SameFigures (account other : FileAccount) : Prop where
  path : account.path = other.path
  statements : account.statements = other.statements
  executed : account.executed = other.executed

/-! ## Reports of the same figures -/

section Figures

variable {m other : Measurement}

theorem FileAccount.SameFigures.totals {account other : FileAccount}
    (h : account.SameFigures other) : account.totals = other.totals := by
  rw [FileAccount.totals, FileAccount.totals, h.statements, h.executed]

end Figures

namespace Session

variable {κ κ' σ σ' τ : Type}

/-- Courses in which the same paths came into scope, in the same spelling, and in which every line
    in front of the marker was recorded in both or in neither, and ran in both or in neither. `w` is
    the world that the marker is looked for in. -/
structure Course.SameInFront (one : Course κ σ) (other : Course κ' σ') (w : World) : Prop where
  spelled : ∀ p, (one.inScope.find? fun file => file.path.same p).map (·.path)
    = (other.inScope.find? fun file => file.path.same p).map (·.path)
  recorded : ∀ file ∈ one.inScope, ∀ n, ¬ IsCutOff one.session.settings w file.path n →
    (HitTable.countsAt one.inScope file.path n = [] ↔
      HitTable.countsAt other.inScope file.path n = [])
  ran : ∀ file ∈ one.inScope, ∀ n, ¬ IsCutOff one.session.settings w file.path n →
    (0 < (HitTable.countsAt one.inScope file.path n).sum ↔
      0 < (HitTable.countsAt other.inScope file.path n).sum)

/-- The accounts of such courses stand for the same paths, file by file. -/
theorem Course.SameInFront.paths {one : Course κ σ} {other : Course κ' σ'} {v w : World}
    (h : one.SameInFront other v) {boundaries : List Boundary}
    (hboundaries : one.session.settings.boundaries = .ok boundaries) :
    List.Forall₂ (fun account account' => account.path = account'.path)
      (measure one.session.settings boundaries v (.ofFiles one.inScope)).files
      (measure one.session.settings boundaries w (.ofFiles other.inScope)).files := by
  have hentries : List.Forall₂ (fun e e' => e.1 = e'.1) (HitTable.ofFiles one.inScope).entries
      (HitTable.ofFiles other.inScope).entries := by
    refine OrderedMap.forall₂_entries fun p => ?_
    have hpath := h.spelled p
    rw [← HitTable.map_held?_ofFiles, ← HitTable.map_held?_ofFiles] at hpath
    cases hone : (HitTable.ofFiles one.inScope).held? p <;>
      cases hother : (HitTable.ofFiles other.inScope).held? p <;> simp_all
  rw [files_measure hboundaries, files_measure hboundaries, List.forall₂_map_left_iff,
    List.forall₂_map_right_iff]
  exact hentries

/-- Whatever differs at the marker or behind it, the figures do not. -/
theorem Course.SameInFront.figures {one : Course κ σ} {other : Course κ' σ'} {v w : World}
    (h : one.SameInFront other v)
    (hsettings : other.session.settings = one.session.settings) {boundaries : List Boundary}
    (hboundaries : one.session.settings.boundaries = .ok boundaries)
    (hsources : ∀ file ∈ one.inScope,
      (v.readText file.path).toOption = (w.readText file.path).toOption) :
    List.Forall₂ FileAccount.SameFigures
      (measure one.session.settings boundaries v (.ofFiles one.inScope)).files
      (measure one.session.settings boundaries w (.ofFiles other.inScope)).files := by
  have hexact : Exact one.session.settings one.rounds v
      (measure one.session.settings boundaries v (.ofFiles one.inScope)) := by
    rw [Course.inScope, ← gatherAll_eq_ofFiles]
    exact exact_measure hboundaries
  have hexact' : Exact one.session.settings other.rounds w
      (measure one.session.settings boundaries w (.ofFiles other.inScope)) := by
    rw [Course.inScope, hsettings, ← gatherAll_eq_ofFiles]
    exact exact_measure hboundaries
  refine forall₂_imp_of_mem (h.paths hboundaries) fun account hmem account' hmem' hpath => ?_
  obtain ⟨file, hfind, hfile⟩ := Option.map_eq_some_iff.1 (hexact.spelled account hmem)
  have hin : file ∈ one.inScope := List.mem_of_find?_eq_some hfind
  have hcutoff : ∀ n, IsCutOff one.session.settings w account.path n ↔
      IsCutOff one.session.settings v account.path n := by
    intro n
    rw [IsCutOff, IsCutOff, ← hfile, Settings.cutoff?_congr (hsources file hin)]
  have hrecorded := h.recorded file hin
  have hran := h.ran file hin
  rw [hfile] at hrecorded hran
  have hcollected : collected one.session.settings other.rounds = other.inScope := by
    rw [Course.inScope, hsettings]
  have hstatements : account.statements = account'.statements := by
    refine LineSet.ext_mem fun n => ?_
    rw [hexact.statements account hmem, hexact'.statements account' hmem', ← hpath, hcutoff,
      hcollected]
    exact and_congr_left fun hfront => not_congr (hrecorded n hfront)
  refine ⟨hpath, hstatements, LineSet.ext_mem fun n => ?_⟩
  rw [hexact.executed account hmem, hexact'.executed account' hmem', ← hstatements, ← hpath,
    hcollected]
  refine and_congr_right fun hstatement => hran n ?_
  exact ((hexact.statements account hmem n).1 hstatement).2

end Session
end SuiteCoverage
