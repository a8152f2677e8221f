import SuiteCoverage.Measurement
import SuiteCoverage.Proofs.Hits

/-!
# Accounts of merged counts

The account of a file commutes with merging: a line counts, has run or is left out in the account of
a sum just if it does in that of a summand (`ofHits_sum`). So nothing depends on which counts were
merged with which, nor on when (`Merged.unique`), and what has run once has run for good. A boundary
that moves back gives lines that were left out to those that count, and takes none away
(`ofHits_postponed`).

In each account only lines that count have run. This is what makes figures add up: what is missing
in all files is what is missing in each, and no difference of totals is cut off at zero.
-/

set_option autoImplicit false

namespace SuiteCoverage

/-! ## Counts of a line -/

/-- The lines of both. -/
def LineSet.union (s t : LineSet) : LineSet :=
  ofList (s.lines ++ t.lines)

theorem LineSet.mem_union {s t : LineSet} {n : LineNumber} : n ∈ s.union t ↔ n ∈ s ∨ n ∈ t := by
  rw [union, mem_ofList, List.mem_append, mem_iff, mem_iff]

namespace LineCounts

variable {counts a b : LineCounts} {n : LineNumber}

/-- There is a count for the line, be it zero. -/
def Records (counts : LineCounts) (n : LineNumber) : Prop :=
  (OrderedMap.get? counts n).isSome

/-- The line has run. -/
def Ran (counts : LineCounts) (n : LineNumber) : Prop :=
  0 < (OrderedMap.get? counts n).getD 0

theorem Ran.records (h : counts.Ran n) : counts.Records n := by
  unfold Ran at h
  cases hget : OrderedMap.get? counts n with
  | none => simp [hget] at h
  | some count => rw [Records, hget]; rfl

theorem records_sum : (a.sum b).Records n ↔ a.Records n ∨ b.Records n := by
  rw [Records, get?_sum, Records, Records]
  cases OrderedMap.get? a n <;> cases OrderedMap.get? b n <;> simp

theorem ran_sum : (a.sum b).Ran n ↔ a.Ran n ∨ b.Ran n := by
  rw [Ran, get?_sum, Ran, Ran]
  cases OrderedMap.get? a n <;> cases OrderedMap.get? b n <;> simp

/-- The lines that have a count, and are where they should be. -/
theorem mem_linesWhere_line (keep : LineNumber → Bool) :
    n ∈ counts.linesWhere (fun entry => keep entry.1) ↔ counts.Records n ∧ keep n = true := by
  rw [mem_linesWhere, Records, Option.isSome_iff_exists]
  simp only [get?_eq_some_iff, exists_and_right]

/-- The lines that have run, and are where they should be. -/
theorem mem_linesWhere_ran (keep : LineNumber → Bool) :
    n ∈ counts.linesWhere (fun entry => keep entry.1 && decide (0 < entry.2))
      ↔ counts.Ran n ∧ keep n = true := by
  rw [mem_linesWhere]
  constructor
  · rintro ⟨count, hentry, hkeep⟩
    rw [Bool.and_eq_true, decide_eq_true_iff] at hkeep
    rw [Ran, get?_eq_some_iff.2 hentry]
    exact ⟨hkeep.2, hkeep.1⟩
  · rintro ⟨hran, hkeep⟩
    obtain ⟨count, hget⟩ := Option.isSome_iff_exists.1 hran.records
    rw [Ran, hget] at hran
    refine ⟨count, get?_eq_some_iff.1 hget, ?_⟩
    rw [hkeep, Bool.true_and, decide_eq_true_iff]
    exact hran

end LineCounts

/-! ## The account of a sum -/

namespace FileAccount

variable {hits : FileHits} {path : Pathname} {boundary : Option LineNumber} {n : LineNumber}

theorem mem_statements :
    n ∈ (ofHits hits boundary).statements ↔ hits.lines.Records n ∧ beyond boundary n = false := by
  show n ∈ hits.lines.linesWhere (fun entry => !beyond boundary entry.1) ↔ _
  rw [LineCounts.mem_linesWhere_line (fun n => !beyond boundary n), Bool.not_eq_true']

theorem mem_executed :
    n ∈ (ofHits hits boundary).executed ↔ hits.lines.Ran n ∧ beyond boundary n = false := by
  show n ∈ hits.lines.linesWhere (fun e => !beyond boundary e.1 && decide (0 < e.2)) ↔ _
  rw [LineCounts.mem_linesWhere_ran (fun n => !beyond boundary n), Bool.not_eq_true']

theorem mem_excluded :
    n ∈ (ofHits hits boundary).excluded ↔ hits.lines.Records n ∧ beyond boundary n = true :=
  LineCounts.mem_linesWhere_line (beyond boundary)

/-- Accounts are told by their path and by the lines in them. -/
theorem ext_mem {one other : FileAccount} (hpath : one.path = other.path)
    (hstatements : ∀ n, n ∈ one.statements ↔ n ∈ other.statements)
    (hexecuted : ∀ n, n ∈ one.executed ↔ n ∈ other.executed)
    (hexcluded : ∀ n, n ∈ one.excluded ↔ n ∈ other.excluded) : one = other := by
  obtain ⟨_, _, _, _⟩ := one
  obtain ⟨_, _, _, _⟩ := other
  cases hpath
  cases LineSet.ext_mem hstatements
  cases LineSet.ext_mem hexecuted
  cases LineSet.ext_mem hexcluded
  rfl

/-- The lines of both accounts, each in its place. The path is that of the first. -/
def union (one other : FileAccount) : FileAccount where
  path := one.path
  statements := one.statements.union other.statements
  executed := one.executed.union other.executed
  excluded := one.excluded.union other.excluded

/-- The account of a sum has the lines of the accounts of its summands. -/
theorem ofHits_sum (path : Pathname) (a b : LineCounts) (boundary : Option LineNumber) :
    ofHits ⟨path, a.sum b⟩ boundary
      = (ofHits ⟨path, a⟩ boundary).union (ofHits ⟨path, b⟩ boundary) := by
  refine ext_mem rfl (fun n => ?_) (fun n => ?_) (fun n => ?_)
  · rw [union, LineSet.mem_union, mem_statements, mem_statements, mem_statements,
      LineCounts.records_sum, or_and_right]
  · rw [union, LineSet.mem_union, mem_executed, mem_executed, mem_executed, LineCounts.ran_sum,
      or_and_right]
  · rw [union, LineSet.mem_union, mem_excluded, mem_excluded, mem_excluded,
      LineCounts.records_sum, or_and_right]

end FileAccount

/-! ## Merging in any order -/

/-- Counts that come of merging those in a list, any two at a time. -/
inductive LineCounts.Merged : List LineCounts → LineCounts → Prop
  | single (counts : LineCounts) : Merged [counts] counts
  | sum {one other : List LineCounts} {a b : LineCounts} :
      Merged one a → Merged other b → Merged (one ++ other) (a.sum b)

namespace LineCounts.Merged

variable {parts others : List LineCounts} {whole counts : LineCounts} {n : LineNumber}

/-- A line has the sum of all its counts, or none if there are none. -/
theorem get?_eq (h : Merged parts whole) (n : LineNumber) :
    OrderedMap.get? whole n
      = if (parts.filterMap fun part => OrderedMap.get? part n).isEmpty then none
        else some (parts.filterMap fun part => OrderedMap.get? part n).sum := by
  induction h with
  | single counts => cases hget : OrderedMap.get? counts n <;> simp [hget]
  | sum _ _ ihone ihother =>
    rw [get?_sum, ihone, ihother, List.filterMap_append]
    generalize List.filterMap _ _ = front
    generalize List.filterMap _ _ = back
    cases front <;> cases back <;> simp [Nat.add_assoc]

/-- However counts are merged, and in whatever order, the outcome is the same. -/
theorem unique {other : LineCounts} (hparts : parts.Perm others) (h : Merged parts whole)
    (hother : Merged others other) : whole = other := by
  refine LineCounts.ext_get? fun n => ?_
  have hcounts := hparts.filterMap fun part => OrderedMap.get? part n
  have hempty : (parts.filterMap fun part => OrderedMap.get? part n).isEmpty
      = (others.filterMap fun part => OrderedMap.get? part n).isEmpty := by
    rw [Bool.eq_iff_iff, List.isEmpty_iff_length_eq_zero, List.isEmpty_iff_length_eq_zero,
      hcounts.length_eq]
  rw [h.get?_eq, hother.get?_eq, hempty, hcounts.sum_eq]

/-- What has run in a part has run. -/
theorem ran (h : Merged parts whole) (hpart : counts ∈ parts) (hran : counts.Ran n) :
    whole.Ran n := by
  induction h with
  | single only =>
    cases List.mem_singleton.1 hpart
    exact hran
  | sum _ _ ihone ihother =>
    rw [ran_sum]
    exact (List.mem_append.1 hpart).imp ihone ihother

/-- Merging one after the other. -/
theorem foldl (h : Merged parts whole) (more : List LineCounts) :
    Merged (parts ++ more) (more.foldl LineCounts.sum whole) := by
  induction more generalizing parts whole with
  | nil => rwa [List.append_nil]
  | cons counts rest ih =>
    have hnext := ih (h.sum (.single counts))
    rwa [List.append_assoc] at hnext

end LineCounts.Merged

/-- A table has merged, for each path, what was added for it. -/
theorem HitTable.merged_ofFiles {files : List FileHits} {p : Pathname} {e : Pathname × LineCounts}
    (h : (ofFiles files).held? p = some e) :
    LineCounts.Merged ((files.filter fun file => file.path.same p).map (·.lines)) e.2 := by
  rw [ofFiles, held?_foldl_add, OrderedMap.held?_empty] at h
  cases hfiles : files.filter fun file => file.path.same p with
  | nil =>
    rw [hfiles] at h
    cases h
  | cons first rest =>
    rw [hfiles, List.foldl_cons] at h
    obtain rfl := Option.some.inj (h.symm.trans (foldl_absorb rest _))
    exact (LineCounts.Merged.single first.lines).foldl (rest.map (·.lines))

/-! ## Boundaries that move -/

/-- A boundary that is dropped, or moved to the same line or to a later one. -/
inductive Postponed : Option LineNumber → Option LineNumber → Prop
  | dropped (boundary : Option LineNumber) : Postponed boundary none
  | moved {start later : LineNumber} : start ≤ later → Postponed (some start) (some later)

namespace FileAccount

theorem beyond_of_postponed {boundary later : Option LineNumber} (h : Postponed boundary later)
    {n : LineNumber} (hn : beyond later n = true) : beyond boundary n = true := by
  cases h with
  | dropped => cases hn
  | moved hle =>
    simp only [beyond, Option.any_some, decide_eq_true_iff] at hn ⊢
    exact UInt32.le_trans hle hn

/-- A boundary that is put off gives lines back that were left out. They count from then on, and
    those that ran have run; nothing else changes. -/
theorem ofHits_postponed (hits : FileHits) {boundary later : Option LineNumber}
    (h : Postponed boundary later) :
    let before := ofHits hits boundary
    let after := ofHits hits later
    let returned := before.excluded.diff after.excluded
    (∀ n ∈ after.excluded, n ∈ before.excluded) ∧
      after.statements = before.statements.union returned ∧
      ∀ n, n ∈ after.executed ↔ n ∈ before.executed ∨ n ∈ returned ∧ hits.lines.Ran n := by
  intro before after returned
  have hreturned (n : LineNumber) : n ∈ returned ↔
      hits.lines.Records n ∧ beyond boundary n = true ∧ beyond later n = false := by
    rw [LineSet.mem_diff, mem_excluded, mem_excluded, not_and, Bool.not_eq_true, and_assoc]
    exact and_congr_right fun hrecords => and_congr_right fun _ => ⟨fun h => h hrecords, fun h _ => h⟩
  have hfront (n : LineNumber) (hn : beyond boundary n = false) : beyond later n = false := by
    rw [← Bool.not_eq_true] at hn ⊢
    exact mt (beyond_of_postponed h) hn
  refine ⟨fun n hn => ?_, LineSet.ext_mem fun n => ?_, fun n => ?_⟩
  · rw [mem_excluded] at hn ⊢
    exact ⟨hn.1, beyond_of_postponed h hn.2⟩
  · rw [LineSet.mem_union, hreturned, mem_statements, mem_statements]
    cases hstart : beyond boundary n with
    | false => simp [hfront n hstart]
    | true => simp
  · rw [hreturned, mem_executed, mem_executed]
    cases hstart : beyond boundary n with
    | false => simp [hfront n hstart]
    | true =>
      have hboth : hits.lines.Records n ∧ hits.lines.Ran n ↔ hits.lines.Ran n :=
        and_iff_right_of_imp LineCounts.Ran.records
      simp only [Bool.true_eq_false, and_false, true_and, false_or]
      rw [and_right_comm, hboth]

end FileAccount

/-! ## Figures of a file and of all files -/

/-- Only lines that count have run. -/
def FileAccount.IsSound (account : FileAccount) : Prop :=
  ∀ n ∈ account.executed, n ∈ account.statements

namespace FileAccount

variable {account : FileAccount}

theorem isSound_ofHits (hits : FileHits) (boundary : Option LineNumber) :
    (ofHits hits boundary).IsSound := by
  intro n hn
  obtain ⟨hran, hfront⟩ := mem_executed.1 hn
  exact mem_statements.2 ⟨hran.records, hfront⟩

/-- A line that counts has run or is missing. -/
theorem IsSound.size_statements (h : account.IsSound) :
    account.statements.size = account.executed.size + account.missing.size := by
  have hran : (account.statements.lines.filter (· ∈ account.executed)).Perm
      account.executed.lines := by
    refine (List.perm_ext_iff_of_nodup (account.statements.nodup.filter _)
      account.executed.nodup).2 fun n => ?_
    rw [List.mem_filter, decide_eq_true_iff]
    exact ⟨fun hn => hn.2, fun hn => ⟨h n hn, hn⟩⟩
  have hparts := List.length_eq_length_filter_add (l := account.statements.lines)
    (· ∈ account.executed)
  rw [hran.length_eq] at hparts
  simpa [LineSet.size, missing, LineSet.diff] using hparts

/-- What the totals of a file say is missing are the lines that are. -/
theorem IsSound.missing_totals (h : account.IsSound) :
    account.totals.missing = account.missing.size := by
  have hsize := h.size_statements
  show account.statements.size - account.executed.size = account.missing.size
  omega

end FileAccount

namespace Totals

theorem sum_eq (items : List Totals) :
    sum items = ⟨(items.map (·.statements)).sum, (items.map (·.executed)).sum⟩ := by
  have hadd (first : Totals) : items.foldl add first
      = ⟨first.statements + (items.map (·.statements)).sum,
          first.executed + (items.map (·.executed)).sum⟩ := by
    induction items generalizing first with
    | nil => simp
    | cons item rest ih =>
      rw [List.foldl_cons, ih]
      simp [add, Nat.add_assoc]
  rw [sum, hadd]
  simp [zero]

end Totals

namespace Measurement

variable {m : Measurement}

theorem totals_eq (m : Measurement) :
    m.totals = ⟨(m.files.map fun file => file.statements.size).sum,
      (m.files.map fun file => file.executed.size).sum⟩ := by
  rw [totals, Totals.sum_eq, List.map_map, List.map_map]
  rfl

theorem statements_totals (m : Measurement) :
    m.totals.statements = (m.files.map fun file => file.statements.size).sum := by
  rw [totals_eq]

/-- Of all lines that count, those of any file have run or are missing. -/
theorem sum_size_statements {files : List FileAccount} (hsound : ∀ file ∈ files, file.IsSound) :
    (files.map fun file => file.statements.size).sum
      = (files.map fun file => file.executed.size).sum
        + (files.map fun file => file.missing.size).sum := by
  induction files with
  | nil => rfl
  | cons file rest ih =>
    have hfile := (hsound file (by simp)).size_statements
    have hrest := ih fun other hother => hsound other (by simp [hother])
    simp only [List.map_cons, List.sum_cons]
    omega

/-- What is missing in all is what is missing in each file. -/
theorem missing_totals (hsound : ∀ file ∈ m.files, file.IsSound) :
    m.totals.missing = (m.files.map fun file => file.missing.size).sum := by
  rw [totals_eq, Totals.missing, sum_size_statements hsound, Nat.add_sub_cancel_left]

theorem executed_totals_le (hsound : ∀ file ∈ m.files, file.IsSound) :
    m.totals.executed ≤ m.totals.statements := by
  rw [totals_eq, sum_size_statements hsound]
  exact Nat.le_add_right _ _

end Measurement

/-! ## Merged counts in accounts -/

open FileAccount LineCounts in
/-- Accounts commute with merging. That of a sum has the lines of both summands, so whatever counts
    are merged, in a list of them or in a table, the order does not matter and neither does which are
    merged first; and a line that has run in one of them is not missing in the end. A boundary that
    is put off only gives lines back. In a measurement of such accounts the figures agree with the
    sets of lines, in each file and in all. -/
theorem accounts_commute_with_merging (path : Pathname) (boundary : Option LineNumber) :
    (∀ a b, ofHits ⟨path, a.sum b⟩ boundary
      = (ofHits ⟨path, a⟩ boundary).union (ofHits ⟨path, b⟩ boundary)) ∧
    (∀ {parts others a b}, parts.Perm others → Merged parts a → Merged others b →
      ofHits ⟨path, a⟩ boundary = ofHits ⟨path, b⟩ boundary) ∧
    (∀ {files e}, (HitTable.ofFiles files).held? path = some e →
      Merged ((files.filter fun file => file.path.same path).map (·.lines)) e.2) ∧
    (∀ {parts whole part n}, Merged parts whole → part ∈ parts →
      n ∈ (ofHits ⟨path, part⟩ boundary).executed →
        n ∈ (ofHits ⟨path, whole⟩ boundary).executed ∧
          n ∉ (ofHits ⟨path, whole⟩ boundary).missing) ∧
    (∀ {later} (counts : LineCounts), Postponed boundary later →
      let before := ofHits ⟨path, counts⟩ boundary
      let after := ofHits ⟨path, counts⟩ later
      let returned := before.excluded.diff after.excluded
      (∀ n ∈ after.excluded, n ∈ before.excluded) ∧
        after.statements = before.statements.union returned ∧
        ∀ n, n ∈ after.executed ↔ n ∈ before.executed ∨ n ∈ returned ∧ counts.Ran n) ∧
    (∀ source (entries : List (FileHits × Option LineNumber)),
      let m := Measurement.ofFiles source (entries.map fun entry => ofHits entry.1 entry.2)
      (∀ file ∈ m.files, file.totals.executed ≤ file.totals.statements ∧
        file.totals.missing = file.missing.size) ∧
      m.totals.executed ≤ m.totals.statements ∧
        m.totals.missing = (m.files.map fun file => file.missing.size).sum) := by
  refine ⟨fun a b => ofHits_sum path a b boundary, ?_, HitTable.merged_ofFiles, ?_,
    fun counts h => ofHits_postponed ⟨path, counts⟩ h, ?_⟩
  · intro parts others a b hparts ha hb
    rw [ha.unique hparts hb]
  · intro parts whole part n hmerged hpart hran
    rw [mem_executed] at hran
    have hwhole : n ∈ (ofHits ⟨path, whole⟩ boundary).executed :=
      mem_executed.2 ⟨hmerged.ran hpart hran.1, hran.2⟩
    exact ⟨hwhole, fun hmissing => (LineSet.mem_diff.1 hmissing).2 hwhole⟩
  · intro source entries m
    have hsound : ∀ file ∈ m.files, file.IsSound := by
      intro file hfile
      obtain ⟨entry, -, rfl⟩ := List.mem_map.1 (List.mem_mergeSort.1 hfile)
      exact isSound_ofHits entry.1 entry.2
    refine ⟨fun file hfile => ⟨?_, (hsound file hfile).missing_totals⟩,
      Measurement.executed_totals_le hsound, Measurement.missing_totals hsound⟩
    exact (Nat.le_add_right _ _).trans_eq (hsound file hfile).size_statements.symm

/-- Two runs of a file. In the second a line behind the boundary has run. -/
def firstRun : LineCounts := .ofList [(1, 2), (2, 0), (3, 0)]

@[inherit_doc firstRun]
def secondRun : LineCounts := .ofList [(2, 3), (3, 0), (9, 1)]

/-- Two runs, merged either way. -/
theorem accounts_commute_with_merging_two_runs :
    let merged := FileAccount.ofHits ⟨⟨"/src/a.cpp"⟩, firstRun.sum secondRun⟩ (some 9)
    FileAccount.ofHits ⟨⟨"/src/a.cpp"⟩, secondRun.sum firstRun⟩ (some 9) = merged ∧
      1 ∈ merged.executed ∧ 1 ∉ merged.missing ∧ merged.missing = .ofList [3] ∧
      (FileAccount.ofHits ⟨⟨"/src/a.cpp"⟩, secondRun⟩ none).statements = .ofList [2, 3, 9] := by
  have hfirst := LineCounts.Merged.single firstRun
  have hsecond := LineCounts.Merged.single secondRun
  obtain ⟨-, hsame, -, hran, hlater, -⟩ :=
    accounts_commute_with_merging ⟨"/src/a.cpp"⟩ (some 9)
  have hone : 1 ∈ (FileAccount.ofHits ⟨⟨"/src/a.cpp"⟩, firstRun⟩ (some 9)).executed := by decide
  obtain ⟨hexecuted, hmissing⟩ := hran (hfirst.sum hsecond) (by simp) hone
  obtain ⟨-, hstatements, -⟩ := hlater secondRun (.dropped (some 9))
  refine ⟨hsame (List.Perm.swap _ _ _) (hsecond.sum hfirst) (hfirst.sum hsecond), hexecuted,
    hmissing, by decide, ?_⟩
  rw [hstatements]
  decide

end SuiteCoverage
