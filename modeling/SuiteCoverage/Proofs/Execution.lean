import SuiteCoverage.Execution
import SuiteCoverage.Proofs.Numeral
import SuiteCoverage.Text.Lines

/-!
# What comes of a suite

The tests of a suite are launched one after the other, and the console is written to in between. The
launches are told apart from the console here: a chain in which every launch starts from the world
that the one before it left (`Follows`). A chain is determined by where it starts and by its tests,
and a run of a suite is a chain through all its tests (`runCases_follows`); that is all there is to
know about what the console can do to the tests.

A console that takes everything is told, in turn, what `told` says of each test, and then the summary
(`run_told`). Both are functions of the outcomes alone, so what a transcript looks like is a matter of
texts from there on: its lines while the tests run, its blocks, and the line it ends with.
-/

set_option autoImplicit false

namespace SuiteCoverage

/-! ## Launches -/

/-- A test that was launched, and what came of its program. -/
structure Launched where
  test : TestCase
  answer : Except Fault Finish

namespace Launched

/-- What came of a test. -/
def outcome (launched : Launched) : Outcome := launched.test.outcome launched.answer

/-- The program of a test ended by itself and reported success. -/
def Succeeded (launched : Launched) : Prop :=
  ∃ finish, launched.answer = .ok finish ∧ finish.ending = .status 0

/-- Launches one after the other, from one world to another: each starts in the world that the one
    before it left, and that no one else has touched. -/
inductive Follows (launch : Launcher) : World → List Launched → World → Prop
  | done {w : World} : Follows launch w [] w
  | next {test : TestCase} {w middle last : World} {answer : Except Fault Finish}
      {rest : List Launched} (hlaunch : launch ⟨test.path, []⟩ w = (answer, middle))
      (hrest : Follows launch middle rest last) : Follows launch w (⟨test, answer⟩ :: rest) last

namespace Follows

variable {launch : Launcher} {w last otherLast : World} {launches others : List Launched}

/-- Launches of the same tests from the same world are the same. -/
theorem unique (h : Follows launch w launches last) (hothers : Follows launch w others otherLast)
    (htests : launches.map (·.test) = others.map (·.test)) :
    launches = others ∧ last = otherLast := by
  induction h generalizing others with
  | done =>
    cases List.map_eq_nil_iff.1 htests.symm
    cases hothers
    exact ⟨rfl, rfl⟩
  | next hlaunch hrest ih =>
    cases hothers with
    | done => cases htests
    | next hother hothers =>
      rw [List.map_cons, List.map_cons, List.cons.injEq] at htests
      obtain ⟨rfl, htests⟩ := htests
      cases hlaunch.symm.trans hother
      obtain ⟨rfl, rfl⟩ := ih hothers htests
      exact ⟨rfl, rfl⟩

/-- Whoever takes note of every command that is launched notes those of the launches, in order. -/
theorem noted (h : Follows launch w launches last) {note : World → List Command}
    (hnote : ∀ command w, note (launch command w).2 = note w ++ [command]) :
    note last = note w ++ launches.map fun launched => ⟨launched.test.path, []⟩ := by
  induction h with
  | done => simp
  | @next test w middle last answer rest hlaunch hrest ih =>
    have hmiddle : note middle = note w ++ [⟨test.path, []⟩] := by
      rw [← hnote, hlaunch]
    rw [ih, hmiddle, List.append_assoc, List.map_cons, List.singleton_append]

end Follows

/-- A test passes if its program ended with the status of success, and not otherwise. -/
theorem verdict_outcome_iff {launched : Launched} :
    launched.outcome.verdict = .passed ↔ launched.Succeeded := by
  obtain ⟨test, answer⟩ := launched
  unfold outcome Succeeded
  cases answer with
  | error fault => exact ⟨nofun, fun ⟨_, h, _⟩ => nomatch h⟩
  | ok finish =>
    obtain ⟨ending, output, errors⟩ := finish
    simp only [TestCase.outcome, Except.ok.injEq, exists_eq_left']
    cases ending with
    | status code =>
      cases code with
      | zero => simp [Verdict.ofEnding]
      | succ code => simp [Verdict.ofEnding]
    | signal number => simp [Verdict.ofEnding]

theorem name_outcome (launched : Launched) : launched.outcome.name = launched.test.name := by
  unfold outcome
  cases launched.answer <;> rfl

end Launched

/-! ## Counting -/

/-- Every test has one of three verdicts. -/
theorem Run.count_sum (run : Run) :
    run.count .passed + run.count .failed + run.count .errored = run.size := by
  obtain ⟨outcomes⟩ := run
  unfold count size
  induction outcomes with
  | nil => rfl
  | cons outcome rest ih =>
    simp only [List.countP_cons, List.length_cons] at ih ⊢
    cases outcome.verdict <;> simp <;> omega

/-- A run is successful if every test passed. -/
theorem Run.isSuccessful_iff {run : Run} :
    run.isSuccessful = true ↔ ∀ outcome ∈ run.outcomes, outcome.verdict = .passed := by
  unfold isSuccessful count
  rw [Bool.and_eq_true, beq_iff_eq, beq_iff_eq, List.countP_eq_zero, List.countP_eq_zero]
  constructor
  · rintro ⟨hfailed, herrored⟩ outcome houtcome
    have hnot := hfailed outcome houtcome
    have hnot' := herrored outcome houtcome
    cases hverdict : outcome.verdict with
    | passed => rfl
    | failed => simp [hverdict] at hnot
    | errored => simp [hverdict] at hnot'
  · intro hpassed
    exact ⟨fun outcome houtcome => by simp [hpassed outcome houtcome],
      fun outcome houtcome => by simp [hpassed outcome houtcome]⟩

/-! ## Runs -/

namespace Suite

variable {σ τ : Type}

/-- The console once it has been told about a test. -/
def tell (console : Stream σ) (verbosity : Verbosity) (outcome : Outcome) (s : σ) : σ :=
  let shown := (console.send (Transcript.started verbosity outcome.name) s).2
  (console.send (Transcript.finished verbosity outcome.verdict) shown).2

/-- The first of several tests is launched, the console is told about it, and the others run. -/
theorem runCases_cons {launch : Launcher} {test : TestCase} {w after : World}
    {answer : Except Fault Finish} (console : Stream σ) (verbosity : Verbosity)
    (rest : List TestCase) (s : σ) (hlaunch : launch ⟨test.path, []⟩ w = (answer, after)) :
    runCases launch console verbosity (test :: rest) w s
      = (test.outcome answer ::
          (runCases launch console verbosity rest after
            (tell console verbosity (test.outcome answer) s)).1,
        (runCases launch console verbosity rest after
          (tell console verbosity (test.outcome answer) s)).2) := by
  have hname : (test.outcome answer).name = test.name := Launched.name_outcome ⟨test, answer⟩
  rw [runCases, tell, hname]
  simp only [TestCase.execute, hlaunch]

/-- Whatever the console does, the tests are launched one after the other, each once. -/
theorem runCases_follows (launch : Launcher) (console : Stream σ) (verbosity : Verbosity)
    (tests : List TestCase) (w : World) (s : σ) :
    ∃ launches, Launched.Follows launch w launches
        (runCases launch console verbosity tests w s).2.1 ∧
      launches.map (·.test) = tests ∧
      (runCases launch console verbosity tests w s).1 = launches.map (·.outcome) := by
  induction tests generalizing w s with
  | nil => exact ⟨[], .done, rfl, rfl⟩
  | cons test rest ih =>
    rcases hlaunch : launch ⟨test.path, []⟩ w with ⟨answer, after⟩
    let launched : Launched := ⟨test, answer⟩
    have hrun := runCases_cons console verbosity rest s hlaunch
    obtain ⟨launches, hfollows, htests, houtcomes⟩ := ih after _
    refine ⟨launched :: launches, ?_, ?_, ?_⟩
    · rw [hrun]
      exact .next hlaunch hfollows
    · rw [List.map_cons, htests]
    · rw [hrun, List.map_cons, ← houtcomes]
      rfl

/-- Two runs of tests from one world agree in what comes of the tests and in what becomes of the
    world, whatever the consoles do and however much they are told. -/
theorem runCases_agree (launch : Launcher) (console : Stream σ) (other : Stream τ)
    (verbosity otherVerbosity : Verbosity) (tests : List TestCase) (w : World) (s : σ) (t : τ) :
    (runCases launch other otherVerbosity tests w t).1
        = (runCases launch console verbosity tests w s).1 ∧
      (runCases launch other otherVerbosity tests w t).2.1
        = (runCases launch console verbosity tests w s).2.1 := by
  obtain ⟨launches, hfollows, htests, houtcomes⟩ :=
    runCases_follows launch console verbosity tests w s
  obtain ⟨others, hothers, hothertests, hotheroutcomes⟩ :=
    runCases_follows launch other otherVerbosity tests w t
  obtain ⟨rfl, hlast⟩ := hfollows.unique hothers (htests.trans hothertests.symm)
  exact ⟨hotheroutcomes.trans houtcomes.symm, hlast.symm⟩

/-- The outcomes have the names of the tests, in the order of the tests. -/
theorem names_runCases (launch : Launcher) (console : Stream σ) (verbosity : Verbosity)
    (tests : List TestCase) (w : World) (s : σ) :
    (runCases launch console verbosity tests w s).1.map (·.name) = tests.map (·.name) := by
  obtain ⟨launches, -, htests, houtcomes⟩ := runCases_follows launch console verbosity tests w s
  rw [houtcomes, ← htests, List.map_map, List.map_map]
  exact List.map_congr_left fun launched _ => launched.name_outcome

/-- Every test is accounted for, whatever the consoles do and however much they are told. Two runs
    of a suite from one world have the same outcomes and leave the same world. Every test is
    launched once, in the order of the suite and in the world that the one before it left, and has
    the outcome of its launch. Every test is counted once, and the run is successful if every
    program ended with the status of success. -/
theorem every_test_accounted_for (launch : Launcher) (suite : Suite) (w : World)
    (console : Stream σ) (other : Stream τ) (verbosity otherVerbosity : Verbosity) (s : σ) (t : τ) :
    let run := (suite.run launch console verbosity w s).1
    let last := (suite.run launch console verbosity w s).2.1
    (suite.run launch other otherVerbosity w t).1 = run ∧
    (suite.run launch other otherVerbosity w t).2.1 = last ∧
    (∃ launches, Launched.Follows launch w launches last ∧ launches.map (·.test) = suite.cases ∧
      run.outcomes = launches.map (·.outcome) ∧
      (run.isSuccessful = true ↔ ∀ launched ∈ launches, launched.Succeeded)) ∧
    (∀ note : World → List Command,
      (∀ command w, note (launch command w).2 = note w ++ [command]) →
        note last = note w ++ suite.cases.map fun test => ⟨test.path, []⟩) ∧
    run.outcomes.map (·.name) = suite.cases.map (·.name) ∧
    run.count .passed + run.count .failed + run.count .errored = run.size ∧
    run.size = suite.size := by
  intro run last
  obtain ⟨launches, hfollows, htests, houtcomes⟩ :=
    runCases_follows launch console verbosity suite.cases w s
  have hagree := runCases_agree launch console other verbosity otherVerbosity suite.cases w s t
  have hrun : run.outcomes = launches.map (·.outcome) := houtcomes
  refine ⟨?_, hagree.2, ⟨launches, hfollows, htests, hrun, ?_⟩, fun note hnote => ?_, ?_,
    run.count_sum, ?_⟩
  · exact congrArg Run.mk hagree.1
  · rw [Run.isSuccessful_iff, hrun, List.forall_mem_map]
    exact forall_congr' fun launched => forall_congr' fun _ => Launched.verdict_outcome_iff
  · rw [← htests, List.map_map]
    exact hfollows.noted hnote
  · exact names_runCases launch console verbosity suite.cases w s
  · rw [Run.size, hrun, List.length_map, Suite.size, ← htests, List.length_map]

end Suite

/-! ## Consoles that take everything -/

section Consoles

variable {σ : Type}

namespace Piece

@[simp] theorem textOf_nil : textOf [] = "" := rfl

@[simp] theorem textOf_text (written : String) (rest : List Piece) :
    textOf (.text written :: rest) = written ++ textOf rest := by
  simp [textOf]

@[simp] theorem textOf_flush (rest : List Piece) : textOf (.flush :: rest) = textOf rest := by
  simp [textOf]

@[simp] theorem textOf_line (written : String) (rest : List Piece) :
    textOf (.line written :: rest) = written ++ "\n" ++ textOf rest :=
  textOf_text _ rest

@[simp] theorem textOf_append (pieces rest : List Piece) :
    textOf (pieces ++ rest) = textOf pieces ++ textOf rest := by
  simp [textOf]

end Piece

/-- A stream takes whatever is written to it, and `written` tells what that has been so far. -/
def Stream.Takes (stream : Stream σ) (written : σ → String) : Prop :=
  ∀ piece s, ∃ next, stream.put piece s = (.ok (), next) ∧
    written next = written s ++ Piece.textOf [piece]

theorem Stream.takes_memory : Stream.memory.Takes id := fun _ _ => ⟨_, rfl, rfl⟩

theorem Stream.Takes.send {stream : Stream σ} {written : σ → String} (h : stream.Takes written)
    (pieces : List Piece) (s : σ) :
    written (stream.send pieces s).2 = written s ++ Piece.textOf pieces := by
  induction pieces generalizing s with
  | nil => simp [Stream.send]
  | cons piece rest ih =>
    obtain ⟨next, hput, hnext⟩ := h piece s
    rw [Stream.send, hput]
    simp only
    rw [ih, hnext, String.append_assoc, ← Piece.textOf_append, List.singleton_append]

end Consoles

/-! ## What is told -/

namespace Transcript

/-- The verdict that a character stands for. -/
def verdictOf? : Char → Option Verdict
  | '.' => some .passed
  | 'F' => some .failed
  | 'E' => some .errored
  | _ => none

theorem verdictOf?_mark (verdict : Verdict) : verdictOf? verdict.mark = some verdict := by
  cases verdict <;> rfl

/-- What is told about a test while the tests run. -/
def told (verbosity : Verbosity) (outcome : Outcome) : String :=
  Piece.textOf (started verbosity outcome.name)
    ++ Piece.textOf (finished verbosity outcome.verdict)

/-- What is told while tests run that come out so. -/
def progress (verbosity : Verbosity) (outcomes : List Outcome) : String :=
  String.join (outcomes.map (told verbosity))
    ++ if verbosity = .progress ∧ outcomes ≠ [] then "\n" else ""

/-- The output of a test, with a newline at its end even where the test wrote none. -/
def completed (output : String) : String :=
  if output.toList.getLast? = some '\n' then output else output ++ "\n"

/-- What is told about a test that did not pass: its verdict and its name between two rules, its
    output, and an empty line. -/
def blockText (outcome : Outcome) : String :=
  heavyRule ++ "\n" ++ (outcome.verdict.label ++ ": " ++ outcome.name) ++ "\n" ++ lightRule ++ "\n"
    ++ completed outcome.output ++ "\n"

theorem textOf_block (outcome : Outcome) : Piece.textOf (block outcome) = blockText outcome := by
  unfold block blockText completed
  split <;> simp [String.append_assoc]

theorem textOf_flatMap_block (outcomes : List Outcome) :
    Piece.textOf (outcomes.flatMap block) = String.join (outcomes.map blockText) := by
  induction outcomes with
  | nil => rfl
  | cons outcome rest ih => simp [textOf_block, ih]

/-- The summary of a run up to the time it took: the blocks of the tests that did not pass, and how
    many tests there were. -/
def opening (outcomes : List Outcome) : String :=
  String.join ((outcomes.filter (·.verdict != .passed)).map blockText)
    ++ lightRule ++ "\nRan " ++ toString outcomes.length
    ++ (if outcomes.length = 1 then " test in " else " tests in ")

theorem textOf_summary (run : Run) (elapsed : String) :
    Piece.textOf (summary run elapsed)
      = opening run.outcomes ++ elapsed ++ "s\n\n" ++ verdictLine run ++ "\n" := by
  have hcount : countLine run elapsed
      = "Ran " ++ toString run.outcomes.length
        ++ (if run.outcomes.length = 1 then " test in " else " tests in ") ++ elapsed ++ "s" := by
    unfold countLine Run.size
    split <;> simp [String.append_assoc]
  have hgap : "s\n\n" = "s" ++ "\n" ++ "\n" := rfl
  have hran : "\nRan " = "\n" ++ "Ran " := rfl
  rw [summary, Piece.textOf_append, textOf_flatMap_block, hcount, opening, hgap, hran]
  simp only [Piece.textOf_line, Piece.textOf_flush, Piece.textOf_nil, String.append_assoc,
    String.empty_append, String.append_empty]

/-! ### While the tests run -/

theorem progress_quiet (outcomes : List Outcome) : progress .quiet outcomes = "" := by
  induction outcomes with
  | nil => rfl
  | cons outcome rest ih => simpa [progress, told, started, finished] using ih

theorem toList_join_told (outcomes : List Outcome) :
    (String.join (outcomes.map (told .progress))).toList = outcomes.map (·.verdict.mark) := by
  induction outcomes with
  | nil => rfl
  | cons outcome rest ih =>
    rw [List.map_cons, String.join_cons, String.toList_append, ih]
    simp [told, started, finished]

/-- The characters of the tests make one line, and each tells the verdict of its test. -/
theorem progress_progress {outcomes : List Outcome} (hne : outcomes ≠ []) :
    ∃ line, progress .progress outcomes = line ++ "\n" ∧ '\n' ∉ line.toList ∧
      line.toList.map verdictOf? = outcomes.map fun outcome => some outcome.verdict := by
  refine ⟨String.join (outcomes.map (told .progress)), by simp [progress, hne], ?_, ?_⟩
  · rw [toList_join_told, List.mem_map]
    rintro ⟨outcome, -, hmark⟩
    cases hverdict : outcome.verdict <;> simp [hverdict, Verdict.mark] at hmark
  · rw [toList_join_told, List.map_map]
    exact List.map_congr_left fun outcome _ => verdictOf?_mark outcome.verdict

/-- Each test has a line of its own, with its name and its verdict. -/
theorem lines_progress_verbose {outcomes : List Outcome}
    (hnames : ∀ outcome ∈ outcomes, '\n' ∉ outcome.name.toList) :
    Text.lines (progress .verbose outcomes).toList
      = outcomes.map fun outcome =>
          (outcome.name ++ " ... " ++ outcome.verdict.label).toList := by
  have hjoin : progress .verbose outcomes = String.join (outcomes.map (told .verbose)) := by
    simp [progress]
  rw [hjoin]
  induction outcomes with
  | nil => rfl
  | cons outcome rest ih =>
    have htold : (told .verbose outcome).toList
        = (outcome.name ++ " ... " ++ outcome.verdict.label).toList ++ ['\n'] := by
      simp [told, started, finished]
    have hline : '\n' ∉ (outcome.name ++ " ... " ++ outcome.verdict.label).toList := by
      have hname := hnames outcome List.mem_cons_self
      cases outcome.verdict <;> simp [hname, Verdict.label]
    -- The line ends in a verdict, so nothing of it is taken for a part of the line end.
    have hlast : (outcome.name ++ " ... " ++ outcome.verdict.label).toList.getLast? ≠ some '\r' := by
      cases outcome.verdict <;> simp [Verdict.label]
    rw [List.map_cons, String.join_cons, String.toList_append, htold, List.append_assoc,
      List.singleton_append, Text.lines_line hline hlast, ih, List.map_cons]
    · exact fun other hother => hnames other (List.mem_cons_of_mem _ hother)
    · simp [progress]

/-! ### The end of the summary -/

/-- The kinds of tests that did not pass, each with the number of its tests; a kind of which there
    are none is left out. -/
def tallied (outcomes : List Outcome) : List String :=
  let tallies :=
    [("failures", outcomes.countP (·.verdict == .failed)),
      ("errors", outcomes.countP (·.verdict == .errored))]
  (tallies.filter fun tally => tally.2 ≠ 0).map fun tally => tally.1 ++ "=" ++ toString tally.2

theorem failures_eq (run : Run) : failures run = tallied run.outcomes := by
  unfold failures tallied Run.count
  by_cases hfailed : run.outcomes.countP (·.verdict == .failed) = 0 <;>
    by_cases herrored : run.outcomes.countP (·.verdict == .errored) = 0 <;>
      simp [hfailed, herrored, Nat.pos_iff_ne_zero]

theorem failures_ne_nil {run : Run} (h : run.isSuccessful = false) : failures run ≠ [] := by
  rw [Run.isSuccessful, Bool.and_eq_false_iff, beq_eq_false_iff_ne, beq_eq_false_iff_ne] at h
  unfold failures
  rcases h with hfailed | herrored
  · simp [Nat.pos_of_ne_zero hfailed]
  · simp [Nat.pos_of_ne_zero herrored]

theorem verdictLine_eq_ok_iff {run : Run} : verdictLine run = "OK" ↔ run.isSuccessful = true := by
  unfold verdictLine
  split
  · rename_i h
    exact ⟨fun _ => h, fun _ => rfl⟩
  · rename_i h
    refine ⟨fun heq => ?_, fun hsuccess => absurd hsuccess h⟩
    -- The two verdicts differ in their first character.
    have hhead := congrArg (fun line : String => line.toList.head?) heq
    simp at hhead

/-- The verdict on all tests is a single line. -/
theorem not_mem_verdictLine {c : Char} (hc : c = '\n' ∨ c = '\r') (run : Run) :
    c ∉ (verdictLine run).toList := by
  have hnumber (n : Nat) : c ∉ (toString n).toList := by
    rw [Numeral.toList_toString]
    refine Numeral.not_mem_toDigits ?_ n
    rcases hc with rfl | rfl <;> rfl
  have hfailures : ∀ part ∈ failures run, c ∉ part.toList := by
    intro part hpart
    rw [failures_eq, tallied, List.mem_map] at hpart
    obtain ⟨tally, htally, rfl⟩ := hpart
    have hkind : c ∉ tally.1.toList := by
      have hmem := (List.mem_filter.1 htally).1
      simp only [List.mem_cons, List.not_mem_nil, or_false] at hmem
      rcases hmem with rfl | rfl <;> rcases hc with rfl | rfl <;> simp
    rw [String.toList_append, String.toList_append, List.mem_append, List.mem_append]
    rintro ((hmem | hmem) | hmem)
    · exact hkind hmem
    · rcases hc with rfl | rfl <;> exact absurd hmem (by decide)
    · exact hnumber _ hmem
  unfold verdictLine
  split
  · rcases hc with rfl | rfl <;> decide
  · rw [String.toList_append, String.toList_append, String.toList_intercalate, List.mem_append,
      List.mem_append]
    rintro ((hmem | hmem) | hmem)
    · rcases hc with rfl | rfl <;> exact absurd hmem (by decide)
    · rcases Text.mem_of_mem_intercalate hmem with hseparator | ⟨piece, hpiece, hmem⟩
      · rcases hc with rfl | rfl <;> exact absurd hseparator (by decide)
      · obtain ⟨part, hpart, rfl⟩ := List.mem_map.1 hpiece
        exact hfailures part hpart hmem
    · rcases hc with rfl | rfl <;> exact absurd hmem (by decide)

/-- The last line is the one behind the last line end but one. -/
theorem getLast?_lines_verdictLine {opening : String} (hopening : opening.toList.getLast? = some '\n')
    (run : Run) :
    (Text.lines (opening ++ verdictLine run ++ "\n").toList).getLast?
      = some (verdictLine run).toList := by
  have hreturn : (verdictLine run).toList.getLast? ≠ some '\r' := fun h =>
    not_mem_verdictLine (.inr rfl) run (List.mem_of_getLast? h)
  have hlines := Text.lines_line (not_mem_verdictLine (.inl rfl) run) hreturn []
  rw [String.toList_append, String.toList_append, List.append_assoc,
    Text.lines_append (.inr hopening)]
  have hlast : Text.lines ((verdictLine run).toList ++ "\n".toList) = [(verdictLine run).toList] :=
    hlines
  rw [hlast, List.getLast?_concat]

end Transcript

theorem Stream.Takes.tell {σ : Type} {console : Stream σ} {written : σ → String}
    (h : console.Takes written) (verbosity : Verbosity) (outcome : Outcome) (s : σ) :
    written (Suite.tell console verbosity outcome s)
      = written s ++ Transcript.told verbosity outcome := by
  rw [Suite.tell, h.send, h.send, Transcript.told, String.append_assoc]

namespace Suite

variable {σ : Type}

/-- While the tests run, the console is told about each of them and nothing else. -/
theorem runCases_told {console : Stream σ} {written : σ → String} (h : console.Takes written)
    (launch : Launcher) (verbosity : Verbosity) (tests : List TestCase) (w : World) (s : σ) :
    written (runCases launch console verbosity tests w s).2.2
      = written s ++
        String.join ((runCases launch console verbosity tests w s).1.map
          (Transcript.told verbosity)) := by
  induction tests generalizing w s with
  | nil => simp [runCases]
  | cons test rest ih =>
    rcases hlaunch : launch ⟨test.path, []⟩ w with ⟨answer, after⟩
    rw [runCases_cons console verbosity rest s hlaunch, ih, h.tell, List.map_cons, String.join_cons,
      String.append_assoc]

/-- A run tells about each test, ends the line of characters if there is one, and sums up. -/
theorem run_told {console : Stream σ} {written : σ → String} (h : console.Takes written)
    (launch : Launcher) (suite : Suite) (verbosity : Verbosity) (w : World) (s : σ) :
    let ran := suite.run launch console verbosity w s
    written ran.2.2
      = written s ++ Transcript.progress verbosity ran.1.outcomes
        ++ (Transcript.opening ran.1.outcomes ++ ran.2.1.clock.elapsed ++ "s\n\n"
          ++ Transcript.verdictLine ran.1 ++ "\n") := by
  intro ran
  have hcases := runCases_told h launch verbosity suite.cases w s
  have hnames := names_runCases launch console verbosity suite.cases w s
  have hended : Piece.textOf (Transcript.allFinished verbosity suite)
      = if verbosity = .progress ∧ ran.1.outcomes ≠ [] then "\n" else "" := by
    have hempty : suite.isEmpty = true ↔ ran.1.outcomes = [] := by
      rw [isEmpty, List.isEmpty_iff, ← List.map_eq_nil_iff, ← hnames, List.map_eq_nil_iff]
      rfl
    simp only [Transcript.allFinished, hempty, ne_eq]
    split <;> simp
  have houtcomes : ran.1.outcomes = (runCases launch console verbosity suite.cases w s).1 := rfl
  rw [← Transcript.textOf_summary, Transcript.progress, ← hended, ← String.append_assoc, houtcomes,
    ← hcases, ← h.send, ← h.send]
  rfl

/-- The transcript tells the outcomes of the tests, for every console that takes what is written.
    First comes what is told while the tests run, and then a summary, which is the same however much
    is told before it, but for the time. The summary has a block for each test that did not pass, in
    the order of the suite, and its last line is the verdict on all tests. While the tests run
    nothing is told, or a line with a character for each test, or a line for each test. -/
theorem transcript_tells_outcomes (launch : Launcher) (suite : Suite) (w : World)
    (hnames : ∀ test ∈ suite.cases, '\n' ∉ test.name.toList) :
    ∃ (outcomes : List Outcome) (progress : Verbosity → String) (opening verdict : String),
      (∀ {σ : Type} {console : Stream σ} {written : σ → String}, console.Takes written →
        ∀ verbosity s,
          let ran := suite.run launch console verbosity w s
          ran.1.outcomes = outcomes ∧
          written ran.2.2 = written s ++ progress verbosity
            ++ (opening ++ ran.2.1.clock.elapsed ++ "s\n\n" ++ verdict ++ "\n")) ∧
      outcomes.map (·.name) = suite.cases.map (·.name) ∧
      opening
        = String.join ((outcomes.filter (·.verdict != .passed)).map Transcript.blockText)
          ++ Transcript.lightRule ++ "\nRan " ++ toString outcomes.length
          ++ (if outcomes.length = 1 then " test in " else " tests in ") ∧
      (∀ elapsed,
        (Text.lines (opening ++ elapsed ++ "s\n\n" ++ verdict ++ "\n").toList).getLast?
          = some verdict.toList) ∧
      (verdict = "OK" ↔ ∀ outcome ∈ outcomes, outcome.verdict = .passed) ∧
      (verdict ≠ "OK" → Transcript.tallied outcomes ≠ [] ∧
        verdict = "FAILED (" ++ ", ".intercalate (Transcript.tallied outcomes) ++ ")") ∧
      progress .quiet = "" ∧
      (outcomes = [] → progress .progress = "") ∧
      (outcomes ≠ [] → ∃ line, progress .progress = line ++ "\n" ∧ '\n' ∉ line.toList ∧
        line.toList.map Transcript.verdictOf? = outcomes.map fun outcome => some outcome.verdict) ∧
      Text.lines (progress .verbose).toList
        = outcomes.map fun outcome =>
            (outcome.name ++ " ... " ++ outcome.verdict.label).toList := by
  let run : Run := (suite.run launch Stream.memory .quiet w "").1
  have hrun : run.outcomes.map (·.name) = suite.cases.map (·.name) :=
    names_runCases launch Stream.memory .quiet suite.cases w ""
  have hlines : ∀ outcome ∈ run.outcomes, '\n' ∉ outcome.name.toList := by
    intro outcome houtcome
    have hmem : outcome.name ∈ suite.cases.map (·.name) := hrun ▸ List.mem_map_of_mem houtcome
    obtain ⟨test, htest, hname⟩ := List.mem_map.1 hmem
    exact hname ▸ hnames test htest
  refine ⟨run.outcomes, fun verbosity => Transcript.progress verbosity run.outcomes, _,
    Transcript.verdictLine run, fun {σ console written} h verbosity s => ?_, hrun, rfl,
    fun elapsed => ?_, ?_, fun hfailed => ?_, Transcript.progress_quiet _, fun hnil => ?_,
    Transcript.progress_progress, Transcript.lines_progress_verbose hlines⟩
  · intro ran
    -- What this console is told is told of the outcomes of the run with the memory.
    have hagree : ran.1.outcomes = run.outcomes :=
      (runCases_agree launch Stream.memory console .quiet verbosity suite.cases w "" s).1
    have htold := run_told h launch suite verbosity w s
    have hverdict : Transcript.verdictLine ran.1 = Transcript.verdictLine run :=
      congrArg (fun outcomes => Transcript.verdictLine ⟨outcomes⟩) hagree
    exact ⟨hagree, by rw [← hagree, ← hverdict]; exact htold⟩
  · refine Transcript.getLast?_lines_verdictLine ?_ run
    rw [String.toList_append, List.getLast?_append]
    rfl
  · rw [Transcript.verdictLine_eq_ok_iff, Run.isSuccessful_iff]
  · rw [ne_eq, Transcript.verdictLine_eq_ok_iff, Bool.not_eq_true] at hfailed
    rw [← Transcript.failures_eq]
    exact ⟨Transcript.failures_ne_nil hfailed, by rw [Transcript.verdictLine, hfailed]; rfl⟩
  · rw [hnil]
    rfl

/-- Programs that end as their names tell. -/
def launchByName : Launcher := fun command w =>
  let ending : Ending :=
    match command.program.spelling with
    | "breaks" => .signal 9
    | "fails" => .status 1
    | _ => .status 0
  (.ok ⟨ending, .empty, .empty⟩, w)

theorem transcript_tells_outcomes_mixed :
    let suite : Suite := ⟨[⟨"a", ⟨"breaks"⟩⟩, ⟨"b", ⟨"fails"⟩⟩, ⟨"c", ⟨"passes"⟩⟩]⟩
    let w : World := ⟨⟨[]⟩, .ofLocation [], [], 0, [], World.usualMask, ⟨"", "0.125"⟩, 0⟩
    (∀ test ∈ suite.cases, '\n' ∉ test.name.toList) ∧
    ∃ (outcomes : List Outcome) (progress opening : String),
      outcomes.map (·.verdict) = [.errored, .failed, .passed] ∧
      progress.toList.map Transcript.verdictOf? = [some .errored, some .failed, some .passed] ∧
      (suite.run launchByName Stream.memory .progress w "").2.2
        = progress ++ "\n"
          ++ (opening ++ "0.125" ++ "s\n\n" ++ "FAILED (failures=1, errors=1)" ++ "\n") := by
  intro suite w
  have hnames : ∀ test ∈ suite.cases, '\n' ∉ test.name.toList := by decide
  obtain ⟨outcomes, progress, opening, verdict, hran, -, -, -, hok, hfailed, -, -, hprogress, -⟩ :=
    transcript_tells_outcomes launchByName suite w hnames
  obtain ⟨houtcomes, hwritten⟩ := hran Stream.takes_memory .progress ""
  have hverdicts : outcomes.map (·.verdict) = [.errored, .failed, .passed] := by
    rw [← houtcomes]
    rfl
  have hcount (v : Verdict) : outcomes.countP (·.verdict == v)
      = [Verdict.errored, .failed, .passed].countP (· == v) := by
    rw [← hverdicts, List.countP_map]
    rfl
  have htallied : Transcript.tallied outcomes = ["failures=1", "errors=1"] := by
    rw [Transcript.tallied, hcount, hcount]
    decide +kernel
  have hne : outcomes ≠ [] := by
    rintro rfl
    cases hverdicts
  have hverdict : verdict = "FAILED (failures=1, errors=1)" := by
    refine (hfailed fun heq => ?_).2.trans (by rw [htallied]; rfl)
    have hpassed : ∀ outcome ∈ outcomes, outcome.verdict = .passed := hok.1 heq
    have hmem : Verdict.failed ∈ outcomes.map (·.verdict) := by simp [hverdicts]
    obtain ⟨outcome, houtcome, hfails⟩ := List.mem_map.1 hmem
    cases hfails.symm.trans (hpassed outcome houtcome)
  obtain ⟨line, hline, -, hmarks⟩ := hprogress hne
  refine ⟨hnames, outcomes, line, opening, hverdicts, ?_, ?_⟩
  · rw [hmarks]
    exact (List.map_map (g := some) (f := Outcome.verdict)).symm.trans (congrArg _ hverdicts)
  · rw [hline, hverdict] at hwritten
    exact hwritten

end Suite
end SuiteCoverage
