import SuiteCoverage.Proofs.Llvm.Borrowing
import SuiteCoverage.Proofs.Llvm.Standing
import SuiteCoverage.Proofs.Session.Replay

/-!
# The variable throughout a history

Whatever is asked of a session and whatever comes of it, the variable that the recorder borrows is
not lost as long as nobody else writes it: the recorder either has it lent, and then keeps the
value that it had before the history, or the variable has that value.

The danger is a second beginning while the recorder has the variable, which would keep the
recorder's own value and lose the other. It is the stage of the session that excludes it: a
recorder that has the variable belongs to a session that is started (`Held.lent`), and such a
session cannot be started.
-/

set_option autoImplicit false

namespace SuiteCoverage
namespace Llvm

open Session

variable {σ : Type} {launch : Launcher}

/-! ## Histories in which nobody else writes the variable -/

/-- The variable at the end of a history that finds it with a value. -/
def variableAfter (launch : Launcher) :
    Option String → Session Recording → List (Turn σ) → Option String
  | value, _, [] => value
  | _, session, turn :: rest =>
    variableAfter launch
      ((session.leaves (recorder launch) turn).env.get? Recording.profileVariable)
      (session.next (recorder launch) turn) rest

/-- Every request finds the variable as the request before it has left it, and the first one finds
    it with the value. -/
def Undisturbed (launch : Launcher) :
    Option String → Session Recording → List (Turn σ) → Prop
  | _, _, [] => True
  | value, session, turn :: rest =>
    turn.world.env.get? Recording.profileVariable = value ∧
      Undisturbed launch
        ((session.leaves (recorder launch) turn).env.get? Recording.profileVariable)
        (session.next (recorder launch) turn) rest

/-- A history is undisturbed as far as it goes. -/
theorem Undisturbed.of_append {value : Option String} {session : Session Recording}
    {earlier later : List (Turn σ)} (h : Undisturbed launch value session (earlier ++ later)) :
    Undisturbed launch value session earlier := by
  induction earlier generalizing value session with
  | nil => trivial
  | cons turn rest ih => exact ⟨h.1, ih h.2⟩

/-! ## The invariant -/

/-- Where the value that the variable had at first is, while the variable has the value
    `current`. -/
inductive Held (value : Option String) (session : Session Recording) (current : Option String) :
    Prop
  /-- The variable has it. -/
  | free (hdirectory : session.collector.directory = none) (hcurrent : current = value)
  /-- The recorder of a session that is started keeps it. -/
  | lent (directory : Pathname) (hdirectory : session.collector.directory = some directory)
      (hprevious : session.collector.previous = value)
      (hcurrent : current = some (directory.join ⟨Recording.profileTemplate⟩).spelling)
      (hstage : session.stage = .started)

variable {value current : Option String} {session next : Session Recording} {w last : World}

/-- The invariant looks at the recorder and the stage and at nothing else. -/
theorem Held.congr (h : Held value session current)
    (hcollector : next.collector = session.collector) (hstage : next.stage = session.stage) :
    Held value next current := by
  cases h with
  | free hdirectory hcurrent => exact .free (by rw [hcollector, hdirectory]) hcurrent
  | lent directory hdirectory hprevious hcurrent hstarted =>
    exact .lent directory (by rw [hcollector, hdirectory]) (by rw [hcollector, hprevious]) hcurrent
      (by rw [hstage, hstarted])

theorem held_start {result : Except CoverageError Unit}
    (h : Held value session (w.env.get? Recording.profileVariable))
    (hstart : session.start (recorder launch) w = (result, next, last)) :
    Held value next (last.env.get? Recording.profileVariable) := by
  cases result with
  | error e =>
    rw [env_of_start_error hstart]
    cases starts hstart with
    | refused => exact h
    | unbegun hstage hboundaries hdirectory hbegin =>
      exact h.congr (Recording.eq_of_begin_error hbegin) rfl
  | ok _ =>
    obtain ⟨hkept, directory, hdirectory, hnamed⟩ := borrowed_of_start_ok hstart
    cases starts hstart with
    | begun hstage =>
      cases h with
      | free _ hcurrent => exact .lent directory hdirectory (hkept.trans hcurrent) hnamed rfl
      | lent _ _ _ _ hstarted => exact absurd hstarted hstage

theorem held_stop (hlaunch : launch.KeepsEnvironment) {result : Except CoverageError Unit}
    (h : Held value session (w.env.get? Recording.profileVariable))
    (hstop : session.stop (recorder launch) w = (result, next, last)) :
    Held value next (last.env.get? Recording.profileVariable) := by
  cases h with
  | lent directory hdirectory hprevious hcurrent hstarted =>
    -- The variable is given back before anything that can fail.
    have hback := (get?_of_stop hlaunch hstop hstarted hdirectory).trans hprevious
    cases stops hstop with
    | refused e hstage => exact absurd hstarted hstage
    | unfinished _ hfinish => exact .free (Recording.directory_of_finish hfinish) hback
    | stranded _ hfinish => exact .free (Recording.directory_of_finish hfinish) hback
    | finished _ hfinish => exact .free (Recording.directory_of_finish hfinish) hback
  | free hdirectory hcurrent =>
    -- There is nothing to give back, and a recorder that has nothing to finish does nothing.
    have hidle : (recorder launch).finish session.objects session.collector w
        = (.error (.invalidState "started" "not started"), session.collector, w) :=
      Recording.finish_of_none hdirectory
    cases stops hstop with
    | refused => exact .free hdirectory hcurrent
    | unfinished _ hfinish =>
      rw [hidle] at hfinish
      cases hfinish
      exact .free hdirectory hcurrent
    | stranded _ hfinish =>
      rw [hidle] at hfinish
      cases hfinish
    | finished _ hfinish =>
      rw [hidle] at hfinish
      cases hfinish

/-- Unless it starts or stops the session, a request leaves the environment alone. -/
theorem env_leaves_of_quiet (session : Session Recording) {turn : Turn σ}
    (hstart : turn.request ≠ .start) (hstop : turn.request ≠ .stop) :
    (session.leaves (recorder launch) turn).env = turn.world.env := by
  obtain ⟨request, w⟩ := turn
  cases request with
  | start => exact absurd rfl hstart
  | stop => exact absurd rfl hstop
  | setOption key value =>
    simp only [leaves, perform]
    cases session.setOption key value <;> rfl
  | save =>
    simp only [leaves, perform]
    rcases hsave : session.save w with e | ⟨p, written⟩
    · rfl
    · exact env_save hsave
  | reportPages directory => exact env_reportPages session directory w
  | _ => rfl

/-- One request keeps the value where it can be found. -/
theorem held_next (hlaunch : launch.KeepsEnvironment) {turn : Turn σ}
    (h : Held value session (turn.world.env.get? Recording.profileVariable)) :
    Held value (session.next (recorder launch) turn)
      ((session.leaves (recorder launch) turn).env.get? Recording.profileVariable) := by
  by_cases hstart : turn.request = .start
  · obtain ⟨_, w⟩ := turn
    subst hstart
    exact held_start h rfl
  by_cases hstop : turn.request = .stop
  · obtain ⟨_, w⟩ := turn
    subst hstop
    exact held_stop hlaunch h rfl
  rw [env_leaves_of_quiet session hstart hstop]
  obtain ⟨hcollector, hstage, _⟩ := next_of_quiet (recorder launch) session hstart hstop
  exact h.congr hcollector hstage

theorem held_after (hlaunch : launch.KeepsEnvironment) {turns : List (Turn σ)}
    (hturns : Undisturbed launch current session turns) (h : Held value session current) :
    Held value (session.after (recorder launch) turns)
      (variableAfter launch current session turns) := by
  induction turns generalizing current session with
  | nil => exact h
  | cons turn rest ih =>
    obtain ⟨hfound, hrest⟩ := hturns
    rw [← hfound] at h
    exact ih hrest (held_next hlaunch h)

/-! ## Borrowed and given back -/

/-- After every request of a history in which nobody else writes the variable, whatever the
    requests and whatever comes of them, the variable names files in the directory of the recorder
    if the recorder has one, and the recorder keeps the value that the variable had at first.
    Otherwise the variable has this value. -/
theorem variable_borrowed_or_given_back (hlaunch : launch.KeepsEnvironment) (settings : Settings)
    (value : Option String) (turns : List (Turn σ))
    (hturns : Undisturbed launch value (ofSettings settings .idle) turns) :
    ∀ earlier later, turns = earlier ++ later →
      let recording := ((ofSettings settings .idle).after (recorder launch) earlier).collector
      let current := variableAfter launch value (ofSettings settings .idle) earlier
      (∀ directory, recording.directory = some directory →
        current = some (directory.join ⟨Recording.profileTemplate⟩).spelling ∧
          recording.previous = value) ∧
      (recording.directory = none → current = value) := by
  intro earlier later hparts
  rw [hparts] at hturns
  have hfresh : Held value (ofSettings settings .idle) value := .free rfl rfl
  have hheld := held_after hlaunch hturns.of_append hfresh
  refine ⟨fun directory hdirectory => ?_, fun hdirectory => ?_⟩
  · cases hheld with
    | free hnone => cases hdirectory.symm.trans hnone
    | lent other hother hprevious hcurrent =>
      cases hdirectory.symm.trans hother
      exact ⟨hcurrent, hprevious⟩
  · cases hheld with
    | free _ hcurrent => exact hcurrent
    | lent other hother => cases hdirectory.symm.trans hother

/-- A world in which the variable has a value, and no tools are to be found. -/
def valueWorld (value : String) : World :=
  { profileWorld with env := [(Recording.profileVariable, value)] }

/-- A start and two stops, of which the first fails for want of tools and the second because there
    is nothing left to stop. -/
def lendingTurns : List (Turn Unit) :=
  [⟨.addObjects [⟨"a.out"⟩], valueWorld "mine.profraw"⟩,
    ⟨.start, valueWorld "mine.profraw"⟩,
    ⟨.stop, valueWorld "/home/.coverage_profraw/prof-%p-%m.profraw"⟩,
    ⟨.stop, valueWorld "mine.profraw"⟩]

/-- The variable is lent when the session has been started, and the value that it had is there
    again after the stops, though both have failed. -/
theorem variable_given_back_by_failing_stops :
    Undisturbed noPrograms (some "mine.profraw") (ofSettings (.ofSource []) .idle) lendingTurns ∧
      variableAfter noPrograms (some "mine.profraw") (ofSettings (.ofSource []) .idle)
          (lendingTurns.take 2)
        = some "/home/.coverage_profraw/prof-%p-%m.profraw" ∧
      variableAfter noPrograms (some "mine.profraw") (ofSettings (.ofSource []) .idle) lendingTurns
        = some "mine.profraw" := by
  have hturns : Undisturbed noPrograms (some "mine.profraw") (ofSettings (.ofSource []) .idle)
      lendingTurns := by
    refine ⟨?_, ?_, ?_, ?_, trivial⟩ <;> decide +kernel
  have hkeeps : noPrograms.KeepsEnvironment := fun _ _ => rfl
  have hvariable := variable_borrowed_or_given_back hkeeps (.ofSource []) (some "mine.profraw")
    lendingTurns hturns
  have hlent : ((ofSettings (.ofSource []) .idle).after (recorder noPrograms)
      (lendingTurns.take 2)).collector.directory = some ⟨"/home/.coverage_profraw"⟩ := by
    decide +kernel
  have hfree : ((ofSettings (.ofSource []) .idle).after (recorder noPrograms)
      lendingTurns).collector.directory = none := by
    decide +kernel
  have htemplate : ((⟨"/home/.coverage_profraw"⟩ : Pathname).join
      ⟨Recording.profileTemplate⟩).spelling = "/home/.coverage_profraw/prof-%p-%m.profraw" := by
    decide +kernel
  have hstarted := hvariable (lendingTurns.take 2) (lendingTurns.drop 2)
    (List.take_append_drop 2 lendingTurns).symm
  have hstopped := hvariable lendingTurns [] (List.append_nil lendingTurns).symm
  rw [← htemplate]
  exact ⟨hturns, (hstarted.1 _ hlent).1, hstopped.2 hfree⟩

end Llvm
end SuiteCoverage
