/-!
# What comes of a part of a run

A part of a run is carried out on a state, and leaves a state behind whether it fails or not. Two
parts one after the other are carried out one after the other, unless the first of them fails. What
every part leaves alone is left alone by all of them together (`Keeps`), what every part makes of
a view all of them make of it (`Mirrors`), and whatever a part fails with some part of it fails
with (`FailsWith`).
-/

set_option autoImplicit false

namespace SuiteCoverage

variable {ε σ τ α β γ : Type}

/-- What comes of a part, and the state that it leaves. -/
def outcome (part : ExceptT ε (StateM σ) α) (s : σ) : Except ε α × σ := part.run.run s

theorem outcome_bind (part : ExceptT ε (StateM σ) α) (next : α → ExceptT ε (StateM σ) β) (s : σ) :
    outcome (part >>= next) s
      = match outcome part s with
        | (.ok a, middle) => outcome (next a) middle
        | (.error e, middle) => (.error e, middle) := by
  show (match outcome part s with
    | (result, middle) => (ExceptT.bindCont next result : StateM σ (Except ε β)) middle) = _
  rcases outcome part s with ⟨result, middle⟩
  cases result <;> rfl

/-- A part that succeeds hands over to the next. -/
theorem outcome_bind_ok {part : ExceptT ε (StateM σ) α} {next : α → ExceptT ε (StateM σ) β}
    {s middle : σ} {a : α} (h : outcome part s = (.ok a, middle)) :
    outcome (part >>= next) s = outcome (next a) middle := by
  rw [outcome_bind, h]

/-- A part that fails is the last. -/
theorem outcome_bind_error {part : ExceptT ε (StateM σ) α} {next : α → ExceptT ε (StateM σ) β}
    {s middle : σ} {e : ε} (h : outcome part s = (.error e, middle)) :
    outcome (part >>= next) s = (.error e, middle) := by
  rw [outcome_bind, h]

/-- A part leaves alone what is seen of the state. -/
def Keeps (view : σ → γ) (part : ExceptT ε (StateM σ) α) : Prop :=
  ∀ s, view (outcome part s).2 = view s

theorem Keeps.eq_of_outcome {view : σ → γ} {part : ExceptT ε (StateM σ) α} (hpart : Keeps view part)
    {s last : σ} {result : Except ε α} (h : outcome part s = (result, last)) :
    view last = view s := by
  rw [← hpart s, h]

theorem keeps_pure (view : σ → γ) (a : α) : Keeps view (pure a : ExceptT ε (StateM σ) α) :=
  fun _ => rfl

theorem Keeps.bind {view : σ → γ} {part : ExceptT ε (StateM σ) α}
    {next : α → ExceptT ε (StateM σ) β} (hpart : Keeps view part)
    (hnext : ∀ a, Keeps view (next a)) : Keeps view (part >>= next) := by
  intro s
  rw [outcome_bind, ← hpart s]
  rcases outcome part s with ⟨result, middle⟩
  cases result with
  | error e => rfl
  | ok a => exact hnext a middle

/-- A part does on a state what its image does on what is seen of the state. -/
def Mirrors (view : σ → τ) (part : ExceptT ε (StateM σ) α) (image : ExceptT ε (StateM τ) α) :
    Prop :=
  ∀ s, outcome image (view s) = ((outcome part s).1, view (outcome part s).2)

theorem Mirrors.bind {view : σ → τ} {part : ExceptT ε (StateM σ) α}
    {image : ExceptT ε (StateM τ) α} {next : α → ExceptT ε (StateM σ) β}
    {nextImage : α → ExceptT ε (StateM τ) β} (hpart : Mirrors view part image)
    (hnext : ∀ a, Mirrors view (next a) (nextImage a)) :
    Mirrors view (part >>= next) (image >>= nextImage) := by
  intro s
  rw [outcome_bind, outcome_bind, hpart s]
  rcases outcome part s with ⟨result, middle⟩
  cases result with
  | error e => rfl
  | ok a => exact hnext a middle

/-- Whatever a part fails with is of a kind. -/
def FailsWith (kind : ε → Prop) (part : ExceptT ε (StateM σ) α) : Prop :=
  ∀ s e, (outcome part s).1 = .error e → kind e

theorem failsWith_pure (kind : ε → Prop) (a : α) :
    FailsWith kind (pure a : ExceptT ε (StateM σ) α) :=
  fun _ _ h => nomatch h

theorem FailsWith.bind {kind : ε → Prop} {part : ExceptT ε (StateM σ) α}
    {next : α → ExceptT ε (StateM σ) β} (hpart : FailsWith kind part)
    (hnext : ∀ a, FailsWith kind (next a)) : FailsWith kind (part >>= next) := by
  intro s e h
  rcases hmiddle : outcome part s with ⟨result, middle⟩
  cases result with
  | error first =>
    rw [outcome_bind_error hmiddle] at h
    cases h
    exact hpart s e (by rw [hmiddle])
  | ok a =>
    rw [outcome_bind_ok hmiddle] at h
    exact hnext a middle e h

end SuiteCoverage
