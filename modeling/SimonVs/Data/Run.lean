namespace SimonVs.Data

/-! Runs of a deterministic step function over a list of events.

`Along` attaches a condition to every step of a run; it sees the state before
the step. Invariants are proved one step at a time and lifted by
`run_invariant`; `prefixes_safe_iff_along` is the exact version, for a
property that a step keeps precisely when it meets the condition.
-/

variable {σ τ ε ι : Type}

def run (step : σ → ε → σ) (start : σ) (events : List ε) : σ := events.foldl step start

variable {step : σ → ε → σ} {start : σ} {event : ε} {events later : List ε}

@[simp] theorem run_nil : run step start [] = start := rfl

@[simp] theorem run_cons : run step start (event :: events) = run step (step start event) events := rfl

@[simp] theorem run_append :
    run step start (events ++ later) = run step (run step start events) later := by
  simp [run]

theorem run_when (taken : Bool) :
    run step start (if taken then [event] else []) = if taken then step start event else start := by
  cases taken with
  | false => rfl
  | true => rfl

/-- Every step of the run meets `good`. -/
def Along (step : σ → ε → σ) (good : σ → ε → Prop) : σ → List ε → Prop
  | _, [] => True
  | state, event :: rest => good state event ∧ Along step good (step state event) rest

variable {good weaker : σ → ε → Prop}

theorem along_append :
    Along step good start (events ++ later) ↔
      Along step good start events ∧ Along step good (run step start events) later := by
  induction events generalizing start with
  | nil => simp [Along]
  | cons event rest ih => simp [Along, ih, and_assoc]

theorem Along.and {also : σ → ε → Prop} (along : Along step good start events)
    (alongAlso : Along step also start events) :
    Along step (fun state event => good state event ∧ also state event) start events := by
  induction events generalizing start with
  | nil => trivial
  | cons event rest ih => exact ⟨⟨along.1, alongAlso.1⟩, ih along.2 alongAlso.2⟩

theorem first_bad_of_not_along (broken : ¬ Along step good start events) :
    ∃ before event after, events = before ++ event :: after ∧ Along step good start before ∧
      ¬ good (run step start before) event := by
  induction events generalizing start with
  | nil => exact absurd trivial broken
  | cons event rest ih =>
      by_cases first : good start event
      · have later : ¬ Along step good (step start event) rest := fun along => broken ⟨first, along⟩
        obtain ⟨before, bad, after, split, along, breaks⟩ := ih later
        exact ⟨event :: before, bad, after, by rw [split, List.cons_append], ⟨first, along⟩, breaks⟩
      · exact ⟨[], event, rest, rfl, trivial, first⟩

theorem along_true : Along step (fun _ _ => True) start events := by
  induction events generalizing start with
  | nil => trivial
  | cons event rest ih => exact ⟨trivial, ih⟩

instance decidableAlong (step : σ → ε → σ) (good : σ → ε → Prop)
    [∀ state event, Decidable (good state event)] :
    (state : σ) → (events : List ε) → Decidable (Along step good state events)
  | _, [] => inferInstanceAs (Decidable True)
  | state, event :: rest =>
      have := decidableAlong step good (step state event) rest
      inferInstanceAs (Decidable (good state event ∧ Along step good (step state event) rest))

/-- What holds at the start and is kept by every step that meets `good` holds
after the run. -/
theorem run_invariant (invariant : σ → Prop)
    (keeps : ∀ state event, invariant state → good state event → invariant (step state event))
    (holds : invariant start) (along : Along step good start events) :
    invariant (run step start events) := by
  induction events generalizing start with
  | nil => exact holds
  | cons event rest ih => exact ih (keeps _ _ holds along.1) along.2

theorem run_related {stepOther : τ → ε → τ} {other : τ} (related : σ → τ → Prop)
    (keeps : ∀ state state' event, related state state' →
      related (step state event) (stepOther state' event))
    (holds : related start other) : related (run step start events) (run stepOther other events) := by
  induction events generalizing start other with
  | nil => exact holds
  | cons event rest ih => exact ih (keeps _ _ _ holds)

theorem along_congr {other : σ → ε → Prop} (invariant : σ → Prop)
    (keeps : ∀ state event, invariant state → invariant (step state event))
    (same : ∀ state event, invariant state → (good state event ↔ other state event))
    (holds : invariant start) : Along step good start events ↔ Along step other start events := by
  induction events generalizing start with
  | nil => exact Iff.rfl
  | cons event rest ih => exact and_congr (same _ _ holds) (ih (keeps _ _ holds))

/-- If a safe state stays safe precisely at the good steps, then all states of
a run are safe precisely when all its steps are good. Both need only hold of the
steps that meet `fair`. -/
theorem prefixes_safe_iff_along_of_fair (invariant safe : σ → Prop) (fair : σ → ε → Prop)
    (keeps : ∀ state event, invariant state → fair state event → good state event → invariant (step state event))
    (exact : ∀ state event, invariant state → fair state event → safe state →
      (safe (step state event) ↔ good state event))
    (holds : invariant start) (safeStart : safe start)
    (within : Along step fair start events) :
    (∀ done, done <+: events → safe (run step start done)) ↔ Along step good start events := by
  induction events generalizing start with
  | nil =>
      refine ⟨fun _ => trivial, fun _ done isPrefix => ?_⟩
      rw [List.prefix_nil.mp isPrefix]
      exact safeStart
  | cons event rest ih =>
      obtain ⟨firstFair, laterFair⟩ := within
      constructor
      · intro all
        have safeNext : safe (step start event) := all [event] ⟨rest, rfl⟩
        have first := (exact _ _ holds firstFair safeStart).mp safeNext
        refine ⟨first, (ih (keeps _ _ holds firstFair first) safeNext laterFair).mp fun done isPrefix => ?_⟩
        exact all (event :: done) (List.cons_prefix_cons.mpr ⟨rfl, isPrefix⟩)
      · intro along done isPrefix
        have safeNext := (exact _ _ holds firstFair safeStart).mpr along.1
        cases done with
        | nil => exact safeStart
        | cons first others =>
            obtain ⟨rfl, shorter⟩ := List.cons_prefix_cons.mp isPrefix
            exact (ih (keeps _ _ holds firstFair along.1) safeNext laterFair).mpr along.2 others shorter

theorem prefixes_safe_iff_along (invariant safe : σ → Prop)
    (keeps : ∀ state event, invariant state → good state event → invariant (step state event))
    (exact : ∀ state event, invariant state → safe state →
      (safe (step state event) ↔ good state event))
    (holds : invariant start) (safeStart : safe start) :
    (∀ done, done <+: events → safe (run step start done)) ↔ Along step good start events :=
  prefixes_safe_iff_along_of_fair invariant safe (fun _ _ => True) (fun state event holds _ => keeps state event holds)
    (fun state event holds _ => exact state event holds) holds safeStart along_true

end SimonVs.Data
