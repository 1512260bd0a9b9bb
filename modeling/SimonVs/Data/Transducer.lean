import SimonVs.Data.Run

namespace SimonVs.Data

/-! Machines that answer each input they read. `answers_blocks` is the rule for
decoders: a machine that, at rest, treats each block of a stream as it should
and is then at rest again treats the whole stream so.
-/

variable {σ τ ι κ ω α : Type}

def answers (step : σ → ι → σ × ω) : σ → List ι → List ω
  | _, [] => []
  | state, input :: rest => (step state input).2 :: answers step (step state input).1 rest

def reach (step : σ → ι → σ × ω) (state : σ) (inputs : List ι) : σ :=
  run (fun state input => (step state input).1) state inputs

variable {step : σ → ι → σ × ω} {state : σ} {input : ι} {inputs later : List ι}

@[simp] theorem answers_nil : answers step state [] = [] := rfl

@[simp] theorem answers_cons :
    answers step state (input :: inputs) =
      (step state input).2 :: answers step (step state input).1 inputs := rfl

@[simp] theorem reach_nil : reach step state [] = state := rfl

@[simp] theorem reach_cons : reach step state (input :: inputs) = reach step (step state input).1 inputs := rfl

theorem reach_append : reach step state (inputs ++ later) = reach step (reach step state inputs) later :=
  run_append

theorem answers_append :
    answers step state (inputs ++ later) =
      answers step state inputs ++ answers step (reach step state inputs) later := by
  induction inputs generalizing state with
  | nil => rfl
  | cons input rest ih => simp [ih]

theorem answers_forall {good : ω → Prop} :
    (∀ answer ∈ answers step state inputs, good answer) ↔
      Along (fun state input => (step state input).1) (fun state input => good (step state input).2) state inputs := by
  induction inputs generalizing state with
  | nil => exact iff_of_true (fun _ member => nomatch member) trivial
  | cons input rest ih =>
      rw [answers_cons, List.forall_mem_cons, ih]
      exact Iff.rfl

theorem answers_map {other : σ → κ → σ × ω} {view : ι → κ}
    (same : ∀ input ∈ inputs, ∀ state, step state input = other state (view input)) :
    answers step state inputs = answers other state (inputs.map view) := by
  induction inputs generalizing state with
  | nil => rfl
  | cons input rest ih =>
      obtain ⟨first, others⟩ := List.forall_mem_cons.mp same
      rw [answers_cons, List.map_cons, answers_cons, first state, ih others]

theorem answers_related {other : τ → ι → τ × ω} {state' : τ} (related : σ → τ → Prop)
    (keeps : ∀ state state' input, related state state' →
      related (step state input).1 (other state' input).1 ∧ (step state input).2 = (other state' input).2)
    (holds : related state state') :
    answers step state inputs = answers other state' inputs ∧
    related (reach step state inputs) (reach other state' inputs) := by
  induction inputs generalizing state state' with
  | nil => exact ⟨rfl, holds⟩
  | cons input rest ih =>
      obtain ⟨still, same⟩ := keeps state state' input holds
      obtain ⟨answered, reached⟩ := ih still
      rw [answers_cons, answers_cons, same, answered]
      exact ⟨rfl, reached⟩

/-- Inputs that come when they are expected. -/
theorem answers_related_along {other : τ → ι → τ × ω} {state' : τ} {good : τ → ι → Prop} (related : σ → τ → Prop)
    (keeps : ∀ state state' input, related state state' → good state' input →
      related (step state input).1 (other state' input).1 ∧ (step state input).2 = (other state' input).2)
    (holds : related state state') (along : Along (fun state input => (other state input).1) good state' inputs) :
    answers step state inputs = answers other state' inputs := by
  induction inputs generalizing state state' with
  | nil => rfl
  | cons input rest ih =>
      obtain ⟨still, same⟩ := keeps state state' input holds along.1
      rw [answers_cons, answers_cons, same, ih still along.2]

/-- A stream of blocks, each of which finds the machine at rest and leaves it
so. -/
theorem answers_blocks {encode : α → List ι} {expected : α → List ω} (rests : σ → Prop)
    (block : ∀ state item, rests state →
      rests (reach step state (encode item)) ∧ answers step state (encode item) = expected item)
    (holds : rests state) (items : List α) :
    answers step state (items.flatMap encode) = items.flatMap expected := by
  induction items generalizing state with
  | nil => rfl
  | cons item rest ih =>
      obtain ⟨still, answered⟩ := block state item holds
      rw [List.flatMap_cons, List.flatMap_cons, answers_append, answered, ih still]

end SimonVs.Data
