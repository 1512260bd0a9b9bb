import Mathlib.Order.WellFounded

namespace SimonVs.Data

/-! Reaching a goal by choosing the inputs, whatever else the steps find.

A step takes an input, which is chosen, and a draw, which is not. `leads_of_rank`
is the rule for loops: a choice that makes a rank smaller each time.
-/

variable {σ ι δ : Type}

inductive Leads (step : σ → ι → δ → σ) (goal : σ → Prop) : σ → Prop where
  | done {state : σ} (here : goal state) : Leads step goal state
  | move {state : σ} (input : ι) (next : ∀ draw, Leads step goal (step state input draw)) : Leads step goal state

variable {step : σ → ι → δ → σ} {goal : σ → Prop} {state : σ}

theorem leads_of_rank (holds : σ → Prop) (rank : σ → Nat)
    (advances : ∀ state, holds state → ∃ input, ∀ draw, Leads step goal (step state input draw) ∨
      holds (step state input draw) ∧ rank (step state input draw) < rank state)
    (start : holds state) : Leads step goal state := by
  induction size : rank state using Nat.strongRecOn generalizing state with
  | _ size ih =>
      obtain ⟨input, advances⟩ := advances state start
      refine .move input fun draw => ?_
      rcases advances draw with leads | ⟨still, smaller⟩
      · exact leads
      · exact ih _ (size ▸ smaller) still rfl

end SimonVs.Data
