import Mathlib.Logic.Function.Basic

namespace SimonVs.Data

variable {α β : Type}

structure Store (α β : Type) where
  address : α
  value : β
deriving DecidableEq, Repr

variable [DecidableEq α]

def applyStores (memory : α → β) (stores : List (Store α β)) : α → β :=
  stores.foldl (fun current store => Function.update current store.address store.value) memory

variable {memory : α → β} {store : Store α β} {stores : List (Store α β)} {address : α} {value : β}

@[simp] theorem applyStores_cons :
    applyStores memory (store :: stores) =
      applyStores (Function.update memory store.address store.value) stores := rfl

theorem applyStores_untouched (untouched : ∀ store ∈ stores, store.address ≠ address) :
    applyStores memory stores address = memory address := by
  induction stores generalizing memory with
  | nil => rfl
  | cons store rest ih =>
      rw [applyStores_cons, ih fun other member => untouched other (List.mem_cons_of_mem store member)]
      exact Function.update_of_ne (untouched store List.mem_cons_self).symm _ _

/-- Where every store at an address writes the same value, their order does not matter. -/
theorem applyStores_agreed (stored : ⟨address, value⟩ ∈ stores)
    (agreed : ∀ store ∈ stores, store.address = address → store.value = value) :
    applyStores memory stores address = value := by
  induction stores generalizing memory with
  | nil => cases stored
  | cons store rest ih =>
      have agreedRest := fun other member => agreed other (List.mem_cons_of_mem store member)
      by_cases again : ∃ other ∈ rest, other.address = address
      · obtain ⟨other, member, there⟩ := again
        have same := agreedRest other member there
        obtain ⟨otherAddress, otherValue⟩ := other
        cases there
        cases same
        exact ih member agreedRest
      · have untouched : ∀ other ∈ rest, other.address ≠ address :=
          fun other member there => again ⟨other, member, there⟩
        have first : store = ⟨address, value⟩ := by
          rcases List.mem_cons.mp stored with same | later
          · exact same.symm
          · exact absurd rfl (untouched _ later)
        rw [applyStores_cons, applyStores_untouched untouched, first]
        exact Function.update_self _ _ _

end SimonVs.Data
