import Mathlib.Tactic.Linarith

namespace SimonVs.Data

variable {word value position size other width k : Nat}

def field (word position size : Nat) : Nat := (word >>> position) % 2 ^ size

theorem field_lt : field word position size < 2 ^ size := Nat.mod_lt _ (Nat.two_pow_pos size)

theorem field_or {word' : Nat} :
    field (word ||| word') position size = field word position size ||| field word' position size := by
  simp only [field, Nat.shiftRight_or_distrib, Nat.or_mod_two_pow]

theorem field_shiftLeft (below : value < 2 ^ size) : field (value <<< position) position size = value := by
  rw [field, Nat.shiftLeft_shiftRight, Nat.mod_eq_of_lt below]

/-- Fields that have no bit in common. -/
def Apart (position size other width : Nat) : Prop := position + size ≤ other ∨ other + width ≤ position

theorem Apart.symm (apart : Apart position size other width) : Apart other width position size :=
  Or.symm apart

theorem field_shiftLeft_apart (apart : Apart position size other width) (below : value < 2 ^ size) :
    field (value <<< position) other width = 0 := by
  apply Nat.eq_of_testBit_eq
  intro i
  simp only [field, Nat.testBit_mod_two_pow, Nat.testBit_shiftRight, Nat.testBit_shiftLeft, Nat.zero_testBit]
  by_cases inside : i < width
  · rcases apart with below' | above
    · have high : value.testBit (other + i - position) = false :=
        Nat.testBit_lt_two_pow (Nat.lt_of_lt_of_le below (Nat.pow_le_pow_right (by decide) (by omega)))
      simp [high]
    · have low : ¬ other + i ≥ position := by omega
      simp [low]
  · simp [inside]

theorem shiftLeft_lt_of_fits {bits : Nat} (below : value < 2 ^ size) (fits : position + size ≤ bits) :
    value <<< position < 2 ^ bits := by
  rw [Nat.shiftLeft_eq]
  calc value * 2 ^ position < 2 ^ size * 2 ^ position := Nat.mul_lt_mul_of_pos_right below (Nat.two_pow_pos _)
    _ = 2 ^ (position + size) := by rw [← Nat.pow_add, Nat.add_comm]
    _ ≤ 2 ^ bits := Nat.pow_le_pow_right (by decide) fits

/-- What is taken out of a field and put back is part of the word. -/
theorem field_shiftLeft_or : field word position size <<< position ||| word = word := by
  apply Nat.eq_of_testBit_eq
  intro i
  simp only [field, Nat.testBit_or, Nat.testBit_shiftLeft, Nat.testBit_mod_two_pow, Nat.testBit_shiftRight]
  by_cases above : position ≤ i
  · rw [Nat.add_sub_cancel' above]
    cases word.testBit i <;> simp
  · simp [above]

theorem and_add_or (a b : Nat) : (a &&& b) + (a ||| b) = a + b := by
  induction a using Nat.strongRecOn generalizing b with
  | _ a ih =>
      by_cases zero : a = 0
      · simp [zero]
      · have halves := ih (a / 2) (by omega) (b / 2)
        rw [← Nat.and_div_two, ← Nat.or_div_two] at halves
        have lowAnd : (a &&& b) % 2 = (a % 2) &&& (b % 2) := Nat.and_mod_two_pow (n := 1)
        have lowOr : (a ||| b) % 2 = (a % 2) ||| (b % 2) := Nat.or_mod_two_pow (n := 1)
        rcases Nat.mod_two_eq_zero_or_one a with aLow | aLow <;>
          rcases Nat.mod_two_eq_zero_or_one b with bLow | bLow <;>
          rw [aLow, bLow] at lowAnd lowOr <;>
          simp only [Nat.reduceAnd, Nat.reduceOr] at lowAnd lowOr <;>
          omega

theorem add_succ_mod_eq_iff {a o n : Nat} (aBelow : a < n) (oBelow : o < n) :
    a = (a + o + 1) % n ↔ o = n - 1 := by
  rcases Nat.lt_or_ge (a + o + 1) n with small | large
  · rw [Nat.mod_eq_of_lt small]
    omega
  · rw [Nat.mod_eq_sub_mod large, Nat.mod_eq_of_lt (by omega)]
    omega

/-- Adding `k` is adding `k - 1` and one more. -/
theorem add_mod_eq_mask :
    (value + k) % 2 ^ size = (value + (2 ^ size - 1 + k) % 2 ^ size + 1) % 2 ^ size := by
  have positive := Nat.two_pow_pos size
  have whole := Nat.div_add_mod (2 ^ size - 1 + k) (2 ^ size)
  generalize (2 ^ size - 1 + k) % 2 ^ size = mask at whole ⊢
  rw [← Nat.add_mod_right (value + k),
    show value + k + 2 ^ size = value + mask + 1 + 2 ^ size * ((2 ^ size - 1 + k) / 2 ^ size) by omega,
    Nat.add_mul_mod_self_left]

/-- Masking with `k - 1` instead of adding `k` gives the sum precisely where the
two have all bits between them. -/
theorem and_eq_add_mod_iff (below : value < 2 ^ size) :
    value &&& (2 ^ size - 1 + k) % 2 ^ size = (value + k) % 2 ^ size ↔
      value ||| (2 ^ size - 1 + k) % 2 ^ size = 2 ^ size - 1 := by
  have maskBelow : (2 ^ size - 1 + k) % 2 ^ size < 2 ^ size := Nat.mod_lt _ (Nat.two_pow_pos size)
  have sum : (value + k) % 2 ^ size = _ := add_mod_eq_mask
  rw [sum, ← and_add_or value]
  exact add_succ_mod_eq_iff (Nat.lt_of_le_of_lt Nat.and_le_left below) (Nat.or_lt_two_pow below maskBelow)

/-- Where the sum wraps to zero, the two are complements of each other. -/
theorem and_eq_zero_of_add_mod (below : value < 2 ^ size) (zero : (value + k) % 2 ^ size = 0) :
    value &&& (2 ^ size - 1 + k) % 2 ^ size = 0 := by
  have maskBelow : (2 ^ size - 1 + k) % 2 ^ size < 2 ^ size := Nat.mod_lt _ (Nat.two_pow_pos size)
  rw [add_mod_eq_mask] at zero
  generalize (2 ^ size - 1 + k) % 2 ^ size = mask at maskBelow zero ⊢
  have complement : mask = 2 ^ size - (value + 1) := by
    obtain ⟨turns, multiple⟩ := Nat.dvd_of_mod_eq_zero zero
    have once : turns = 1 := by
      rcases turns with _ | _ | more
      · omega
      · rfl
      · have twice : 2 ^ size * 2 ≤ 2 ^ size * (more + 1 + 1) := Nat.mul_le_mul_left _ (by omega)
        omega
    rw [once] at multiple
    omega
  apply Nat.eq_of_testBit_eq
  intro i
  rw [complement, Nat.testBit_and, Nat.testBit_two_pow_sub_succ below]
  cases value.testBit i <;> simp

/-- A byte that has no bit in common with itself less its upper bits has no
lower ones. -/
theorem aligned_of_byte : ∀ a < 256, ∀ p < 8, a &&& (a - a >>> p) = 0 → a >>> p <<< p = a := by
  decide +kernel

/-- If the masked value, moved down, is the sum, then nothing was lost in moving
it. -/
theorem and_aligned (small : size ≤ 8) (below : value < 2 ^ size) (inside : position < 8)
    (moved : (value &&& (2 ^ size - 1 + k) % 2 ^ size) >>> position = (value + k) % 2 ^ size) :
    value &&& (2 ^ size - 1 + k) % 2 ^ size = ((value + k) % 2 ^ size) <<< position := by
  have maskBelow : (2 ^ size - 1 + k) % 2 ^ size < 2 ^ size := Nat.mod_lt _ (Nat.two_pow_pos size)
  have sum : (value + k) % 2 ^ size = _ := add_mod_eq_mask
  rw [← and_add_or value ((2 ^ size - 1 + k) % 2 ^ size)] at sum
  generalize (2 ^ size - 1 + k) % 2 ^ size = mask at *
  have andBelow : value &&& mask < 2 ^ size := Nat.lt_of_le_of_lt Nat.and_le_left below
  have orBelow : value ||| mask < 2 ^ size := Nat.or_lt_two_pow below maskBelow
  have apart : (value &&& mask) &&& (2 ^ size - ((value ||| mask) + 1)) = 0 := by
    apply Nat.eq_of_testBit_eq
    intro i
    rw [Nat.testBit_and, Nat.testBit_two_pow_sub_succ orBelow, Nat.testBit_and, Nat.testBit_or]
    cases value.testBit i <;> cases mask.testBit i <;> simp
  have gap : 2 ^ size - ((value ||| mask) + 1) = (value &&& mask) - (value &&& mask) >>> position := by
    have down : (value &&& mask) >>> position ≤ value &&& mask := Nat.shiftRight_le _ _
    rw [moved, sum] at down ⊢
    rcases Nat.lt_or_ge ((value &&& mask) + (value ||| mask) + 1) (2 ^ size) with short | wraps
    · rw [Nat.mod_eq_of_lt short] at down
      omega
    · rw [Nat.mod_eq_sub_mod wraps, Nat.mod_eq_of_lt (by omega)]
      omega
  have byte : value &&& mask < 256 := Nat.lt_of_lt_of_le andBelow (Nat.pow_le_pow_right (by decide) small : _ ≤ 2 ^ 8)
  rw [gap] at apart
  rw [← moved, aligned_of_byte _ byte _ inside apart]

theorem or_and_byte (a b mask : UInt8) : (a ||| b) &&& mask = (a &&& mask) ||| (b &&& mask) :=
  UInt8.toBitVec_inj.mp BitVec.and_or_distrib_right

theorem or_and_flag (flags raised flag : UInt8) :
    ((flags ||| raised) &&& flag != 0) = (flags &&& flag != 0 || raised &&& flag != 0) := by
  rw [or_and_byte, Bool.eq_iff_iff]
  simp only [bne_iff_ne, Bool.or_eq_true, ne_eq, UInt8.or_eq_zero_iff]
  exact Decidable.not_and_iff_not_or_not

end SimonVs.Data
