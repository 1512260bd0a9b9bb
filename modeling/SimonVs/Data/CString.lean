import Mathlib.Data.List.TakeWhile

namespace SimonVs.Data

variable {β : Type}

/-- A character of a buffer that is read or written. -/
structure Access (β : Type) where
  buffer : β
  index : Int
deriving DecidableEq, Repr

/-- `count` characters in a row. -/
def span (buffer : β) (start : Int) (count : Nat) : List (Access β) :=
  (List.range count).map fun (i : Nat) => { buffer, index := start + i }

def Inside (size : β → Nat) (accesses : List (Access β)) : Prop :=
  ∀ access ∈ accesses, 0 ≤ access.index ∧ access.index < size access.buffer

instance (size : β → Nat) (accesses : List (Access β)) : Decidable (Inside size accesses) :=
  inferInstanceAs (Decidable (∀ access ∈ accesses, 0 ≤ access.index ∧ access.index < size access.buffer))

variable {size : β → Nat} {accesses more : List (Access β)}

@[simp] theorem inside_nil : Inside size [] := fun _ member => nomatch member

@[simp] theorem inside_append : Inside size (accesses ++ more) ↔ Inside size accesses ∧ Inside size more :=
  List.forall_mem_append

theorem inside_span {buffer : β} {start : Int} {count : Nat} :
    Inside size (span buffer start count) ↔ count = 0 ∨ 0 ≤ start ∧ start + count ≤ size buffer := by
  constructor
  · intro inside
    cases count with
    | zero => exact .inl rfl
    | succ count =>
        have place (i : Nat) (small : i < count + 1) : 0 ≤ start + i ∧ start + i < size buffer :=
          inside { buffer, index := start + i } (List.mem_map.mpr ⟨i, List.mem_range.mpr small, rfl⟩)
        have first := place 0 (Nat.zero_lt_succ _)
        have last := place count (Nat.lt_succ_self _)
        omega
  · rintro fits access member
    obtain ⟨i, small, rfl⟩ := List.mem_map.mp member
    have := List.mem_range.mp small
    dsimp only
    omega

section CString

variable {n : Nat}

def cString (chars : Vector UInt8 n) : List UInt8 := chars.toList.takeWhile (· != 0)

/-- `strncat(chars, &byte, 1)` -/
def strncat (chars : Vector UInt8 n) (byte : UInt8) : Vector UInt8 n :=
  let strlen := (cString chars).length
  (chars.setIfInBounds strlen byte).setIfInBounds (strlen + 1) 0

/-- `memmove(&chars[dst], &chars[src], count)`, as far as it stays in the
array. -/
def memmove (chars : Vector UInt8 n) (dst src : Int) (count : Nat) : Vector UInt8 n :=
  Vector.ofFn fun i =>
    if dst ≤ i.val ∧ i.val < dst + count then (chars.toList[(src + (i.val - dst)).toNat]?).getD 0 else chars[i]

variable {chars : Vector UInt8 n} {text rest : List UInt8} {byte : UInt8}

theorem cString_nonzero (chars : Vector UInt8 n) : ∀ byte ∈ cString chars, byte ≠ 0 := by
  intro byte member
  have := @List.mem_takeWhile_imp _ (· != 0) _ _ member
  simpa using this

theorem cString_eq (layout : chars.toList = text ++ 0 :: rest) (plain : ∀ byte ∈ text, byte ≠ 0) :
    cString chars = text := by
  rw [cString, layout, List.takeWhile_append_of_pos (by simpa using plain), List.takeWhile_cons_of_neg (by simp),
    List.append_nil]

/-- A string that does not fill the array ends with a zero. -/
theorem cString_layout (short : (cString chars).length < n) :
    ∃ rest, chars.toList = cString chars ++ 0 :: rest := by
  have split := List.takeWhile_append_dropWhile (p := (· != 0)) (l := chars.toList)
  cases stop : chars.toList.dropWhile (· != 0) with
  | nil =>
      rw [stop, List.append_nil] at split
      rw [cString, split, Vector.length_toList] at short
      omega
  | cons first rest =>
      have zero : first = 0 := by
        have := List.head?_dropWhile_not (· != 0) chars.toList
        rw [stop] at this
        simpa using this
      refine ⟨rest, ?_⟩
      rw [← zero, ← stop]
      exact split.symm

theorem cString_strncat (room : (cString chars).length + 1 < n) (plain : byte ≠ 0) :
    cString (strncat chars byte) = cString chars ++ [byte] := by
  obtain ⟨rest, layout⟩ := cString_layout (Nat.lt_of_succ_lt room)
  have length : chars.toList.length = n := Vector.length_toList
  match rest with
  | [] =>
      rw [layout, List.length_append, List.length_singleton] at length
      omega
  | next :: others =>
      have appended : (strncat chars byte).toList = (cString chars ++ [byte]) ++ 0 :: others := by
        simp only [strncat, Vector.toList_setIfInBounds, layout]
        rw [List.set_append_right _ _ (Nat.le_refl _), List.set_append_right _ _ (Nat.le_succ _)]
        simp
      refine cString_eq appended fun other member => ?_
      rcases List.mem_append.mp member with old | new
      · exact cString_nonzero chars other old
      · rw [List.mem_singleton.mp new]
        exact plain

theorem getElem_memmove (dst src : Int) (count : Nat) {i : Nat} (small : i < n) :
    (memmove chars dst src count)[i] =
      if dst ≤ i ∧ i < dst + count then (chars.toList[(src + (i - dst)).toNat]?).getD 0 else chars[i] := by
  simp only [memmove, Vector.getElem_ofFn]
  rfl

theorem memmove_one {dst : Nat} {moved : UInt8} (read : chars.toList[dst + 1]? = some moved) :
    (memmove chars dst (dst + 1) 1).toList = chars.toList.set dst moved := by
  apply List.ext_getElem
  · simp
  · intro i first second
    rw [List.length_set, Vector.length_toList] at second
    by_cases here : i = dst
    · subst here
      have inside : (i : Int) ≤ i ∧ (i : Int) < i + (1 : Nat) := by omega
      have source : ((i : Int) + 1 + (i - i)).toNat = i + 1 := by omega
      rw [List.getElem_set_self, Vector.getElem_toList, getElem_memmove, if_pos inside, source, read]
      rfl
    · have outside : ¬ ((dst : Int) ≤ i ∧ (i : Int) < dst + (1 : Nat)) := by omega
      rw [List.getElem_set_ne (Ne.symm here), Vector.getElem_toList, getElem_memmove, if_neg outside,
        Vector.getElem_toList]

/-- The terminator is moved over the last character. -/
theorem cString_memmove_last (short : (cString chars).length < n) {last : UInt8}
    (ends : cString chars = text ++ [last]) :
    cString (memmove chars text.length (text.length + 1) 1) = text := by
  obtain ⟨rest, layout⟩ := cString_layout short
  rw [ends, List.append_assoc, List.singleton_append] at layout
  have read : chars.toList[text.length + 1]? = some 0 := by
    rw [layout, List.getElem?_append_right (Nat.le_succ _)]
    simp
  have moved : (memmove chars text.length (text.length + 1) 1).toList = text ++ 0 :: (0 :: rest) := by
    rw [memmove_one read, layout, List.set_append_right _ _ (Nat.le_refl _), Nat.sub_self]
    rfl
  refine cString_eq moved fun byte member => cString_nonzero chars byte ?_
  rw [ends]
  exact List.mem_append_left _ member

theorem memmove_before (chars : Vector UInt8 n) : memmove chars (-1) 0 1 = chars := by
  apply Vector.ext
  intro i small
  have outside : ¬ ((-1 : Int) ≤ i ∧ (i : Int) < -1 + (1 : Nat)) := by omega
  rw [getElem_memmove, if_neg outside]

end CString

end SimonVs.Data
