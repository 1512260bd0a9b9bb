import Mathlib.Data.List.Basic
import Mathlib.Data.List.Induction
import Mathlib.Data.List.TakeWhile
import Mathlib.Data.Nat.Digits.Defs

namespace SimonVs.Data

def isSpace (byte : UInt8) : Bool := byte == 0x20 || (0x09 ≤ byte && byte ≤ 0x0D)

def isDigit (byte : UInt8) : Bool := 0x30 ≤ byte && byte ≤ 0x39

/-- White space in a format. -/
def skipSpace (input : List UInt8) : List UInt8 := input.dropWhile isSpace

/-- `%s`. Nothing is read at the end of the input. -/
def scanString (input : List UInt8) : List UInt8 × List UInt8 :=
  let rest := skipSpace input
  (rest.takeWhile (!isSpace ·), rest.dropWhile (!isSpace ·))

def scanSign : List UInt8 → Bool × List UInt8
  | [] => (false, [])
  | byte :: rest => if byte = 0x2D then (true, rest) else if byte = 0x2B then (false, rest) else (false, byte :: rest)

def digitsValue (digits : List UInt8) : Nat :=
  digits.foldl (fun value digit => (digit.toNat - 0x30) + 10 * value) 0

/-- `%d`. Without a digit nothing is converted. -/
def scanInt (input : List UInt8) : Option Int × List UInt8 :=
  let (negative, rest) := scanSign (skipSpace input)
  let digits := rest.takeWhile isDigit
  let value : Int := digitsValue digits
  (if digits = [] then none else some (if negative then -value else value), rest.dropWhile isDigit)

def digitByte (digit : Nat) : UInt8 := UInt8.ofNat (0x30 + digit)

def printNat (value : Nat) : List UInt8 :=
  if value = 0 then [digitByte 0] else (Nat.digits 10 value).reverse.map digitByte

/-- `%d` -/
def printInt (value : Int) : List UInt8 :=
  if value < 0 then 0x2D :: printNat value.natAbs else printNat value.natAbs

variable {byte : UInt8} {text after : List UInt8}

theorem isDigit_iff : isDigit byte = true ↔ 0x30 ≤ byte.toNat ∧ byte.toNat ≤ 0x39 := by
  simp [isDigit, UInt8.le_iff_toNat_le]

theorem isSpace_iff : isSpace byte = true ↔ byte.toNat = 0x20 ∨ 0x09 ≤ byte.toNat ∧ byte.toNat ≤ 0x0D := by
  simp [isSpace, UInt8.le_iff_toNat_le, ← UInt8.toNat_inj]

theorem not_isSpace_of_isDigit (digit : isDigit byte = true) : isSpace byte = false := by
  rw [isDigit_iff] at digit
  rw [Bool.eq_false_iff, ne_eq, isSpace_iff]
  omega

theorem not_isDigit_of_isSpace (space : isSpace byte = true) : isDigit byte = false := by
  rw [isSpace_iff] at space
  rw [Bool.eq_false_iff, ne_eq, isDigit_iff]
  omega

theorem skipSpace_text (some : text ≠ []) (plain : ∀ byte ∈ text, isSpace byte = false) :
    skipSpace (text ++ after) = text ++ after := by
  cases text with
  | nil => exact absurd rfl some
  | cons first rest =>
      rw [skipSpace, List.cons_append, List.dropWhile_cons_of_neg]
      simp [plain first List.mem_cons_self]

theorem skipSpace_cons (space : isSpace byte = true) : skipSpace (byte :: text) = skipSpace text :=
  List.dropWhile_cons_of_pos space

theorem scanString_text (some : text ≠ []) (plain : ∀ byte ∈ text, isSpace byte = false)
    (space : isSpace byte = true) : scanString (text ++ byte :: after) = (text, byte :: after) := by
  have word : ∀ byte ∈ text, (!isSpace byte) = true := fun byte member => by simp [plain byte member]
  rw [scanString, skipSpace_text some plain, List.takeWhile_append_of_pos word, List.dropWhile_append_of_pos word,
    List.takeWhile_cons_of_neg (by simp [space]), List.dropWhile_cons_of_neg (by simp [space]), List.append_nil]

theorem digitByte_toNat {digit : Nat} (small : digit < 10) : (digitByte digit).toNat = 0x30 + digit := by
  rw [digitByte, UInt8.toNat_ofNat']
  omega

theorem isDigit_digitByte {digit : Nat} (small : digit < 10) : isDigit (digitByte digit) = true := by
  rw [isDigit_iff, digitByte_toNat small]
  omega

theorem isDigit_printNat (value : Nat) : ∀ byte ∈ printNat value, isDigit byte = true := by
  unfold printNat
  split
  · intro byte member
    rw [List.mem_singleton.mp member]
    exact isDigit_digitByte (by decide)
  · intro byte member
    obtain ⟨digit, found, rfl⟩ := List.mem_map.mp member
    exact isDigit_digitByte (Nat.digits_lt_base (by decide) (List.mem_reverse.mp found))

theorem printNat_ne_nil (value : Nat) : printNat value ≠ [] := by
  unfold printNat
  split
  · exact List.cons_ne_nil _ _
  · rename_i positive
    have digits : Nat.digits 10 value ≠ [] := Nat.digits_ne_nil_iff_ne_zero.mpr positive
    simpa using digits

theorem digitsValue_printNat (value : Nat) : digitsValue (printNat value) = value := by
  unfold printNat
  split
  · rename_i zero
    rw [zero]
    rfl
  · have digits : ∀ digit ∈ Nat.digits 10 value, digit < 10 := fun digit member =>
      Nat.digits_lt_base (by decide) member
    calc digitsValue ((Nat.digits 10 value).reverse.map digitByte)
        = (Nat.digits 10 value).foldr (fun digit value => ((digitByte digit).toNat - 0x30) + 10 * value) 0 := by
          rw [digitsValue, List.foldl_map, List.foldl_reverse]
      _ = (Nat.digits 10 value).foldr (fun digit value => digit + 10 * value) 0 := by
          apply List.foldr_ext
          intro digit member sum
          rw [digitByte_toNat (digits digit member), Nat.add_sub_cancel_left]
      _ = Nat.ofDigits 10 (Nat.digits 10 value) := (Nat.ofDigits_eq_foldr 10 _).symm
      _ = value := Nat.ofDigits_digits 10 value

theorem digitsValue_concat (digits : List UInt8) (digit : UInt8) :
    digitsValue (digits ++ [digit]) = (digit.toNat - 0x30) + 10 * digitsValue digits := by
  rw [digitsValue, List.foldl_append]
  rfl

theorem digitsValue_lt {digits : List UInt8} (decimal : ∀ byte ∈ digits, isDigit byte = true) :
    digitsValue digits < 10 ^ digits.length := by
  induction digits using List.reverseRecOn with
  | nil => exact Nat.one_pos
  | append_singleton digits digit ih =>
      have last := isDigit_iff.mp (decimal digit (by simp))
      have others := ih fun byte member => decimal byte (by simp [member])
      rw [digitsValue_concat, List.length_append, List.length_singleton, Nat.pow_succ]
      omega

theorem scanSign_digits (some : text ≠ []) (digits : ∀ byte ∈ text, isDigit byte = true) :
    scanSign (text ++ after) = (false, text ++ after) := by
  cases text with
  | nil => exact absurd rfl some
  | cons first rest =>
      have digit := isDigit_iff.mp (digits first List.mem_cons_self)
      have notMinus : first ≠ 0x2D := by
        rintro rfl
        exact absurd digit (by decide)
      have notPlus : first ≠ 0x2B := by
        rintro rfl
        exact absurd digit (by decide)
      rw [List.cons_append, scanSign, if_neg notMinus, if_neg notPlus]

theorem scanSign_printInt (value : Int) :
    scanSign (printInt value ++ after) = (decide (value < 0), printNat value.natAbs ++ after) := by
  unfold printInt
  split
  · rename_i negative
    simp [scanSign, negative]
  · rename_i positive
    rw [scanSign_digits (printNat_ne_nil _) (isDigit_printNat _)]
    simp [positive]

theorem skipSpace_printInt (value : Int) : skipSpace (printInt value ++ after) = printInt value ++ after := by
  have plain : ∀ byte ∈ printNat value.natAbs, isSpace byte = false := fun byte member =>
    not_isSpace_of_isDigit (isDigit_printNat _ byte member)
  unfold printInt
  split
  · exact skipSpace_text (List.cons_ne_nil _ _) (List.forall_mem_cons.mpr ⟨rfl, plain⟩)
  · exact skipSpace_text (printNat_ne_nil _) plain

/-- A printed number is read to its end and not beyond. -/
theorem scanInt_printInt (value : Int) (space : isSpace byte = true) :
    scanInt (printInt value ++ byte :: after) = (some value, byte :: after) := by
  have digits := isDigit_printNat value.natAbs
  have stops : ¬ isDigit byte = true := by simp [not_isDigit_of_isSpace space]
  have signed : (if decide (value < 0) = true then -(value.natAbs : Int) else value.natAbs) = value := by
    simp only [decide_eq_true_eq]
    split <;> omega
  simp only [scanInt, skipSpace_printInt, scanSign_printInt]
  rw [List.takeWhile_append_of_pos digits, List.dropWhile_append_of_pos digits,
    List.takeWhile_cons_of_neg stops, List.dropWhile_cons_of_neg stops, List.append_nil,
    if_neg (printNat_ne_nil _), digitsValue_printNat, signed]

end SimonVs.Data
