import SimonVs.Data.Scan
import SimonVs.Data.Transducer
import SimonVs.Input
import SimonVs.Screens.TextBox

namespace SimonVs

open Data

/-! The screen that asks for the number of rounds (`number_of_rounds.c`). The
number is kept twice: as digits in a text box and as a value. -/

structure NumberOfRounds where
  numRounds : TextBox
  numRoundsValue : UInt32
  isMp : Bool
deriving DecidableEq, Repr

/-- The game that ENTER starts: `reset_game` (`Game.confirm`) or `host_mp_game`
(`MpGame.hostConfirm`). -/
inductive Confirmation where
  | resetGame (numRounds : UInt32)
  | hostMpGame (numRounds : UInt32)
deriving DecidableEq, Repr

def Confirmation.numRounds : Confirmation → UInt32
  | resetGame numRounds => numRounds
  | hostMpGame numRounds => numRounds

namespace NumberOfRounds

/-- `reset_number_of_rounds`; the limit -1 is one of 16 bits. -/
def resetNumberOfRounds (mp : Bool) (uninitialised : Vector XpmImage 20) : NumberOfRounds where
  numRounds := .createWriteableTextBox 400 360 0 (-1) 3 uninitialised
  numRoundsValue := 0
  isMp := mp

variable (width : XpmImage → UInt16)

def addDigit (screen : NumberOfRounds) (keyChar : UInt8) : NumberOfRounds :=
  let (numRounds, wasAble) := screen.numRounds.addToCenteredTextBox width keyChar
  { screen with
    numRounds
    numRoundsValue :=
      if wasAble then screen.numRoundsValue * 10 + (keyChar - ascii '0').toUInt32 else screen.numRoundsValue }

def deleteDigit (screen : NumberOfRounds) : NumberOfRounds :=
  { screen with
    numRounds := screen.numRounds.removeFromCenteredTextBox width
    numRoundsValue := screen.numRoundsValue / 10 }

def numberOfRoundsUpdateStatus (screen : NumberOfRounds) (key : KeyPress) : NumberOfRounds × Option Confirmation :=
  let keyChar := UInt8.ofNat key.key
  if key.down then (screen, none)
  else
    let started :=
      if keyChar = 10 ∧ screen.numRoundsValue ≠ 0 then
        some (if !screen.isMp then .resetGame screen.numRoundsValue else .hostMpGame screen.numRoundsValue)
      else none
    let screen := if isNumerical keyChar then screen.addDigit width keyChar else screen
    let screen := if keyChar = UInt8.ofNat backspace then screen.deleteDigit width else screen
    (screen, started)

def shown (screen : NumberOfRounds) : Nat := digitsValue (screen.numRounds.held.map XpmImage.shown)

structure Shows (screen : NumberOfRounds) : Prop where
  sized : screen.numRounds.Sized
  three : screen.numRounds.charMaxSize = 3
  digits : ∀ img ∈ screen.numRounds.held, isNumerical img.shown = true
  value : screen.numRoundsValue.toNat = screen.shown

variable {width} {screen : NumberOfRounds} {keyChar : UInt8}

theorem isNumerical_eq (byte : UInt8) : isNumerical byte = isDigit byte := by
  unfold isNumerical isDigit
  exact Bool.decide_and _ _

theorem isAlphaNumberical_of_isNumerical (digit : isNumerical keyChar = true) : isAlphaNumberical keyChar = true := by
  simp [isAlphaNumberical, digit]

theorem Shows.length_le (holds : screen.Shows) : screen.numRounds.held.length ≤ 3 := by
  have length := holds.sized.length_held
  have high := holds.sized.high
  have three := holds.three
  omega

theorem Shows.shown_lt (holds : screen.Shows) : screen.shown < 10 ^ screen.numRounds.held.length := by
  have small := @digitsValue_lt (screen.numRounds.held.map XpmImage.shown) (by
    intro byte member
    obtain ⟨img, found, rfl⟩ := List.mem_map.mp member
    rw [← isNumerical_eq]
    exact holds.digits img found)
  rwa [List.length_map] at small

theorem Shows.addDigit (holds : screen.Shows) (digit : isNumerical keyChar = true) :
    (screen.addDigit width keyChar).Shows := by
  unfold NumberOfRounds.addDigit
  rcases TextBox.add_cases holds.sized keyChar with refused | ⟨success, added⟩
  · rw [refused]
    exact holds
  · obtain ⟨_, _, max⟩ := added.limits
    have image : (getPropFromChar keyChar).shown = keyChar :=
      shown_getPropFromChar (isAlphaNumberical_of_isNumerical digit)
    have length := holds.sized.length_held
    have high := (holds.sized.added added).high
    have size := added.charSize
    have three := holds.three
    refine ⟨holds.sized.added added, max.trans holds.three, ?_, ?_⟩
    · intro img member
      rw [added.held] at member
      rcases List.mem_append.mp member with old | new
      · exact holds.digits img old
      · rw [List.mem_singleton.mp new, image]
        exact digit
    · have bound : screen.shown < 10 ^ 2 :=
        Nat.lt_of_lt_of_le holds.shown_lt (Nat.pow_le_pow_right (by decide) (by omega))
      have range := isDigit_iff.mp (isNumerical_eq keyChar ▸ digit)
      have distance : (keyChar - ascii '0').toNat = keyChar.toNat - 0x30 :=
        UInt8.toNat_sub_of_le _ _ (UInt8.le_iff_toNat_le.mpr range.1)
      have value := holds.value
      simp only [NumberOfRounds.shown, added.held, List.map_append, List.map_singleton, image, digitsValue_concat,
        success, if_true]
      rw [UInt32.toNat_add, UInt32.toNat_mul, UInt8.toNat_toUInt32, distance, value]
      have unfolded : screen.shown = digitsValue (screen.numRounds.held.map XpmImage.shown) := rfl
      have ten : (10 : UInt32).toNat = 10 := rfl
      rw [ten]
      omega

theorem Shows.deleteDigit (holds : screen.Shows) : (screen.deleteDigit width).Shows := by
  unfold NumberOfRounds.deleteDigit
  have value := holds.value
  have ten : (10 : UInt32).toNat = 10 := rfl
  rcases TextBox.remove_cases width holds.sized with ⟨empty, same⟩ | ⟨filled, img, removed⟩
  · have zero : screen.shown = 0 := by
      rw [NumberOfRounds.shown, TextBox.held_eq_nil empty]
      rfl
    rw [same]
    refine ⟨holds.sized, holds.three, holds.digits, ?_⟩
    rw [UInt32.toNat_div, value, zero]
    exact zero.symm
  · obtain ⟨_, _, max⟩ := removed.limits
    have last : isNumerical img.shown = true := holds.digits img (by simp [removed.held])
    have range := isDigit_iff.mp (isNumerical_eq img.shown ▸ last)
    refine ⟨holds.sized.removed filled removed, max.trans holds.three, ?_, ?_⟩
    · intro other member
      exact holds.digits other (by simp [removed.held, member])
    · rw [NumberOfRounds.shown, removed.held, List.map_append, List.map_singleton, digitsValue_concat] at value
      rw [UInt32.toNat_div, ten, value]
      dsimp only [NumberOfRounds.shown]
      omega

theorem Shows.update (holds : screen.Shows) (key : KeyPress) :
    (screen.numberOfRoundsUpdateStatus width key).1.Shows := by
  unfold numberOfRoundsUpdateStatus
  split
  · exact holds
  · have typed : (if isNumerical (UInt8.ofNat key.key) then screen.addDigit width (UInt8.ofNat key.key)
        else screen).Shows := by
      split
      · rename_i digit
        exact holds.addDigit digit
      · exact holds
    dsimp only
    split
    · exact typed.deleteDigit
    · exact typed

theorem shows_start (mp : Bool) (uninitialised : Vector XpmImage 20) :
    (resetNumberOfRounds mp uninitialised).Shows :=
  ⟨TextBox.sized_create (by decide) (by decide) _ _ _ _ _, rfl, fun _ member => (nomatch member), rfl⟩

theorem started_eq {key : KeyPress} {confirmation : Confirmation}
    (started : (screen.numberOfRoundsUpdateStatus width key).2 = some confirmation) :
    confirmation.numRounds = screen.numRoundsValue ∧ screen.numRoundsValue ≠ 0 := by
  unfold numberOfRoundsUpdateStatus at started
  split at started
  · cases started
  · dsimp only at started
    split at started
    · rename_i confirmed
      rw [← Option.some.inj started]
      refine ⟨?_, confirmed.2⟩
      split <;> rfl
    · cases started

/-- Whatever is typed, the number of rounds is the number that is shown, and no
game is started with another one. -/
theorem rounds_shown (width : XpmImage → UInt16) (mp : Bool) (uninitialised : Vector XpmImage 20)
    (keys : List KeyPress) :
    let screen := reach (numberOfRoundsUpdateStatus width) (resetNumberOfRounds mp uninitialised) keys
    (screen.numRoundsValue.toNat = screen.shown ∧
      (screen.numRounds.held.length : Int) = screen.numRounds.charSize ∧ screen.numRounds.held.length ≤ 3 ∧
      ∀ img ∈ screen.numRounds.held, isNumerical img.shown = true) ∧
    ∀ key confirmation, (screen.numberOfRoundsUpdateStatus width key).2 = some confirmation →
      confirmation.numRounds.toNat = screen.shown ∧ 1 ≤ screen.shown ∧ screen.shown ≤ 999 := by
  intro screen
  have holds : screen.Shows := by
    refine @run_invariant _ _ _ _ _ (fun _ _ => True) Shows ?_ (shows_start mp uninitialised) along_true
    exact fun _ key holds _ => holds.update key
  refine ⟨⟨holds.value, holds.sized.length_held, holds.length_le, holds.digits⟩, fun key confirmation started => ?_⟩
  obtain ⟨same, positive⟩ := started_eq started
  have value := holds.value
  have nonzero : screen.numRoundsValue.toNat ≠ 0 := fun zero => positive (UInt32.toNat.inj zero)
  have bound : screen.shown < 10 ^ 3 :=
    Nat.lt_of_lt_of_le holds.shown_lt (Nat.pow_le_pow_right (by decide) holds.length_le)
  rw [same]
  omega

end NumberOfRounds

end SimonVs
