import SimonVs.Board.File
import SimonVs.Data.CString
import SimonVs.Data.Transducer
import SimonVs.Input
import SimonVs.Screens.TextBox

namespace SimonVs

open Data

/-! The screen that asks for the name of a winner (`highscore.c`). The name is
kept twice: as images in a text box and as a string. The functions also return
the characters they touch. -/

/-- The arrays of `highscore.c` that hold characters: `player`, the members of
`newWinner`, the one that `getDate` allocates and its local ones. -/
inductive Buffer where
  | player
  | name
  | date
  | block
  | day
  | month
  | year
deriving DecidableEq, Repr

def Buffer.size : Buffer → Nat
  | player => 11
  | name => 11
  | date => 11
  | block => 10
  | day => 3
  | month => 3
  | year => 5

/-- A date of the RTC (`struct date`). -/
structure RtcDate where
  day : Nat
  month : Nat
  year : Nat
  dayRange : 1 ≤ day ∧ day ≤ 31
  monthRange : 1 ≤ month ∧ month ≤ 12
  yearRange : year ≤ 99

/-- What `getDate` writes: the three numbers in decimal, separated, and a zero. -/
def RtcDate.written (date : RtcDate) : List UInt8 :=
  printNat date.day ++ ascii '/' :: (printNat date.month ++ ascii '/' :: (printNat (date.year + 2000) ++ [0]))

/-- `getDate`. The block has ten characters; the eleventh is the one behind it.
-/
def getDate (date : RtcDate) (uninitialised : Chars) : Chars × List (Access Buffer) :=
  (Vector.ofFn fun i => (date.written[i.val]?).getD uninitialised[i],
   span .day 0 ((printNat date.day).length + 1) ++ span .month 0 ((printNat date.month).length + 1) ++
     span .year 0 ((printNat (date.year + 2000)).length + 1) ++ span .block 0 date.written.length)

/-- The static variables of `highscore.c`, the leaderboard and `game.mode`. -/
structure HighScore where
  player : Chars
  newHiscore : TextBox
  board : Leaderboard
  mode : GameModes

namespace HighScore

def strlen (screen : HighScore) : Nat := screen.player.text.length

/-- `strlen` also reads the zero. -/
def strlenReads (screen : HighScore) : List (Access Buffer) := span .player 0 (screen.strlen + 1)

def resetHiscore (screen : HighScore) (score : Int) (uninitialised : Vector XpmImage 20) : HighScore :=
  { screen with
    board := screen.board.resetHiscore score
    newHiscore := .createWriteableTextBox 400 330 0 (-1) 10 uninitialised }

/-- `checkNewHiScore` for a score that enters the leaderboard. -/
def openScreen (screen : HighScore) (score : Int) (uninitialised : Vector XpmImage 20) : HighScore :=
  resetHiscore { screen with mode := .highscore } score uninitialised

def enterName (screen : HighScore) (date : RtcDate) (uninitialised : Chars) : HighScore × List (Access Buffer) :=
  if screen.strlen ≠ 0 then
    let (block, dateAccesses) := getDate date uninitialised
    ({ screen with board := screen.board.confirmName screen.player block, mode := .leaderboard },
     screen.strlenReads ++ span .player 0 11 ++ span .name 0 11 ++ dateAccesses ++ span .block 0 11 ++ span .date 0 11)
  else (screen, screen.strlenReads)

variable (width : XpmImage → UInt16)

def typeChar (screen : HighScore) (keyChar : UInt8) : HighScore × List (Access Buffer) :=
  let (newHiscore, wasAble) := screen.newHiscore.addToCenteredTextBox width keyChar
  if wasAble then
    ({ screen with newHiscore, player := strncat screen.player keyChar },
     screen.strlenReads ++ span .player screen.strlen 2)
  else ({ screen with newHiscore }, [])

/-- BACKSPACE. For the empty string the index is -1, and as a `size_t` the
difference to it is 1 all the same. -/
def deleteChar (screen : HighScore) : HighScore × List (Access Buffer) :=
  let idxToDel : Int := (screen.strlen : Int) - 1
  let count := (((screen.strlen : Int) - idxToDel) % 2 ^ 32).toNat
  ({ screen with
     newHiscore := screen.newHiscore.removeFromCenteredTextBox width
     player := memmove screen.player idxToDel (idxToDel + 1) count },
   screen.strlenReads ++ screen.strlenReads ++ span .player (idxToDel + 1) count ++ span .player idxToDel count)

/-- A key press, with the date and the memory that `getDate` finds. -/
structure Typed where
  key : KeyPress
  date : RtcDate
  uninitialised : Chars

def Typed.keyChar (typed : Typed) : UInt8 := UInt8.ofNat typed.key.key

def highscoreUpdateStatus (screen : HighScore) (typed : Typed) : HighScore × List (Access Buffer) :=
  if typed.key.down then (screen, [])
  else
    let (screen, confirming) :=
      if typed.keyChar = UInt8.ofNat enter then screen.enterName typed.date typed.uninitialised else (screen, [])
    let (screen, typing) :=
      if isAlphaNumberical typed.keyChar then screen.typeChar width typed.keyChar else (screen, [])
    let (screen, deleting) :=
      if typed.keyChar = UInt8.ofNat backspace then screen.deleteChar width else (screen, [])
    (screen, confirming ++ typing ++ deleting)

/-- The `HIGHSCORE` case of `event_handler`. -/
def eventHandler (screen : HighScore) (typed : Typed) : HighScore × List (Access Buffer) :=
  if screen.mode = .highscore then screen.highscoreUpdateStatus width typed else (screen, [])

def Typed.Releases (typed : Typed) (keyChar : UInt8) : Prop := typed.key.down = false ∧ typed.keyChar = keyChar

instance (typed : Typed) (keyChar : UInt8) : Decidable (typed.Releases keyChar) := inferInstanceAs (Decidable (_ ∧ _))

variable {width} {screen : HighScore} {typed : Typed}

/-- A key does one thing at most. -/
theorem highscoreUpdateStatus_cases (width : XpmImage → UInt16) (screen : HighScore) (typed : Typed) :
    (¬ typed.Releases (UInt8.ofNat enter) ∧ ¬ typed.Releases (UInt8.ofNat backspace) ∧
      screen.highscoreUpdateStatus width typed = (screen, [])) ∨
    (typed.Releases (UInt8.ofNat enter) ∧ ¬ typed.Releases (UInt8.ofNat backspace) ∧
      screen.highscoreUpdateStatus width typed = screen.enterName typed.date typed.uninitialised) ∨
    (¬ typed.Releases (UInt8.ofNat enter) ∧ ¬ typed.Releases (UInt8.ofNat backspace) ∧
      isAlphaNumberical typed.keyChar = true ∧
      screen.highscoreUpdateStatus width typed = screen.typeChar width typed.keyChar) ∨
    (¬ typed.Releases (UInt8.ofNat enter) ∧ typed.Releases (UInt8.ofNat backspace) ∧
      screen.highscoreUpdateStatus width typed = screen.deleteChar width) := by
  have notTyped : isAlphaNumberical (UInt8.ofNat enter) = false ∧ isAlphaNumberical (UInt8.ofNat backspace) = false ∧
      UInt8.ofNat enter ≠ UInt8.ofNat backspace := by
    decide
  unfold highscoreUpdateStatus Typed.Releases
  by_cases down : typed.key.down = true
  · simp [down]
  · by_cases isEnter : typed.keyChar = UInt8.ofNat enter
    · simp [down, isEnter, notTyped]
    · by_cases isBackspace : typed.keyChar = UInt8.ofNat backspace
      · simp [down, isBackspace, notTyped, Ne.symm notTyped.2.2]
      · by_cases alpha : isAlphaNumberical typed.keyChar = true
        · simp [down, isEnter, isBackspace, alpha]
        · simp [down, isEnter, isBackspace, alpha]

/-- The string is the text in the box. -/
structure Named (screen : HighScore) : Prop where
  sized : screen.newHiscore.Sized
  ten : screen.newHiscore.charMaxSize = 10
  same : screen.player.text = screen.newHiscore.held.map XpmImage.shown

theorem Named.strlen_eq (holds : screen.Named) : (screen.strlen : Int) = screen.newHiscore.charSize := by
  rw [strlen, holds.same, List.length_map]
  exact holds.sized.length_held

theorem Named.strlen_le (holds : screen.Named) : screen.strlen ≤ 10 := by
  have size := holds.strlen_eq
  have high := holds.sized.high
  have ten := holds.ten
  omega

theorem named_open {score : Int} {uninitialised : Vector XpmImage 20} :
    (screen.openScreen score uninitialised).Named ↔ screen.player.text = [] := by
  refine ⟨fun holds => holds.same, fun empty => ⟨TextBox.sized_create (by decide) (by decide) _ _ _ _ _, rfl, empty⟩⟩

theorem isAlphaNumberical_ne_zero {byte : UInt8} (alpha : isAlphaNumberical byte = true) : byte ≠ 0 := by
  rintro rfl
  exact absurd alpha (by decide)

theorem Named.typeChar (holds : screen.Named) {keyChar : UInt8} (alpha : isAlphaNumberical keyChar = true) :
    (screen.typeChar width keyChar).1.Named ∧ Inside Buffer.size (screen.typeChar width keyChar).2 := by
  unfold HighScore.typeChar
  rcases TextBox.add_cases holds.sized keyChar with refused | ⟨success, added⟩
  · rw [refused]
    exact ⟨holds, inside_nil⟩
  · obtain ⟨_, _, max⟩ := added.limits
    have size := holds.strlen_eq
    have high := (holds.sized.added added).high
    have grown := added.charSize
    have ten := holds.ten
    have room : screen.strlen + 1 < 11 := by omega
    simp only [success, if_true]
    refine ⟨⟨holds.sized.added added, max.trans holds.ten, ?_⟩, ?_⟩
    · rw [added.held, List.map_append, List.map_singleton, shown_getPropFromChar alpha, ← holds.same]
      exact cString_strncat room (isAlphaNumberical_ne_zero alpha)
    · rw [inside_append, strlenReads, inside_span, inside_span]
      exact ⟨.inr ⟨by omega, by simp only [Buffer.size]; omega⟩, .inr ⟨by omega, by simp only [Buffer.size]; omega⟩⟩

theorem deleteChar_eq (width : XpmImage → UInt16) (screen : HighScore) :
    screen.deleteChar width =
      ({ screen with
         newHiscore := screen.newHiscore.removeFromCenteredTextBox width
         player := memmove screen.player ((screen.strlen : Int) - 1) ((screen.strlen : Int) - 1 + 1) 1 },
       screen.strlenReads ++ screen.strlenReads ++ span .player ((screen.strlen : Int) - 1 + 1) 1 ++
         span .player ((screen.strlen : Int) - 1) 1) := by
  have count : (((screen.strlen : Int) - ((screen.strlen : Int) - 1)) % 2 ^ 32).toNat = 1 := by
    rw [Int.sub_sub_self]
    rfl
  rw [deleteChar, count]

theorem Named.deleteChar (holds : screen.Named) : (screen.deleteChar width).1.Named := by
  rw [deleteChar_eq]
  have size := holds.strlen_eq
  rcases TextBox.remove_cases width holds.sized with ⟨empty, same⟩ | ⟨filled, img, removed⟩
  · have none : screen.strlen = 0 := by omega
    rw [same, none]
    refine ⟨holds.sized, holds.ten, ?_⟩
    have unchanged : memmove screen.player (((0 : Nat) : Int) - 1) (((0 : Nat) : Int) - 1 + 1) 1 = screen.player :=
      memmove_before screen.player
    rw [unchanged]
    exact holds.same
  · obtain ⟨_, _, max⟩ := removed.limits
    refine ⟨holds.sized.removed filled removed, max.trans holds.ten, ?_⟩
    have ends := holds.same
    rw [removed.held, List.map_append, List.map_singleton] at ends
    have length : screen.strlen =
        ((screen.newHiscore.removeFromCenteredTextBox width).held.map XpmImage.shown).length + 1 := by
      rw [strlen, ends, List.length_append, List.length_singleton]
    have index : (screen.strlen : Int) - 1 =
        ((screen.newHiscore.removeFromCenteredTextBox width).held.map XpmImage.shown).length := by
      omega
    rw [index]
    exact cString_memmove_last (Nat.lt_succ_of_le holds.strlen_le) ends

/-- The character before the array is written when there is none to delete. -/
theorem Named.inside_deleteChar (holds : screen.Named) :
    Inside Buffer.size (screen.deleteChar width).2 ↔ screen.player.text ≠ [] := by
  have small := holds.strlen_le
  have nonempty : screen.player.text ≠ [] ↔ screen.strlen ≠ 0 := List.length_eq_zero_iff.not.symm
  rw [deleteChar_eq, nonempty]
  simp only [inside_append, strlenReads, inside_span, Buffer.size]
  omega

/-- The block of `getDate` is copied with the character behind it. -/
theorem Named.inside_enterName (holds : screen.Named) (date : RtcDate) (uninitialised : Chars) :
    Inside Buffer.size (screen.enterName date uninitialised).2 ↔ screen.player.text = [] := by
  have small := holds.strlen_le
  have empty : screen.player.text = [] ↔ screen.strlen = 0 := List.length_eq_zero_iff.symm
  unfold enterName
  rw [empty]
  split
  · rename_i nonempty
    refine iff_of_false (fun inside => ?_) nonempty
    simp only [inside_append, inside_span, Buffer.size] at inside
    omega
  · rename_i zero
    refine iff_of_true ?_ (Decidable.not_not.mp zero)
    rw [strlenReads, inside_span]
    simp only [Buffer.size]
    omega

theorem text_typeChar {keyChar : UInt8} (alpha : isAlphaNumberical keyChar = true) (room : screen.strlen < 10) :
    (screen.typeChar width keyChar).1.player.text =
      if (screen.newHiscore.addToCenteredTextBox width keyChar).2 then screen.player.text ++ [keyChar]
      else screen.player.text := by
  rw [HighScore.typeChar]
  dsimp only
  split
  · exact cString_strncat (Nat.succ_lt_succ room) (isAlphaNumberical_ne_zero alpha)
  · rfl

theorem text_deleteChar (short : screen.strlen < 11) :
    (screen.deleteChar width).1.player.text = screen.player.text.dropLast := by
  rw [deleteChar_eq]
  rcases List.eq_nil_or_concat screen.player.text with empty | ⟨before, last, ends⟩
  · have none : screen.strlen = 0 := by rw [strlen, empty, List.length_nil]
    have unchanged : memmove screen.player (((0 : Nat) : Int) - 1) (((0 : Nat) : Int) - 1 + 1) 1 = screen.player :=
      memmove_before screen.player
    rw [none, unchanged, empty]
    rfl
  · rw [List.concat_eq_append] at ends
    have index : (screen.strlen : Int) - 1 = before.length := by
      rw [strlen, ends, List.length_append, List.length_singleton]
      omega
    rw [index, ends, List.dropLast_concat]
    exact cString_memmove_last short ends

end HighScore

end SimonVs
