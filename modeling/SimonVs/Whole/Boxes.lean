import SimonVs.Whole.Games

namespace SimonVs

open Data

/-- A box of the program: centred, with no limits but the 16 bits. -/
structure TextBox.Placed (width : XpmImage → UInt16) (box : TextBox) : Prop where
  centred : box.Centred width 400
  min : box.minX = 0
  max : box.maxX = -1

namespace TextBox

variable {width : XpmImage → UInt16} {box : TextBox}

theorem placed_create {maxSize : Int} (low : 0 ≤ maxSize) (high : maxSize ≤ 20) (cursorY : UInt16)
    (uninitialised : Vector XpmImage 20) :
    (createWriteableTextBox 400 cursorY 0 (-1) maxSize uninitialised).Placed width := by
  have limits : (0 : UInt16).toNat ≤ (400 : UInt16).toNat ∧ (400 : UInt16).toNat ≤ (-1 : UInt16).toNat := by decide
  exact ⟨⟨sized_create low high _ _ _ _ _, rfl, rfl, limits.1, limits.2⟩, rfl, rfl⟩

theorem Placed.add (placed : box.Placed width) (byte : UInt8) : (addToCenteredTextBox width byte box).1.Placed width := by
  rcases add_cases placed.centred.sized byte with refused | ⟨_, added⟩
  · rw [refused]
    exact placed
  · obtain ⟨min, max, _⟩ := added.limits
    exact ⟨placed.centred.added added, min.trans placed.min, max.trans placed.max⟩

theorem Placed.remove (placed : box.Placed width) : (removeFromCenteredTextBox width box).Placed width := by
  rcases remove_cases width placed.centred.sized with ⟨_, same⟩ | ⟨filled, img, removed⟩
  · rw [same]
    exact placed
  · obtain ⟨min, max, _⟩ := removed.limits
    exact ⟨placed.centred.removed filled removed, min.trans placed.min, max.trans placed.max⟩

/-- The empty box takes an image of half the width of the screen. -/
theorem Placed.accepts (placed : box.Placed width) (empty : box.held = []) (room : 0 < box.charMaxSize) {byte : UInt8}
    (narrow : (width (getPropFromChar byte)).toNat ≤ 400) : (addToCenteredTextBox width byte box).2 = true := by
  have size := placed.centred.sized.length_held
  have left := placed.centred.left
  have right := placed.centred.right
  rw [empty] at size left right
  have start : box.xi.toNat = 400 := left
  have cursor : box.cursorX.toNat = 400 := right
  have none : box.charSize = 0 := size.symm
  have limits : box.minX.toNat = 0 ∧ box.maxX.toNat = 65535 := by
    rw [placed.min, placed.max]
    exact ⟨rfl, rfl⟩
  rw [addToCenteredTextBox, if_neg (by omega)]
  dsimp only
  rw [if_neg (by omega), if_neg (by omega)]

end TextBox

namespace NumberOfRounds

variable {width : XpmImage → UInt16} {screen : NumberOfRounds}

theorem confirms_nothing {key : KeyPress} (other : UInt8.ofNat key.key ≠ 10) :
    (screen.numberOfRoundsUpdateStatus width key).2 = none := by
  rw [numberOfRoundsUpdateStatus]
  split
  · rfl
  · exact if_neg fun confirmed => other confirmed.1

theorem confirms_value (value : screen.numRoundsValue ≠ 0) :
    (screen.numberOfRoundsUpdateStatus width { key := enter, down := false }).2 =
      some (if !screen.isMp then .resetGame screen.numRoundsValue else .hostMpGame screen.numRoundsValue) := by
  have isEnter : UInt8.ofNat enter = 10 := rfl
  rw [numberOfRoundsUpdateStatus, if_neg Bool.false_ne_true]
  exact if_pos ⟨isEnter, value⟩

end NumberOfRounds

namespace Program

variable {width : XpmImage → UInt16} {program : Program}

/-- A character is typed only where `player` has room for it. -/
def Fits (program : Program) (event : Event) : Prop :=
  program.mode = .highscore → event.1.gotKeyPress = true → event.1.keyboardPacket.down = false →
    isAlphaNumberical (UInt8.ofNat event.1.keyboardPacket.key) = true → program.highScore.strlen < 10

instance (program : Program) (event : Event) : Decidable (program.Fits event) :=
  inferInstanceAs (Decidable (_ → _ → _ → _ → _))

/-- The name is at least as long as what the box shows of it. -/
structure Naming (width : XpmImage → UInt16) (highScore : HighScore) : Prop where
  placed : highScore.newHiscore.Placed width
  ten : highScore.newHiscore.charMaxSize = 10
  shown : highScore.newHiscore.held.length ≤ highScore.strlen

structure Orderly (width : XpmImage → UInt16) (program : Program) : Prop where
  fair : program.Fair
  rounds : program.mode = .numRounds → program.numberOfRounds.numRounds.Placed width
  naming : program.mode = .highscore → Naming width program.highScore
  short : program.highScore.strlen < 11

theorem naming_opened {highScore : HighScore} {uninitialised : Vector XpmImage 20}
    (opened : highScore.newHiscore = .createWriteableTextBox 400 330 0 (-1) 10 uninitialised) :
    Naming width highScore := by
  have empty : highScore.newHiscore.held = [] := by
    rw [opened]
    rfl
  refine ⟨?_, ?_, ?_⟩
  · rw [opened]
    exact TextBox.placed_create (by decide) (by decide) _ _
  · rw [opened]
    rfl
  · rw [empty]
    exact Nat.zero_le _

theorem Naming.typeChar {screen : HighScore} (naming : Naming width screen) {keyChar : UInt8}
    (alpha : isAlphaNumberical keyChar = true) (room : screen.strlen < 10) :
    Naming width (screen.typeChar width keyChar).1 ∧ (screen.typeChar width keyChar).1.strlen < 11 := by
  have text := @HighScore.text_typeChar width screen keyChar alpha room
  have placed := naming.placed.add keyChar
  have box : (screen.typeChar width keyChar).1.newHiscore =
      (screen.newHiscore.addToCenteredTextBox width keyChar).1 := by
    rw [HighScore.typeChar]
    dsimp only
    split <;> rfl
  rcases TextBox.add_cases naming.placed.centred.sized keyChar with refused | ⟨success, added⟩
  · rw [refused] at text box
    have length : (screen.typeChar width keyChar).1.strlen = screen.strlen := congrArg List.length text
    refine ⟨⟨?_, ?_, ?_⟩, ?_⟩
    · rw [box]
      exact naming.placed
    · rw [box]
      exact naming.ten
    · rw [box, length]
      exact naming.shown
    · rw [length]
      exact Nat.lt_succ_of_lt room
  · rw [if_pos success] at text
    have length : (screen.typeChar width keyChar).1.strlen = screen.strlen + 1 := by
      rw [HighScore.strlen, text, List.length_append, List.length_singleton]
      rfl
    refine ⟨⟨?_, ?_, ?_⟩, ?_⟩
    · rw [box]
      exact placed
    · rw [box]
      exact added.limits.2.2.trans naming.ten
    · rw [box, added.held, List.length_append, List.length_singleton, length]
      exact Nat.succ_le_succ naming.shown
    · rw [length]
      exact Nat.succ_lt_succ room

theorem Naming.deleteChar {screen : HighScore} (naming : Naming width screen) (short : screen.strlen < 11) :
    Naming width (screen.deleteChar width).1 ∧ (screen.deleteChar width).1.strlen < 11 := by
  have shown := naming.shown
  have box : (screen.deleteChar width).1.newHiscore = screen.newHiscore.removeFromCenteredTextBox width := by
    rw [HighScore.deleteChar_eq]
  have length : (screen.deleteChar width).1.strlen = screen.strlen - 1 := by
    rw [HighScore.strlen, HighScore.text_deleteChar short, List.length_dropLast]
    rfl
  rw [length]
  refine ⟨⟨?_, ?_, ?_⟩, by omega⟩
  · rw [box]
    exact naming.placed.remove
  · rw [box]
    rcases TextBox.remove_cases width naming.placed.centred.sized with ⟨_, same⟩ | ⟨_, img, removed⟩
    · rw [same]
      exact naming.ten
    · exact removed.limits.2.2.trans naming.ten
  · rw [box, length]
    rcases TextBox.remove_cases width naming.placed.centred.sized with ⟨empty, same⟩ | ⟨_, img, removed⟩
    · rw [same, TextBox.held_eq_nil empty]
      exact Nat.zero_le _
    · rw [removed.held, List.length_append, List.length_singleton] at shown
      omega

theorem Orderly.names (orderly : program.Orderly width) (visiting : program.mode = .highscore) {event : Event}
    (fits : program.Fits event) (pressed : event.1.gotKeyPress = true) :
    let after := program.highscoreUpdateStatus width event.1.keyboardPacket event.2
    (after.mode = .highscore → Naming width after.highScore) ∧ after.highScore.strlen < 11 := by
  have naming : Naming width { program.highScore with mode := program.mode } :=
    ⟨(orderly.naming visiting).placed, (orderly.naming visiting).ten, (orderly.naming visiting).shown⟩
  have cases := HighScore.highscoreUpdateStatus_cases width { program.highScore with mode := program.mode }
    { key := event.1.keyboardPacket, date := event.2.date, uninitialised := event.2.dateBlock }
  intro after
  simp only [after, highscoreUpdateStatus]
  by_cases down : event.1.keyboardPacket.down = true
  · rw [HighScore.highscoreUpdateStatus, if_pos down]
    exact ⟨fun _ => naming, orderly.short⟩
  have released : event.1.keyboardPacket.down = false := Bool.eq_false_iff.mpr down
  rcases cases with ⟨_, _, same⟩ | ⟨_, _, same⟩ | ⟨_, _, alpha, same⟩ | ⟨_, _, same⟩
  · rw [same]
    exact ⟨fun _ => naming, orderly.short⟩
  · rw [same, HighScore.enterName]
    split
    · exact ⟨fun still => (by cases still), orderly.short⟩
    · exact ⟨fun _ => naming, orderly.short⟩
  · obtain ⟨typed, short⟩ := naming.typeChar alpha (fits visiting pressed released alpha)
    rw [same]
    exact ⟨fun _ => typed, short⟩
  · obtain ⟨typed, short⟩ := naming.deleteChar orderly.short
    rw [same]
    exact ⟨fun _ => typed, short⟩

/-- A screen without a box. -/
theorem orderly_elsewhere (fair : program.Fair) (notAsking : program.mode ≠ .numRounds)
    (notVisiting : program.mode ≠ .highscore) (short : program.highScore.strlen < 11) : program.Orderly width :=
  ⟨fair, fun now => absurd now notAsking, fun now => absurd now notVisiting, short⟩

theorem Orderly.leaves (orderly : program.Orderly width) (playing : program.Playing) {after : Program} (fair : after.Fair)
    {left : Option Result} (leaves : program.Leaves after left) : after.Orderly width := by
  have short : after.highScore.strlen < 11 := by
    rw [HighScore.strlen, leaves.player]
    exact orderly.short
  have elsewhere : program.mode ≠ .numRounds ∧ program.mode ≠ .highscore := by
    rcases playing with playing | playing
    · simp [playing]
    · simp [playing]
  refine ⟨fair, fun asking => ?_, fun visiting => ?_, short⟩
  · rcases leaves.shown with same | shown | shown
    · exact absurd (same.symm.trans asking) elsewhere.1
    · rw [shown] at asking
      cases asking
    · rw [shown] at asking
      cases asking
  · cases left with
    | none => exact absurd ((leaves.stays rfl).1.symm.trans visiting) elsewhere.2
    | some result =>
        obtain ⟨_, uninitialised, opened⟩ := (leaves.goes result rfl).2 visiting
        exact naming_opened opened

theorem placed_update {screen : NumberOfRounds} (placed : screen.numRounds.Placed width) (key : KeyPress) :
    (screen.numberOfRoundsUpdateStatus width key).1.numRounds.Placed width := by
  rw [NumberOfRounds.numberOfRoundsUpdateStatus]
  split
  · exact placed
  · have typed : (if isNumerical (UInt8.ofNat key.key) then screen.addDigit width (UInt8.ofNat key.key)
        else screen).numRounds.Placed width := by
      split
      · exact placed.add _
      · exact placed
    dsimp only
    split
    · exact typed.remove
    · exact typed

theorem Orderly.moves (orderly : program.Orderly width) {event : Event} (fits : program.Fits event) {after : Program}
    (moves : Moves width event.1 event.2 program after) : after.Orderly width := by
  have fair := orderly.fair.moves moves
  cases moves with
  | stay outside => exact ⟨fair, orderly.rounds, orderly.naming, orderly.short⟩
  | choose menu screen screens =>
      refine orderly_elsewhere fair ?_ ?_ orderly.short
      · rcases screens with rfl | rfl | rfl | rfl <;> simp
      · rcases screens with rfl | rfl | rfl | rfl <;> simp
  | askRounds =>
      exact ⟨fair, fun _ => TextBox.placed_create (by decide) (by decide) _ _, fun now => (nomatch now), orderly.short⟩
  | connect | back | starts | hosts => exact orderly_elsewhere fair (by simp) (by simp) orderly.short
  | types asking =>
      exact ⟨fair, fun _ => placed_update (orderly.rounds asking) _,
        fun now => (nomatch asking.symm.trans now), orderly.short⟩
  | plays playing => exact orderly.leaves (.inl playing) fair (leaves_games _ _ _)
  | playsMp playing => exact orderly.leaves (.inr playing) fair (leaves_mpGames _ _ _)
  | names visiting pressed =>
      obtain ⟨naming, short⟩ := orderly.names visiting fits pressed
      refine ⟨fair, fun asking => ?_, naming, short⟩
      rcases @highscoreUpdateStatus_either width program visiting event.1.keyboardPacket event.2
        with ⟨mode, _⟩ | ⟨mode, _⟩
      · exact nomatch mode.symm.trans asking
      · exact nomatch mode.symm.trans asking

theorem Orderly.transmit (orderly : program.Orderly width) (transmitted : Bool) :
    (program.transmit transmitted).Orderly width := by
  have fair := orderly.fair.transmit transmitted
  obtain ⟨uart, same⟩ := transmit_eq program transmitted
  rw [same] at fair ⊢
  exact ⟨fair, orderly.rounds, orderly.naming, orderly.short⟩

theorem Orderly.step (orderly : program.Orderly width) {event : Event} (fits : program.Fits event) :
    (program.step width event).Orderly width := by
  have still : (program.transmit event.2.transmitted).Fits event := by
    rw [Fits, mode_transmit, highScore_transmit]
    exact fits
  exact (orderly.transmit event.2.transmitted).moves still (moves_step program event)

end Program

end SimonVs
