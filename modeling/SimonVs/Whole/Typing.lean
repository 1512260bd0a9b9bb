import SimonVs.Loop.Keys
import SimonVs.Screens.Display
import SimonVs.Whole.Boxes

namespace SimonVs

open Data Devices

namespace NumberOfRounds

variable {width : XpmImage → UInt16} {screen : NumberOfRounds}

def text (screen : NumberOfRounds) : List UInt8 := screen.numRounds.held.map XpmImage.shown

/-- What a key makes of up to three digits. -/
def edit (text : List UInt8) (key : KeyPress) : List UInt8 :=
  let keyChar := UInt8.ofNat key.key
  if key.down then text
  else if isNumerical keyChar then if text.length < 3 then text ++ [keyChar] else text
  else if keyChar = UInt8.ofNat backspace then text.dropLast
  else text

theorem length_text (shows : screen.Shows) : (screen.text.length : Int) = screen.numRounds.charSize := by
  rw [text, List.length_map]
  exact shows.sized.length_held

theorem halves_digits (narrow : TextBox.NarrowDigits width) {images : List XpmImage}
    (digits : ∀ img ∈ images, isNumerical img.shown = true) :
    (images.map (TextBox.leftHalf width)).sum ≤ 100 * images.length ∧
    (images.map (TextBox.rightHalf width)).sum ≤ 100 * images.length := by
  induction images with
  | nil => exact ⟨Nat.le_refl 0, Nat.le_refl 0⟩
  | cons img rest ih =>
      obtain ⟨first, others⟩ := List.forall_mem_cons.mp digits
      have half : TextBox.leftHalf width img ≤ 100 ∧ TextBox.rightHalf width img ≤ 100 := by
        have small := narrow img first
        rw [TextBox.leftHalf, TextBox.rightHalf]
        omega
      have more := ih others
      rw [List.map_cons, List.sum_cons, List.map_cons, List.sum_cons, List.length_cons]
      omega

/-- There is room for a digit as long as there are less than three. -/
theorem accepts_digit (narrow : TextBox.NarrowDigits width) (shows : screen.Shows) (placed : screen.numRounds.Placed width)
    {keyChar : UInt8} (digit : isNumerical keyChar = true) (room : screen.text.length < 3) :
    (screen.numRounds.addToCenteredTextBox width keyChar).2 = true := by
  have image : (getPropFromChar keyChar).shown = keyChar :=
    shown_getPropFromChar (isAlphaNumberical_of_isNumerical digit)
  have small : (width (getPropFromChar keyChar)).toNat ≤ 200 := narrow _ (by rw [image]; exact digit)
  have length := length_text shows
  have three := shows.three
  have halves := halves_digits narrow shows.digits
  have same : screen.text.length = screen.numRounds.held.length := List.length_map _
  have left := placed.centred.left
  have right := placed.centred.right
  have limits : screen.numRounds.minX.toNat = 0 ∧ screen.numRounds.maxX.toNat = 65535 := by
    rw [placed.min, placed.max]
    exact ⟨rfl, rfl⟩
  rw [TextBox.addToCenteredTextBox, if_neg (by omega)]
  dsimp only
  rw [if_neg (by omega), if_neg (by omega)]

theorem text_addDigit (narrow : TextBox.NarrowDigits width) (shows : screen.Shows) (placed : screen.numRounds.Placed width)
    {keyChar : UInt8} (digit : isNumerical keyChar = true) :
    (screen.addDigit width keyChar).text =
      if screen.text.length < 3 then screen.text ++ [keyChar] else screen.text := by
  have image : (getPropFromChar keyChar).shown = keyChar :=
    shown_getPropFromChar (isAlphaNumberical_of_isNumerical digit)
  rw [addDigit]
  dsimp only
  rcases TextBox.add_cases shows.sized keyChar with refused | ⟨_, added⟩
  · have full : ¬ screen.text.length < 3 := fun room => by
      have taken := accepts_digit narrow shows placed digit room
      rw [refused] at taken
      cases taken
    rw [if_neg full, refused]
    rfl
  · have room : screen.text.length < 3 := by
      have length := length_text shows
      have three := shows.three
      have high := shows.sized.high
      have free := added.free
      omega
    rw [if_pos room, text, added.held, List.map_append, List.map_singleton, image]
    rfl

theorem text_deleteDigit (shows : screen.Shows) : (screen.deleteDigit width).text = screen.text.dropLast := by
  rw [text, deleteDigit]
  rcases TextBox.remove_cases width shows.sized with ⟨empty, same⟩ | ⟨_, img, removed⟩
  · rw [same, text, TextBox.held_eq_nil empty]
    rfl
  · rw [text, removed.held, List.map_append, List.map_singleton, List.dropLast_concat]

theorem text_update (narrow : TextBox.NarrowDigits width) (shows : screen.Shows) (placed : screen.numRounds.Placed width)
    (key : KeyPress) : (screen.numberOfRoundsUpdateStatus width key).1.text = edit screen.text key := by
  have apart : isNumerical (UInt8.ofNat backspace) = false := by decide
  rw [numberOfRoundsUpdateStatus, edit]
  dsimp only
  split
  · rfl
  · by_cases digit : isNumerical (UInt8.ofNat key.key) = true
    · have other : UInt8.ofNat key.key ≠ UInt8.ofNat backspace := fun same => by
        rw [same, apart] at digit
        cases digit
      rw [if_pos digit, if_pos digit, if_neg other]
      exact text_addDigit narrow shows placed digit
    · rw [if_neg digit, if_neg digit]
      split
      · exact text_deleteDigit shows
      · rfl

theorem isMp_update (screen : NumberOfRounds) (key : KeyPress) :
    (screen.numberOfRoundsUpdateStatus width key).1.isMp = screen.isMp := by
  simp only [numberOfRoundsUpdateStatus, addDigit, deleteDigit]
  repeat' split
  all_goals rfl

end NumberOfRounds

def enterBreakCode : UInt8 := 0x9c

namespace Notification

/-- If it brings a byte of the keyboard, that is a whole scancode, and neither the
release of ENTER nor that of ESC. -/
def Types (notification : Notification) : Prop :=
  notification.hasKeyboard = true → notification.kbc.Good ∧ notification.kbc.outBuf ≠ twoByteScancodePrefix ∧
    notification.kbc.outBuf ≠ escBreakCode ∧ notification.kbc.outBuf ≠ enterBreakCode

instance (notification : Notification) : Decidable notification.Types := inferInstanceAs (Decidable (_ → _ ∧ _ ∧ _))

def key (notification : Notification) : KeyPress := keyPressOf { first := notification.kbc.outBuf, second := 0 } 0

/-- Only the release of ENTER confirms a number. -/
theorem key_ne_enter {notification : Notification} (other : notification.kbc.outBuf ≠ enterBreakCode) :
    UInt8.ofNat notification.key.key ≠ 10 := by
  have all : ∀ byte < 256, UInt8.ofNat byte ≠ enterBreakCode →
      UInt8.ofNat (keyPressOf { first := UInt8.ofNat byte, second := 0 } 0).key ≠ 10 := by decide +kernel
  have one := all notification.kbc.outBuf.toNat (UInt8.toNat_lt _)
  rw [UInt8.ofNat_toNat] at one
  exact one other

end Notification

/-- The keys that notifications bring, and what they make of an empty text. -/
def typed (notifications : List Notification) : List UInt8 :=
  ((notifications.filter Notification.hasKeyboard).map Notification.key).foldl NumberOfRounds.edit []

namespace Loop

variable {width : XpmImage → UInt16} {loop : Loop Running} {notification : Notification} {mp : Bool} {text : List UInt8}

theorem screens_take {σ : Type} (loop : Loop σ) (notification : Notification) :
    (loop.take notification).screens = loop.screens := by
  simp only [take, takeUart, takeRtc, takeTimer, takeMouse, takeKeyboard]
  repeat' split
  all_goals rfl

/-- The loop runs on the screen that asks for the number. -/
structure Asks (width : XpmImage → UInt16) (loop : Loop Running) (mp : Bool) (text : List UInt8) : Prop where
  complete : loop.keyboard.assembliedWord = true
  noEsc : loop.keyboard.scancodeIsEscBreak = false
  mode : loop.screens.program.mode = .numRounds
  shows : loop.screens.program.numberOfRounds.Shows
  placed : loop.screens.program.numberOfRounds.numRounds.Placed width
  isMp : loop.screens.program.numberOfRounds.isMp = mp
  text : loop.screens.program.numberOfRounds.text = text

/-- A byte of the keyboard that is a whole scancode. -/
theorem take_key (complete : loop.keyboard.assembliedWord = true) (carries : notification.CarriesKey)
    (plain : notification.kbc.outBuf ≠ twoByteScancodePrefix) :
    (loop.take notification).flags.gotKeyPress = true ∧
    (loop.take notification).flags.keyboardPacket = notification.key ∧
    (loop.take notification).keyboard.assembliedWord = true ∧
    (loop.take notification).keyboard.kbcIhOutput = notification.kbc.outBuf := by
  obtain ⟨assembled, packet⟩ := take_oneByte carries complete plain 0
  refine ⟨take_carries carries, packet, assembled, ?_⟩
  rw [(take_keyboard loop notification).1]
  simp only [takeKeyboard, carries.1, if_true, keyboardHandler_good carries.2]

theorem take_silent (silent : notification.hasKeyboard = false) :
    (loop.take notification).flags.gotKeyPress = false ∧ (loop.take notification).keyboard = loop.keyboard := by
  obtain ⟨keyboard, got, _⟩ := take_keyboard loop notification
  rw [keyboard, got]
  simp [takeKeyboard, silent]

/-- What `event_handler` makes of a call on this screen. -/
theorem program_step (asking : loop.screens.program.mode = .numRounds) (notification : Notification) :
    ∃ uart, (loop.step (Running.eventHandler width) notification).screens.program =
      if (loop.take notification).flags.gotKeyPress then
        Program.numberOfRoundsUpdateStatus width
          { loop.screens.program with mpGame := { loop.screens.program.mpGame with uart } }
          (loop.take notification).flags.keyboardPacket (loop.screens.draws 0).resetRand
      else { loop.screens.program with mpGame := { loop.screens.program.mpGame with uart } } := by
  obtain ⟨uart, same⟩ := Program.transmit_eq loop.screens.program (loop.screens.draws 0).transmitted
  refine ⟨uart, ?_⟩
  simp only [step, screens_take, Running.eventHandler, Program.eventHandler, same, asking]

theorem Asks.silent (asks : loop.Asks width mp text) (silent : notification.hasKeyboard = false) :
    (loop.step (Running.eventHandler width) notification).Asks width mp text := by
  obtain ⟨none, keyboard⟩ := @take_silent loop notification silent
  obtain ⟨uart, program⟩ := @program_step width loop asks.mode notification
  rw [none, if_neg Bool.false_ne_true] at program
  have keyboard : (loop.step (Running.eventHandler width) notification).keyboard = loop.keyboard := keyboard
  refine ⟨?_, ?_, ?_, ?_, ?_, ?_, ?_⟩
  · rw [keyboard]
    exact asks.complete
  · rw [keyboard]
    exact asks.noEsc
  all_goals rw [program]
  · exact asks.mode
  · exact asks.shows
  · exact asks.placed
  · exact asks.isMp
  · exact asks.text

theorem Asks.key (narrow : TextBox.NarrowDigits width) (asks : loop.Asks width mp text)
    (typing : notification.hasKeyboard = true) (types : notification.Types) :
    (loop.step (Running.eventHandler width) notification).Asks width mp (NumberOfRounds.edit text notification.key) := by
  obtain ⟨good, plain, noEsc, noEnter⟩ := types typing
  obtain ⟨got, packet, complete, output⟩ := @take_key loop notification asks.complete ⟨typing, good⟩ plain
  obtain ⟨uart, program⟩ := @program_step width loop asks.mode notification
  rw [got, if_pos rfl, packet] at program
  have confirms : (loop.screens.program.numberOfRounds.numberOfRoundsUpdateStatus width notification.key).2 = none :=
    NumberOfRounds.confirms_nothing (Notification.key_ne_enter noEnter)
  have program : (loop.step (Running.eventHandler width) notification).screens.program =
      { loop.screens.program with
        mpGame := { loop.screens.program.mpGame with uart }
        numberOfRounds := (loop.screens.program.numberOfRounds.numberOfRoundsUpdateStatus width notification.key).1 } := by
    rw [program, Program.numberOfRoundsUpdateStatus]
    dsimp only
    rw [confirms]
  refine ⟨complete, ?_, ?_, ?_, ?_, ?_, ?_⟩
  · have output : (loop.step (Running.eventHandler width) notification).keyboard.kbcIhOutput =
        notification.kbc.outBuf := output
    rw [Keyboard.scancodeIsEscBreak, output]
    exact beq_eq_false_iff_ne.mpr noEsc
  all_goals rw [program]
  · exact asks.mode
  · exact asks.shows.update _
  · exact Program.placed_update asks.placed _
  · exact (NumberOfRounds.isMp_update _ _).trans asks.isMp
  · exact (NumberOfRounds.text_update narrow asks.shows asks.placed _).trans (by rw [asks.text])

theorem Asks.not_leaves (asks : loop.Asks width mp text) (running : loop.exit = false) : loop.Leaves = false := by
  rw [Leaves, asks.noEsc, running]
  rfl

theorem exit_step (loop : Loop Running) (notification : Notification) :
    (loop.step (Running.eventHandler width) notification).exit =
      decide ((loop.step (Running.eventHandler width) notification).screens.program.mode = .exit) := rfl

/-- All notifications up to the last one are received on this screen. -/
theorem Asks.run (narrow : TextBox.NarrowDigits width) (asks : loop.Asks width mp text) (last : Notification)
    {notifications : List Notification} (types : ∀ notification ∈ notifications, notification.Types) :
    ∃ before : Loop Running, before.Asks width mp
        (((notifications.filter Notification.hasKeyboard).map Notification.key).foldl NumberOfRounds.edit text) ∧
      loop.run (Running.eventHandler width) (notifications ++ [last]) =
        before.step (Running.eventHandler width) last := by
  induction notifications generalizing loop text with
  | nil =>
      refine ⟨loop, asks, ?_⟩
      simp only [Loop.run, List.nil_append, received, ite_self]
      rfl
  | cons notification rest ih =>
      obtain ⟨first, others⟩ := List.forall_mem_cons.mp types
      obtain ⟨next, nextText⟩ : ∃ text', (loop.step (Running.eventHandler width) notification).Asks width mp text' ∧
          text' = if notification.hasKeyboard then NumberOfRounds.edit text notification.key else text := by
        cases typing : notification.hasKeyboard with
        | false => exact ⟨text, asks.silent typing, rfl⟩
        | true => exact ⟨_, asks.key narrow typing first, rfl⟩
      obtain ⟨asksNext, textNext⟩ := nextText
      obtain ⟨before, holds, run⟩ := ih asksNext others
      refine ⟨before, ?_, ?_⟩
      · rw [textNext] at holds
        cases typing : notification.hasKeyboard with
        | false =>
            rw [typing] at holds
            rw [List.filter_cons_of_neg (by simp [typing])]
            exact holds
        | true =>
            rw [typing] at holds
            rw [List.filter_cons_of_pos typing, List.map_cons, List.foldl_cons]
            exact holds
      · have still : (loop.step (Running.eventHandler width) notification).Leaves = false :=
          asksNext.not_leaves (by rw [exit_step, asksNext.mode]; rfl)
        rw [← run]
        simp only [Loop.run, List.cons_append, received, still, Bool.false_eq_true, if_false]
        rfl

/-- From the bytes of the keyboard to the game. Whatever is typed after the screen
has opened, and whatever else happens meanwhile, the release of ENTER starts a
game of as many rounds as the digits say that are left of it. -/
theorem typed_game (narrow : TextBox.NarrowDigits width) (loop : Loop Running)
    (complete : loop.keyboard.assembliedWord = true) (noEsc : loop.keyboard.scancodeIsEscBreak = false)
    (asking : loop.screens.program.mode = .numRounds) (mp : Bool) (uninitialised : Vector XpmImage 20)
    (opened : loop.screens.program.numberOfRounds = .resetNumberOfRounds mp uninitialised)
    (notifications : List Notification) (types : ∀ notification ∈ notifications, notification.Types)
    (last : Notification) (carries : last.CarriesKey) (enters : last.kbc.outBuf = enterBreakCode)
    (positive : digitsValue (typed notifications) ≠ 0) :
    let program := (loop.run (Running.eventHandler width) (notifications ++ [last])).screens.program
    program.mode = (if mp then .mpGame else .game) ∧
    (if mp then program.mpGame.maxButtonsSize else program.game.maxButtonsSize) = digitsValue (typed notifications) := by
  have asks : loop.Asks width mp [] := by
    refine ⟨complete, noEsc, asking, ?_, ?_, ?_, ?_⟩
    all_goals rw [opened]
    · exact NumberOfRounds.shows_start mp uninitialised
    · exact TextBox.placed_create (by decide) (by decide) _ _
    · rfl
    · rfl
  obtain ⟨before, asks, run⟩ := asks.run narrow last types
  have plain : last.kbc.outBuf ≠ twoByteScancodePrefix := by
    rw [enters]
    decide
  have key : last.key = { key := enter, down := false } := by
    rw [Notification.key, enters]
    decide
  obtain ⟨got, packet, _⟩ := @take_key before last asks.complete carries plain
  obtain ⟨uart, program⟩ := @program_step width before asks.mode last
  rw [got, if_pos rfl, packet, key, Program.numberOfRoundsUpdateStatus] at program
  dsimp only at program
  have shown : before.screens.program.numberOfRounds.numRoundsValue.toNat = digitsValue (typed notifications) := by
    rw [asks.shows.value, NumberOfRounds.shown, typed, ← asks.text]
    rfl
  have value : before.screens.program.numberOfRounds.numRoundsValue ≠ 0 := fun zero => by
    rw [zero] at shown
    exact positive shown.symm
  rw [NumberOfRounds.confirms_value value, asks.isMp] at program
  rw [run, program]
  cases mp with
  | false => exact ⟨rfl, shown⟩
  | true => exact ⟨rfl, shown⟩

/-- The screen has just opened for a game with another PC. -/
def justOpened : Loop Running :=
  { start
      { program :=
          { Program.booted with mode := .numRounds, numberOfRounds := .resetNumberOfRounds true HighScore.unusedImages }
        draws := fun _ => (Program.november Program.quietFlags).2 } with
    keyboard := { Keyboard.boot with assembliedWord := true } }

/-- "4", "7", a timer interrupt, backspace and "2". -/
def fortyTwo : List Notification :=
  [keyNotification 0x05, keyNotification 0x85, keyNotification 0x08, keyNotification 0x88,
   { keyNotification 0 with interrupts := Notification.irq 0 },
   keyNotification 0x0e, keyNotification 0x8e, keyNotification 0x03, keyNotification 0x83]

theorem typed_game_fortyTwo :
    let program := (justOpened.run (Running.eventHandler HighScore.fixedWidth)
      (fortyTwo ++ [keyNotification 0x9c])).screens.program
    program.mode = .mpGame ∧ program.mpGame.maxButtonsSize = 42 := by
  have value : digitsValue (typed fortyTwo) = 42 := by decide +kernel
  have narrow : TextBox.NarrowDigits HighScore.fixedWidth := fun _ _ => by
    rw [HighScore.fixedWidth]
    decide
  obtain ⟨mode, rounds⟩ := typed_game narrow justOpened rfl (by decide) rfl true HighScore.unusedImages rfl fortyTwo
    (by decide) (keyNotification 0x9c) (by decide) rfl (by rw [value]; decide)
  rw [value] at rounds
  exact ⟨mode, rounds⟩

end Loop

end SimonVs
