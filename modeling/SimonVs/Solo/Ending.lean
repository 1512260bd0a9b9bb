import SimonVs.Loop.Dispatch
import SimonVs.Solo.Invariant

namespace SimonVs

open Data Memory Rules

namespace Rules.Play

variable {play : Play}

/-- The moves that reach `end_game`. -/
def Ends (play : Play) : Game.Move → Prop
  | .idle => False
  | .click button _ => play.verdict button = .wrong ∨ play.verdict button = .tied
  | .tick _ => play.timeLeft = 0 ∧ play.vsPressed = false

instance (play : Play) : (move : Game.Move) → Decidable (play.Ends move)
  | .idle => inferInstanceAs (Decidable False)
  | .click _ _ => inferInstanceAs (Decidable (_ ∨ _))
  | .tick _ => inferInstanceAs (Decidable (_ ∧ _))

theorem ended_move (play : Play) (move : Game.Move) :
    (play.move move).ended = true ↔ play.ended = true ∨ play.Ends move := by
  cases move with
  | idle => exact (or_iff_left fun ends => ends).symm
  | click button vsRound =>
      simp only [Play.move, Play.click, Play.press, Ends]
      cases found : play.verdict button with
      | wrong | tied => simp [lose, tie]
      | matched | opened | extended | appended => simp [restartClock, scored, Play.newTurn]
  | tick vsRound =>
      simp only [Play.move, Play.tick, Ends]
      split
      · rename_i expired
        have closed : play.vsPressed = false := by simpa using expired.2
        simp [lose, expired.1, closed]
      · rename_i keeps
        have notEnds : ¬ (play.timeLeft = 0 ∧ play.vsPressed = false) := by simpa using keeps
        rw [or_iff_left notEnds]
        split
        · rfl
        · split <;> rfl

/-- A tie is possible only outside VS windows: a window is opened below the
number of rounds and starts again from the first button. -/
structure Roomy (play : Play) : Prop where
  rounds : 0 < play.maxSize
  window : play.vsPressed = true → play.guessed ≠ play.maxSize

theorem Roomy.move (roomy : play.Roomy) (move : Game.Move) : (play.move move).Roomy := by
  obtain ⟨rounds, window⟩ := roomy
  have notZero : 0 ≠ play.maxSize := Nat.ne_of_lt rounds
  cases move with
  | idle => exact ⟨rounds, window⟩
  | click button vsRound =>
      have meets := play.verdict_meets button
      simp only [Play.move, Play.click, Play.press]
      cases found : play.verdict button with
      | matched =>
          rw [found] at meets
          refine ⟨rounds, fun pressed => ?_⟩
          have closed : play.vsPressed = true := pressed
          rw [meets.2.1] at closed
          cases closed
      | wrong | tied => exact ⟨rounds, window⟩
      | opened =>
          rw [found] at meets
          exact ⟨rounds, fun _ => meets.2.2.1⟩
      | extended => exact ⟨rounds, fun _ => notZero⟩
      | appended => exact ⟨rounds, fun pressed => by cases pressed⟩
  | tick vsRound =>
      simp only [Play.move, Play.tick]
      split
      · exact ⟨rounds, window⟩
      · split
        · exact ⟨rounds, fun pressed => by cases pressed⟩
        · split <;> exact ⟨rounds, window⟩

/-- The click with which a game ends leaves the clock as it was after a wrong
button, and without limit after a tie. -/
theorem Regular.ends_click (regular : play.Regular) (roomy : play.Roomy) {button : ButtonClick} {vsRound : Bool}
    (ends : play.Ends (.click button vsRound)) :
    (play.move (.click button vsRound)).vsPressed = false ∧
    ((play.move (.click button vsRound)).timeLeft = 0 ↔
      play.timeLeft = 0 ∧ play.verdict button = .wrong) := by
  have meets := play.verdict_meets button
  simp only [Play.move, Play.click, Play.press]
  rcases ends with wrong | tied
  · rw [wrong] at meets ⊢
    exact ⟨meets.2.1, by simp [lose]⟩
  · rw [tied] at meets ⊢
    have closed : play.vsPressed = false := by
      cases pressed : play.vsPressed with
      | false => rfl
      | true => exact absurd meets.2 (roomy.window pressed)
    have complete : play.Complete := by simpa [closed] using meets.1
    have unlimited : play.timeLeft = -1 := regular.unlimited.mpr complete
    exact ⟨closed, by simp [scored, tie, unlimited]⟩

theorem closed_move {move : Game.Move} (silent : move.clicks = []) (closed : play.vsPressed = false) :
    (play.move move).vsPressed = false := by
  cases move with
  | idle => exact closed
  | click button vsRound => cases silent
  | tick vsRound =>
      simp only [Play.move, Play.tick]
      split
      · exact closed
      · split
        · rfl
        · split <;> exact closed

theorem Regular.closed_of_ends (regular : play.Regular) (roomy : play.Roomy) {move : Game.Move}
    (ends : play.Ends move) : (play.move move).vsPressed = false := by
  cases move with
  | idle => cases ends
  | click button vsRound => exact (regular.ends_click roomy ends).1
  | tick vsRound => exact closed_move rfl ends.2

end Rules.Play

namespace Game

variable {game : Game}

theorem frees_clickButton (sound : game.Sound) {click : ButtonClick} (real : click ≠ .noButton) (rand : Nat) :
    (game.clickButton click rand).buttons.frees = game.buttons.frees +
      (if game.play.Ends (.click click (choosesVs rand)) then 1 else 0) := by
  have clicked := @clickButton_eq game click rand sound real
  cases found : game.play.verdict click with
  | wrong =>
      rw [if_pos (show game.play.Ends (.click click (choosesVs rand)) from .inl found), clicked, found]
      rfl
  | tied =>
      rw [if_pos (show game.play.Ends (.click click (choosesVs rand)) from .inr found), clicked, found]
      rfl
  | matched | opened | extended | appended =>
      have keeps : ¬ game.play.Ends (.click click (choosesVs rand)) := by simp [Play.Ends, found]
      rw [if_neg keeps, clicked, found]
      rfl

theorem frees_handleClick (sound : game.Sound) (running : game.gameEnd = false) (click : ButtonClick)
    (rand : Nat) :
    (game.handleClick click rand).buttons.frees = game.buttons.frees +
      (if game.play.Ends (game.clickMove click rand) then 1 else 0) := by
  obtain ⟨screen, lit⟩ := lightButton_screen (game.clickButton click rand) click
  rw [handleClick, lit]
  by_cases real : click = .noButton
  · simp [clickButton, clickMove, real, Play.Ends]
  · simp only [clickMove, running, real, Bool.false_eq_true, or_self, if_false]
    exact frees_clickButton sound real rand

theorem frees_countDown (rand : Nat) :
    (game.countDown rand).buttons.frees = game.buttons.frees +
      (if game.play.Ends (.tick (choosesVs rand)) then 1 else 0) := by
  have ends : game.play.Ends (.tick (choosesVs rand)) ↔ game.timeLeftForClick = 0 ∧ !game.vsWasPressed := by
    simp [Play.Ends, play]
  unfold countDown
  by_cases expired : game.timeLeftForClick = 0 ∧ !game.vsWasPressed
  · rw [if_pos expired, if_pos (ends.mpr expired)]
    rfl
  · rw [if_neg expired, if_neg (mt ends.mp expired)]
    split
    · rfl
    · split <;> rfl

theorem leaveIfEnded_mode (game : Game) :
    ∃ mode alarm, game.leaveIfEnded = { game with mode := mode, alarm := alarm } := by
  unfold leaveIfEnded
  split
  · obtain ⟨mode, left⟩ := leave_mode { game with alarm := .everySecond }
    exact ⟨mode, _, left⟩
  · exact ⟨_, _, rfl⟩

theorem frees_handle (sound : game.Sound) (input : Input) :
    (game.handle input).buttons.frees = game.buttons.frees +
      (if game.play.Ends (game.moveOf input) then 1 else 0) := by
  cases input with
  | click click rand =>
      by_cases ended : game.gameEnd = true
      · simp [handle, moveOf, clickMove, ended, Play.Ends]
      · rw [handle, if_neg ended]
        exact frees_handleClick sound (Bool.eq_false_iff.mpr ended) click rand
  | mouse packet rand =>
      by_cases ended : game.gameEnd = true
      · simp [handle, gameUpdateStatusMouse, moveOf, clickMove, ended, Play.Ends]
      · have moved : Sound { game with mouse := game.mouse.update packet } := ⟨sound.within, sound.window⟩
        rw [handle, gameUpdateStatusMouse, if_neg ended]
        exact frees_handleClick moved (Bool.eq_false_iff.mpr ended) _ rand
  | key press =>
      obtain ⟨mode, handled⟩ := handle_key game press
      rw [handled]
      rfl
  | timer => rfl
  | rtc rand =>
      obtain ⟨mode, alarm, left⟩ := leaveIfEnded_mode (game.countDown rand)
      rw [handle, gameUpdateStatusRtc, left]
      exact frees_countDown rand

/-- The array is freed once the game has ended, and a game that has ended is
not in a VS window. -/
structure Accounted (game : Game) : Prop where
  sound : game.Sound
  roomy : game.play.Roomy
  running : game.gameEnd = false → game.play.Regular ∧ game.buttons.frees = 0
  ended : game.gameEnd = true → game.vsWasPressed = false ∧ 0 < game.buttons.frees

theorem Accounted.handle (accounted : game.Accounted) (input : Input) : (game.handle input).Accounted := by
  obtain ⟨plays, sound⟩ := play_handle accounted.sound input
  have frees := frees_handle accounted.sound input
  have ends := Play.ended_move game.play (game.moveOf input)
  rw [← plays] at ends
  refine ⟨sound, plays ▸ accounted.roomy.move _, fun alive => ?_, fun isOver => ?_⟩
  · have notEnds : ¬ (game.play.ended = true ∨ game.play.Ends (game.moveOf input)) :=
      fun now => Bool.eq_false_iff.mp alive (ends.mpr now)
    obtain ⟨before, keeps⟩ := not_or.mp notEnds
    obtain ⟨regular, none⟩ := accounted.running (Bool.eq_false_iff.mpr before)
    rw [frees, if_neg keeps, none]
    refine ⟨?_, rfl⟩
    have still : (game.handle input).play.ended = false := alive
    rw [plays] at still ⊢
    exact regular.move still
  · have closed : (game.handle input).play.vsPressed = false := by
      rw [plays]
      by_cases before : game.gameEnd = true
      · exact Play.closed_move (moveOf_ended before input) (accounted.ended before).1
      · have now : game.play.Ends (game.moveOf input) := (or_iff_right before).mp (ends.mp isOver)
        exact (accounted.running (Bool.eq_false_iff.mpr before)).1.closed_of_ends accounted.roomy now
    refine ⟨closed, ?_⟩
    rw [frees]
    by_cases now : game.play.Ends (game.moveOf input)
    · rw [if_pos now]
      exact Nat.succ_pos _
    · have before : game.gameEnd = true := (or_iff_left now).mp (ends.mp isOver)
      rw [if_neg now]
      exact (accounted.ended before).2

theorem accounted_confirm (game : Game) {rounds : Nat} (some : 0 < rounds) (rand : Nat) :
    (game.confirm rounds rand).Accounted := by
  obtain ⟨plays, sound⟩ := @play_resetGame rand { game with mode := .game } rounds
  refine ⟨sound, ⟨some, fun pressed => by cases pressed⟩, fun _ => ⟨?_, rfl⟩, fun isOver => by cases isOver⟩
  rw [confirm, plays]
  exact Play.Regular.untimed rfl (Nat.le_refl _) rfl rfl

/-- The move of everything in a call but the RTC. -/
def localMove (game : Game) (call : Call) : Move :=
  if call.flags.gotMousePacket then
    game.clickMove (game.mouse.update call.flags.mousePacket).click call.clickRand
  else .idle

def beforeRtc (game : Game) (call : Call) : Game := Data.run handle game (localInputs call)

/-- A click on another button than the next one of the sequence. -/
def ClicksWrong (game : Game) (click : ButtonClick) : Prop :=
  click ≠ .noButton ∧ game.guessed ≠ game.buttonsSize ∧ game.vsWasPressed = false ∧
    game.buttons.cells game.guessed ≠ some click

instance (game : Game) (click : ButtonClick) : Decidable (game.ClicksWrong click) :=
  inferInstanceAs (Decidable (_ ∧ _ ∧ _ ∧ _))

/-- An alarm finds no time left in a game that is lost already, be it before or
by a click of the same notification. -/
def LosesAgain (game : Game) (call : Call) : Prop :=
  game.mode = .game ∧ call.flags.rtcInterrupt = true ∧ game.timeLeftForClick = 0 ∧
    (game.gameEnd = true ∨ call.flags.gotMousePacket = true ∧
      game.ClicksWrong (game.mouse.update call.flags.mousePacket).click)

instance (game : Game) (call : Call) : Decidable (game.LosesAgain call) :=
  inferInstanceAs (Decidable (_ ∧ _ ∧ _ ∧ _))

theorem beforeRtc_eq (sound : game.Sound) (call : Call) :
    (game.beforeRtc call).play = game.play.move (game.localMove call) ∧
    (game.beforeRtc call).buttons.frees = game.buttons.frees +
      (if game.play.Ends (game.localMove call) then 1 else 0) := by
  have pressed : ∃ mode, Data.run handle game
      (if call.flags.gotKeyPress then [.key call.flags.keyboardPacket] else []) = { game with mode := mode } := by
    split
    · exact handle_key game _
    · exact ⟨_, rfl⟩
  obtain ⟨mode, pressed⟩ := pressed
  unfold beforeRtc localInputs localMove
  rw [run_append, run_append, pressed]
  have moved : Sound { game with mode := mode } := ⟨sound.within, sound.window⟩
  have clicked := (play_handle moved (.mouse call.flags.mousePacket call.clickRand)).1
  have freed := frees_handle moved (.mouse call.flags.mousePacket call.clickRand)
  cases call.flags.gotMousePacket with
  | true =>
      cases call.flags.timerInterrupt <;> exact ⟨clicked, freed⟩
  | false =>
      cases call.flags.timerInterrupt <;> exact ⟨rfl, rfl⟩

theorem clicksWrong_iff (within : game.guessed ≤ game.buttonsSize) {click : ButtonClick}
    (real : click ≠ .noButton) : game.ClicksWrong click ↔ game.play.verdict click = .wrong := by
  constructor
  · rintro ⟨_, incomplete, closed, different⟩
    cases found : game.play.verdict click with
    | wrong => rfl
    | matched => exact absurd (situation within found).2.2 different
    | opened => exact absurd (situation within found).1 incomplete
    | extended =>
        have pressed := (situation within found).1
        rw [closed] at pressed
        cases pressed
    | tied | appended =>
        rcases (situation within found).1 with complete | pressed
        · exact absurd complete incomplete
        · rw [closed] at pressed
          cases pressed
  · intro found
    exact ⟨real, situation within found⟩

theorem localMove_ended (ended : game.gameEnd = true) (call : Call) : game.localMove call = .idle := by
  simp [localMove, clickMove, ended]

/-- When the alarm is handled, the game is over with no time left in two cases:
it was so before, or a wrong button was clicked with no time left. -/
theorem beforeRtc_lost_iff (accounted : game.Accounted) (call : Call) :
    (game.beforeRtc call).gameEnd = true ∧ (game.beforeRtc call).timeLeftForClick = 0 ↔
      game.timeLeftForClick = 0 ∧ (game.gameEnd = true ∨ call.flags.gotMousePacket = true ∧
        game.ClicksWrong (game.mouse.update call.flags.mousePacket).click) := by
  have plays := (beforeRtc_eq accounted.sound call).1
  have isOver : (game.beforeRtc call).gameEnd = (game.play.move (game.localMove call)).ended := by
    rw [← plays]
    rfl
  have clock : (game.beforeRtc call).timeLeftForClick = (game.play.move (game.localMove call)).timeLeft := by
    rw [← plays]
    rfl
  rw [isOver, clock]
  by_cases ended : game.gameEnd = true
  · rw [localMove_ended ended]
    simp [Play.move, play, ended]
  · have running : game.gameEnd = false := Bool.eq_false_iff.mpr ended
    have regular := (accounted.running running).1
    rw [Play.ended_move, or_iff_right (show ¬ game.play.ended = true from ended), or_iff_right ended]
    by_cases packet : call.flags.gotMousePacket = true ∧ (game.mouse.update call.flags.mousePacket).click ≠ .noButton
    · obtain ⟨got, real⟩ := packet
      have move : game.localMove call = .click (game.mouse.update call.flags.mousePacket).click
          (choosesVs call.clickRand) := by
        simp [localMove, clickMove, got, running, real]
      rw [move, and_iff_right got, clicksWrong_iff accounted.sound.within real]
      constructor
      · rintro ⟨ends, zero⟩
        exact (regular.ends_click accounted.roomy ends).2.mp zero
      · rintro ⟨zero, wrong⟩
        have ends : game.play.Ends (.click (game.mouse.update call.flags.mousePacket).click
          (choosesVs call.clickRand)) := .inl wrong
        exact ⟨ends, (regular.ends_click accounted.roomy ends).2.mpr ⟨zero, wrong⟩⟩
    · have move : game.localMove call = .idle := by
        unfold localMove clickMove
        split
        · rename_i got
          have none : (game.mouse.update call.flags.mousePacket).click = .noButton :=
            Decidable.not_not.mp fun real => packet ⟨got, real⟩
          rw [if_pos (.inr none)]
        · rfl
      rw [move]
      refine iff_of_false (fun ends => ends.1) ?_
      rintro ⟨_, got, wrong⟩
      exact packet ⟨got, wrong.1⟩

theorem accounted_beforeRtc (accounted : game.Accounted) (call : Call) : (game.beforeRtc call).Accounted :=
  run_invariant Accounted (fun _ input holds _ => holds.handle input) accounted along_true

theorem eventHandler_calls (playing : game.mode = .game) (call : Call) :
    game.eventHandler call =
      if call.flags.rtcInterrupt then (game.beforeRtc call).handle (.rtc call.tickRand)
      else game.beforeRtc call := by
  rw [eventHandler_eq, if_pos playing, inputs, run_append]
  split <;> rfl

theorem accounted_eventHandler (accounted : game.Accounted) (call : Call) :
    (game.eventHandler call).Accounted := by
  by_cases playing : game.mode = .game
  · rw [eventHandler_calls playing]
    split
    · exact (accounted_beforeRtc accounted call).handle _
    · exact accounted_beforeRtc accounted call
  · rw [eventHandler_eq, if_neg playing]
    exact accounted

theorem beforeRtc_frees_le (accounted : game.Accounted) (once : game.buttons.frees ≤ 1) (call : Call) :
    (game.beforeRtc call).buttons.frees ≤ 1 := by
  rw [(beforeRtc_eq accounted.sound call).2]
  by_cases ended : game.gameEnd = true
  · rw [localMove_ended ended]
    exact once
  · rw [(accounted.running (Bool.eq_false_iff.mpr ended)).2]
    split <;> decide

theorem frees_eventHandler_iff (accounted : game.Accounted) (once : game.buttons.frees ≤ 1) (call : Call) :
    (game.eventHandler call).buttons.frees ≤ 1 ↔ ¬ game.LosesAgain call := by
  unfold LosesAgain
  by_cases playing : game.mode = .game
  · have before := beforeRtc_frees_le accounted once call
    rw [eventHandler_calls playing, and_iff_right playing]
    by_cases alarm : call.flags.rtcInterrupt = true
    · obtain ⟨sound, _, running, ended⟩ := accounted_beforeRtc accounted call
      rw [if_pos alarm, and_iff_right alarm, ← beforeRtc_lost_iff accounted, frees_handle sound]
      by_cases isOver : (game.beforeRtc call).gameEnd = true
      · obtain ⟨closed, freed⟩ := ended isOver
        have ends : (game.beforeRtc call).play.Ends (moveOf (game.beforeRtc call) (.rtc call.tickRand)) ↔
            (game.beforeRtc call).timeLeftForClick = 0 := and_iff_left closed
        rw [and_iff_right isOver, ← ends]
        by_cases now : (game.beforeRtc call).play.Ends (moveOf (game.beforeRtc call) (.rtc call.tickRand))
        · rw [if_pos now]
          exact iff_of_false (by omega) fun keeps => keeps now
        · rw [if_neg now]
          exact iff_of_true before now
      · rw [(running (Bool.eq_false_iff.mpr isOver)).2]
        refine iff_of_true ?_ fun lost => isOver lost.1
        split <;> decide
    · rw [if_neg alarm]
      exact iff_of_true before fun lost => alarm lost.1
  · rw [eventHandler_eq, if_neg playing]
    exact iff_of_true once fun lost => playing lost.1

/-- The array of a game is freed at most once in every state of a run, precisely
when no alarm is handled with no time left after the game was lost. -/
theorem freed_once_iff (game : Game) {rounds : Nat} (some : 0 < rounds) (rand : Nat) (calls : List Call) :
    (∀ done, done <+: calls → (Data.run eventHandler (game.confirm rounds rand) done).buttons.frees ≤ 1) ↔
    Along eventHandler (fun game call => ¬ game.LosesAgain call) (game.confirm rounds rand) calls :=
  prefixes_safe_iff_along Accounted (fun game => game.buttons.frees ≤ 1)
    (fun _ call accounted _ => accounted_eventHandler accounted call)
    (fun _ call accounted once => frees_eventHandler_iff accounted once call)
    (accounted_confirm game some rand) (Nat.zero_le _)

/-- Player 1 clicks red, player 2 waits four seconds and clicks purple. -/
def lateClick : List Call :=
  [Call.ofMouse (some { lb := true, xOv := false, yOv := false, deltaX := 0, deltaY := 208 }) false,
   Call.ofMouse (some { lb := false, xOv := false, yOv := false, deltaX := -107, deltaY := -321 }) false,
   Call.ofMouse none true, Call.ofMouse none true, Call.ofMouse none true, Call.ofMouse none true,
   Call.ofMouse (some { lb := true, xOv := false, yOv := false, deltaX := 0, deltaY := 0 }) false]

theorem freed_once_lateClick :
    (Data.run eventHandler (confirm (.boot 0 fun _ => none) 3 1) lateClick).gameEnd = true ∧
    (Data.run eventHandler (confirm (.boot 0 fun _ => none) 3 1) lateClick).buttons.frees ≤ 1 :=
  ⟨by decide, (freed_once_iff (.boot 0 fun _ => none) (by decide) 1 lateClick).mpr (by decide) lateClick
    List.prefix_rfl⟩

/-- The alarm after it frees the array once more. -/
theorem freed_twice :
    (Data.run eventHandler (confirm (.boot 0 fun _ => none) 3 1)
      (lateClick ++ [Call.ofMouse none true])).buttons.frees = 2 := by
  decide

end Game

end SimonVs
