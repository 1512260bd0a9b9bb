import SimonVs.Rules.TwoPc

namespace SimonVs

open Data Serial Rules

namespace MpGame

/-- `after` is the same session as `before`: only `start_game` and the two entry
functions touch these variables, and an ended game stays ended. -/
structure Frame (before after : MpGame) : Prop where
  gameStarted : after.gameStarted = before.gameStarted
  isHost : after.isHost = before.isHost
  receivedNoBytes : after.receivedNoBytes = before.receivedNoBytes
  numRoundSentBytes : after.numRoundSentBytes = before.numRoundSentBytes
  maxButtonsSize : after.maxButtonsSize = before.maxButtonsSize
  capacity : after.buttons.capacity = before.buttons.capacity
  ended : before.gameEnd = true → after.gameEnd = true
  within : after.guessed ≤ after.buttonsSize

variable {game : MpGame} {click : ButtonClick}

theorem Frame.refl (within : game.guessed ≤ game.buttonsSize) : game.Frame game :=
  ⟨rfl, rfl, rfl, rfl, rfl, rfl, id, within⟩

theorem frame_mpClickButton (within : game.guessed ≤ game.buttonsSize) :
    game.Frame (game.mpClickButton click) := by
  by_cases real : click = .noButton
  · simp only [mpClickButton, real, if_true]
    exact ⟨rfl, rfl, rfl, rfl, rfl, rfl, id, within⟩
  · rw [mpClickButton_eq within real]
    cases found : game.play.verdict click with
    | matched =>
        obtain ⟨incomplete, _, _⟩ := situation within found
        have next : game.guessed + 1 ≤ game.buttonsSize := by omega
        simp only [mpSendButton, sendOrQueue_eq]
        exact ⟨rfl, rfl, rfl, rfl, rfl, rfl, id, next⟩
    | wrong =>
        simp only [mpGetWinner, mpSendWinner_eq, mpEndGame, sendOrQueue_eq]
        exact ⟨rfl, rfl, rfl, rfl, rfl, rfl, fun _ => rfl, within⟩
    | tied =>
        simp only [scored_eq, mpSendWinner_eq, mpEndGame, sendOrQueue_eq]
        exact ⟨rfl, rfl, rfl, rfl, rfl, rfl, fun _ => rfl, within⟩
    | opened | extended =>
        simp only [scored_eq, mpAddButton, mpSendButton, sendOrQueue_eq]
        exact ⟨rfl, rfl, rfl, rfl, rfl, rfl, id, Nat.le_succ_of_le within⟩
    | appended =>
        simp only [scored_eq, mpAddButton, mpSendButton, mpChangePlayer_eq, sendOrQueue_eq]
        exact ⟨rfl, rfl, rfl, rfl, rfl, rfl, id, Nat.zero_le _⟩

theorem frame_mpRemoteClickButton (within : game.guessed ≤ game.buttonsSize) :
    game.Frame (game.mpRemoteClickButton click) := by
  rw [mpRemoteClickButton_eq within]
  cases found : game.play.verdict click with
  | matched =>
      obtain ⟨incomplete, _, _⟩ := situation within found
      have next : game.guessed + 1 ≤ game.buttonsSize := by omega
      exact ⟨rfl, rfl, rfl, rfl, rfl, rfl, id, next⟩
  | wrong => exact Frame.refl within
  | tied =>
      simp only [scored_eq, mpEndGame]
      exact ⟨rfl, rfl, rfl, rfl, rfl, rfl, fun _ => rfl, within⟩
  | opened | extended | appended =>
      simp only [scored_eq, mpAddButton]
      exact ⟨rfl, rfl, rfl, rfl, rfl, rfl, id, Nat.le_succ_of_le within⟩

theorem Frame.screen {after : MpGame} (frame : game.Frame after) (screen : PlayScreens) (seconds : Nat) :
    game.Frame { after with ps := screen, timeLeftForScreen := seconds } :=
  ⟨frame.gameStarted, frame.isHost, frame.receivedNoBytes, frame.numRoundSentBytes, frame.maxButtonsSize,
    frame.capacity, frame.ended, frame.within⟩

theorem frame_mpButtonsHandler (within : game.guessed ≤ game.buttonsSize) :
    game.Frame (game.mpButtonsHandler click) := by
  by_cases mine : game.isHost = game.isPlayer1
  · obtain ⟨screen, seconds, handled⟩ := mpButtonsHandler_mine mine click
    rw [handled]
    exact (frame_mpClickButton within).screen screen seconds
  · obtain ⟨screen, seconds, handled⟩ := mpButtonsHandler_remote mine click
    rw [handled]
    exact (frame_mpRemoteClickButton within).screen screen seconds

theorem frame_playGame (within : game.guessed ≤ game.buttonsSize) (data : UInt8) :
    game.Frame (game.playGame data) := by
  unfold playGame
  split
  · exact frame_mpButtonsHandler within
  · split
    · exact ⟨rfl, rfl, rfl, rfl, rfl, rfl, id, Nat.zero_le _⟩
    · split
      · exact ⟨rfl, rfl, rfl, rfl, rfl, rfl, id, Nat.zero_le _⟩
      · split
        · exact ⟨rfl, rfl, rfl, rfl, rfl, rfl, id, Nat.zero_le _⟩
        · split
          · exact ⟨rfl, rfl, rfl, rfl, rfl, rfl, fun _ => rfl, within⟩
          · split
            · exact ⟨rfl, rfl, rfl, rfl, rfl, rfl, fun _ => rfl, within⟩
            · exact Frame.refl within

theorem frame_mpGameUpdateStatusUart (started : game.gameStarted = true)
    (within : game.guessed ≤ game.buttonsSize) (data : UInt8) (type : IntOrigin) :
    game.Frame (game.mpGameUpdateStatusUart data type) := by
  unfold mpGameUpdateStatusUart
  cases type with
  | recData =>
      simp only [started, Bool.not_true, Bool.false_eq_true, if_false]
      exact frame_playGame within data
  | transEmpty =>
      simp only [started, Bool.not_true, Bool.false_eq_true, if_false]
      split
      · exact ⟨rfl, rfl, rfl, rfl, rfl, rfl, id, within⟩
      · exact Frame.refl within
  | modStat | lineStat | charTimeout | reserved => exact Frame.refl within

theorem mode_mpClickButton (game : MpGame) (click : ButtonClick) : (game.mpClickButton click).mode = game.mode := by
  by_cases real : click = .noButton
  · simp only [mpClickButton, real, if_true]
  · rw [mpClickButton_verdict real]
    cases game.verdict click with
    | matched => simp only [mpSendButton, sendOrQueue_eq]
    | wrong => simp only [mpGetWinner, mpSendWinner_eq, mpEndGame, sendOrQueue_eq]
    | tied => simp only [scored_eq, mpSendWinner_eq, mpEndGame, sendOrQueue_eq]
    | opened | extended => simp only [scored_eq, mpAddButton, mpSendButton, sendOrQueue_eq]
    | appended => simp only [scored_eq, mpAddButton, mpSendButton, mpChangePlayer_eq, sendOrQueue_eq]

theorem mode_mpRemoteClickButton (game : MpGame) (click : ButtonClick) :
    (game.mpRemoteClickButton click).mode = game.mode := by
  rw [mpRemoteClickButton_verdict]
  cases game.verdict click with
  | matched | wrong => rfl
  | tied => simp only [scored_eq, mpEndGame]
  | opened | extended | appended => simp only [scored_eq, mpAddButton]

theorem mode_mpButtonsHandler (game : MpGame) (click : ButtonClick) :
    (game.mpButtonsHandler click).mode = game.mode := by
  by_cases mine : game.isHost = game.isPlayer1
  · obtain ⟨screen, seconds, handled⟩ := mpButtonsHandler_mine mine click
    rw [handled]
    exact mode_mpClickButton game click
  · obtain ⟨screen, seconds, handled⟩ := mpButtonsHandler_remote mine click
    rw [handled]
    exact mode_mpRemoteClickButton game click

theorem mode_playGame (game : MpGame) (data : UInt8) : (game.playGame data).mode = game.mode := by
  unfold playGame
  split
  · exact mode_mpButtonsHandler game _
  · repeat' split
    all_goals rfl

theorem mode_startGame (game : MpGame) (data : UInt8) (emptyThr : Bool) :
    (game.startGame data emptyThr).mode = game.mode := by
  unfold startGame
  dsimp only
  repeat' split
  all_goals rfl

theorem mode_mpGameUpdateStatusUart (game : MpGame) (data : UInt8) (type : IntOrigin) :
    (game.mpGameUpdateStatusUart data type).mode = game.mode := by
  unfold mpGameUpdateStatusUart
  cases type with
  | recData =>
      dsimp only
      split
      · exact mode_startGame game data false
      · exact mode_playGame game data
  | transEmpty =>
      dsimp only
      split
      · exact mode_startGame game _ true
      · split <;> rfl
  | modStat | lineStat | charTimeout | reserved => rfl

theorem mode_uartNotification (game : MpGame) (data : UInt8) (type : IntOrigin) :
    (game.uartNotification data type).mode = game.mode := by
  unfold uartNotification
  split
  · exact mode_mpGameUpdateStatusUart game data type
  · rfl

theorem LocalStep.frame {after : MpGame} (step : game.LocalStep after)
    (within : game.guessed ≤ game.buttonsSize) : game.Frame after := by
  cases step with
  | idle => exact ⟨rfl, rfl, rfl, rfl, rfl, rfl, id, within⟩
  | click active mouse click =>
      have clicked := @frame_mpButtonsHandler { game with mpMouse := mouse } click within
      exact ⟨clicked.gameStarted, clicked.isHost, clicked.receivedNoBytes, clicked.numRoundSentBytes,
        clicked.maxButtonsSize, clicked.capacity, clicked.ended, clicked.within⟩
  | expire =>
      simp only [mpGetWinner, mpSendWinner_eq, mpEndGame, sendOrQueue_eq]
      exact ⟨rfl, rfl, rfl, rfl, rfl, rfl, fun _ => rfl, within⟩
  | pass =>
      simp only [mpChangePlayer_eq, sendOrQueue_eq]
      exact ⟨rfl, rfl, rfl, rfl, rfl, rfl, id, Nat.zero_le _⟩
  | count => exact ⟨rfl, rfl, rfl, rfl, rfl, rfl, id, within⟩
  | leave ended alarm =>
      obtain ⟨mode, left⟩ := leave_mode { game with alarm := alarm }
      rw [left]
      exact ⟨rfl, rfl, rfl, rfl, rfl, rfl, id, within⟩

theorem frame_handle (within : game.guessed ≤ game.buttonsSize) (input : Input) :
    game.Frame (game.handle input) :=
  (localStep_handle game input).frame within

theorem frame_eventHandler (within : game.guessed ≤ game.buttonsSize) (input : Input) :
    game.Frame (game.eventHandler input) :=
  (localStep_eventHandler game input).frame within

theorem frame_uartNotification (started : game.gameStarted = true)
    (within : game.guessed ≤ game.buttonsSize) (data : UInt8) (type : IntOrigin) :
    game.Frame (game.uartNotification data type) := by
  unfold uartNotification
  split
  · exact frame_mpGameUpdateStatusUart started within data type
  · exact Frame.refl within

end MpGame

end SimonVs
