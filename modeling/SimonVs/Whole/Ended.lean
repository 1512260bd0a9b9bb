import SimonVs.Whole.Clock

namespace SimonVs

open Data Serial

namespace MpGame

variable {game : MpGame}

/-- The mode and the lowest score on the leaderboard only decide where a game is left
to. -/
theorem mpClickButton_aside (game : MpGame) (click : ButtonClick) (mode : GameModes) (lowest : Int) :
    mpClickButton { game with mode := mode, lowestHiScore := lowest } click =
      { game.mpClickButton click with mode := mode, lowestHiScore := lowest } := by
  by_cases real : click = .noButton
  · simp only [mpClickButton, if_pos real]
  · have same : verdict { game with mode := mode, lowestHiScore := lowest } click = game.verdict click := rfl
    rw [mpClickButton_verdict real, mpClickButton_verdict real, same]
    cases game.verdict click with
    | matched | wrong | tied | opened | extended | appended =>
        simp only [scored_eq, mpAddButton, mpSendButton, mpChangePlayer_eq, mpSendWinner_eq, sendOrQueue_eq, mpEndGame,
          mpGetWinner]

theorem mpRemoteClickButton_aside (game : MpGame) (click : ButtonClick) (mode : GameModes) (lowest : Int) :
    mpRemoteClickButton { game with mode := mode, lowestHiScore := lowest } click =
      { game.mpRemoteClickButton click with mode := mode, lowestHiScore := lowest } := by
  by_cases first : game.guessed = game.buttonsSize ∨ game.vsWasPressed = true
  · by_cases complete : game.guessed = game.buttonsSize
    · simp only [mpRemoteClickButton, if_pos first, if_pos complete]
      repeat' split
      all_goals rfl
    · simp only [mpRemoteClickButton, if_pos first, if_neg complete]
      repeat' split
      all_goals rfl
  · simp only [mpRemoteClickButton, if_neg first]
    repeat' split
    all_goals rfl

theorem mpButtonsHandler_aside (game : MpGame) (click : ButtonClick) (mode : GameModes) (lowest : Int) :
    mpButtonsHandler { game with mode := mode, lowestHiScore := lowest } click =
      { game.mpButtonsHandler click with mode := mode, lowestHiScore := lowest } := by
  simp only [mpButtonsHandler, mpClickButton_aside, mpRemoteClickButton_aside, mpLightButton]
  cases click with
  | greenB | yellowB | purpleB | blueB | redB | vsB | noButton =>
      repeat' split
      all_goals rfl

theorem startGame_aside (game : MpGame) (data : UInt8) (emptyThr : Bool) (mode : GameModes) (lowest : Int) :
    startGame { game with mode := mode, lowestHiScore := lowest } data emptyThr =
      { game.startGame data emptyThr with mode := mode, lowestHiScore := lowest } := by
  simp only [startGame]
  repeat' split
  all_goals first | rfl | contradiction

theorem playGame_aside (game : MpGame) (data : UInt8) (mode : GameModes) (lowest : Int) :
    playGame { game with mode := mode, lowestHiScore := lowest } data =
      { game.playGame data with mode := mode, lowestHiScore := lowest } := by
  simp only [playGame, mpButtonsHandler_aside]
  repeat' split
  all_goals rfl

theorem happen_aside (game : MpGame) (event : PcEvent) (mode : GameModes) (lowest : Int) :
    ∃ later, happen { game with mode := mode, lowestHiScore := lowest } event =
      { game.happen event with mode := later, lowestHiScore := lowest } := by
  have clicked (game : MpGame) (click : ButtonClick) :
      handleClick { game with mode := mode, lowestHiScore := lowest } click =
        { game.handleClick click with mode := mode, lowestHiScore := lowest } := by
    simp only [handleClick, mpButtonsHandler_aside]
    split
    · rfl
    · rfl
  cases event with
  | input input =>
      cases input with
      | click click =>
          simp only [happen, handle, localClick, clicked]
          repeat' split
          all_goals exact ⟨mode, rfl⟩
      | mouse packet =>
          have moved := clicked { game with mpMouse := game.mpMouse.update packet }
          simp only [happen, handle, mpGameUpdateStatusMouse, moved]
          repeat' split
          all_goals exact ⟨mode, rfl⟩
      | key key =>
          simp only [happen, handle, mpGameUpdateStatusKey, leave_eq]
          repeat' split
          all_goals exact ⟨_, rfl⟩
      | timer =>
          simp only [happen, handle, mpGameUpdateStatusTimer]
          split
          · exact ⟨mode, rfl⟩
          · exact ⟨mode, rfl⟩
      | rtc =>
          simp only [happen, handle, mpGameUpdateStatusRtc, leaveIfEnded, leave_eq, mpChangePlayer_eq, mpSendWinner_eq,
            sendOrQueue_eq, mpEndGame, mpGetWinner]
          repeat' split
          all_goals exact ⟨_, rfl⟩
  | uart data type =>
      refine ⟨mode, ?_⟩
      cases type with
      | recData =>
          simp only [happen, mpGameUpdateStatusUart, startGame_aside, playGame_aside]
          split
          · rfl
          · rfl
      | transEmpty =>
          simp only [happen, mpGameUpdateStatusUart, startGame_aside]
          repeat' split
          all_goals rfl
      | modStat | lineStat | charTimeout | reserved => rfl

/-- A notification for the two-PC game, event by event. -/
theorem eventHandlerCall_run (playing : game.mode = .mpGame) (flags : Flags) :
    game.eventHandlerCall flags = Data.run happen game (Program.pcEvents flags) := by
  simp only [Program.pcEvents, run_append, run_when]
  rw [eventHandlerCall, if_pos playing]
  rfl

end MpGame

namespace Program

variable {width : XpmImage → UInt16} {program : Program} {event : Event}

/-- On the screen of the two-PC game a call of the whole program is a call for the game
alone. -/
theorem step_eventHandlerCall (playing : program.mode = .mpGame) :
    ∃ mode lowest, (program.step width event).mpGameView =
      { (program.transmit event.2.transmitted).mpGameView.eventHandlerCall event.1 with
        mode := mode, lowestHiScore := lowest } := by
  rw [step_mpGame playing, MpGame.eventHandlerCall_run rfl]
  refine run_related (fun (program : Program) (game : MpGame) =>
    ∃ mode lowest, program.mpGameView = { game with mode := mode, lowestHiScore := lowest }) ?_ ⟨_, _, rfl⟩
  rintro program game event ⟨mode, lowest, same⟩
  obtain ⟨later, handled⟩ := game.happen_aside event mode lowest
  rw [mpGameStep_view, same, handled]
  exact ⟨_, _, rfl⟩

/-- The notification sets up no other two-PC game, and if it is one of the UART, then
for a received byte. -/
structure Spares (width : XpmImage → UInt16) (program : Program) (event : Event) : Prop where
  entersNone : program.mode ≠ .mpGame → (program.step width event).mode ≠ .mpGame
  received : event.1.uartInterrupt = true → event.1.uartTypeInterrupt = .recData

instance (width : XpmImage → UInt16) (program : Program) (event : Event) : Decidable (program.Spares width event) :=
  decidable_of_iff ((program.mode ≠ .mpGame → (program.step width event).mode ≠ .mpGame) ∧
      (event.1.uartInterrupt = true → event.1.uartTypeInterrupt = .recData))
    ⟨fun both => ⟨both.1, both.2⟩, fun spares => ⟨spares.entersNone, spares.received⟩⟩

/-- A byte reaches the ended game that means something to it. -/
def Disturbs (program : Program) (event : Event) : Prop :=
  program.mode = .mpGame ∧ event.1.uartInterrupt = true ∧ program.mpGame.TakesByte event.1.dataPacket

instance (program : Program) (event : Event) : Decidable (program.Disturbs event) :=
  inferInstanceAs (Decidable (_ ∧ _ ∧ _))

theorem mpGame_elsewhere (elsewhere : program.mode ≠ .mpGame) (spares : program.Spares width event) :
    (program.step width event).mpGame = (program.transmit event.2.transmitted).mpGame := by
  have moves := @moves_step width program event
  have shown : (program.transmit event.2.transmitted).mode ≠ .mpGame := by rwa [mode_transmit]
  have after := spares.entersNone elsewhere
  generalize program.step width event = later at moves after ⊢
  cases moves with
  | stay | choose | askRounds | back | types | starts | names => rfl
  | connect | hosts => exact absurd rfl after
  | plays =>
      exact (@run_gameStep (program.transmit event.2.transmitted) (fun _ => True) (fun _ _ _ _ => trivial)
        (fun _ _ => trivial) trivial _ _).2.1
  | playsMp playing => exact absurd playing shown

theorem outcome_transmit (program : Program) (transmitted : Bool) :
    (program.transmit transmitted).mpGame.outcome = program.mpGame.outcome := by
  rw [transmit]
  split
  · simp only [MpGame.outcome, Uart.shiftOut]
    split
    · rfl
    · rfl
  · rfl

/-- A call keeps the result of an ended game precisely when it does not disturb it, and
then the game stays ended. -/
theorem outcome_step_iff (isOver : program.mpGame.Over) (spares : program.Spares width event) :
    ((program.step width event).mpGame.outcome = program.mpGame.outcome ↔ ¬ program.Disturbs event) ∧
    (¬ program.Disturbs event → (program.step width event).mpGame.Over) := by
  have sent := outcome_transmit program event.2.transmitted
  obtain ⟨uart, transmitted⟩ := transmit_eq program event.2.transmitted
  by_cases playing : program.mode = .mpGame
  · obtain ⟨mode, lowest, same⟩ := @step_eventHandlerCall width program event playing
    have viewOver : (program.transmit event.2.transmitted).mpGameView.Over := by
      rw [transmitted]
      exact ⟨isOver.started, isOver.ended⟩
    have disturbs : (program.transmit event.2.transmitted).mpGameView.Disturbs ⟨event.1, spares.received⟩ ↔
        program.Disturbs event := by
      rw [transmitted]
      exact and_congr_left fun _ => iff_of_true rfl playing
    have outcome : (program.step width event).mpGame.outcome =
        ((program.transmit event.2.transmitted).mpGameView.handleLate ⟨event.1, spares.received⟩).outcome := by
      have viewed := congrArg MpGame.outcome same
      exact viewed
    refine ⟨?_, fun harmless => ?_⟩
    · rw [outcome, ← sent, ← disturbs]
      exact viewOver.outcome_handleLate_iff _
    · have later := viewOver.handleLate (mt disturbs.mp harmless)
      have started := congrArg MpGame.gameStarted same
      have ended := congrArg MpGame.gameEnd same
      exact ⟨started.trans later.started, ended.trans later.ended⟩
  · rw [mpGame_elsewhere playing spares]
    refine ⟨iff_of_true sent fun disturbs => playing disturbs.1, fun _ => ?_⟩
    rw [transmitted]
    exact ⟨isOver.started, isOver.ended⟩

/-- A host that has won, on its way from the result to the menu. -/
def hostWon : Program := { booted with mode := .mpGame, mpGame := MpGame.hostWon }

def receivedCall (data : UInt8) (alarm : Bool) : Event :=
  november (MpGame.Late.of (some data) none alarm).toFlags

def leavesWinner : List Event :=
  [receivedCall Coms.tieRemote.toByte true, receivedCall Coms.lose.toByte false, releaseCall backspace]

end Program

end SimonVs
