import SimonVs.Rules.Frame

namespace SimonVs.MpGame

/-- What the handlers of a game that has started do to them: the alarm changes
only at the end of the game, and the time is never more than that of a VS window. -/
structure Timing (before after : MpGame) : Prop where
  ends : after.gameEnd = true ∨ after.gameEnd = before.gameEnd ∧ after.alarm = before.alarm
  time : after.timeLeftForClick ≤ before.timeLeftForClick ∨ after.timeLeftForClick ≤ vsInterval

variable {game : MpGame}

theorem Timing.refl (game : MpGame) : game.Timing game := ⟨.inr ⟨rfl, rfl⟩, .inl (Int.le_refl _)⟩

theorem timing_mpClickButton (game : MpGame) (click : ButtonClick) : game.Timing (game.mpClickButton click) := by
  have short : (-1 : Int) ≤ vsInterval ∧ interval ≤ vsInterval := by decide
  by_cases real : click = .noButton
  · simp only [mpClickButton, real, if_true]
    exact ⟨.inr ⟨rfl, rfl⟩, .inl (Int.le_refl _)⟩
  · rw [mpClickButton_verdict real]
    cases game.verdict click with
    | matched =>
        simp only [mpSendButton, sendOrQueue_eq]
        refine ⟨.inr ⟨rfl, rfl⟩, .inr ?_⟩
        dsimp only
        split
        · exact short.1
        · exact short.2
    | wrong =>
        simp only [mpGetWinner, mpSendWinner_eq, mpEndGame, sendOrQueue_eq]
        exact ⟨.inl rfl, .inl (Int.le_refl _)⟩
    | tied =>
        simp only [scored_eq, mpSendWinner_eq, mpEndGame, sendOrQueue_eq]
        exact ⟨.inl rfl, .inl (Int.le_refl _)⟩
    | opened =>
        simp only [scored_eq, mpAddButton, mpSendButton, sendOrQueue_eq]
        exact ⟨.inr ⟨rfl, rfl⟩, .inr (Int.le_refl _)⟩
    | extended =>
        simp only [scored_eq, mpAddButton, mpSendButton, sendOrQueue_eq]
        exact ⟨.inr ⟨rfl, rfl⟩, .inl (Int.le_refl _)⟩
    | appended =>
        simp only [scored_eq, mpAddButton, mpSendButton, mpChangePlayer_eq, sendOrQueue_eq]
        exact ⟨.inr ⟨rfl, rfl⟩, .inl (Int.le_refl _)⟩

theorem timing_mpRemoteClickButton (game : MpGame) (click : ButtonClick) :
    game.Timing (game.mpRemoteClickButton click) := by
  rw [mpRemoteClickButton_verdict]
  cases game.verdict click with
  | matched | wrong => exact ⟨.inr ⟨rfl, rfl⟩, .inl (Int.le_refl _)⟩
  | tied =>
      simp only [scored_eq, mpEndGame]
      exact ⟨.inl rfl, .inl (Int.le_refl _)⟩
  | opened | extended | appended =>
      simp only [scored_eq, mpAddButton]
      exact ⟨.inr ⟨rfl, rfl⟩, .inl (Int.le_refl _)⟩

theorem timing_mpButtonsHandler (game : MpGame) (click : ButtonClick) : game.Timing (game.mpButtonsHandler click) := by
  by_cases mine : game.isHost = game.isPlayer1
  · obtain ⟨screen, seconds, handled⟩ := mpButtonsHandler_mine mine click
    have timing := timing_mpClickButton game click
    rw [handled]
    exact ⟨timing.ends, timing.time⟩
  · obtain ⟨screen, seconds, handled⟩ := mpButtonsHandler_remote mine click
    have timing := timing_mpRemoteClickButton game click
    rw [handled]
    exact ⟨timing.ends, timing.time⟩

theorem timing_playGame (game : MpGame) (data : UInt8) : game.Timing (game.playGame data) := by
  have short : interval ≤ vsInterval := by decide
  rw [playGame]
  split
  · exact timing_mpButtonsHandler game _
  · repeat' split
    all_goals first
      | exact .refl game
      | exact ⟨.inr ⟨rfl, rfl⟩, .inr short⟩
      | exact ⟨.inl rfl, .inl (Int.le_refl _)⟩

theorem LocalStep.timing {after : MpGame} (step : game.LocalStep after) : game.Timing after := by
  cases step with
  | idle => exact ⟨.inr ⟨rfl, rfl⟩, .inl (Int.le_refl _)⟩
  | click active mouse click =>
      have timing := timing_mpButtonsHandler { game with mpMouse := mouse } click
      exact ⟨timing.ends, timing.time⟩
  | expire =>
      simp only [mpGetWinner, mpSendWinner_eq, mpEndGame, sendOrQueue_eq]
      exact ⟨.inl rfl, .inl (Int.le_refl _)⟩
  | pass =>
      simp only [mpChangePlayer_eq, sendOrQueue_eq]
      exact ⟨.inr ⟨rfl, rfl⟩, .inl (Int.le_refl _)⟩
  | count => exact ⟨.inr ⟨rfl, rfl⟩, .inl (Int.sub_le_self _ (by decide))⟩
  | leave ended alarm =>
      obtain ⟨mode, left⟩ := leave_mode { game with alarm := alarm }
      rw [left]
      exact ⟨.inl ended, .inl (Int.le_refl _)⟩

def Timely (game : MpGame) : Prop := game.timeLeftForClick ≤ vsInterval

theorem Timing.timely {after : MpGame} (timing : game.Timing after) (timely : game.Timely) : after.Timely := by
  rcases timing.time with less | short
  · exact Int.le_trans less timely
  · exact short

theorem timely_startGame (timely : game.Timely) (data : UInt8) (emptyThr : Bool) :
    (game.startGame data emptyThr).Timely := by
  have unlimited : (-1 : Int) ≤ vsInterval := by decide
  simp only [startGame]
  repeat' split
  all_goals first | exact timely | exact unlimited

theorem timely_uart (timely : game.Timely) (data : UInt8) (type : Serial.IntOrigin) :
    (game.mpGameUpdateStatusUart data type).Timely := by
  cases type with
  | recData =>
      rw [mpGameUpdateStatusUart]
      split
      · exact timely_startGame timely data false
      · exact (timing_playGame game data).timely timely
  | transEmpty =>
      rw [mpGameUpdateStatusUart]
      split
      · exact timely_startGame timely _ true
      · split
        · exact timely
        · exact timely
  | modStat | lineStat | charTimeout | reserved => exact timely

end SimonVs.MpGame
