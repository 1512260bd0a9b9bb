import SimonVs.Data.Run
import SimonVs.Game
import SimonVs.Rules.Play

namespace SimonVs

open Data Memory Rules

namespace Rules.Play

def click (play : Play) (click : ButtonClick) (vsRound : Bool) : Play :=
  let pressed := play.press click
  match play.verdict click with
  | .matched => pressed.restartClock
  | .wrong => play.lose
  | .tied => pressed.tie
  | .opened => { pressed with timeLeft := vsInterval }
  | .extended => { pressed with guessed := 0 }
  | .appended => pressed.newTurn vsRound

/-- A second in the one-PC game. The progress survives a VS window that runs
out. -/
def tick (play : Play) (vsRound : Bool) : Play :=
  if play.timeLeft = 0 ∧ !play.vsPressed then play.lose
  else if play.timeLeft = 0 ∧ play.isVsRound ∧ play.vsPressed then
    { play.newTurn vsRound with guessed := play.guessed }
  else if play.timeLeft > 0 then { play with timeLeft := play.timeLeft - 1 }
  else play

def start (rounds : Nat) (vsRound : Bool) (winner : Winners) : Play :=
  { sequence := [], guessed := 0, maxSize := rounds, score := 0, isPlayer1 := true, isVsRound := vsRound
    vsPressed := false, timeLeft := -1, ended := false, winner }

end Rules.Play

namespace Game

def play (game : Game) : Play :=
  { sequence := game.buttons.firstCells game.buttonsSize
    guessed := game.guessed
    maxSize := game.maxButtonsSize
    score := game.playerScore
    isPlayer1 := game.isPlayer1
    isVsRound := game.isVsRound
    vsPressed := game.vsWasPressed
    timeLeft := game.timeLeftForClick
    ended := game.gameEnd
    winner := game.ws }

theorem length_sequence (game : Game) : game.play.sequence.length = game.buttonsSize := by
  simp [play]

/-- `random % 2 == 0` in `is_VS_round` -/
def choosesVs (rand : Nat) : Bool := rand % 10 % 2 == 0

/-- Progress stays within the sequence, and a VS window is open only in a VS
round. -/
structure Sound (game : Game) : Prop where
  within : game.guessed ≤ game.buttonsSize
  window : game.vsWasPressed = true → game.isVsRound = true

variable {game : Game} {click : ButtonClick} {rand : Nat}

/-- What a click amounts to, in the variables of the code. -/
def verdict (game : Game) (click : ButtonClick) : Verdict :=
  Play.verdictOf game.guessed game.buttonsSize game.maxButtonsSize game.vsWasPressed game.isVsRound
    (game.buttons.cells game.guessed) click

theorem verdict_eq (within : game.guessed ≤ game.buttonsSize) (click : ButtonClick) :
    game.play.verdict click = game.verdict click := by
  have sound : game.play.Sound := by rwa [Play.Sound, length_sequence]
  exact @Play.verdict_eq_verdictOf game.play game.buttons game.buttonsSize rfl sound click

theorem situation_verdict {verdict : Verdict} (found : game.verdict click = verdict) :
    Play.Situation game.guessed game.buttonsSize game.maxButtonsSize game.vsWasPressed game.isVsRound
      (game.buttons.cells game.guessed) click verdict :=
  found ▸ Play.situation_verdictOf _ _ _ _ _ _ _

theorem situation (within : game.guessed ≤ game.buttonsSize) {verdict : Verdict}
    (found : game.play.verdict click = verdict) :
    Play.Situation game.guessed game.buttonsSize game.maxButtonsSize game.vsWasPressed game.isVsRound
      (game.buttons.cells game.guessed) click verdict :=
  situation_verdict ((verdict_eq within click).symm.trans found)

/-- `if (guessed == buttons_size) player_score = buttons_size;` -/
def scored (game : Game) : Game :=
  { game with
    playerScore := if game.guessed = game.buttonsSize then game.buttonsSize else game.playerScore }

/-- A VS window that is open outside a VS round keeps the turn. -/
theorem clickButton_verdict (real : click ≠ .noButton) :
    game.clickButton click rand =
      match game.verdict click with
      | .matched =>
          { game with
            guessed := game.guessed + 1
            timeLeftForClick := if game.guessed + 1 = game.buttonsSize then -1 else interval }
      | .wrong => game.getWinner.endGame
      | .tied => endGame { game.scored with ws := .tie }
      | .opened => { append { game.scored with vsWasPressed := true } click with timeLeftForClick := vsInterval }
      | .extended => { game.scored.append click with guessed := 0 }
      | .appended =>
          if game.vsWasPressed then { game.scored.append click with guessed := 0 }
          else
            { isVSRound { game.scored.append click with guessed := 0, isPlayer1 := !game.isPlayer1 } rand with
              timeLeftForClick := interval } := by
  cases found : game.verdict click with
  | matched =>
      obtain ⟨incomplete, closed, next⟩ := situation_verdict found
      simp only [clickButton, real, incomplete, closed, next, if_false, if_true, Bool.false_eq_true, or_self]
      split <;> rfl
  | wrong =>
      obtain ⟨incomplete, closed, different⟩ := situation_verdict found
      simp [clickButton, real, incomplete, closed, different]
  | tied =>
      obtain ⟨first, full⟩ := situation_verdict found
      simp only [clickButton, scored, real, first, if_false, if_true]
      split <;> simp [full]
  | opened =>
      obtain ⟨complete, closed, notFull, vsRound, lucky⟩ := situation_verdict found
      simp [clickButton, scored, complete, closed, vsRound, lucky, notFull]
  | extended =>
      obtain ⟨pressed, notFull, vsRound⟩ := situation_verdict found
      simp only [clickButton, scored, real, pressed, if_false, or_true, if_true]
      split <;> simp_all [append]
  | appended =>
      obtain ⟨first, notFull, unlucky⟩ := situation_verdict found
      cases vsRound : game.isVsRound with
      | false =>
          simp only [clickButton, scored, real, first, if_false, if_true]
          cases pressed : game.vsWasPressed <;> split <;> simp_all [append, isVSRound]
      | true =>
          obtain ⟨complete, closed, _, unlucky⟩ := unlucky vsRound
          simp_all [clickButton, scored, append, isVSRound]

theorem clickButton_eq (sound : game.Sound) (real : click ≠ .noButton) :
    game.clickButton click rand =
      match game.play.verdict click with
      | .matched =>
          { game with
            guessed := game.guessed + 1
            timeLeftForClick := if game.guessed + 1 = game.buttonsSize then -1 else interval }
      | .wrong => game.getWinner.endGame
      | .tied => endGame { game.scored with ws := .tie }
      | .opened => { append { game.scored with vsWasPressed := true } click with timeLeftForClick := vsInterval }
      | .extended => { game.scored.append click with guessed := 0 }
      | .appended =>
          { isVSRound { game.scored.append click with guessed := 0, isPlayer1 := !game.isPlayer1 } rand with
            timeLeftForClick := interval } := by
  rw [clickButton_verdict real, verdict_eq sound.within]
  cases found : game.verdict click with
  | appended =>
      obtain ⟨_, _, unlucky⟩ := situation_verdict found
      have closed : ¬ game.vsWasPressed = true := by
        intro pressed
        obtain ⟨_, closed, _⟩ := unlucky (sound.window pressed)
        rw [pressed] at closed
        cases closed
      exact if_neg closed
  | matched | wrong | tied | opened | extended => rfl

theorem play_clickButton (sound : game.Sound) (real : click ≠ .noButton) :
    (game.clickButton click rand).play = game.play.click click (choosesVs rand) := by
  rw [clickButton_eq sound real]
  unfold Play.click Play.press
  cases found : game.play.verdict click with
  | matched => simp [play, Play.restartClock, Play.Complete]
  | wrong => rfl
  | tied => simp [play, scored, endGame, Play.scored, Play.tie, Play.Complete]
  | opened | extended => simp [play, scored, append, Play.scored, Play.Complete]
  | appended => simp [play, scored, append, isVSRound, choosesVs, Play.scored, Play.newTurn, Play.Complete]

theorem sound_clickButton (sound : game.Sound) (real : click ≠ .noButton) :
    (game.clickButton click rand).Sound := by
  obtain ⟨within, window⟩ := sound
  rw [clickButton_eq ⟨within, window⟩ real]
  cases found : game.play.verdict click with
  | matched =>
      obtain ⟨incomplete, _, _⟩ := situation within found
      refine ⟨?_, window⟩
      dsimp only
      omega
  | wrong => exact ⟨within, window⟩
  | tied => exact ⟨within, window⟩
  | opened =>
      obtain ⟨_, _, _, vsRound, _⟩ := situation within found
      exact ⟨Nat.le_succ_of_le within, fun _ => vsRound⟩
  | extended => exact ⟨Nat.zero_le _, window⟩
  | appended => exact ⟨Nat.zero_le _, fun pressed => by simp [isVSRound] at pressed⟩

theorem lightButton_screen (game : Game) (click : ButtonClick) :
    ∃ screen, game.lightButton click = { game with ps := screen } := by
  unfold lightButton
  repeat' split
  all_goals exact ⟨_, rfl⟩

theorem play_handleClick (sound : game.Sound) :
    (game.handleClick click rand).play =
      (if click = .noButton then game.play else game.play.click click (choosesVs rand)) ∧
    (game.handleClick click rand).Sound := by
  obtain ⟨screen, lit⟩ := lightButton_screen (game.clickButton click rand) click
  rw [handleClick, lit]
  by_cases real : click = .noButton
  · rw [if_pos real]
    simp only [clickButton, real, if_true]
    exact ⟨rfl, sound.within, sound.window⟩
  · rw [if_neg real]
    have clicked : (game.clickButton click rand).Sound := sound_clickButton sound real
    exact ⟨play_clickButton sound real, clicked.within, clicked.window⟩

theorem leave_mode (game : Game) : ∃ mode, game.leave = { game with mode := mode } := by
  unfold leave checkNewHiScore
  split
  · exact ⟨_, rfl⟩
  · split <;> exact ⟨_, rfl⟩

theorem handle_key (game : Game) (key : KeyPress) :
    ∃ mode, game.handle (.key key) = { game with mode := mode } := by
  obtain ⟨mode, left⟩ := leave_mode game
  simp only [handle, gameUpdateStatusKey, left]
  split
  · split
    · exact ⟨mode, rfl⟩
    · exact ⟨_, rfl⟩
  · exact ⟨_, rfl⟩

theorem play_leaveIfEnded (sound : game.Sound) :
    game.leaveIfEnded.play = game.play ∧ game.leaveIfEnded.Sound := by
  unfold leaveIfEnded
  split
  · obtain ⟨mode, left⟩ := leave_mode { game with alarm := .everySecond }
    rw [left]
    exact ⟨rfl, sound.within, sound.window⟩
  · exact ⟨rfl, sound⟩

theorem play_countDown (sound : game.Sound) :
    (game.countDown rand).play = game.play.tick (choosesVs rand) ∧ (game.countDown rand).Sound := by
  have timeLeft : game.play.timeLeft = game.timeLeftForClick := rfl
  have pressed : game.play.vsPressed = game.vsWasPressed := rfl
  have vsRound : game.play.isVsRound = game.isVsRound := rfl
  unfold countDown Play.tick
  rw [timeLeft, pressed, vsRound]
  split
  · exact ⟨rfl, sound.within, sound.window⟩
  · split
    · refine ⟨rfl, sound.within, fun window => ?_⟩
      simp [isVSRound] at window
    · split
      · exact ⟨rfl, sound.within, sound.window⟩
      · exact ⟨rfl, sound⟩

theorem play_gameUpdateStatusRtc (sound : game.Sound) :
    (game.gameUpdateStatusRtc rand).play = game.play.tick (choosesVs rand) ∧
    (game.gameUpdateStatusRtc rand).Sound := by
  obtain ⟨counted, countedSound⟩ := @play_countDown game rand sound
  obtain ⟨left, leftSound⟩ := play_leaveIfEnded countedSound
  exact ⟨left.trans counted, leftSound⟩

theorem play_resetGame (game : Game) (rounds : Nat) :
    (game.resetGame rounds rand).play = .start rounds (choosesVs rand) game.ws ∧
    (game.resetGame rounds rand).Sound := by
  refine ⟨?_, Nat.zero_le _, fun pressed => ?_⟩
  · simp [resetGame, isVSRound, play, Play.start, choosesVs]
  · simp [resetGame] at pressed

/-- What an event does to the play. -/
inductive Move where
  | idle
  | click (click : ButtonClick) (vsRound : Bool)
  | tick (vsRound : Bool)
deriving DecidableEq, Repr

def Move.clicks : Move → List ButtonClick
  | .click button _ => [button]
  | .idle | .tick _ => []

def clickMove (game : Game) (click : ButtonClick) (rand : Nat) : Move :=
  if game.gameEnd ∨ click = .noButton then .idle else .click click (choosesVs rand)

def moveOf (game : Game) : Input → Move
  | .click click rand => game.clickMove click rand
  | .mouse packet rand => game.clickMove (game.mouse.update packet).click rand
  | .key _ | .timer => .idle
  | .rtc rand => .tick (choosesVs rand)

end Game

def Rules.Play.move (play : Play) : Game.Move → Play
  | .idle => play
  | .click click vsRound => play.click click vsRound
  | .tick vsRound => play.tick vsRound

namespace Game

variable {game : Game} {click : ButtonClick} {rand : Nat}

theorem moveOf_ended (ended : game.gameEnd = true) (input : Input) : (game.moveOf input).clicks = [] := by
  cases input with
  | click | mouse => simp [moveOf, clickMove, ended, Move.clicks]
  | key | timer | rtc => rfl

theorem play_handleClick_move (sound : game.Sound) (running : game.gameEnd = false) :
    (game.handleClick click rand).play = game.play.move (game.clickMove click rand) ∧
    (game.handleClick click rand).Sound := by
  obtain ⟨plays, clicked⟩ := @play_handleClick game click rand sound
  refine ⟨plays.trans ?_, clicked⟩
  by_cases real : click = .noButton <;> simp [clickMove, Play.move, running, real]

theorem play_handle (sound : game.Sound) (input : Input) :
    (game.handle input).play = game.play.move (game.moveOf input) ∧ (game.handle input).Sound := by
  cases input with
  | click click rand =>
      by_cases ended : game.gameEnd = true
      · simp [handle, moveOf, clickMove, Play.move, ended, sound]
      · rw [handle, if_neg ended]
        exact play_handleClick_move sound (Bool.eq_false_iff.mpr ended)
  | mouse packet rand =>
      by_cases ended : game.gameEnd = true
      · simp [handle, gameUpdateStatusMouse, moveOf, clickMove, Play.move, ended, sound]
      · have moved : Sound { game with mouse := game.mouse.update packet } := ⟨sound.within, sound.window⟩
        rw [handle, gameUpdateStatusMouse, if_neg ended]
        exact play_handleClick_move moved (Bool.eq_false_iff.mpr ended)
  | key press =>
      obtain ⟨mode, left⟩ := leave_mode game
      simp only [handle, gameUpdateStatusKey, moveOf, Play.move, left]
      split
      · split
        · exact ⟨rfl, sound.within, sound.window⟩
        · exact ⟨rfl, sound⟩
      · exact ⟨rfl, sound⟩
  | timer => exact ⟨rfl, sound.within, sound.window⟩
  | rtc rand => exact play_gameUpdateStatusRtc sound

theorem sound_run (game : Game) (rounds rand : Nat) (inputs : List Input) :
    (Data.run handle (game.resetGame rounds rand) inputs).Sound :=
  run_invariant Game.Sound (fun _ input sound _ => (play_handle sound input).2)
    (play_resetGame game rounds).2 along_true

end Game

end SimonVs
