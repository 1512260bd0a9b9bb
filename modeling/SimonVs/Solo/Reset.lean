import SimonVs.Loop.Dispatch
import SimonVs.Rules.OnePc

namespace SimonVs

open Data Memory Rules

namespace Rules.Play

variable {play other : Play}

/-- The same play, but for the winner of a game that has not ended. -/
def Alike (play other : Play) : Prop :=
  (∃ winner, play = { other with winner := winner }) ∧ (other.ended = true → play.winner = other.winner)

theorem Alike.refl (play : Play) : play.Alike play := ⟨⟨play.winner, rfl⟩, fun _ => rfl⟩

theorem Alike.eq_of_ended (alike : play.Alike other) (ended : other.ended = true) : play = other := by
  obtain ⟨⟨winner, same⟩, winners⟩ := alike
  have found : winner = other.winner := by simpa [same] using winners ended
  rw [same, found]

theorem Alike.move (alike : play.Alike other) (move : Game.Move) :
    (play.move move).Alike (other.move move) := by
  by_cases ended : other.ended = true
  · rw [alike.eq_of_ended ended]
    exact .refl _
  · obtain ⟨⟨winner, rfl⟩, _⟩ := alike
    cases move with
    | idle => exact ⟨⟨winner, rfl⟩, fun isOver => absurd isOver ended⟩
    | click button vsRound =>
        have verdicts : verdict { other with winner := winner } button = other.verdict button := rfl
        simp only [Play.move, Play.click, Play.press, verdicts]
        cases other.verdict button with
        | wrong | tied => exact .refl _
        | matched | opened | extended | appended => exact ⟨⟨winner, rfl⟩, fun isOver => absurd isOver ended⟩
    | tick vsRound =>
        simp only [Play.move, Play.tick]
        split
        · exact .refl _
        · split
          · exact ⟨⟨winner, rfl⟩, fun isOver => absurd isOver ended⟩
          · split <;> exact ⟨⟨winner, rfl⟩, fun isOver => absurd isOver ended⟩

end Rules.Play

namespace Game

variable {game other : Game}

/-- The mode in which a game is left. -/
def exitMode (ws : Winners) (playerScore : Nat) (lowestHiScore : Int) : GameModes :=
  if ws = .tie then .leaderboard
  else if (playerScore : Int) > lowestHiScore then .highscore
  else .leaderboard

theorem leave_eq (game : Game) :
    game.leave = { game with mode := exitMode game.ws game.playerScore game.lowestHiScore } := by
  unfold leave checkNewHiScore exitMode
  split
  · rfl
  · split <;> rfl

/-- The mouse after a click has been handled. -/
def released (mouse : MouseState) (click : ButtonClick) : MouseState :=
  if click = .noButton then { mouse with leftClick := false } else mouse

/-- What the rest of a game sees besides the play: the fields that
`click_button` and the RTC leave alone. -/
theorem handleClick_rest (sound : game.Sound) (click : ButtonClick) (rand : Nat) :
    (game.handleClick click rand).mouse = released game.mouse click ∧
    (game.handleClick click rand).mode = game.mode ∧
    (game.handleClick click rand).lowestHiScore = game.lowestHiScore := by
  obtain ⟨screen, lit⟩ := lightButton_screen (game.clickButton click rand) click
  rw [handleClick, lit]
  by_cases real : click = .noButton
  · simp [clickButton, released, real]
  · rw [released, if_neg real, clickButton_eq sound real]
    cases game.play.verdict click <;> exact ⟨rfl, rfl, rfl⟩

theorem countDown_rest (rand : Nat) :
    (game.countDown rand).mouse = game.mouse ∧ (game.countDown rand).mode = game.mode ∧
    (game.countDown rand).lowestHiScore = game.lowestHiScore := by
  unfold countDown
  split
  · exact ⟨rfl, rfl, rfl⟩
  · split
    · exact ⟨rfl, rfl, rfl⟩
    · split <;> exact ⟨rfl, rfl, rfl⟩

/-- The games differ at most in what no event of theirs depends on. -/
structure Twins (game other : Game) : Prop where
  sound : game.Sound
  otherSound : other.Sound
  play : game.play.Alike other.play
  mouse : game.mouse = other.mouse
  mode : game.mode = other.mode
  lowest : game.lowestHiScore = other.lowestHiScore

theorem Twins.gameEnd (twins : Twins game other) : game.gameEnd = other.gameEnd := by
  obtain ⟨winner, same⟩ := twins.play.1
  exact congrArg Play.ended same

theorem Twins.exitMode (twins : Twins game other) (ended : other.gameEnd = true) :
    exitMode game.ws game.playerScore game.lowestHiScore =
      exitMode other.ws other.playerScore other.lowestHiScore := by
  have plays := twins.play.eq_of_ended ended
  have ws : game.ws = other.ws := congrArg Play.winner plays
  have score : game.playerScore = other.playerScore := congrArg Play.score plays
  rw [ws, score, twins.lowest]

theorem Twins.withAlarm (twins : Twins game other) (alarm : Alarm) :
    Twins { game with alarm := alarm } { other with alarm := alarm } :=
  { twins with
    sound := ⟨twins.sound.within, twins.sound.window⟩
    otherSound := ⟨twins.otherSound.within, twins.otherSound.window⟩ }

theorem Twins.withMouse (twins : Twins game other) {mouse mouse' : MouseState} (same : mouse = mouse') :
    Twins { game with mouse := mouse } { other with mouse := mouse' } :=
  { twins with
    sound := ⟨twins.sound.within, twins.sound.window⟩
    otherSound := ⟨twins.otherSound.within, twins.otherSound.window⟩
    mouse := same }

theorem Twins.leave (twins : Twins game other) (ended : other.gameEnd = true) :
    Twins game.leave other.leave := by
  rw [leave_eq, leave_eq]
  exact
    { twins with
      sound := ⟨twins.sound.within, twins.sound.window⟩
      otherSound := ⟨twins.otherSound.within, twins.otherSound.window⟩
      mode := twins.exitMode ended }

theorem Twins.handleClick (twins : Twins game other) (running : other.gameEnd = false) (click : ButtonClick)
    (rand : Nat) : Twins (game.handleClick click rand) (other.handleClick click rand) := by
  have runningToo : game.gameEnd = false := twins.gameEnd.trans running
  obtain ⟨plays, sound⟩ := @play_handleClick_move game click rand twins.sound runningToo
  obtain ⟨otherPlays, otherSound⟩ := @play_handleClick_move other click rand twins.otherSound running
  obtain ⟨mouse, mode, lowest⟩ := handleClick_rest twins.sound click rand
  obtain ⟨otherMouse, otherMode, otherLowest⟩ := handleClick_rest twins.otherSound click rand
  have moves : game.clickMove click rand = other.clickMove click rand := by
    rw [clickMove, clickMove, twins.gameEnd]
  exact
    { sound := sound
      otherSound := otherSound
      play := by
        rw [plays, otherPlays, moves]
        exact twins.play.move _
      mouse := by rw [mouse, otherMouse, twins.mouse]
      mode := by rw [mode, otherMode, twins.mode]
      lowest := by rw [lowest, otherLowest, twins.lowest] }

theorem Twins.countDown (twins : Twins game other) (rand : Nat) :
    Twins (game.countDown rand) (other.countDown rand) := by
  obtain ⟨plays, sound⟩ := @play_countDown game rand twins.sound
  obtain ⟨otherPlays, otherSound⟩ := @play_countDown other rand twins.otherSound
  obtain ⟨mouse, mode, lowest⟩ := @countDown_rest game rand
  obtain ⟨otherMouse, otherMode, otherLowest⟩ := @countDown_rest other rand
  exact
    { sound := sound
      otherSound := otherSound
      play := by
        rw [plays, otherPlays]
        exact twins.play.move (.tick (choosesVs rand))
      mouse := by rw [mouse, otherMouse, twins.mouse]
      mode := by rw [mode, otherMode, twins.mode]
      lowest := by rw [lowest, otherLowest, twins.lowest] }

theorem Twins.leaveIfEnded (twins : Twins game other) : Twins game.leaveIfEnded other.leaveIfEnded := by
  unfold Game.leaveIfEnded
  by_cases ended : other.gameEnd = true
  · rw [if_pos (twins.gameEnd.trans ended), if_pos ended]
    exact (twins.withAlarm .everySecond).leave ended
  · rw [if_neg (twins.gameEnd ▸ ended), if_neg ended]
    exact twins

theorem Twins.gameUpdateStatusMouse (twins : Twins game other) (packet : Packet) (rand : Nat) :
    Twins (game.gameUpdateStatusMouse packet rand) (other.gameUpdateStatusMouse packet rand) := by
  unfold Game.gameUpdateStatusMouse
  by_cases ended : other.gameEnd = true
  · rw [if_pos (twins.gameEnd.trans ended), if_pos ended]
    exact twins
  · rw [if_neg (twins.gameEnd ▸ ended), if_neg ended, twins.mouse]
    have moved : Twins { game with mouse := other.mouse.update packet }
        { other with mouse := other.mouse.update packet } := twins.withMouse rfl
    exact moved.handleClick (Bool.eq_false_iff.mpr ended) _ rand

theorem Twins.gameUpdateStatusKey (twins : Twins game other) (key : KeyPress) :
    Twins (game.gameUpdateStatusKey key) (other.gameUpdateStatusKey key) := by
  unfold Game.gameUpdateStatusKey
  by_cases ended : other.gameEnd = true
  · rw [if_pos (twins.gameEnd.trans ended), if_pos ended]
    split
    · exact twins.leave ended
    · exact twins
  · rw [if_neg (twins.gameEnd ▸ ended), if_neg ended]
    exact twins

theorem Twins.handle (twins : Twins game other) (input : Input) :
    Twins (game.handle input) (other.handle input) := by
  cases input with
  | click click rand =>
      by_cases ended : other.gameEnd = true
      · rw [Game.handle, Game.handle, if_pos (twins.gameEnd.trans ended), if_pos ended]
        exact twins
      · rw [Game.handle, Game.handle, if_neg (twins.gameEnd ▸ ended), if_neg ended]
        exact twins.handleClick (Bool.eq_false_iff.mpr ended) click rand
  | mouse packet rand => exact twins.gameUpdateStatusMouse packet rand
  | key press => exact twins.gameUpdateStatusKey press
  | timer => exact twins.withMouse (by rw [twins.mouse])
  | rtc rand => exact (twins.countDown rand).leaveIfEnded

theorem Twins.eventHandler (twins : Twins game other) (call : Call) :
    Twins (game.eventHandler call) (other.eventHandler call) := by
  rw [eventHandler_eq, eventHandler_eq, twins.mode]
  split
  · exact run_related Twins (fun _ _ input twins => twins.handle input) twins
  · exact twins

theorem twins_confirm (lowest : game.lowestHiScore = other.lowestHiScore) (rounds rand : Nat) :
    Twins (game.confirm rounds rand) (other.confirm rounds rand) := by
  obtain ⟨plays, sound⟩ := @play_resetGame rand { game with mode := .game } rounds
  obtain ⟨otherPlays, otherSound⟩ := @play_resetGame rand { other with mode := .game } rounds
  exact
    { sound := sound
      otherSound := otherSound
      play := by
        rw [confirm, confirm, plays, otherPlays]
        exact ⟨⟨game.ws, rfl⟩, fun ended => by cases ended⟩
      mouse := rfl
      mode := rfl
      lowest := lowest }

/-- What a player can tell of a game. The winner counts once there is one. -/
structure Observation where
  buttonsSize : Nat
  guessed : Nat
  isPlayer1 : Bool
  timeLeftForClick : Int
  vsWasPressed : Bool
  playerScore : Nat
  xPos : Nat
  yPos : Nat
  gameEnd : Bool
  mode : GameModes
  ws : Option Winners
deriving DecidableEq, Repr

def observe (game : Game) : Observation where
  buttonsSize := game.buttonsSize
  guessed := game.guessed
  isPlayer1 := game.isPlayer1
  timeLeftForClick := game.timeLeftForClick
  vsWasPressed := game.vsWasPressed
  playerScore := game.playerScore
  xPos := game.mouse.xPos
  yPos := game.mouse.yPos
  gameEnd := game.gameEnd
  mode := game.mode
  ws := if game.gameEnd then some game.ws else none

/-- The arguments with which `click_button` is called in a run. -/
def clicksIn (game : Game) : List Call → List ButtonClick
  | [] => []
  | call :: rest =>
      (if game.mode = .game ∧ call.flags.gotMousePacket ∧ !game.gameEnd then
        [(game.mouse.update call.flags.mousePacket).click] else []) ++
      clicksIn (game.eventHandler call) rest

theorem clicksIn_cons (game : Game) (call : Call) (rest : List Call) :
    game.clicksIn (call :: rest) = game.clicksIn [call] ++ (game.eventHandler call).clicksIn rest := by
  simp only [clicksIn, List.append_nil]

/-- A call up to its click: the key has been handled and the mouse has moved. -/
def pointed (game : Game) (call : Call) : Game :=
  let game := if call.flags.gotKeyPress then game.gameUpdateStatusKey call.flags.keyboardPacket else game
  if call.flags.gotMousePacket ∧ !game.gameEnd then { game with mouse := game.mouse.update call.flags.mousePacket }
  else game

/-- Between that and the timer, a call handles the click that is listed and no other. -/
theorem eventHandler_clicksIn (playing : game.mode = .game) (call : Call) :
    game.eventHandler call =
      Data.run handle
        ((game.clicksIn [call]).foldl (fun game click => game.handleClick click call.clickRand) (game.pointed call))
        ((if call.flags.timerInterrupt then [.timer] else []) ++
          (if call.flags.rtcInterrupt then [.rtc call.tickRand] else [])) := by
  have keyed : ∃ mode, (if call.flags.gotKeyPress then game.gameUpdateStatusKey call.flags.keyboardPacket else game) =
      { game with mode } := by
    split
    · exact handle_key game call.flags.keyboardPacket
    · exact ⟨game.mode, rfl⟩
  obtain ⟨mode, keyed⟩ := keyed
  simp only [run_append, run_when, eventHandler, clicksIn, pointed, keyed, playing, if_true, true_and, List.append_nil]
  by_cases clicks : call.flags.gotMousePacket = true ∧ (!game.gameEnd) = true
  · have running : ¬ game.gameEnd = true := by simpa using clicks.2
    rw [if_pos clicks, if_pos clicks, if_pos clicks.1, gameUpdateStatusMouse, if_neg running]
    rfl
  · have silent : (if call.flags.gotMousePacket then
        gameUpdateStatusMouse { game with mode } call.flags.mousePacket call.clickRand else { game with mode }) =
        { game with mode } := by
      split
      · rename_i packet
        have ended : game.gameEnd = true := by simpa [packet] using clicks
        rw [gameUpdateStatusMouse, if_pos ended]
      · rfl
    rw [if_neg clicks, if_neg clicks, silent]
    rfl

theorem Twins.observe (twins : Twins game other) : game.observe = other.observe := by
  obtain ⟨winner, same⟩ := twins.play.1
  have size : game.buttonsSize = other.buttonsSize := by
    rw [← length_sequence, ← length_sequence, same]
  have guessed : game.guessed = other.guessed := congrArg Play.guessed same
  have isPlayer1 : game.isPlayer1 = other.isPlayer1 := congrArg Play.isPlayer1 same
  have timeLeft : game.timeLeftForClick = other.timeLeftForClick := congrArg Play.timeLeft same
  have pressed : game.vsWasPressed = other.vsWasPressed := congrArg Play.vsPressed same
  have score : game.playerScore = other.playerScore := congrArg Play.score same
  have ws : (if game.gameEnd then some game.ws else none) = if other.gameEnd then some other.ws else none := by
    rw [twins.gameEnd]
    split
    · rename_i ended
      exact congrArg some (twins.play.2 ended)
    · rfl
  unfold Game.observe
  rw [ws, size, guessed, isPlayer1, timeLeft, pressed, score, twins.gameEnd, twins.mouse, twins.mode]

theorem Twins.clicksIn (twins : Twins game other) (calls : List Call) :
    game.clicksIn calls = other.clicksIn calls := by
  induction calls generalizing game other with
  | nil => rfl
  | cons call rest ih =>
      simp only [Game.clicksIn, twins.mode, twins.gameEnd, twins.mouse, ih (twins.eventHandler call)]

/-- Nothing of what a program did before `reset_game` shows in the game. -/
theorem reset_isolates (game other : Game) (lowest : game.lowestHiScore = other.lowestHiScore)
    (rounds rand : Nat) (calls : List Call) :
    (∀ done, done <+: calls →
      (Data.run eventHandler (game.confirm rounds rand) done).observe =
        (Data.run eventHandler (other.confirm rounds rand) done).observe) ∧
    (game.confirm rounds rand).clicksIn calls = (other.confirm rounds rand).clicksIn calls := by
  have twins := twins_confirm lowest rounds rand
  refine ⟨fun done _ => Twins.observe ?_, twins.clicksIn calls⟩
  exact run_related Twins (fun _ _ call twins => twins.eventHandler call) twins

/-- The red button is clicked in a program that has just been started and in one
whose last game was a tie. -/
def redCall : Call := .ofMouse (some { lb := true, xOv := false, yOv := false, deltaX := 0, deltaY := 208 }) false

theorem reset_isolates_tied :
    (Data.run eventHandler (confirm (.boot 3 fun _ => none) 2 0) [redCall]).observe =
      (Data.run eventHandler
        (confirm { boot 3 fun _ => some .redB with ws := .tie, guessed := 2, gameEnd := true } 2 0)
        [redCall]).observe ∧
    (confirm (.boot 3 fun _ => none) 2 0).clicksIn [redCall] = [.redB] :=
  ⟨(reset_isolates (.boot 3 fun _ => none)
    { boot 3 fun _ => some .redB with ws := .tie, guessed := 2, gameEnd := true } rfl 2 0 [redCall]).1 [redCall]
    List.prefix_rfl, by decide⟩

end Game

end SimonVs
