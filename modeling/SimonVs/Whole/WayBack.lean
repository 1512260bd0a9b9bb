import SimonVs.Data.Strategy
import SimonVs.Loop.ResultScreen
import SimonVs.Session.Handshake
import SimonVs.Whole.Boxes

namespace SimonVs

open Data Rules Serial

namespace Program

variable {width : XpmImage → UInt16} {program : Program}

/-- What can be done from outside. -/
inductive Stimulus where
  | release (key : Nat)
  | mouse (packet : Packet)
  | alarm
  | byte (data : UInt8)

def Stimulus.flags : Stimulus → Flags
  | .release key => { (Call.ofMouse none false).flags with gotKeyPress := true, keyboardPacket := { key, down := false } }
  | .mouse packet => (Call.ofMouse (some packet) false).flags
  | .alarm => (Call.ofMouse none true).flags
  | .byte data =>
      { (Call.ofMouse none false).flags with uartInterrupt := true, uartTypeInterrupt := .recData, dataPacket := data }

/-- The call for one notification. The transmitter has sent its byte by then. -/
def respond (width : XpmImage → UInt16) (program : Program) (stimulus : Stimulus) (draws : Draws) : Program :=
  program.step width (stimulus.flags, { draws with transmitted := true })

/-- Some notifications lead back to the menu, whatever the calls draw. -/
def Returns (width : XpmImage → UInt16) (program : Program) : Prop :=
  Leads (respond width) (fun program => program.mode = .menu) program

theorem Orderly.respond (orderly : program.Orderly width) (elsewhere : program.mode ≠ .highscore)
    (stimulus : Stimulus) (draws : Draws) : (program.respond width stimulus draws).Orderly width :=
  orderly.step fun visiting => absurd visiting elsewhere

theorem returns_shown (shown : program.mode = .leaderboard ∨ program.mode = .howToPlay) : program.Returns width := by
  refine .move (.release backspace) fun draws => .done ?_
  rcases shown with shown | shown
  · simp [Program.respond, step, eventHandler, shown, Stimulus.flags, backUpdateStatus]
  · simp [Program.respond, step, eventHandler, shown, Stimulus.flags, backUpdateStatus]

theorem respond_release (visiting : program.mode = .highscore) (key : Nat) (draws : Draws) :
    program.respond width (.release key) draws =
      (program.transmit true).highscoreUpdateStatus width { key, down := false } { draws with transmitted := true } := by
  rw [Program.respond, step_highscore visiting]
  rfl

/-- ENTER files a name that is not empty. -/
theorem enters_name (visiting : program.mode = .highscore) (named : program.highScore.strlen ≠ 0) (draws : Draws) :
    (program.respond width (.release enter) draws).mode = .leaderboard := by
  rw [respond_release visiting, highscoreUpdateStatus, highScore_transmit, mode_transmit]
  have cases := HighScore.highscoreUpdateStatus_cases width { program.highScore with mode := program.mode }
    { key := { key := enter, down := false }, date := draws.date, uninitialised := draws.dateBlock }
  have releases : HighScore.Typed.Releases
      { key := { key := enter, down := false }, date := draws.date, uninitialised := draws.dateBlock }
      (UInt8.ofNat enter) := ⟨rfl, rfl⟩
  rcases cases with ⟨other, _⟩ | ⟨_, _, same⟩ | ⟨other, _⟩ | ⟨other, _⟩
  · exact absurd releases other
  · have filed : HighScore.strlen { program.highScore with mode := program.mode } ≠ 0 := named
    dsimp only
    rw [same, HighScore.enterName, if_pos filed]
  · exact absurd releases other
  · exact absurd releases other

theorem typed_a (width : XpmImage → UInt16) (screen : HighScore) (date : RtcDate) (uninitialised : Chars) :
    screen.highscoreUpdateStatus width { key := { key := 'a'.toNat, down := false }, date, uninitialised } =
      ((screen.typeChar width (ascii 'a')).1, (screen.typeChar width (ascii 'a')).2) := by
  have other : UInt8.ofNat 'a'.toNat ≠ UInt8.ofNat enter ∧ UInt8.ofNat 'a'.toNat ≠ UInt8.ofNat backspace ∧
      isAlphaNumberical (UInt8.ofNat 'a'.toNat) = true := by decide
  simp only [HighScore.highscoreUpdateStatus, HighScore.Typed.keyChar, Bool.false_eq_true, other.1, other.2.1,
    other.2.2, if_false, if_true, List.nil_append, List.append_nil]
  rfl

theorem types_a (visiting : program.mode = .highscore) (unnamed : program.highScore.strlen = 0)
    (taken : (program.highScore.newHiscore.addToCenteredTextBox width (ascii 'a')).2 = true) (draws : Draws) :
    (program.respond width (.release 'a'.toNat) draws).mode = .highscore ∧
    (program.respond width (.release 'a'.toNat) draws).highScore.strlen ≠ 0 := by
  have text := @HighScore.text_typeChar width { program.highScore with mode := program.mode } (ascii 'a') (by decide)
    (Nat.lt_of_le_of_lt (Nat.le_of_eq unnamed) (by decide))
  have mode : (HighScore.typeChar width { program.highScore with mode := program.mode } (ascii 'a')).1.mode =
      program.mode := by
    rw [HighScore.typeChar]
    dsimp only
    split <;> rfl
  rw [if_pos taken] at text
  rw [respond_release visiting, highscoreUpdateStatus, highScore_transmit, mode_transmit, typed_a]
  refine ⟨mode.trans visiting, ?_⟩
  dsimp only
  rw [HighScore.strlen, text, List.length_append, List.length_singleton]
  exact Nat.succ_ne_zero _

variable (narrow : (width (getPropFromChar (ascii 'a'))).toNat ≤ 400)

include narrow

theorem returns_highscore (orderly : program.Orderly width) (visiting : program.mode = .highscore) :
    program.Returns width := by
  by_cases named : program.highScore.strlen = 0
  · -- Without a name, a letter first: the box is empty as well.
    have naming := orderly.naming visiting
    have empty : program.highScore.newHiscore.held = [] := by
      refine List.length_eq_zero_iff.mp ?_
      have shown := naming.shown
      omega
    have taken := naming.placed.accepts empty (by rw [naming.ten]; decide) narrow
    refine .move (.release 'a'.toNat) fun draws => ?_
    have after := types_a visiting named taken draws
    exact .move (.release enter) fun draws => returns_shown (.inl (enters_name after.1 after.2 draws))
  · exact .move (.release enter) fun draws => returns_shown (.inl (enters_name visiting named draws))

/-- A game has been left. -/
theorem returns_left (orderly : program.Orderly width)
    (left : program.mode = .leaderboard ∨ program.mode = .highscore) : program.Returns width := by
  rcases left with shown | visiting
  · exact returns_shown (.inl shown)
  · exact returns_highscore narrow orderly visiting

omit narrow

theorem gameStep_game (uninitialised : Vector XpmImage 20) (input : Game.Input) :
    (program.gameStep uninitialised input).game = program.gameView.handle input := by
  simp only [gameStep, onGame, leaveTo]
  repeat' split
  all_goals rfl

theorem gameStep_mode (playing : program.mode = .game) (uninitialised : Vector XpmImage 20) (input : Game.Input) :
    (program.gameStep uninitialised input).mode = (program.gameView.handle input).mode := by
  simp only [gameStep, onGame, leaveTo]
  split
  · next stays => exact playing.trans stays.symm
  · split
    · next opens => exact opens.symm
    · rfl

/-- The call that a stimulus makes of the game. -/
def inputOf (draws : Draws) : Stimulus → Option Game.Input
  | .release key => some (.key { key, down := false })
  | .mouse packet => some (.mouse packet draws.clickRand)
  | .alarm => some (.rtc draws.tickRand)
  | .byte _ => none

theorem respond_game (playing : program.mode = .game) {stimulus : Stimulus} {draws : Draws} {input : Game.Input}
    (called : inputOf draws stimulus = some input) :
    (program.respond width stimulus draws).game = program.gameView.handle input ∧
    (program.respond width stimulus draws).mode = (program.gameView.handle input).mode := by
  have responded : program.respond width stimulus draws = (program.transmit true).gameStep draws.hiscoreBox input := by
    rw [Program.respond, step_game playing]
    cases stimulus with
    | release key =>
        cases called
        rfl
    | mouse packet =>
        cases called
        rfl
    | alarm =>
        cases called
        rfl
    | byte data => cases called
  have still : (program.transmit true).mode = .game := (mode_transmit _ _).trans playing
  rw [responded, gameStep_game, gameStep_mode still]
  exact ⟨rfl, rfl⟩

/-- Alarms until the game is lost. A VS window that runs out gives the other
player a new clock. -/
def remaining (game : Game) : Nat := game.timeLeftForClick.toNat + (if game.vsWasPressed then 10 else 0)

theorem alarm_game {game : Game} (playing : game.mode = .game) (sound : game.Sound) (timed : 0 ≤ game.timeLeftForClick)
    (rand : Nat) :
    (game.handle (.rtc rand)).mode ≠ .game ∨
    0 ≤ (game.handle (.rtc rand)).timeLeftForClick ∧ remaining (game.handle (.rtc rand)) < remaining game := by
  have mode : (game.countDown rand).mode = .game := (Game.countDown_rest rand).2.1.trans playing
  rw [Game.handle, Game.gameUpdateStatusRtc]
  by_cases ended : (game.countDown rand).gameEnd = true
  · exact .inl fun stays => (Game.leaveIfEnded_stays mode).mp stays ended
  right
  rw [Game.leaveIfEnded, if_neg ended]
  rw [Game.countDown] at ended ⊢
  by_cases expired : game.timeLeftForClick = 0 ∧ (!game.vsWasPressed) = true
  · rw [if_pos expired] at ended
    exact absurd rfl ended
  rw [if_neg expired]
  by_cases window : game.timeLeftForClick = 0 ∧ game.isVsRound = true ∧ game.vsWasPressed = true
  · have open4 : remaining game = 10 := by simp [remaining, window.1, window.2.2]
    have fresh : 0 ≤ interval ∧ interval.toNat < 10 := by decide
    rw [if_pos window, open4]
    exact fresh
  rw [if_neg window]
  by_cases positive : game.timeLeftForClick > 0
  · rw [if_pos positive]
    refine ⟨Int.sub_nonneg_of_le positive, ?_⟩
    simp only [remaining]
    omega
  · have zero : game.timeLeftForClick = 0 := by omega
    have pressed : game.vsWasPressed = true := by simpa [zero] using expired
    exact absurd ⟨zero, sound.window pressed, pressed⟩ window

theorem alarm_ended {game : Game} (playing : game.mode = .game) (ended : game.gameEnd = true) (rand : Nat) :
    (game.handle (.rtc rand)).mode ≠ .game := by
  have mode : (game.countDown rand).mode = .game := (Game.countDown_rest rand).2.1.trans playing
  have still : (game.countDown rand).gameEnd = true := by
    rw [Game.countDown]
    repeat' split
    all_goals first | rfl | exact ended
  rw [Game.handle, Game.gameUpdateStatusRtc]
  exact fun stays => (Game.leaveIfEnded_stays mode).mp stays still

/-- As far towards the target as one packet goes. -/
def towards (position target : Nat) : Int := max (-255) (min 255 ((target : Int) - position))

theorem moveAxis_towards {position target limit : Nat} (below : target < limit) (inside : position ≤ limit)
    (small : limit < 65536) : (moveAxis position (towards position target) limit : Int) =
      position + towards position target := by
  have range : min (position : Int) target ≤ position + towards position target ∧
      position + towards position target ≤ max (position : Int) target ∧
      position + towards position target < limit := by
    simp only [towards]
    omega
  rw [moveAxis, if_neg (by omega), if_neg (by omega), toUInt16]
  omega

def distance (mouse : MouseState) : Nat :=
  ((mouse.xPos : Int) - 400).natAbs + ((mouse.yPos : Int) - 92).natAbs

/-- A packet with the button up, towards the red button. -/
def approach (mouse : MouseState) : Packet :=
  { lb := false, xOv := false, yOv := false, deltaX := towards mouse.xPos 400, deltaY := -towards mouse.yPos 92 }

theorem update_approach {mouse : MouseState} (onScreen : mouse.OnScreen) :
    (mouse.update (approach mouse)).leftHold = false ∧ (mouse.update (approach mouse)).leftClick = false ∧
    (distance mouse = 0 → distance (mouse.update (approach mouse)) = 0) ∧
    (distance mouse ≠ 0 → distance (mouse.update (approach mouse)) < distance mouse) := by
  have insideX : mouse.xPos ≤ 758 := by
    have := onScreen.x
    simp only [modeWidth, mouseWidth] at this
    omega
  have insideY : mouse.yPos ≤ 556 := by
    have := onScreen.y
    simp only [modeHeight, mouseHeight] at this
    omega
  have x := @moveAxis_towards mouse.xPos 400 758 (by decide) insideX (by decide)
  have y := @moveAxis_towards mouse.yPos 92 556 (by decide) insideY (by decide)
  have newX : ((mouse.update (approach mouse)).xPos : Int) = mouse.xPos + towards mouse.xPos 400 := x
  have newY : ((mouse.update (approach mouse)).yPos : Int) = mouse.yPos + towards mouse.yPos 92 := by
    rw [← y]
    have turned : - -towards mouse.yPos 92 = towards mouse.yPos 92 := Int.neg_neg _
    simp only [MouseState.update, MouseState.move, MouseState.press, approach, turned, Bool.false_eq_true, if_false]
    rfl
  refine ⟨rfl, rfl, ?_, ?_⟩
  · simp only [distance, newX, newY, towards]
    omega
  · simp only [distance, newX, newY, towards]
    omega

/-- Steps of the cursor, and one for letting the button go. -/
def pathLength (mouse : MouseState) : Nat := 2 * distance mouse + (if mouse.leftHold then 1 else 0)

theorem pathLength_approach {mouse : MouseState} (onScreen : mouse.OnScreen)
    (elsewhere : ¬ (distance mouse = 0 ∧ mouse.leftHold = false)) :
    pathLength { mouse.update (approach mouse) with leftClick := false } < pathLength mouse := by
  obtain ⟨up, _, arrived, closer⟩ := update_approach onScreen
  have after : pathLength { mouse.update (approach mouse) with leftClick := false } =
      2 * distance (mouse.update (approach mouse)) := by
    simp only [pathLength, up, Bool.false_eq_true, if_false]
    rfl
  rw [after, pathLength]
  by_cases away : distance mouse = 0
  · have held : mouse.leftHold = true := by simpa [away] using elsewhere
    rw [arrived away, away, held]
    decide
  · have := closer away
    omega

def pressRed : Packet := { lb := true, xOv := false, yOv := false, deltaX := 0, deltaY := 0 }

theorem click_red {mouse : MouseState} (here : distance mouse = 0) (up : mouse.leftHold = false) :
    (mouse.update pressRed).click = .redB := by
  have x : mouse.xPos = 400 := by
    simp only [distance] at here
    omega
  have y : mouse.yPos = 92 := by
    simp only [distance] at here
    omega
  obtain ⟨xPos, yPos, leftHold, leftClick⟩ := mouse
  subst x y up
  cases leftClick <;> decide

/-- Moving the cursor does nothing to the play. -/
theorem approach_game {game : Game} (sound : game.Sound) (running : game.gameEnd = false)
    (onScreen : game.mouse.OnScreen) (rand : Nat) :
    (game.handle (.mouse (approach game.mouse) rand)).play = game.play ∧
    (game.handle (.mouse (approach game.mouse) rand)).mode = game.mode ∧
    (game.handle (.mouse (approach game.mouse) rand)).mouse =
      { game.mouse.update (approach game.mouse) with leftClick := false } := by
  have none : (game.mouse.update (approach game.mouse)).click = .noButton := by
    rw [MouseState.click, (update_approach onScreen).2.1]
    rfl
  have plays := (Game.play_handle sound (.mouse (approach game.mouse) rand)).1
  have idle : game.moveOf (.mouse (approach game.mouse) rand) = .idle := by
    simp [Game.moveOf, Game.clickMove, none]
  have moved : Game.Sound { game with mouse := game.mouse.update (approach game.mouse) } := ⟨sound.within, sound.window⟩
  obtain ⟨mouse, mode, _⟩ := Game.handleClick_rest moved .noButton rand
  rw [idle] at plays
  refine ⟨plays, ?_, ?_⟩
  · rw [Game.handle, Game.gameUpdateStatusMouse, if_neg (Bool.eq_false_iff.mp running)]
    dsimp only
    rw [none]
    exact mode
  · rw [Game.handle, Game.gameUpdateStatusMouse, if_neg (Bool.eq_false_iff.mp running)]
    dsimp only
    rw [none]
    exact mouse

/-- A click on the red button when the sequence is complete ends the game or
starts the clock. -/
theorem red_game {game : Game} (sound : game.Sound) (regular : game.play.Regular) (running : game.gameEnd = false)
    (untimed : game.timeLeftForClick = -1) (here : distance game.mouse = 0) (up : game.mouse.leftHold = false)
    (rand : Nat) :
    (game.handle (.mouse pressRed rand)).gameEnd = true ∨ 0 ≤ (game.handle (.mouse pressRed rand)).timeLeftForClick := by
  have complete : game.play.Complete := regular.unlimited.mp untimed
  have closed : game.play.vsPressed = false := by
    cases pressed : game.play.vsPressed with
    | false => rfl
    | true => exact absurd complete (regular.unfinished pressed)
  have verdict := @Play.verdict_closed game.play .redB closed fun _ _ => by decide
  have plays := (Game.play_handle sound (.mouse pressRed rand)).1
  have clicks : game.moveOf (.mouse pressRed rand) = .click .redB (Game.choosesVs rand) := by
    simp [Game.moveOf, Game.clickMove, click_red here up, running]
  rw [if_pos complete] at verdict
  rw [clicks, Play.move, Play.click] at plays
  by_cases full : game.play.guessed = game.play.maxSize
  · rw [verdict, if_pos full] at plays
    exact .inl (congrArg Play.ended plays)
  · right
    rw [verdict, if_neg full] at plays
    have clock := congrArg Play.timeLeft plays
    have started : (game.handle (.mouse pressRed rand)).timeLeftForClick = interval := clock
    rw [started]
    decide

theorem mode_mouse (game : Game) (packet : Packet) (rand : Nat) : (game.handle (.mouse packet rand)).mode = game.mode := by
  rw [Game.handle, Game.gameUpdateStatusMouse]
  split
  · rfl
  · exact Game.mode_handleClick _ _ rand

variable (narrow : (width (getPropFromChar (ascii 'a'))).toNat ≤ 400)

include narrow

/-- A call that does not stay in the game has left it. -/
theorem returns_exit (orderly : program.Orderly width) (playing : program.mode = .game) {stimulus : Stimulus}
    {draws : Draws} {input : Game.Input} (called : inputOf draws stimulus = some input)
    (gone : (program.gameView.handle input).mode ≠ .game) : (program.respond width stimulus draws).Returns width := by
  have still := orderly.respond (by simp [playing]) stimulus draws
  obtain ⟨_, mode⟩ := @respond_game width program playing stimulus draws input called
  have exit := (Game.handle_exit program.gameView input).resolve_left gone
  refine returns_left narrow still ?_
  rw [mode, exit]
  exact Game.exitMode_either _ _ _

theorem returns_ended (orderly : program.Orderly width) (playing : program.mode = .game)
    (ended : program.game.gameEnd = true) : program.Returns width :=
  .move .alarm fun _ => returns_exit narrow orderly playing rfl (@alarm_ended program.gameView rfl ended _)

theorem returns_timed (orderly : program.Orderly width) (playing : program.mode = .game)
    (timed : 0 ≤ program.game.timeLeftForClick) : program.Returns width := by
  refine leads_of_rank (fun program => program.Orderly width ∧ program.mode = .game ∧ 0 ≤ program.game.timeLeftForClick)
    (fun program => remaining program.game) ?_ ⟨orderly, playing, timed⟩
  rintro program ⟨orderly, playing, timed⟩
  refine ⟨.alarm, fun draws => ?_⟩
  have still := orderly.respond (by simp [playing]) .alarm draws
  obtain ⟨game, mode⟩ := @respond_game width program playing .alarm draws (.rtc draws.tickRand) rfl
  have genuine := (orderly.fair.playing playing).2.view .game program.alarm program.board.getLowestHiScore
  have ticks := @alarm_game program.gameView rfl genuine.accounted.sound timed draws.tickRand
  by_cases stays : (program.gameView.handle (.rtc draws.tickRand)).mode = .game
  · obtain ⟨goesOn, smaller⟩ := ticks.resolve_left (not_not_intro stays)
    refine .inr ⟨⟨still, mode.trans stays, ?_⟩, ?_⟩
    · rw [game]
      exact goesOn
    · rw [game]
      exact smaller
  · exact .inl (returns_exit narrow orderly playing rfl stays)

theorem returns_untimed (orderly : program.Orderly width) (playing : program.mode = .game)
    (running : program.game.gameEnd = false) (untimed : program.game.timeLeftForClick = -1) : program.Returns width := by
  refine leads_of_rank (fun program => program.Orderly width ∧ program.mode = .game ∧ program.game.gameEnd = false ∧
    program.game.timeLeftForClick = -1) (fun program => pathLength program.game.mouse) ?_
    ⟨orderly, playing, running, untimed⟩
  rintro program ⟨orderly, playing, running, untimed⟩
  have genuine := (orderly.fair.playing playing).2.view .game program.alarm program.board.getLowestHiScore
  have sound := genuine.accounted.sound
  by_cases there : distance program.game.mouse = 0 ∧ program.game.mouse.leftHold = false
  · refine ⟨.mouse pressRed, fun draws => .inl ?_⟩
    have still := orderly.respond (by simp [playing]) (.mouse pressRed) draws
    obtain ⟨game, mode⟩ := @respond_game width program playing (.mouse pressRed) draws _ rfl
    rw [mode_mouse] at mode
    have clicked := red_game sound (genuine.accounted.running running).1 running untimed there.1 there.2 draws.clickRand
    rcases clicked with ended | timed
    · exact returns_ended narrow still mode (by rw [game]; exact ended)
    · exact returns_timed narrow still mode (by rw [game]; exact timed)
  · refine ⟨.mouse (approach program.game.mouse), fun draws => .inr ?_⟩
    have still := orderly.respond (by simp [playing]) (.mouse (approach program.game.mouse)) draws
    obtain ⟨game, mode⟩ := @respond_game width program playing (.mouse (approach program.game.mouse)) draws _ rfl
    obtain ⟨play, stays, mouse⟩ := @approach_game program.gameView sound running genuine.onScreen draws.clickRand
    rw [mode_mouse] at mode
    refine ⟨⟨still, mode, ?_, ?_⟩, ?_⟩
    · rw [game]
      exact (congrArg Play.ended play).trans running
    · rw [game]
      exact (congrArg Play.timeLeft play).trans untimed
    · have moved : (program.respond width (.mouse (approach program.game.mouse)) draws).game.mouse =
          { program.game.mouse.update (approach program.game.mouse) with leftClick := false } := by
        rw [game]
        exact mouse
      rw [moved]
      exact pathLength_approach genuine.onScreen there

theorem returns_game (orderly : program.Orderly width) (playing : program.mode = .game) : program.Returns width := by
  cases ended : program.game.gameEnd with
  | true => exact returns_ended narrow orderly playing ended
  | false =>
      have regular := ((orderly.fair.playing playing).2.accounted.running ended).1
      by_cases untimed : program.game.timeLeftForClick = -1
      · exact returns_untimed narrow orderly playing ended untimed
      · have notBelow : -1 ≤ program.game.timeLeftForClick := regular.notBelow
        exact returns_timed narrow orderly playing (by omega)

omit narrow

theorem mpGameStep_mpGame (uninitialised : Vector XpmImage 20) (event : MpGame.PcEvent) :
    (program.mpGameStep uninitialised event).mpGame = program.mpGameView.happen event := by
  simp only [mpGameStep, onMpGame, leaveTo]
  repeat' split
  all_goals rfl

theorem mpGameStep_mode (playing : program.mode = .mpGame) (uninitialised : Vector XpmImage 20)
    (event : MpGame.PcEvent) :
    (program.mpGameStep uninitialised event).mode = (program.mpGameView.happen event).mode := by
  simp only [mpGameStep, onMpGame, leaveTo]
  split
  · next stays => exact playing.trans stays.symm
  · split
    · next opens => exact opens.symm
    · rfl

theorem respond_alarm (playing : program.mode = .mpGame) (draws : Draws) :
    (program.respond width .alarm draws).mode =
      ((program.transmit true).mpGameView.happen (.input .rtc)).mode := by
  have still : (program.transmit true).mode = .mpGame := (mode_transmit _ _).trans playing
  rw [Program.respond, step_mpGame playing]
  exact mpGameStep_mode still draws.hiscoreBox (.input .rtc)

/-- A received byte leaves the screen as it is. -/
theorem respond_byte (playing : program.mode = .mpGame) (data : UInt8) (draws : Draws) :
    (program.respond width (.byte data) draws).mpGame =
      (program.transmit true).mpGameView.happen (.uart data .recData) ∧
    (program.respond width (.byte data) draws).mode = .mpGame := by
  have still : (program.transmit true).mode = .mpGame := (mode_transmit _ _).trans playing
  have responded : program.respond width (.byte data) draws =
      (program.transmit true).mpGameStep draws.hiscoreBox (.uart data .recData) := by
    rw [Program.respond, step_mpGame playing]
    rfl
  rw [responded, mpGameStep_mpGame, mpGameStep_mode still]
  exact ⟨rfl, MpGame.mode_mpGameUpdateStatusUart _ data .recData⟩

theorem happen_waiting {game : MpGame} (unstarted : game.gameStarted = false) (data : UInt8) :
    game.happen (.uart data .recData) = game.startGame data false := by
  rw [MpGame.happen, MpGame.mpGameUpdateStatusUart]
  simp only [unstarted, Bool.not_false, if_true]

theorem thr_shiftOut (uart : Uart) : uart.shiftOut.thr = none := by
  rw [Uart.shiftOut]
  split
  · next none => exact none
  · rfl

section Returning

variable (narrow : (width (getPropFromChar (ascii 'a'))).toNat ≤ 400)

include narrow

theorem returns_mpEnded (orderly : program.Orderly width) (playing : program.mode = .mpGame)
    (ended : program.mpGame.gameEnd = true) : program.Returns width := by
  refine .move .alarm fun draws => returns_left narrow (orderly.respond (by simp [playing]) .alarm draws) ?_
  have leaves : (program.transmit true).mpGameView.happen (.input .rtc) =
      MpGame.leave { (program.transmit true).mpGameView with alarm := .everySecond } := by
    have isOver : (program.transmit true).mpGameView.gameEnd = true := ended
    simp [MpGame.happen, MpGame.handle, MpGame.mpGameUpdateStatusRtc, MpGame.leaveIfEnded, isOver]
  rw [respond_alarm playing, leaves, MpGame.leave_eq]
  exact Game.exitMode_either _ _ _

theorem returns_mpStarted (orderly : program.Orderly width) (playing : program.mode = .mpGame)
    (started : program.mpGame.gameStarted = true) : program.Returns width := by
  refine .move (.byte Coms.lose.toByte) fun draws => ?_
  have still := orderly.respond (by simp [playing]) (.byte Coms.lose.toByte) draws
  obtain ⟨mpGame, mode⟩ := @respond_byte width program playing Coms.lose.toByte draws
  refine returns_mpEnded narrow still mode ?_
  have begun : (program.transmit true).mpGameView.gameStarted = true := started
  rw [mpGame, MpGame.happen, MpGame.mpGameUpdateStatusUart]
  simp only [begun, Bool.not_true, Bool.false_eq_true, if_false]
  rfl

theorem returns_mpHost (orderly : program.Orderly width) (playing : program.mode = .mpGame)
    (unstarted : program.mpGame.gameStarted = false) (hosting : program.mpGame.isHost = true) :
    program.Returns width := by
  refine .move (.byte Coms.ack.toByte) fun draws => ?_
  have still := orderly.respond (by simp [playing]) (.byte Coms.ack.toByte) draws
  obtain ⟨mpGame, mode⟩ := @respond_byte width program playing Coms.ack.toByte draws
  refine returns_mpStarted narrow still mode ?_
  have host : (program.transmit true).mpGameView.isHost = true := hosting
  rw [mpGame, @happen_waiting (program.transmit true).mpGameView unstarted, MpGame.startGame_host_ack host]

/-- The second byte of the number of rounds starts the game of a client. -/
theorem returns_mpAsked (orderly : program.Orderly width) (playing : program.mode = .mpGame)
    (unstarted : program.mpGame.gameStarted = false) (connecting : program.mpGame.isHost = false)
    (asked : program.mpGame.receivedNoBytes ≠ 0) : program.Returns width := by
  refine .move (.byte 0) fun draws => ?_
  have still := orderly.respond (by simp [playing]) (.byte 0) draws
  obtain ⟨mpGame, mode⟩ := @respond_byte width program playing 0 draws
  refine returns_mpStarted narrow still mode ?_
  have client : (program.transmit true).mpGameView.isHost = false := connecting
  have second : (program.transmit true).mpGameView.receivedNoBytes ≠ 0 := asked
  have empty : (program.transmit true).mpGameView.uart.thr = none := thr_shiftOut program.mpGame.uart
  rw [mpGame, @happen_waiting (program.transmit true).mpGameView unstarted]
  simp [MpGame.startGame, client, second, MpGame.mpResetGame, MpGame.mpIsVSRound, MpGame.serialWriteByte,
    Uart.checkThrEmtpy, empty]

theorem returns_mpGame (orderly : program.Orderly width) (playing : program.mode = .mpGame) :
    program.Returns width := by
  cases ended : program.mpGame.gameEnd with
  | true => exact returns_mpEnded narrow orderly playing ended
  | false =>
      cases started : program.mpGame.gameStarted with
      | true => exact returns_mpStarted narrow orderly playing started
      | false =>
          cases hosting : program.mpGame.isHost with
          | true => exact returns_mpHost narrow orderly playing started hosting
          | false =>
              by_cases asked : program.mpGame.receivedNoBytes = 0
              · refine .move (.byte 0) fun draws => ?_
                have still := orderly.respond (by simp [playing]) (.byte 0) draws
                obtain ⟨mpGame, mode⟩ := @respond_byte width program playing 0 draws
                have client : (program.transmit true).mpGameView.isHost = false := hosting
                have first : (program.transmit true).mpGameView.receivedNoBytes = 0 := asked
                rw [@happen_waiting (program.transmit true).mpGameView started, MpGame.startGame_client_first client first]
                  at mpGame
                exact returns_mpAsked narrow still mode (by rw [mpGame]; exact started)
                  (by rw [mpGame]; exact hosting) (by rw [mpGame]; simp)
              · exact returns_mpAsked narrow orderly playing started hosting asked

end Returning

theorem respond_rounds (asking : program.mode = .numRounds) (key : Nat) (draws : Draws) :
    program.respond width (.release key) draws =
      (program.transmit true).numberOfRoundsUpdateStatus width { key, down := false } draws.resetRand := by
  rw [Program.respond, step, eventHandler]
  simp only [mode_transmit, asking, Stimulus.flags, if_true]

/-- ENTER starts a game if a number is shown. -/
theorem starts_game (asking : program.mode = .numRounds) (value : program.numberOfRounds.numRoundsValue ≠ 0)
    (draws : Draws) : (program.respond width (.release enter) draws).Playing := by
  have numberOfRounds : (program.transmit true).numberOfRounds = program.numberOfRounds := rfl
  rw [respond_rounds asking, numberOfRoundsUpdateStatus, numberOfRounds]
  dsimp only
  rw [NumberOfRounds.confirms_value value]
  cases program.numberOfRounds.isMp with
  | false => exact .inl rfl
  | true => exact .inr rfl

/-- What a key that confirms nothing does. -/
theorem types_key (asking : program.mode = .numRounds) {key : Nat} (other : UInt8.ofNat key ≠ 10) (draws : Draws) :
    (program.respond width (.release key) draws).mode = .numRounds ∧
    (program.respond width (.release key) draws).numberOfRounds =
      (program.numberOfRounds.numberOfRoundsUpdateStatus width { key, down := false }).1 := by
  have confirms : (program.numberOfRounds.numberOfRoundsUpdateStatus width { key, down := false }).2 = none :=
    NumberOfRounds.confirms_nothing other
  have numberOfRounds : (program.transmit true).numberOfRounds = program.numberOfRounds := rfl
  rw [respond_rounds asking, numberOfRoundsUpdateStatus, numberOfRounds]
  dsimp only
  rw [confirms]
  exact ⟨asking, rfl⟩

theorem update_one (screen : NumberOfRounds) :
    (screen.numberOfRoundsUpdateStatus width { key := '1'.toNat, down := false }).1 = screen.addDigit width (ascii '1') := by
  have other : isNumerical (UInt8.ofNat '1'.toNat) = true ∧ UInt8.ofNat '1'.toNat ≠ UInt8.ofNat backspace := by decide
  simp only [NumberOfRounds.numberOfRoundsUpdateStatus, Bool.false_eq_true, other.1, other.2, if_false, if_true]
  rfl

theorem update_backspace (screen : NumberOfRounds) :
    (screen.numberOfRoundsUpdateStatus width { key := backspace, down := false }).1 = screen.deleteDigit width := by
  have other : isNumerical (UInt8.ofNat backspace) = false := by decide
  simp only [NumberOfRounds.numberOfRoundsUpdateStatus, Bool.false_eq_true, other, if_false, if_true]

section Returning

variable (narrow : (width (getPropFromChar (ascii 'a'))).toNat ≤ 400)
  (narrowOne : (width (getPropFromChar (ascii '1'))).toNat ≤ 400)

include narrow

theorem returns_playing (orderly : program.Orderly width) (playing : program.Playing) : program.Returns width := by
  rcases playing with playing | playing
  · exact returns_game narrow orderly playing
  · exact returns_mpGame narrow orderly playing

theorem returns_value (orderly : program.Orderly width) (asking : program.mode = .numRounds)
    (value : program.numberOfRounds.numRoundsValue ≠ 0) : program.Returns width :=
  .move (.release enter) fun draws =>
    returns_playing narrow (orderly.respond (by simp [asking]) _ draws) (starts_game asking value draws)

include narrowOne

theorem returns_rounds (orderly : program.Orderly width) (asking : program.mode = .numRounds) :
    program.Returns width := by
  refine leads_of_rank (fun program => program.Orderly width ∧ program.mode = .numRounds)
    (fun program => program.numberOfRounds.numRounds.held.length) ?_ ⟨orderly, asking⟩
  rintro program ⟨orderly, asking⟩
  have placed := orderly.rounds asking
  have shows := orderly.fair.asking asking
  by_cases value : program.numberOfRounds.numRoundsValue = 0
  · by_cases empty : program.numberOfRounds.numRounds.held = []
    · refine ⟨.release '1'.toNat, fun draws => .inl ?_⟩
      obtain ⟨mode, numberOfRounds⟩ := @types_key width program asking '1'.toNat (by decide) draws
      have taken := placed.accepts empty (by rw [shows.three]; decide) narrowOne
      refine returns_value narrow (orderly.respond (by simp [asking]) _ draws) mode ?_
      rw [numberOfRounds, update_one, NumberOfRounds.addDigit]
      dsimp only
      rw [if_pos taken, value]
      decide
    · refine ⟨.release backspace, fun draws => .inr ?_⟩
      obtain ⟨mode, numberOfRounds⟩ := @types_key width program asking backspace (by decide) draws
      refine ⟨⟨orderly.respond (by simp [asking]) _ draws, mode⟩, ?_⟩
      rw [numberOfRounds, update_backspace, NumberOfRounds.deleteDigit]
      dsimp only
      rcases TextBox.remove_cases width placed.centred.sized with ⟨none, _⟩ | ⟨_, img, removed⟩
      · exact absurd (TextBox.held_eq_nil none) empty
      · rw [removed.held, List.length_append, List.length_singleton]
        exact Nat.lt_succ_self _
  · refine ⟨.release enter, fun draws => .inl ?_⟩
    exact returns_playing narrow (orderly.respond (by simp [asking]) _ draws) (starts_game asking value draws)

theorem returns_host (orderly : program.Orderly width) (host : program.mode = .host) : program.Returns width := by
  refine .move (.release enter) fun draws => ?_
  have still := orderly.respond (by simp [host]) (.release enter) draws
  have goes : (program.respond width (.release enter) draws).mode = .numRounds ∨
      (program.respond width (.release enter) draws).mode = .mpGame := by
    have others : UInt8.ofNat enter ≠ UInt8.ofNat upArrow ∧ UInt8.ofNat enter ≠ ascii 'w' ∧
        UInt8.ofNat enter ≠ UInt8.ofNat downArrow ∧ UInt8.ofNat enter ≠ ascii 's' ∧ UInt8.ofNat enter = 10 := by decide
    have hostPosition : (program.transmit true).hostPosition = program.hostPosition := rfl
    rw [Program.respond, step, eventHandler]
    simp only [mode_transmit, host, Stimulus.flags, hostUpdateStatus, others, hostPosition, if_true, if_false,
      Bool.false_eq_true]
    cases program.hostPosition with
    | hostSelectHost => exact .inl rfl
    | hostSelectConnect => exact .inr rfl
  rcases goes with asking | playing
  · exact returns_rounds narrow narrowOne still asking
  · exact returns_mpGame narrow still playing

theorem returns_orderly (orderly : program.Orderly width) (running : program.mode ≠ .exit) : program.Returns width := by
  cases mode : program.mode with
  | menu => exact .done mode
  | host => exact returns_host narrow narrowOne orderly mode
  | howToPlay => exact returns_shown (.inr mode)
  | leaderboard => exact returns_shown (.inl mode)
  | numRounds => exact returns_rounds narrow narrowOne orderly mode
  | game => exact returns_game narrow orderly mode
  | mpGame => exact returns_mpGame narrow orderly mode
  | highscore => exact returns_highscore narrow orderly mode
  | exit => exact absurd mode running

end Returning

theorem orderly_boot (board : Leaderboard) (uart : Uart) (uninitialised : Nat → Memory.Cell)
    (images : Vector XpmImage 20) : (boot board uart uninitialised images).Orderly width := by
  have short : (Chars.text (.replicate 11 0)).length < 11 := by decide
  exact orderly_elsewhere (fair_boot board uart uninitialised images) (by simp [boot]) (by simp [boot]) short

/-- From every state of the program some notifications lead back to the menu,
whatever the calls find, unless the user has chosen to exit. -/
theorem way_back (width : XpmImage → UInt16) (narrow : (width (getPropFromChar (ascii 'a'))).toNat ≤ 400)
    (narrowOne : (width (getPropFromChar (ascii '1'))).toNat ≤ 400) (board : Leaderboard) (uart : Uart)
    (uninitialised : Nat → Memory.Cell) (images : Vector XpmImage 20) (events : List Event)
    (fits : Along (step width) Fits (boot board uart uninitialised images) events)
    (running : (run (step width) (boot board uart uninitialised images) events).mode ≠ .exit) :
    Leads (respond width) (fun program => program.mode = .menu)
      (run (step width) (boot board uart uninitialised images) events) := by
  have orderly : (run (step width) (boot board uart uninitialised images) events).Orderly width :=
    run_invariant (Orderly width) (fun _ _ orderly fits => orderly.step fits)
      (orderly_boot board uart uninitialised images) fits
  exact returns_orderly narrow narrowOne orderly running

/-- The screen that asks whether to host has no key for going back. -/
def atHost : List Event := [november quietFlags, releaseCall downArrow, releaseCall enter]

theorem way_back_host :
    (run (step HighScore.fixedWidth) booted atHost).mode = .host ∧
    Leads (respond HighScore.fixedWidth) (fun program => program.mode = .menu)
      (run (step HighScore.fixedWidth) booted atHost) :=
  ⟨by decide +kernel, way_back HighScore.fixedWidth (by decide) (by decide) .shipped (.idle true) (fun _ => none)
    HighScore.unusedImages atHost (by decide +kernel) (by decide +kernel)⟩

end Program

end SimonVs
