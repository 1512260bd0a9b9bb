import SimonVs.Program
import SimonVs.Session.Finished

namespace SimonVs

open Data

namespace Program

variable {width : XpmImage → UInt16} {program : Program} {flags : Flags} {draws : Draws} {event : Event}

def gameStep (uninitialised : Vector XpmImage 20) (program : Program) (input : Game.Input) : Program :=
  program.onGame (·.handle input) uninitialised

def mpGameStep (uninitialised : Vector XpmImage 20) (program : Program) (event : MpGame.PcEvent) : Program :=
  program.onMpGame (·.happen event) uninitialised

def pcEvents (flags : Flags) : List MpGame.PcEvent :=
  (if flags.gotKeyPress then [.input (.key flags.keyboardPacket)] else []) ++
  (if flags.gotMousePacket then [.input (.mouse flags.mousePacket)] else []) ++
  (if flags.timerInterrupt then [.input .timer] else []) ++
  (if flags.rtcInterrupt then [.input .rtc] else []) ++
  (if flags.uartInterrupt then [.uart flags.dataPacket flags.uartTypeInterrupt] else [])

def gameInputs (flags : Flags) (draws : Draws) : List Game.Input :=
  Game.inputs { flags, clickRand := draws.clickRand, tickRand := draws.tickRand }

theorem playGame_eq (program : Program) (flags : Flags) (draws : Draws) :
    program.playGame flags draws = run (gameStep draws.hiscoreBox) program (gameInputs flags draws) := by
  simp only [gameInputs, Game.inputs, Game.localInputs, run_append, run_when]
  rfl

theorem playMpGame_eq (program : Program) (flags : Flags) (draws : Draws) :
    program.playMpGame flags draws = run (mpGameStep draws.hiscoreBox) program (pcEvents flags) := by
  simp only [pcEvents, run_append, run_when]
  rfl

theorem transmit_eq (program : Program) (transmitted : Bool) :
    ∃ uart, program.transmit transmitted = { program with mpGame := { program.mpGame with uart := uart } } := by
  rw [transmit]
  split
  · exact ⟨_, rfl⟩
  · exact ⟨program.mpGame.uart, rfl⟩

@[simp] theorem mode_transmit (program : Program) (transmitted : Bool) :
    (program.transmit transmitted).mode = program.mode := by
  obtain ⟨uart, same⟩ := transmit_eq program transmitted
  rw [same]

@[simp] theorem highScore_transmit (program : Program) (transmitted : Bool) :
    (program.transmit transmitted).highScore = program.highScore := by
  obtain ⟨uart, same⟩ := transmit_eq program transmitted
  rw [same]

@[simp] theorem board_transmit (program : Program) (transmitted : Bool) :
    (program.transmit transmitted).board = program.board :=
  congrArg HighScore.board (highScore_transmit program transmitted)

theorem step_game (playing : program.mode = .game) :
    program.step width event =
      run (gameStep event.2.hiscoreBox) (program.transmit event.2.transmitted) (gameInputs event.1 event.2) := by
  rw [← playGame_eq, step, eventHandler]
  simp only [mode_transmit, playing]

theorem step_mpGame (playing : program.mode = .mpGame) :
    program.step width event =
      run (mpGameStep event.2.hiscoreBox) (program.transmit event.2.transmitted) (pcEvents event.1) := by
  rw [← playMpGame_eq, step, eventHandler]
  simp only [mode_transmit, playing]

theorem step_highscore (visiting : program.mode = .highscore) :
    program.step width event =
      if event.1.gotKeyPress then
        (program.transmit event.2.transmitted).highscoreUpdateStatus width event.1.keyboardPacket event.2
      else program.transmit event.2.transmitted := by
  rw [step, eventHandler]
  simp only [mode_transmit, visiting]

def Playing (program : Program) : Prop := program.mode = .game ∨ program.mode = .mpGame

theorem not_playing {screen : GameModes} (shown : program.mode = screen) (other : screen ≠ .game)
    (otherToo : screen ≠ .mpGame) : ¬ program.Playing := by
  rintro (playing | playing)
  · exact other (shown.symm.trans playing)
  · exact otherToo (shown.symm.trans playing)

/-- Everything a call can do. Of the numbers, only the positions in the menus and
the counter of the menu are left open. -/
inductive Moves (width : XpmImage → UInt16) (flags : Flags) (draws : Draws) (program : Program) : Program → Prop where
  | stay (outside : ¬ program.Playing) (count : Nat) (position : MenuSelection) (hostPosition : HostSelection) :
      Moves width flags draws program { program with count, position, hostPosition }
  | choose (menu : program.mode = .menu) (screen : GameModes)
      (screens : screen = .host ∨ screen = .howToPlay ∨ screen = .leaderboard ∨ screen = .exit) (count : Nat) :
      Moves width flags draws program { program with mode := screen, position := .selectOnepc, count }
  | askRounds (menus : program.mode = .menu ∨ program.mode = .host) (mp : Bool) (count : Nat)
      (position : MenuSelection) (hostPosition : HostSelection) :
      Moves width flags draws program
        { program with
          mode := .numRounds, numberOfRounds := .resetNumberOfRounds mp draws.roundsBox
          count, position, hostPosition }
  | connect (host : program.mode = .host) :
      Moves width flags draws program
        { program with
          mode := .mpGame, mpGame := program.mpGame.connectMpGame, hostPosition := .hostSelectHost }
  | back (shown : program.mode = .howToPlay ∨ program.mode = .leaderboard) :
      Moves width flags draws program { program with mode := .menu }
  | types (asking : program.mode = .numRounds) :
      Moves width flags draws program
        { program with
          numberOfRounds := (program.numberOfRounds.numberOfRoundsUpdateStatus width flags.keyboardPacket).1 }
  | starts (asking : program.mode = .numRounds) (numRounds : UInt32)
      (started : (program.numberOfRounds.numberOfRoundsUpdateStatus width flags.keyboardPacket).2 =
        some (.resetGame numRounds)) :
      Moves width flags draws program
        { program with
          numberOfRounds := (program.numberOfRounds.numberOfRoundsUpdateStatus width flags.keyboardPacket).1
          mode := .game, game := program.game.resetGame numRounds.toNat draws.resetRand }
  | hosts (asking : program.mode = .numRounds) (numRounds : UInt32)
      (started : (program.numberOfRounds.numberOfRoundsUpdateStatus width flags.keyboardPacket).2 =
        some (.hostMpGame numRounds)) :
      Moves width flags draws program
        { program with
          numberOfRounds := (program.numberOfRounds.numberOfRoundsUpdateStatus width flags.keyboardPacket).1
          mode := .mpGame, mpGame := program.mpGame.hostMpGame numRounds.toNat }
  | plays (playing : program.mode = .game) :
      Moves width flags draws program (run (gameStep draws.hiscoreBox) program (gameInputs flags draws))
  | playsMp (playing : program.mode = .mpGame) :
      Moves width flags draws program (run (mpGameStep draws.hiscoreBox) program (pcEvents flags))
  | names (visiting : program.mode = .highscore) (pressed : flags.gotKeyPress = true) :
      Moves width flags draws program (program.highscoreUpdateStatus width flags.keyboardPacket draws)

theorem Moves.unchanged (outside : ¬ program.Playing) : Moves width flags draws program program :=
  .stay outside program.count program.position program.hostPosition

theorem moves_menu (menu : program.mode = .menu) :
    Moves width flags draws program
      { program.menuUpdateStatus flags.keyboardPacket draws.roundsBox with
        count := (program.menuUpdateStatus flags.keyboardPacket draws.roundsBox).count + 1 } := by
  have outside : ¬ program.Playing := not_playing menu (by decide) (by decide)
  simp only [menuUpdateStatus]
  split
  · exact .stay outside _ _ _
  split
  · exact .stay outside _ _ _
  split
  · exact .stay outside _ _ _
  split
  · split
    · exact .askRounds (.inl menu) false _ _ _
    · exact .choose menu .host (.inl rfl) _
    · exact .choose menu .howToPlay (.inr (.inl rfl)) _
    · exact .choose menu .leaderboard (.inr (.inr (.inl rfl))) _
    · exact .choose menu .exit (.inr (.inr (.inr rfl))) _
  · exact .stay outside _ _ _

theorem moves_host (host : program.mode = .host) :
    Moves width flags draws program (program.hostUpdateStatus flags.keyboardPacket draws.roundsBox) := by
  have outside : ¬ program.Playing := not_playing host (by decide) (by decide)
  simp only [hostUpdateStatus]
  split
  · exact .unchanged outside
  split
  · exact .stay outside _ _ _
  split
  · exact .stay outside _ _ _
  split
  · split
    · exact .askRounds (.inr host) true _ _ _
    · exact .connect host
  · exact .unchanged outside

theorem moves_back (shown : program.mode = .howToPlay ∨ program.mode = .leaderboard) :
    Moves width flags draws program (program.backUpdateStatus flags.keyboardPacket) := by
  have outside : ¬ program.Playing := by
    rcases shown with shown | shown
    · exact not_playing shown (by decide) (by decide)
    · exact not_playing shown (by decide) (by decide)
  rw [backUpdateStatus]
  split
  · exact .back shown
  · exact .unchanged outside

theorem moves_rounds (asking : program.mode = .numRounds) :
    Moves width flags draws program (program.numberOfRoundsUpdateStatus width flags.keyboardPacket draws.resetRand) := by
  simp only [numberOfRoundsUpdateStatus]
  split
  · exact .types asking
  · next numRounds started => exact .starts asking numRounds started
  · next numRounds started => exact .hosts asking numRounds started

/-- A screen that only listens to the keyboard. -/
theorem moves_key {screen : GameModes} {pressed : Program} (shown : program.mode = screen) (other : screen ≠ .game)
    (otherToo : screen ≠ .mpGame) (moves : Moves width flags draws program pressed) :
    Moves width flags draws program (if flags.gotKeyPress then pressed else program) := by
  split
  · exact moves
  · exact .unchanged (not_playing shown other otherToo)

theorem moves_step (program : Program) (event : Event) :
    Moves width event.1 event.2 (program.transmit event.2.transmitted) (program.step width event) := by
  simp only [step, eventHandler]
  split
  · next menu =>
      split
      · exact moves_menu menu
      · exact .stay (not_playing menu (by decide) (by decide)) _ _ _
  · next host => exact moves_key host (by decide) (by decide) (moves_host host)
  · next shown => exact moves_key shown (by decide) (by decide) (moves_back (.inl shown))
  · next shown => exact moves_key shown (by decide) (by decide) (moves_back (.inr shown))
  · next asking => exact moves_key asking (by decide) (by decide) (moves_rounds asking)
  · next playing =>
      rw [playGame_eq]
      exact .plays playing
  · next playing =>
      rw [playMpGame_eq]
      exact .playsMp playing
  · next visiting =>
      split
      · next pressed => exact .names visiting pressed
      · exact .unchanged (not_playing visiting (by decide) (by decide))
  · next done => exact .unchanged (not_playing done (by decide) (by decide))

end Program

end SimonVs
