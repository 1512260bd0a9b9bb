import SimonVs.Screens.Cursor
import SimonVs.Solo.Ending
import SimonVs.Whole.Results

namespace SimonVs

open Data Memory Rules Serial

namespace Game

variable {game : Game} {rounds : Nat}

/-- A game of so many rounds. Its play is one of the abstract game, its array has
room for the rounds and is freed at the end, and the cursor is on the screen. -/
structure Genuine (game : Game) (rounds : Nat) : Prop where
  played : ∃ vsRound winner moves, game.play = Data.run Play.move (.start rounds vsRound winner) moves
  accounted : game.Accounted
  allocated : game.extent.Allocated rounds
  onScreen : game.mouse.OnScreen

theorem allocated_handle (sound : game.Sound) (allocated : game.extent.Allocated rounds) (input : Input) :
    (game.handle input).extent.Allocated rounds := by
  rw [(extent_handle sound input).1]
  split
  · exact allocated
  · exact allocated

theorem Genuine.handle (genuine : game.Genuine rounds) (input : Input) : (game.handle input).Genuine rounds := by
  obtain ⟨vsRound, winner, moves, played⟩ := genuine.played
  have sound := genuine.accounted.sound
  refine ⟨⟨vsRound, winner, moves ++ [game.moveOf input], ?_⟩, genuine.accounted.handle input,
    allocated_handle sound genuine.allocated input, onScreen_handle genuine.onScreen input⟩
  rw [run_append, ← played, (play_handle sound input).1]
  rfl

theorem Genuine.view (genuine : game.Genuine rounds) (mode : GameModes) (alarm : Alarm) (lowestHiScore : Int) :
    Genuine { game with mode, alarm, lowestHiScore } rounds where
  played := genuine.played
  accounted := ⟨⟨genuine.accounted.sound.within, genuine.accounted.sound.window⟩, genuine.accounted.roomy,
    genuine.accounted.running, genuine.accounted.ended⟩
  allocated := genuine.allocated
  onScreen := genuine.onScreen

theorem genuine_resetGame (game : Game) (some : 0 < rounds) (rand : Nat) :
    (game.resetGame rounds rand).Genuine rounds where
  played := ⟨choosesVs rand, game.ws, [], (play_resetGame game rounds).1⟩
  accounted := by
    obtain ⟨plays, sound⟩ := @play_resetGame rand game rounds
    refine ⟨sound, ⟨some, fun pressed => (nomatch pressed)⟩, fun _ => ⟨?_, rfl⟩, fun isOver => (nomatch isOver)⟩
    rw [plays]
    exact Play.Regular.untimed rfl (Nat.le_refl _) rfl rfl
  allocated := ⟨rfl, rfl⟩
  onScreen := MouseState.onScreen_centred

theorem exitMode_either (ws : Winners) (playerScore : Nat) (lowestHiScore : Int) :
    exitMode ws playerScore lowestHiScore = .leaderboard ∨ exitMode ws playerScore lowestHiScore = .highscore := by
  rw [exitMode]
  split
  · exact .inl rfl
  · split
    · exact .inr rfl
    · exact .inl rfl

end Game

namespace MpGame

variable {game : MpGame}

/-- The session of a program whose host asked for so many rounds. A client
learns the number from the other PC. -/
structure Session (game : MpGame) (rounds : Nat) : Prop where
  within : game.guessed ≤ game.buttonsSize
  maxSize : game.isHost = true → game.maxButtonsSize = rounds
  capacity : game.isHost = true → game.buttons.capacity = rounds

variable {rounds : Nat}

theorem Session.frame {after : MpGame} (session : game.Session rounds) (frame : game.Frame after) :
    after.Session rounds := by
  refine ⟨frame.within, fun hosting => ?_, fun hosting => ?_⟩
  · rw [frame.isHost] at hosting
    rw [frame.maxButtonsSize]
    exact session.maxSize hosting
  · rw [frame.isHost] at hosting
    rw [frame.capacity]
    exact session.capacity hosting

theorem Session.startGame (session : game.Session rounds) (data : UInt8) (emptyThr : Bool) :
    (game.startGame data emptyThr).Session rounds := by
  rw [MpGame.startGame]
  by_cases hosting : game.isHost = true
  · rw [if_pos hosting]
    dsimp only
    repeat' split
    all_goals exact ⟨session.within, session.maxSize, session.capacity⟩
  · -- A client may reset its game here.
    rw [if_neg hosting]
    dsimp only
    repeat' split
    all_goals
      refine ⟨?_, fun now => absurd now hosting, fun now => absurd now hosting⟩
      first | exact session.within | exact Nat.le_refl 0

theorem Session.happen (session : game.Session rounds) (event : PcEvent) : (game.happen event).Session rounds := by
  cases event with
  | input input => exact session.frame (frame_handle session.within input)
  | uart data type =>
      cases started : game.gameStarted with
      | true => exact session.frame (frame_mpGameUpdateStatusUart started session.within data type)
      | false =>
          cases type with
          | recData =>
              rw [MpGame.happen, mpGameUpdateStatusUart, started]
              exact session.startGame data false
          | transEmpty =>
              rw [MpGame.happen, mpGameUpdateStatusUart, started]
              exact session.startGame _ true
          | modStat | lineStat | charTimeout | reserved => exact session

theorem isHost_startGame (game : MpGame) (data : UInt8) (emptyThr : Bool) :
    (game.startGame data emptyThr).isHost = game.isHost := by
  simp only [MpGame.startGame]
  repeat' split
  all_goals rfl

theorem Session.isHost_happen (session : game.Session rounds) (event : PcEvent) :
    (game.happen event).isHost = game.isHost := by
  cases event with
  | input input => exact (frame_handle session.within input).isHost
  | uart data type =>
      cases started : game.gameStarted with
      | true => exact (frame_mpGameUpdateStatusUart started session.within data type).isHost
      | false =>
          cases type with
          | recData | transEmpty =>
              rw [MpGame.happen, mpGameUpdateStatusUart, started]
              exact isHost_startGame game _ _
          | modStat | lineStat | charTimeout | reserved => rfl

theorem Session.view (session : game.Session rounds) (mode : GameModes) (alarm : Alarm) (lowestHiScore : Int) :
    Session { game with mode, alarm, lowestHiScore } rounds := ⟨session.within, session.maxSize, session.capacity⟩

end MpGame

namespace Program

variable {width : XpmImage → UInt16} {program : Program} {rounds : Nat}

/-- What holds of the program through the handlers of the one-PC game, if each of
them keeps what it says about the game. -/
theorem run_gameStep {holds : Game → Prop}
    (view : ∀ {game}, holds game → ∀ mode alarm lowestHiScore, holds { game with mode, alarm, lowestHiScore })
    (handle : ∀ {game}, holds game → ∀ input, holds (game.handle input))
    (start : holds program.game) (uninitialised : Vector XpmImage 20) (inputs : List Game.Input) :
    holds (run (gameStep uninitialised) program inputs).game ∧
    (run (gameStep uninitialised) program inputs).mpGame = program.mpGame ∧
    (run (gameStep uninitialised) program inputs).numberOfRounds = program.numberOfRounds := by
  induction inputs generalizing program with
  | nil => exact ⟨start, rfl, rfl⟩
  | cons input rest ih =>
      have handled : holds (program.gameView.handle input) := handle (view start _ _ _) input
      have step : holds (program.gameStep uninitialised input).game ∧
          (program.gameStep uninitialised input).mpGame = program.mpGame ∧
          (program.gameStep uninitialised input).numberOfRounds = program.numberOfRounds := by
        simp only [gameStep, onGame, leaveTo]
        repeat' split
        all_goals exact ⟨handled, rfl, rfl⟩
      obtain ⟨after, mpGame, numberOfRounds⟩ := ih step.1
      exact ⟨after, mpGame.trans step.2.1, numberOfRounds.trans step.2.2⟩

theorem run_mpGameStep {holds : MpGame → Prop}
    (view : ∀ {game}, holds game → ∀ mode alarm lowestHiScore, holds { game with mode, alarm, lowestHiScore })
    (happen : ∀ {game}, holds game → ∀ event, holds (game.happen event))
    (start : holds program.mpGame) (uninitialised : Vector XpmImage 20) (events : List MpGame.PcEvent) :
    holds (run (mpGameStep uninitialised) program events).mpGame ∧
    (run (mpGameStep uninitialised) program events).game = program.game ∧
    (run (mpGameStep uninitialised) program events).numberOfRounds = program.numberOfRounds := by
  induction events generalizing program with
  | nil => exact ⟨start, rfl, rfl⟩
  | cons event rest ih =>
      have handled : holds (program.mpGameView.happen event) := happen (view start _ _ _) event
      have step : holds (program.mpGameStep uninitialised event).mpGame ∧
          (program.mpGameStep uninitialised event).game = program.game ∧
          (program.mpGameStep uninitialised event).numberOfRounds = program.numberOfRounds := by
        simp only [mpGameStep, onMpGame, leaveTo]
        repeat' split
        all_goals exact ⟨handled, rfl, rfl⟩
      obtain ⟨after, game, numberOfRounds⟩ := ih step.1
      exact ⟨after, game.trans step.2.1, numberOfRounds.trans step.2.2⟩

theorem Leaves.shown {after : Program} {left : Option Result} (leaves : program.Leaves after left) :
    after.mode = program.mode ∨ after.mode = .leaderboard ∨ after.mode = .highscore := by
  cases left with
  | none => exact .inl (leaves.stays rfl).1
  | some result =>
      right
      rw [(leaves.goes result rfl).1]
      exact Game.exitMode_either _ _ _

/-- The number that the screen shows is one it accepts. -/
def Admits (program : Program) : Prop := 1 ≤ program.numberOfRounds.shown ∧ program.numberOfRounds.shown ≤ 999

/-- The games are those that were asked for. -/
structure Fair (program : Program) : Prop where
  asking : program.mode = .numRounds → program.numberOfRounds.Shows
  playing : program.mode = .game → program.Admits ∧ program.game.Genuine program.numberOfRounds.shown
  joined : program.mode = .mpGame → program.mpGame.Session program.numberOfRounds.shown ∧
    (program.mpGame.isHost = true → program.Admits)
  within : program.mpGame.guessed ≤ program.mpGame.buttonsSize

/-- On the other screens only the two-PC game is kept in order. -/
theorem fair_elsewhere (outside : ¬ program.Playing) (notAsking : program.mode ≠ .numRounds)
    (within : program.mpGame.guessed ≤ program.mpGame.buttonsSize) : program.Fair :=
  ⟨fun now => absurd now notAsking, fun now => absurd (.inl now) outside, fun now => absurd (.inr now) outside, within⟩

theorem Fair.plays (fair : program.Fair) (playing : program.mode = .game) (uninitialised : Vector XpmImage 20)
    (inputs : List Game.Input) : (run (gameStep uninitialised) program inputs).Fair := by
  obtain ⟨admits, genuine⟩ := fair.playing playing
  obtain ⟨after, mpGame, numberOfRounds⟩ := @run_gameStep program (fun game => game.Genuine program.numberOfRounds.shown)
    (fun genuine => genuine.view) (fun genuine => genuine.handle) genuine uninitialised inputs
  have shown := (leaves_games uninitialised program inputs).shown
  rw [playing] at shown
  refine ⟨fun now => ?_, fun _ => ?_, fun now => ?_, ?_⟩
  · rw [now] at shown
    simp at shown
  · rw [Admits, numberOfRounds]
    exact ⟨admits, after⟩
  · rw [now] at shown
    simp at shown
  · rw [mpGame]
    exact fair.within

theorem Fair.playsMp (fair : program.Fair) (playing : program.mode = .mpGame) (uninitialised : Vector XpmImage 20)
    (events : List MpGame.PcEvent) : (run (mpGameStep uninitialised) program events).Fair := by
  obtain ⟨session, admits⟩ := fair.joined playing
  obtain ⟨after, game, numberOfRounds⟩ := @run_mpGameStep program
    (fun game => game.Session program.numberOfRounds.shown ∧ (game.isHost = true → program.Admits))
    (fun holds _ _ _ => ⟨holds.1.view _ _ _, holds.2⟩)
    (fun holds event => ⟨holds.1.happen event, fun hosting => holds.2 (holds.1.isHost_happen event ▸ hosting)⟩)
    ⟨session, admits⟩ uninitialised events
  have shown := (leaves_mpGames uninitialised program events).shown
  rw [playing] at shown
  refine ⟨fun now => ?_, fun now => ?_, fun _ => ?_, after.1.within⟩
  · rw [now] at shown
    simp at shown
  · rw [now] at shown
    simp at shown
  · rw [Admits, numberOfRounds]
    exact after

/-- A number that ENTER confirms. -/
theorem admits_started {screen : NumberOfRounds} (shows : screen.Shows) {key : KeyPress} {confirmation : Confirmation}
    (started : (screen.numberOfRoundsUpdateStatus width key).2 = some confirmation) :
    confirmation.numRounds.toNat = screen.shown ∧ 1 ≤ screen.shown ∧ screen.shown ≤ 999 := by
  obtain ⟨same, positive⟩ := NumberOfRounds.started_eq started
  have value := shows.value
  have nonzero : screen.numRoundsValue.toNat ≠ 0 := fun zero => positive (UInt32.toNat.inj zero)
  have bound : screen.shown < 10 ^ 3 :=
    Nat.lt_of_lt_of_le shows.shown_lt (Nat.pow_le_pow_right (by decide) shows.length_le)
  rw [same]
  omega

/-- ENTER types nothing. -/
theorem started_same {screen : NumberOfRounds} {key : KeyPress} {confirmation : Confirmation}
    (started : (screen.numberOfRoundsUpdateStatus width key).2 = some confirmation) :
    (screen.numberOfRoundsUpdateStatus width key).1 = screen := by
  have other : isNumerical 10 = false ∧ (10 : UInt8) ≠ UInt8.ofNat backspace := by decide
  rw [NumberOfRounds.numberOfRoundsUpdateStatus] at started ⊢
  split at started
  · cases started
  · next released =>
      dsimp only at started
      split at started
      · next confirmed => simp [released, confirmed.1, other]
      · cases started

theorem Fair.starts (fair : program.Fair) (asking : program.mode = .numRounds) {key : KeyPress} {numRounds : UInt32}
    (started : (program.numberOfRounds.numberOfRoundsUpdateStatus width key).2 = some (.resetGame numRounds))
    (rand : Nat) :
    Fair { program with
      numberOfRounds := (program.numberOfRounds.numberOfRoundsUpdateStatus width key).1
      mode := .game, game := program.game.resetGame numRounds.toNat rand } := by
  obtain ⟨rounds, admits⟩ := admits_started (fair.asking asking) started
  have rounds : numRounds.toNat = program.numberOfRounds.shown := rounds
  rw [started_same started, rounds]
  exact ⟨fun now => (nomatch now), fun _ => ⟨admits, Game.genuine_resetGame _ admits.1 rand⟩, fun now => (nomatch now),
    fair.within⟩

theorem Fair.hosts (fair : program.Fair) (asking : program.mode = .numRounds) {key : KeyPress} {numRounds : UInt32}
    (started : (program.numberOfRounds.numberOfRoundsUpdateStatus width key).2 = some (.hostMpGame numRounds)) :
    Fair { program with
      numberOfRounds := (program.numberOfRounds.numberOfRoundsUpdateStatus width key).1
      mode := .mpGame, mpGame := program.mpGame.hostMpGame numRounds.toNat } := by
  obtain ⟨rounds, admits⟩ := admits_started (fair.asking asking) started
  have rounds : numRounds.toNat = program.numberOfRounds.shown := rounds
  rw [started_same started, rounds]
  exact ⟨fun now => (nomatch now), fun now => (nomatch now),
    fun _ => ⟨⟨Nat.le_refl 0, fun _ => rfl, fun _ => rfl⟩, fun _ => admits⟩, Nat.le_refl 0⟩

theorem Fair.moves (fair : program.Fair) {flags : Flags} {draws : Draws} {after : Program}
    (moves : Moves width flags draws program after) : after.Fair := by
  cases moves with
  | stay outside =>
      exact ⟨fair.asking, fun now => absurd (.inl now) outside, fun now => absurd (.inr now) outside, fair.within⟩
  | choose menu screen screens =>
      refine fair_elsewhere ?_ ?_ fair.within
      · rcases screens with rfl | rfl | rfl | rfl <;> simp [Playing]
      · rcases screens with rfl | rfl | rfl | rfl <;> simp
  | askRounds menus mp =>
      exact ⟨fun _ => NumberOfRounds.shows_start mp _, fun now => (by cases now), fun now => (by cases now), fair.within⟩
  | connect host =>
      exact ⟨fun now => (by cases now), fun now => (by cases now),
        fun _ => ⟨⟨fair.within, fun hosting => (by cases hosting), fun hosting => (by cases hosting)⟩,
          fun hosting => (by cases hosting)⟩, fair.within⟩
  | back => exact fair_elsewhere (by simp [Playing]) (by simp) fair.within
  | types asking =>
      have outside : ¬ program.Playing := not_playing asking (by decide) (by decide)
      exact ⟨fun _ => (fair.asking asking).update _, fun now => absurd (.inl now) outside,
        fun now => absurd (.inr now) outside, fair.within⟩
  | starts asking numRounds started => exact fair.starts asking started _
  | hosts asking numRounds started => exact fair.hosts asking started
  | plays playing => exact fair.plays playing _ _
  | playsMp playing => exact fair.playsMp playing _ _
  | names visiting =>
      rcases @highscoreUpdateStatus_either width program visiting flags.keyboardPacket draws with ⟨mode, _⟩ | ⟨mode, _⟩
      · exact fair_elsewhere (not_playing mode (by decide) (by decide)) (by simp [mode]) fair.within
      · exact fair_elsewhere (not_playing mode (by decide) (by decide)) (by simp [mode]) fair.within

theorem Fair.transmit (fair : program.Fair) (transmitted : Bool) : (program.transmit transmitted).Fair := by
  obtain ⟨uart, same⟩ := transmit_eq program transmitted
  rw [same]
  exact ⟨fair.asking, fair.playing,
    fun now => ⟨⟨fair.within, (fair.joined now).1.maxSize, (fair.joined now).1.capacity⟩, (fair.joined now).2⟩,
    fair.within⟩

theorem Fair.step (fair : program.Fair) (event : Event) : (program.step width event).Fair :=
  (fair.transmit event.2.transmitted).moves (moves_step program event)

theorem fair_boot (board : Leaderboard) (uart : Uart) (uninitialised : Nat → Cell) (images : Vector XpmImage 20) :
    (boot board uart uninitialised images).Fair :=
  fair_elsewhere (by simp [Playing, boot]) (by simp [boot]) (Nat.le_refl 0)

/-- Whatever is pressed, clicked, ticked and received, the program only plays
games of the number of rounds that was shown and confirmed: on the screen of the
one-PC game there is a state of the abstract game of that many rounds, in its
array and with its cursor on the screen, and a PC that hosts keeps the number. -/
theorem games_fair (width : XpmImage → UInt16) (board : Leaderboard) (uart : Uart) (uninitialised : Nat → Cell)
    (images : Vector XpmImage 20) (events : List Event) :
    (run (step width) (boot board uart uninitialised images) events).Fair :=
  @run_invariant _ _ _ _ _ (fun _ _ => True) Fair (fun _ event fair _ => fair.step event)
    (fair_boot board uart uninitialised images) along_true

end Program

end SimonVs
