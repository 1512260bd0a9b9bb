import SimonVs.Rules.Clock
import SimonVs.Session.Waiting
import SimonVs.Whole.WayBack

namespace SimonVs

open Data Serial

namespace Game

variable {game : Game}

/-- A running game counts the seconds. -/
def Clocked (game : Game) : Prop := game.gameEnd = true ∨ game.alarm = .everySecond

theorem clocked_clickButton (clocked : game.Clocked) (click : ButtonClick) (rand : Nat) :
    (game.clickButton click rand).Clocked := by
  simp only [clickButton]
  repeat' split
  all_goals first | exact clocked | exact .inl rfl

theorem clocked_handleClick (clocked : game.Clocked) (click : ButtonClick) (rand : Nat) :
    (game.handleClick click rand).Clocked := by
  obtain ⟨screen, lit⟩ := lightButton_screen (game.clickButton click rand) click
  rw [handleClick, lit]
  exact clocked_clickButton clocked click rand

theorem clocked_countDown (clocked : game.Clocked) (rand : Nat) : (game.countDown rand).Clocked := by
  simp only [countDown]
  repeat' split
  all_goals first | exact clocked | exact .inl rfl

/-- After an alarm it is every second, be the game left or not. -/
theorem everySecond_rtc (clocked : game.Clocked) (rand : Nat) :
    (game.gameUpdateStatusRtc rand).alarm = .everySecond := by
  rw [gameUpdateStatusRtc, leaveIfEnded]
  split
  · rw [leave_eq]
  · next running => exact (clocked_countDown clocked rand).resolve_left running

theorem clocked_handle (clocked : game.Clocked) (input : Input) : (game.handle input).Clocked := by
  cases input with
  | click click rand =>
      rw [handle]
      split
      · exact clocked
      · exact clocked_handleClick clocked click rand
  | mouse packet rand =>
      rw [handle, gameUpdateStatusMouse]
      split
      · exact clocked
      · exact @clocked_handleClick { game with mouse := game.mouse.update packet } clocked _ rand
  | key press =>
      obtain ⟨mode, handled⟩ := handle_key game press
      rw [handled]
      exact clocked
  | timer => exact clocked
  | rtc rand => exact .inr (everySecond_rtc clocked rand)

end Game

namespace MpGame

variable {game : MpGame}

def Clocked (game : MpGame) : Prop := game.gameEnd = true ∨ game.alarm = .everySecond

theorem Timing.clocked {after : MpGame} (timing : game.Timing after) (clocked : game.Clocked) : after.Clocked := by
  rcases timing.ends with ends | ⟨gameEnd, alarm⟩
  · exact .inl ends
  · rw [Clocked, gameEnd, alarm]
    exact clocked

theorem mode_handleClick (game : MpGame) (click : ButtonClick) : (game.handleClick click).mode = game.mode := by
  rw [handleClick]
  split
  · exact mode_mpButtonsHandler game click
  · rfl

/-- A length byte makes an ended game of a client a running one. -/
theorem clocked_startGame (ticking : game.alarm = .everySecond) (data : UInt8) (emptyThr : Bool) :
    (game.startGame data emptyThr).Clocked := by
  simp only [startGame]
  repeat' split
  all_goals exact .inr ticking

/-- With an empty holding register the game itself is kept. -/
theorem clocked_acknowledge (clocked : game.Clocked) (data : UInt8) : (game.startGame data true).Clocked := by
  simp only [startGame, if_true]
  repeat' split
  all_goals exact clocked

theorem clocked_uart (clocked : game.Clocked) (data : UInt8) (type : IntOrigin)
    (ticking : game.gameStarted = false → type = .recData → game.alarm = .everySecond) :
    (game.mpGameUpdateStatusUart data type).Clocked := by
  cases type with
  | recData =>
      rw [mpGameUpdateStatusUart]
      split
      · next unstarted => exact clocked_startGame (ticking (by simpa using unstarted) rfl) data false
      · exact (timing_playGame game data).clocked clocked
  | transEmpty =>
      rw [mpGameUpdateStatusUart]
      split
      · exact clocked_acknowledge clocked _
      · split
        · exact clocked
        · exact clocked
  | modStat | lineStat | charTimeout | reserved => exact clocked

/-- Without a byte neither the alarm nor the end of the game is touched. -/
theorem uart_unreceived (game : MpGame) (data : UInt8) {type : IntOrigin} (unreceived : type ≠ .recData) :
    (game.mpGameUpdateStatusUart data type).alarm = game.alarm ∧
    (game.mpGameUpdateStatusUart data type).gameEnd = game.gameEnd := by
  cases type with
  | recData => exact absurd rfl unreceived
  | transEmpty =>
      simp only [mpGameUpdateStatusUart, startGame, if_true]
      repeat' split
      all_goals exact ⟨rfl, rfl⟩
  | modStat | lineStat | charTimeout | reserved => exact ⟨rfl, rfl⟩

theorem everySecond_leaveIfEnded (clocked : game.Clocked) : game.leaveIfEnded.alarm = .everySecond := by
  rw [leaveIfEnded]
  split
  · rw [leave_eq]
  · next running => exact clocked.resolve_left running

/-- After an alarm it is every second, or the game has just been lost. -/
theorem everySecond_rtc (clocked : game.Clocked) :
    game.mpGameUpdateStatusRtc.alarm = .everySecond ∨
    game.gameEnd = false ∧ game.mpGameUpdateStatusRtc.gameEnd = true ∧
      game.mpGameUpdateStatusRtc.mode = game.mode := by
  rw [mpGameUpdateStatusRtc]
  split
  · next turn =>
    split
    · right
      simp only [mpGetWinner, mpSendWinner_eq, mpEndGame, sendOrQueue_eq, and_self, and_true]
      simpa using turn.2
    · left
      split
      · refine everySecond_leaveIfEnded ?_
        simp only [mpChangePlayer_eq, sendOrQueue_eq]
        exact clocked
      · split
        · exact everySecond_leaveIfEnded clocked
        · exact everySecond_leaveIfEnded clocked
  · exact .inl (everySecond_leaveIfEnded clocked)

end MpGame

namespace Program

variable {width : XpmImage → UInt16} {program : Program} {event : Event}

/-- The screen of a game shows its result. -/
def ResultShown (program : Program) : Prop :=
  program.mode = .game ∧ program.game.gameEnd = true ∨ program.mode = .mpGame ∧ program.mpGame.gameEnd = true

instance (program : Program) : Decidable program.ResultShown := inferInstanceAs (Decidable (_ ∧ _ ∨ _ ∧ _))

def Ticking (program : Program) : Prop := program.alarm = .everySecond ∨ program.ResultShown

/-- The result is left to the alarm. In the two-PC game no byte is received together
with an alarm, and none for a game that was lost before it started. -/
structure Patient (program : Program) (event : Event) : Prop where
  waits : program.ResultShown → event.1.gotKeyPress = true → event.1.keyboardPacket.key = enter →
    event.1.rtcInterrupt = true
  apart : program.mode = .mpGame → event.1.uartInterrupt = true → event.1.uartTypeInterrupt = .recData →
    event.1.rtcInterrupt = false
  lost : program.mode = .mpGame → program.alarm ≠ .everySecond → program.mpGame.gameStarted = false →
    event.1.uartInterrupt = true → event.1.uartTypeInterrupt ≠ .recData

instance (program : Program) (event : Event) : Decidable (program.Patient event) :=
  decidable_of_iff
    ((program.ResultShown → event.1.gotKeyPress = true → event.1.keyboardPacket.key = enter →
        event.1.rtcInterrupt = true) ∧
      (program.mode = .mpGame → event.1.uartInterrupt = true → event.1.uartTypeInterrupt = .recData →
        event.1.rtcInterrupt = false) ∧
      (program.mode = .mpGame → program.alarm ≠ .everySecond → program.mpGame.gameStarted = false →
        event.1.uartInterrupt = true → event.1.uartTypeInterrupt ≠ .recData))
    ⟨fun all => ⟨all.1, all.2.1, all.2.2⟩, fun patient => ⟨patient.waits, patient.apart, patient.lost⟩⟩

theorem gameStep_alarm (uninitialised : Vector XpmImage 20) (input : Game.Input) :
    (program.gameStep uninitialised input).alarm = (program.gameView.handle input).alarm := by
  simp only [gameStep, onGame, leaveTo]
  repeat' split
  all_goals rfl

theorem mpGameStep_alarm (uninitialised : Vector XpmImage 20) (event : MpGame.PcEvent) :
    (program.mpGameStep uninitialised event).alarm = (program.mpGameView.happen event).alarm := by
  simp only [mpGameStep, onMpGame, leaveTo]
  repeat' split
  all_goals rfl

theorem clocked_games (clocked : program.gameView.Clocked) (uninitialised : Vector XpmImage 20)
    (inputs : List Game.Input) : (run (gameStep uninitialised) program inputs).gameView.Clocked := by
  induction inputs generalizing program with
  | nil => exact clocked
  | cons input rest ih =>
      refine ih ?_
      rw [Game.Clocked, gameView, gameStep_game, gameStep_alarm]
      exact Game.clocked_handle clocked input

/-- Mouse packets and timer interrupts do not leave the screen. -/
theorem mode_quiet (playing : program.mode = .game) (uninitialised : Vector XpmImage 20) (flags : Flags)
    (draws : Draws) :
    (run (gameStep uninitialised) program
      ((if flags.gotMousePacket then [.mouse flags.mousePacket draws.clickRand] else []) ++
        (if flags.timerInterrupt then [.timer] else []))).mode = .game := by
  rw [run_append, run_when, run_when]
  have moved : (if flags.gotMousePacket then
      program.gameStep uninitialised (.mouse flags.mousePacket draws.clickRand) else program).mode = .game := by
    split
    · rw [gameStep_mode playing]
      exact mode_mouse _ _ _
    · exact playing
  split
  · rw [gameStep_mode moved]
    rfl
  · exact moved

/-- A key that is not ENTER on a result. -/
theorem mode_key (playing : program.mode = .game) (uninitialised : Vector XpmImage 20) {key : KeyPress}
    (stays : program.game.gameEnd = true → key.key ≠ enter) :
    (program.gameStep uninitialised (.key key)).mode = .game := by
  rw [gameStep_mode playing, Game.handle, Game.gameUpdateStatusKey]
  split
  · next ended =>
      rw [if_neg (stays ended)]
      rfl
  · rfl

theorem ticking_game (ticking : program.Ticking) (playing : program.mode = .game) (patient : program.Patient event) :
    (program.step width event).Ticking := by
  have still : (program.transmit event.2.transmitted).mode = .game := (mode_transmit _ _).trans playing
  have ended : (program.transmit event.2.transmitted).game = program.game := by
    obtain ⟨uart, same⟩ := transmit_eq program event.2.transmitted
    rw [same]
  have clocked : (program.transmit event.2.transmitted).gameView.Clocked := by
    obtain ⟨uart, same⟩ := transmit_eq program event.2.transmitted
    rw [same]
    rcases ticking with every | ⟨_, ended⟩ | ⟨other, _⟩
    · exact .inr every
    · exact .inl ended
    · exact nomatch playing.symm.trans other
  rw [step_game playing, gameInputs, Game.inputs, run_append, run_when]
  have during := clocked_games clocked event.2.hiscoreBox
    (Game.localInputs { flags := event.1, clickRand := event.2.clickRand, tickRand := event.2.tickRand })
  split
  · left
    rw [gameStep_alarm]
    exact Game.everySecond_rtc during _
  · next silent =>
    have shown : (run (gameStep event.2.hiscoreBox) (program.transmit event.2.transmitted)
        (Game.localInputs { flags := event.1, clickRand := event.2.clickRand, tickRand := event.2.tickRand })).mode =
        .game := by
      rw [Game.localInputs, List.append_assoc, run_append, run_when]
      refine mode_quiet ?_ _ event.1 event.2
      split
      · next pressed =>
        refine mode_key still _ fun isOver isEnter => silent ?_
        rw [ended] at isOver
        exact patient.waits (.inl ⟨playing, isOver⟩) pressed isEnter
      · exact still
    rcases during with isOver | every
    · exact .inr (.inl ⟨shown, isOver⟩)
    · exact .inl every

theorem mpGameStep_view (uninitialised : Vector XpmImage 20) (event : MpGame.PcEvent) :
    (program.mpGameStep uninitialised event).mpGameView =
      { program.mpGameView.happen event with
        mode := .mpGame, lowestHiScore := (program.mpGameStep uninitialised event).board.getLowestHiScore } := by
  rw [mpGameView, mpGameStep_mpGame, mpGameStep_alarm]

/-- The two-PC game in the course of a call. It is on the screen, or its result
has been left. -/
structure Awake (program : Program) : Prop where
  clocked : program.mpGameView.Clocked
  within : program.mpGame.guessed ≤ program.mpGame.buttonsSize
  shown : program.mode = .mpGame ∨ program.mpGame.gameEnd = true

theorem Awake.input (awake : program.Awake) (uninitialised : Vector XpmImage 20) (input : MpGame.Input) :
    (program.mpGameStep uninitialised (.input input)).Awake := by
  have step : program.mpGameView.LocalStep (program.mpGameView.handle input) := MpGame.localStep_handle _ input
  have frame := step.frame awake.within
  refine ⟨?_, ?_, ?_⟩
  · rw [mpGameStep_view]
    exact step.timing.clocked awake.clocked
  · rw [mpGameStep_mpGame]
    exact frame.within
  · rw [mpGameStep_mpGame]
    rcases awake.shown with playing | ended
    · rw [mpGameStep_mode playing]
      exact step.mode
    · exact .inr (frame.ended ended)

/-- What comes before the RTC and the UART in the `MP_GAME` case. -/
def localEvents (flags : Flags) : List MpGame.PcEvent :=
  (if flags.gotKeyPress then [.input (.key flags.keyboardPacket)] else []) ++
  (if flags.gotMousePacket then [.input (.mouse flags.mousePacket)] else []) ++
  (if flags.timerInterrupt then [.input .timer] else [])

theorem Awake.localEvents (awake : program.Awake) (uninitialised : Vector XpmImage 20) (flags : Flags) :
    (run (mpGameStep uninitialised) program (localEvents flags)).Awake := by
  have step (program : Program) (awake : program.Awake) (taken : Bool) (input : MpGame.Input) :
      (run (mpGameStep uninitialised) program (if taken then [.input input] else [])).Awake := by
    rw [run_when]
    split
    · exact awake.input uninitialised input
    · exact awake
  rw [Program.localEvents, run_append, run_append]
  exact step _ (step _ (step _ awake _ _) _ _) _ _

/-- An alarm that ends the game keeps it on the screen. -/
theorem Awake.alarm (awake : program.Awake) (uninitialised : Vector XpmImage 20) :
    (program.mpGameStep uninitialised (.input .rtc)).Ticking := by
  rw [Ticking, ResultShown, mpGameStep_alarm, mpGameStep_mpGame]
  rcases MpGame.everySecond_rtc awake.clocked with every | ⟨running, lost, mode⟩
  · exact .inl every
  · have playing : program.mode = .mpGame := awake.shown.resolve_right (by simpa [mpGameView] using running)
    right
    right
    rw [mpGameStep_mode playing]
    exact ⟨mode, lost⟩

/-- The two-PC game in a call that does not leave it. A game that has not started
has the alarm it had before. -/
structure Unmoved (origin program : Program) : Prop where
  shown : program.mode = .mpGame
  unstarted : program.mpGame.gameStarted = false → program.alarm = origin.alarm ∧ origin.mpGame.gameStarted = false

theorem Unmoved.step {origin : Program} (unmoved : origin.Unmoved program) (uninitialised : Vector XpmImage 20)
    {input : MpGame.Input} (mode : (program.mpGameView.handle input).mode = .mpGame)
    (started : (program.mpGameView.handle input).gameStarted = program.mpGame.gameStarted)
    (alarm : program.mpGame.gameStarted = false → (program.mpGameView.handle input).alarm = program.alarm) :
    origin.Unmoved (program.mpGameStep uninitialised (.input input)) := by
  constructor
  · rw [mpGameStep_mode unmoved.shown]
    exact mode
  · rw [mpGameStep_mpGame, mpGameStep_alarm]
    intro still
    have before : program.mpGame.gameStarted = false := started.symm.trans still
    exact ⟨(alarm before).trans (unmoved.unstarted before).1, (unmoved.unstarted before).2⟩

theorem Unmoved.key {origin : Program} (unmoved : origin.Unmoved program) (uninitialised : Vector XpmImage 20)
    {key : KeyPress} (stays : program.mpGame.gameEnd = true → key.key ≠ enter) :
    origin.Unmoved (program.mpGameStep uninitialised (.input (.key key))) := by
  have same : program.mpGameView.handle (.key key) = program.mpGameView := by
    rw [MpGame.handle, MpGame.mpGameUpdateStatusKey]
    split
    · next ended => rw [if_neg (stays ended)]
    · rfl
  refine unmoved.step uninitialised ?_ ?_ fun _ => ?_
  all_goals
    rw [same]
    rfl

theorem Unmoved.mouse {origin : Program} (unmoved : origin.Unmoved program) (uninitialised : Vector XpmImage 20)
    (within : program.mpGame.guessed ≤ program.mpGame.buttonsSize) (packet : Packet) :
    origin.Unmoved (program.mpGameStep uninitialised (.input (.mouse packet))) := by
  have frame := @MpGame.frame_handle program.mpGameView within (.mouse packet)
  refine unmoved.step uninitialised ?_ frame.gameStarted fun unstarted => ?_
  · rw [MpGame.handle, MpGame.mpGameUpdateStatusMouse]
    split
    · rfl
    · split
      · exact MpGame.mode_handleClick _ _
      · rfl
  · have waiting : program.mpGameView.gameStarted = false := unstarted
    simp only [MpGame.handle, MpGame.mpGameUpdateStatusMouse, waiting]
    split
    · rfl
    · rfl

theorem Unmoved.timer {origin : Program} (unmoved : origin.Unmoved program) (uninitialised : Vector XpmImage 20) :
    origin.Unmoved (program.mpGameStep uninitialised (.input .timer)) := by
  refine unmoved.step uninitialised ?_ ?_ fun _ => ?_
  all_goals
    simp only [MpGame.handle, MpGame.mpGameUpdateStatusTimer]
    split
    · rfl
    · rfl

/-- What comes before the UART leaves the screen as it is, but for ENTER on the
result. -/
theorem Unmoved.localEvents {origin : Program} (awake : program.Awake) (unmoved : origin.Unmoved program)
    (uninitialised : Vector XpmImage 20) {flags : Flags}
    (stays : program.mpGame.gameEnd = true → flags.gotKeyPress = true → flags.keyboardPacket.key ≠ enter) :
    origin.Unmoved (run (mpGameStep uninitialised) program (localEvents flags)) := by
  have keyed : (if flags.gotKeyPress then program.mpGameStep uninitialised (.input (.key flags.keyboardPacket))
      else program).Awake ∧ origin.Unmoved (if flags.gotKeyPress then
        program.mpGameStep uninitialised (.input (.key flags.keyboardPacket)) else program) := by
    split
    · next pressed => exact ⟨awake.input uninitialised _, unmoved.key uninitialised fun ended => stays ended pressed⟩
    · exact ⟨awake, unmoved⟩
  rw [Program.localEvents, run_append, run_append, run_when, run_when, run_when]
  generalize (if flags.gotKeyPress then program.mpGameStep uninitialised (.input (.key flags.keyboardPacket))
      else program) = afterKey at keyed ⊢
  have moved : origin.Unmoved (if flags.gotMousePacket then
      afterKey.mpGameStep uninitialised (.input (.mouse flags.mousePacket)) else afterKey) := by
    split
    · exact keyed.2.mouse uninitialised keyed.1.within _
    · exact keyed.2
  split
  · exact moved.timer uninitialised
  · exact moved

/-- A byte, or the end of one, that is received with its alarm. -/
theorem ticking_uart (awake : program.Awake) {origin : Program} (unmoved : origin.Unmoved program)
    (uninitialised : Vector XpmImage 20) {data : UInt8} {type : IntOrigin}
    (lost : origin.alarm ≠ .everySecond → origin.mpGame.gameStarted = false → type ≠ .recData) :
    (program.mpGameStep uninitialised (.uart data type)).Ticking := by
  have clocked : (program.mpGameView.happen (.uart data type)).Clocked := by
    rw [MpGame.happen]
    refine MpGame.clocked_uart awake.clocked data type fun unstarted received => ?_
    obtain ⟨same, before⟩ := unmoved.unstarted unstarted
    by_contra timed
    have timed : program.alarm ≠ .everySecond := timed
    rw [same] at timed
    exact lost timed before received
  have shown : (program.mpGameStep uninitialised (.uart data type)).mode = .mpGame := by
    rw [mpGameStep_mode unmoved.shown]
    exact MpGame.mode_mpGameUpdateStatusUart _ data type
  rw [Ticking, ResultShown, mpGameStep_alarm, mpGameStep_mpGame]
  rcases clocked with isOver | every
  · exact .inr (.inr ⟨shown, isOver⟩)
  · exact .inl every

/-- The transmitter may get empty together with an alarm. -/
theorem ticking_unreceived (ticking : program.Ticking) (uninitialised : Vector XpmImage 20) (data : UInt8)
    {type : IntOrigin} (unreceived : type ≠ .recData) :
    (program.mpGameStep uninitialised (.uart data type)).Ticking := by
  obtain ⟨alarm, ended⟩ := program.mpGameView.uart_unreceived data unreceived
  have stays : (program.mpGameView.happen (.uart data type)).mode = .mpGame :=
    MpGame.mode_mpGameUpdateStatusUart program.mpGameView data type
  rw [mpGameStep, onMpGame, if_pos stays]
  rcases ticking with every | ⟨playing, isOver⟩ | ⟨playing, isOver⟩
  · exact .inl (alarm.trans every)
  · exact .inr (.inl ⟨playing, isOver⟩)
  · exact .inr (.inr ⟨playing, ended.trans isOver⟩)

theorem ticking_mpGame (fair : program.Fair) (ticking : program.Ticking) (playing : program.mode = .mpGame)
    (patient : program.Patient event) : (program.step width event).Ticking := by
  obtain ⟨uart, same⟩ := transmit_eq program event.2.transmitted
  have awake : (program.transmit event.2.transmitted).Awake := by
    rw [same]
    refine ⟨?_, fair.within, .inl playing⟩
    rcases ticking with every | ⟨other, _⟩ | ⟨_, ended⟩
    · exact .inr every
    · exact nomatch playing.symm.trans other
    · exact .inl ended
  have during := awake.localEvents event.2.hiscoreBox event.1
  rw [step_mpGame playing, pcEvents, ← localEvents, run_append, run_append, run_when, run_when]
  by_cases alarm : event.1.rtcInterrupt = true
  · have rung := during.alarm event.2.hiscoreBox
    rw [if_pos alarm]
    split
    · next interrupt =>
      refine ticking_unreceived rung _ _ fun received => ?_
      exact Bool.false_ne_true ((patient.apart playing interrupt received).symm.trans alarm)
    · exact rung
  · have unmoved : program.Unmoved (run (mpGameStep event.2.hiscoreBox) (program.transmit event.2.transmitted)
        (localEvents event.1)) := by
      refine .localEvents awake ⟨?_, ?_⟩ _ fun ended pressed isEnter => alarm ?_
      · rw [same]
        exact playing
      · rw [same]
        exact fun unstarted => ⟨rfl, unstarted⟩
      · rw [same] at ended
        exact patient.waits (.inr ⟨playing, ended⟩) pressed isEnter
    rw [if_neg alarm]
    split
    · next received =>
      exact ticking_uart during unmoved _ fun timed unstarted => patient.lost playing timed unstarted received
    · rcases during.clocked with isOver | every
      · exact .inr (.inr ⟨unmoved.shown, isOver⟩)
      · exact .inl every

/-- On the other screens nothing touches the alarm. -/
theorem alarm_moves {flags : Flags} {draws : Draws} {after : Program} (outside : ¬ program.Playing)
    (moves : Moves width flags draws program after) : after.alarm = program.alarm := by
  cases moves with
  | stay | choose | askRounds | connect | back | types | starts | hosts => rfl
  | plays playing => exact absurd (.inl playing) outside
  | playsMp playing => exact absurd (.inr playing) outside
  | names visiting => rfl

theorem ticking_step (fair : program.Fair) (ticking : program.Ticking) (patient : program.Patient event) :
    (program.step width event).Ticking := by
  by_cases playing : program.Playing
  · rcases playing with playing | playing
    · exact ticking_game ticking playing patient
    · exact ticking_mpGame fair ticking playing patient
  · left
    have every : program.alarm = .everySecond := by
      rcases ticking with every | ⟨shown, _⟩ | ⟨shown, _⟩
      · exact every
      · exact absurd (.inl shown) playing
      · exact absurd (.inr shown) playing
    obtain ⟨uart, same⟩ := transmit_eq program event.2.transmitted
    have outside : ¬ (program.transmit event.2.transmitted).Playing := by
      rw [same]
      exact playing
    rw [alarm_moves outside (moves_step program event), same]
    exact every

/-- Over every run in which the results are left to the alarm, the RTC has its
alarm every second on every screen but those results: no screen is left with the
single alarm of the end of a game. -/
theorem alarm_every_second (width : XpmImage → UInt16) (board : Leaderboard) (uart : Uart)
    (uninitialised : Nat → Memory.Cell) (images : Vector XpmImage 20) (events : List Event)
    (patient : Along (step width) Patient (boot board uart uninitialised images) events) :
    (run (step width) (boot board uart uninitialised images) events).alarm = .everySecond ∨
    (run (step width) (boot board uart uninitialised images) events).ResultShown := by
  have kept : (run (step width) (boot board uart uninitialised images) events).Fair ∧
      (run (step width) (boot board uart uninitialised images) events).Ticking :=
    run_invariant (fun program => program.Fair ∧ program.Ticking)
      (fun _ event holds patient => ⟨holds.1.step event, ticking_step holds.1 holds.2 patient⟩)
      ⟨fair_boot board uart uninitialised images, .inl rfl⟩ patient
  exact kept.2

/-- A client of the first two-PC game loses at the first alarm, before the host
has answered. -/
def losesUnstarted : List Event := atHost ++ [releaseCall downArrow, releaseCall enter, alarmCall]

theorem alarm_every_second_lost :
    (run (step HighScore.fixedWidth) booted losesUnstarted).alarm = .timed 5 ∧
    (run (step HighScore.fixedWidth) booted (losesUnstarted ++ [alarmCall])).mode ≠ .mpGame ∧
    ((run (step HighScore.fixedWidth) booted (losesUnstarted ++ [alarmCall])).alarm = .everySecond ∨
      (run (step HighScore.fixedWidth) booted (losesUnstarted ++ [alarmCall])).ResultShown) :=
  ⟨by decide +kernel, by decide +kernel, alarm_every_second HighScore.fixedWidth .shipped (.idle true) (fun _ => none)
    HighScore.unusedImages (losesUnstarted ++ [alarmCall]) (by decide +kernel)⟩

end Program

end SimonVs
