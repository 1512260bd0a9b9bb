import SimonVs.Session.History

namespace SimonVs

open Data Serial

namespace MpGame

/-- What happens to one program, from its start on. -/
inductive ProgramEvent where
  | hostConfirm (numRounds : Nat)
  | connectConfirm
  | input (input : Input)
  | uart (data : UInt8) (type : IntOrigin)
  | shiftOut
  | elsewhere (mode : GameModes) (alarm : Alarm) (lowestHiScore : Int)

def proceed (game : MpGame) : ProgramEvent → MpGame
  | .hostConfirm numRounds => if game.mode = .mpGame then game else game.hostConfirm numRounds
  | .connectConfirm => if game.mode = .mpGame then game else game.connectConfirm
  | .input input => game.eventHandler input
  | .uart data type => game.uartNotification data type
  | .shiftOut => { game with uart := game.uart.shiftOut }
  | .elsewhere mode alarm lowestHiScore =>
      if game.mode = .mpGame ∨ mode = .mpGame then game else { game with mode, alarm, lowestHiScore }

def Waits (game : MpGame) : Prop := game.mode = .mpGame ∧ game.gameStarted = false

instance (game : MpGame) : Decidable game.Waits := inferInstanceAs (Decidable (_ ∧ _))

/-- `byte` was written to the transmitter or put in the queue. -/
def Sends (before after : MpGame) (byte : UInt8) : Prop :=
  after.uart.written = before.uart.written ++ [byte] ∨
  (after.uartHasDataToSend = true ∧ after.uartData = byte ∧
    ¬ (before.uartHasDataToSend = true ∧ before.uartData = byte))

/-- `mp_end_game` was executed, the result was sent, or the screen was left. A
length byte may have the value of `LOSE`, but it is counted by `start_game`. -/
def Decides (before after : MpGame) : Prop :=
  before.buttons.frees < after.buttons.frees ∨ after.mode ≠ .mpGame ∨
  (after.numRoundSentBytes = before.numRoundSentBytes ∧
    (before.Sends after Coms.lose.toByte ∨ before.Sends after Coms.tieRemote.toByte))

/-- A client without the number of rounds: it has written `CONNECTED`, and
`mp_reset_game` has not been called. -/
def AwaitsRounds (game : MpGame) : Prop :=
  game.Waits ∧ game.isHost = false ∧ game.isPlayer1 = false

instance (game : MpGame) : Decidable game.AwaitsRounds := inferInstanceAs (Decidable (_ ∧ _))

def Premature (game : MpGame) : ProgramEvent → Prop
  | .input .rtc => game.AwaitsRounds
  | .input (.key press) => game.AwaitsRounds ∧ game.gameEnd = true ∧ press.key = enter
  | _ => False

instance (game : MpGame) : (event : ProgramEvent) → Decidable (game.Premature event)
  | .input .rtc => inferInstanceAs (Decidable game.AwaitsRounds)
  | .input (.key _) => inferInstanceAs (Decidable (_ ∧ _ ∧ _))
  | .input (.click _) | .input (.mouse _) | .input .timer => inferInstanceAs (Decidable False)
  | .hostConfirm _ | .connectConfirm | .uart _ _ | .shiftOut | .elsewhere _ _ _ => inferInstanceAs (Decidable False)

variable {game : MpGame} {click : ButtonClick}

/-- `mp_reset_game` has been called since the entry. -/
structure Prepared (game : MpGame) : Prop where
  running : game.gameEnd = false
  noClock : game.timeLeftForClick = -1
  reset : game.isHost = true ∨ game.isPlayer1 = true

/-- The zeroed state of the program, or an ended game. -/
def Leftover (game : MpGame) : Prop :=
  game.gameEnd = true ∨ (game.timeLeftForClick = 0 ∧ game.vsWasPressed = false)

/-- What holds in every state of a program. -/
structure Reached (game : MpGame) : Prop where
  within : game.guessed ≤ game.buttonsSize
  outside : game.mode ≠ .mpGame → game.Leftover
  waiting : game.Waits → game.Prepared ∨ (game.isHost = false ∧ game.isPlayer1 = false ∧ game.Leftover)

theorem reached_boot (uart : Uart) (lowestHiScore : Int) (uninitialised : Nat → Memory.Cell) :
    (boot uart lowestHiScore uninitialised).Reached where
  within := Nat.le_refl _
  outside := fun _ => .inr ⟨rfl, rfl⟩
  waiting := fun waits => nomatch waits.1

theorem LocalStep.mode {after : MpGame} (step : game.LocalStep after) :
    after.mode = game.mode ∨ after.gameEnd = true := by
  cases step with
  | idle => exact .inl rfl
  | click active mouse click => exact .inl (mode_mpButtonsHandler { game with mpMouse := mouse } click)
  | expire => exact .inr rfl
  | pass =>
      left
      simp only [mpChangePlayer_eq, sendOrQueue_eq]
  | count => exact .inl rfl
  | leave ended alarm =>
      obtain ⟨mode, left⟩ := leave_mode { game with alarm := alarm }
      rw [left]
      exact .inr ended

/-- `ACK` and the length bytes are no result. -/
theorem not_decides {after : MpGame} (frees : after.buttons.frees ≤ game.buttons.frees)
    (listening : after.mode = .mpGame) (queue : after.uartHasDataToSend = game.uartHasDataToSend)
    (queued : after.uartData = game.uartData)
    (written : after.uart.written = game.uart.written ∨
      after.uart.written = game.uart.written ++ [Coms.ack.toByte] ∨
      after.numRoundSentBytes ≠ game.numRoundSentBytes) :
    ¬ game.Decides after := by
  have silent {byte : UInt8} (other : Coms.ack.toByte ≠ byte)
      (counted : after.numRoundSentBytes = game.numRoundSentBytes) : ¬ game.Sends after byte := by
    rintro (sent | ⟨waiting, value, fresh⟩)
    · obtain same | acked | changed := written
      · rw [same] at sent
        exact List.cons_ne_nil _ _ (List.self_eq_append_right.mp sent)
      · rw [acked] at sent
        exact other (by simpa using sent)
      · exact changed counted
    · rw [queue] at waiting
      rw [queued] at value
      exact fresh ⟨waiting, value⟩
  rintro (ended | left | ⟨counted, lost | tied⟩)
  · omega
  · exact left listening
  · exact silent (by decide) counted lost
  · exact silent (by decide) counted tied

theorem uart_startGame_client (connecting : game.isHost = false) (data : UInt8) (emptyThr : Bool) :
    (game.startGame data emptyThr).uart = game.uart ∨
    (game.startGame data emptyThr).uart = game.uart.serialWriteByte Coms.ack.toByte := by
  have notHost : ¬ game.isHost = true := by simp [connecting]
  rw [startGame, if_neg notHost]
  split
  · split
    · exact .inr rfl
    · exact .inl rfl
  · split
    · exact .inl rfl
    · dsimp only
      split
      · exact .inr rfl
      · exact .inl rfl

theorem Waits.startGame (waits : game.Waits) (data : UInt8) (emptyThr : Bool) :
    ¬ game.Decides (game.startGame data emptyThr) := by
  by_cases hosting : game.isHost = true
  · obtain same | ⟨_, _, _, next⟩ | ⟨_, acked⟩ := startGame_host_cases hosting data emptyThr
    · rw [same]
      exact not_decides (Nat.le_refl _) waits.1 rfl rfl (.inl rfl)
    · rw [next]
      exact not_decides (Nat.le_refl _) waits.1 rfl rfl (.inr (.inr (Nat.succ_ne_self _)))
    · rw [acked]
      exact not_decides (Nat.le_refl _) waits.1 rfl rfl (.inl rfl)
  · have connecting : game.isHost = false := by simpa using hosting
    have written : (game.startGame data emptyThr).uart.written = game.uart.written ∨
        (game.startGame data emptyThr).uart.written = game.uart.written ++ [Coms.ack.toByte] := by
      obtain same | sent := uart_startGame_client connecting data emptyThr
      · exact .inl (by rw [same])
      · rw [sent]
        exact Uart.written_serialWriteByte_cases
    obtain same | ⟨_, _, owed⟩ | ⟨_, _, first⟩ | ⟨_, _, uart, started, second⟩ :=
      startGame_client_cases connecting data emptyThr
    · rw [same]
      exact not_decides (Nat.le_refl _) waits.1 rfl rfl (.inl rfl)
    · rw [owed] at written ⊢
      exact not_decides (Nat.le_refl _) waits.1 rfl rfl (written.imp_right .inl)
    · rw [first] at written ⊢
      exact not_decides (Nat.le_refl _) waits.1 rfl rfl (written.imp_right .inl)
    · rw [second] at written ⊢
      exact not_decides (Nat.zero_le _) waits.1 rfl rfl (written.imp_right .inl)

theorem Waits.uartNotification (waits : game.Waits) (data : UInt8) (type : IntOrigin) :
    game.uartNotification data type = game ∨
    ∃ byte emptyThr, game.uartNotification data type = game.startGame byte emptyThr := by
  unfold MpGame.uartNotification mpGameUpdateStatusUart
  rw [if_pos waits.1]
  cases type with
  | recData => exact .inr ⟨data, false, if_pos (by simp [waits.2])⟩
  | transEmpty => exact .inr ⟨Coms.connected.toByte, true, if_pos (by simp [waits.2])⟩
  | modStat | lineStat | charTimeout | reserved => exact .inl rfl

/-- The alarm and ENTER decide the game of a client without a number of rounds. -/
theorem Reached.premature {input : Input} (reached : game.Reached) (premature : game.Premature (.input input)) :
    (game.eventHandler input).gameEnd = true ∧ (game.eventHandler input).isPlayer1 = false ∧
    game.Decides (game.eventHandler input) := by
  cases input with
  | click click => exact premature.elim
  | mouse packet => exact premature.elim
  | timer => exact premature.elim
  | key press =>
      obtain ⟨⟨waits, _, second⟩, ended, pressed⟩ := premature
      have leaves : game.eventHandler (.key press) = game.leave := by
        simp [eventHandler, handle, mpGameUpdateStatusKey, waits.1, ended, pressed]
      have left := leave_mode_ne game
      obtain ⟨mode, same⟩ := leave_mode game
      rw [leaves]
      refine ⟨?_, ?_, .inr (.inl left)⟩
      · rw [same]
        exact ended
      · rw [same]
        exact second
  | rtc =>
      obtain ⟨waits, connecting, second⟩ := premature
      have mine : game.isHost = game.isPlayer1 := connecting.trans second.symm
      by_cases ended : game.gameEnd = true
      · have leaves : game.eventHandler .rtc = leave { game with alarm := .everySecond } := by
          simp [eventHandler, handle, mpGameUpdateStatusRtc, leaveIfEnded, waits.1, ended]
        have left := leave_mode_ne { game with alarm := .everySecond }
        obtain ⟨mode, same⟩ := leave_mode { game with alarm := .everySecond }
        rw [leaves]
        refine ⟨?_, ?_, .inr (.inl left)⟩
        · rw [same]
          exact ended
        · rw [same]
          exact second
      · obtain prepared | ⟨_, _, old | ⟨expired, closed⟩⟩ := reached.waiting waits
        · exact absurd prepared.reset (by simp [connecting, second])
        · exact absurd old ended
        · have loses : game.eventHandler .rtc = game.mpGetWinner.mpSendWinner.mpEndGame := by
            simp [eventHandler, handle, mpGameUpdateStatusRtc, waits.1, mine, ended, expired, closed]
          rw [loses]
          simp only [mpGetWinner, mpSendWinner_eq, mpEndGame, sendOrQueue_eq]
          exact ⟨trivial, second, .inl (Nat.lt_succ_self _)⟩

theorem Reached.harmless {input : Input} (reached : game.Reached) (waits : game.Waits)
    (harmless : ¬ game.Premature (.input input)) :
    ∃ mouse screen seconds,
      game.eventHandler input = { game with mpMouse := mouse, ps := screen, timeLeftForScreen := seconds } := by
  obtain prepared | ⟨connecting, second, _⟩ := reached.waiting waits
  · exact eventHandler_waiting waits.2 prepared.running prepared.noClock input
  · have awaits : game.AwaitsRounds := ⟨waits, connecting, second⟩
    rw [eventHandler, if_pos waits.1]
    cases input with
    | click click =>
        have same : game.localClick click = game := by simp [localClick, waits.2]
        exact ⟨_, _, _, same⟩
    | mouse packet =>
        have same : game.mpGameUpdateStatusMouse packet = game := by simp [mpGameUpdateStatusMouse, waits.2]
        exact ⟨_, _, _, same⟩
    | key press =>
        have same : game.mpGameUpdateStatusKey press = game := by
          rw [mpGameUpdateStatusKey]
          split
          · rename_i ended
            exact if_neg fun pressed => harmless ⟨awaits, ended, pressed⟩
          · rfl
        exact ⟨_, _, _, same⟩
    | timer =>
        rw [handle, mpGameUpdateStatusTimer]
        dsimp only
        split
        · exact ⟨_, _, _, rfl⟩
        · exact ⟨_, _, _, rfl⟩
    | rtc => exact absurd awaits harmless

theorem Premature.waits {event : ProgramEvent} (premature : game.Premature event) : game.Waits := by
  cases event with
  | input input =>
      cases input with
      | key press => exact premature.1.1
      | rtc => exact premature.1
      | click click | mouse packet | timer => exact premature.elim
  | hostConfirm | connectConfirm | uart | shiftOut | elsewhere => exact premature.elim

/-- An event decides a game that has not started, precisely if it is the alarm
or ENTER of a client without a number of rounds. -/
theorem Reached.decides_iff (reached : game.Reached) (waits : game.Waits) (event : ProgramEvent) :
    game.Decides (game.proceed event) ↔ game.Premature event := by
  have unchanged : ¬ game.Decides game := not_decides (Nat.le_refl _) waits.1 rfl rfl (.inl rfl)
  cases event with
  | hostConfirm numRounds =>
      rw [proceed, if_pos waits.1]
      exact iff_of_false unchanged not_false
  | connectConfirm =>
      rw [proceed, if_pos waits.1]
      exact iff_of_false unchanged not_false
  | input input =>
      by_cases premature : game.Premature (.input input)
      · exact iff_of_true (reached.premature premature).2.2 premature
      · obtain ⟨mouse, screen, seconds, same⟩ := reached.harmless waits premature
        rw [proceed, same]
        exact iff_of_false (not_decides (Nat.le_refl _) waits.1 rfl rfl (.inl rfl)) premature
  | uart data type =>
      rw [proceed]
      obtain same | ⟨byte, emptyThr, starts⟩ := waits.uartNotification data type
      · rw [same]
        exact iff_of_false unchanged not_false
      · rw [starts]
        exact iff_of_false (waits.startGame byte emptyThr) not_false
  | shiftOut =>
      exact iff_of_false (not_decides (Nat.le_refl _) waits.1 rfl rfl (.inl Uart.written_shiftOut)) not_false
  | elsewhere mode alarm lowestHiScore =>
      rw [proceed, if_pos (.inl waits.1)]
      exact iff_of_false unchanged not_false

theorem reached_hostConfirm (game : MpGame) (numRounds : Nat) : (game.hostConfirm numRounds).Reached where
  within := Nat.le_refl _
  outside := fun outside => absurd rfl outside
  waiting := fun _ => .inl ⟨rfl, rfl, .inl rfl⟩

theorem Reached.connectConfirm (reached : game.Reached) (outside : game.mode ≠ .mpGame) :
    game.connectConfirm.Reached where
  within := reached.within
  outside := fun outside => absurd rfl outside
  waiting := fun _ => .inr ⟨rfl, rfl, reached.outside outside⟩

/-- The invariant does not depend on the UART, the counters of `start_game` and
what is drawn. -/
theorem Reached.untouched (reached : game.Reached) (uart : Uart) (received sent : Nat) (byte : UInt8)
    (mouse : MouseState) (screen : PlayScreens) (seconds : Nat) :
    Reached
      { game with
        uart, receivedNoBytes := received, numRoundSentBytes := sent, receivedByte := byte
        mpMouse := mouse, ps := screen, timeLeftForScreen := seconds } where
  within := reached.within
  outside := reached.outside
  waiting := fun waits => (reached.waiting waits).imp_left fun prepared => { prepared with }

theorem Reached.eventHandler (reached : game.Reached) (input : Input) : (game.eventHandler input).Reached := by
  have frame := frame_eventHandler reached.within input
  by_cases listening : game.mode = .mpGame
  · by_cases started : game.gameStarted = true
    · refine ⟨frame.within, fun outside => .inl ?_, fun waits => ?_⟩
      · obtain same | ended := (localStep_eventHandler game input).mode
        · exact absurd (same.trans listening) outside
        · exact ended
      · have unstarted := waits.2
        rw [frame.gameStarted, started] at unstarted
        contradiction
    · have waits : game.Waits := ⟨listening, by simpa using started⟩
      by_cases premature : game.Premature (.input input)
      · have connecting : game.isHost = false := by
          cases input with
          | key press => exact premature.1.2.1
          | rtc => exact premature.2.1
          | click click | mouse packet | timer => exact premature.elim
        obtain ⟨ended, second, _⟩ := reached.premature premature
        exact ⟨frame.within, fun _ => .inl ended,
          fun _ => .inr ⟨frame.isHost.trans connecting, second, .inl ended⟩⟩
      · obtain ⟨mouse, screen, seconds, same⟩ := reached.harmless waits premature
        rw [same]
        exact reached.untouched _ _ _ _ _ _ _
  · rw [MpGame.eventHandler, if_neg listening]
    exact reached

theorem Reached.startGame (reached : game.Reached) (waits : game.Waits) (data : UInt8) (emptyThr : Bool) :
    (game.startGame data emptyThr).Reached := by
  by_cases hosting : game.isHost = true
  · obtain same | ⟨_, _, _, next⟩ | ⟨_, acked⟩ := startGame_host_cases hosting data emptyThr
    · rw [same]
      exact reached
    · rw [next]
      exact reached.untouched _ _ _ _ _ _ _
    · rw [acked]
      exact ⟨reached.within, reached.outside, fun waits => nomatch waits.2⟩
  · have connecting : game.isHost = false := by simpa using hosting
    obtain same | ⟨_, _, owed⟩ | ⟨_, _, first⟩ | ⟨_, _, uart, started, second⟩ :=
      startGame_client_cases connecting data emptyThr
    · rw [same]
      exact reached
    · rw [owed]
      exact ⟨reached.within, reached.outside, fun waits => nomatch waits.2⟩
    · rw [first]
      exact reached.untouched _ _ _ _ _ _ _
    · rw [second]
      exact ⟨Nat.le_refl _, fun outside => absurd waits.1 outside, fun _ => .inl ⟨rfl, rfl, .inr rfl⟩⟩

theorem Reached.uartNotification (reached : game.Reached) (data : UInt8) (type : IntOrigin) :
    (game.uartNotification data type).Reached := by
  by_cases listening : game.mode = .mpGame
  · by_cases started : game.gameStarted = true
    · have frame := frame_uartNotification started reached.within data type
      refine ⟨frame.within, fun outside => absurd ?_ outside, fun waits => ?_⟩
      · exact (mode_uartNotification game data type).trans listening
      · have unstarted := waits.2
        rw [frame.gameStarted, started] at unstarted
        contradiction
    · have waits : game.Waits := ⟨listening, by simpa using started⟩
      obtain same | ⟨byte, emptyThr, starts⟩ := waits.uartNotification data type
      · rw [same]
        exact reached
      · rw [starts]
        exact reached.startGame waits byte emptyThr
  · rw [MpGame.uartNotification, if_neg listening]
    exact reached

theorem Reached.proceed (reached : game.Reached) (event : ProgramEvent) : (game.proceed event).Reached := by
  cases event with
  | hostConfirm numRounds =>
      rw [MpGame.proceed]
      split
      · exact reached
      · exact reached_hostConfirm game numRounds
  | connectConfirm =>
      rw [MpGame.proceed]
      split
      · exact reached
      · rename_i outside
        exact reached.connectConfirm outside
  | input input => exact reached.eventHandler input
  | uart data type => exact reached.uartNotification data type
  | shiftOut =>
      exact reached.untouched _ _ _ _ _ _ _
  | elsewhere mode alarm lowestHiScore =>
      rw [MpGame.proceed]
      split
      · exact reached
      · rename_i outside
        rw [not_or] at outside
        exact ⟨reached.within, fun _ => reached.outside outside.1, fun waits => absurd waits.1 outside.2⟩

/-- In a run of the program nothing is decided before the start of a game,
precisely when no alarm reaches a client that waits for the number of rounds, and
no ENTER while the last game of that client is still the ended one. -/
theorem undecided_iff (uart : Uart) (lowestHiScore : Int) (uninitialised : Nat → Memory.Cell)
    (events : List ProgramEvent) :
    Along MpGame.proceed (fun game event => game.Waits → ¬ game.Decides (game.proceed event))
      (boot uart lowestHiScore uninitialised) events ↔
    Along MpGame.proceed (fun game event => ¬ game.Premature event)
      (boot uart lowestHiScore uninitialised) events := by
  refine along_congr Reached ?_ ?_ (reached_boot uart lowestHiScore uninitialised)
  · intro game event reached
    exact reached.proceed event
  · intro game event reached
    constructor
    · intro undecided premature
      exact undecided premature.waits ((reached.decides_iff premature.waits event).mpr premature)
    · intro harmless waits decides
      exact harmless ((reached.decides_iff waits event).mp decides)

/-- A host may wait as long as it likes. -/
example : Along MpGame.proceed (fun game event => ¬ game.Premature event) (TwoPc.booted true)
    [.hostConfirm 3, .input .rtc, .input .rtc, .uart Coms.connected.toByte .recData, .input .rtc] := by
  decide

/-- The first alarm after "connect" makes the client lose: it sends `LOSE` and
frees an array it does not have. -/
theorem connected_loses :
    ¬ Along MpGame.proceed (fun game event => game.Waits → ¬ game.Decides (game.proceed event))
      (TwoPc.booted true) [.connectConfirm, .input .rtc] ∧
    (Data.run MpGame.proceed (TwoPc.booted true) [.connectConfirm, .input .rtc]).uart.written =
      [Coms.connected.toByte, Coms.lose.toByte] ∧
    (Data.run MpGame.proceed (TwoPc.booted true) [.connectConfirm, .input .rtc]).buttons.frees = 1 := by
  refine ⟨?_, by decide, by decide⟩
  intro undecided
  have frees : (TwoPc.booted true).connectConfirm.buttons.frees <
      ((TwoPc.booted true).connectConfirm.proceed (.input .rtc)).buttons.frees := by decide
  exact undecided.2.1 (by decide) (.inl frees)

end MpGame

end SimonVs
