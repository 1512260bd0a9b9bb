import SimonVs.Rules.Frame
import SimonVs.Session.Handshake

namespace SimonVs

open Data Serial

namespace MpGame

variable {game host client : MpGame}

/-- Before the start of a game the host only counts what it sends, the client
only what it receives. -/
structure Counts (before after : MpGame) : Prop where
  isHost : after.isHost = before.isHost
  within : after.guessed ≤ after.buttonsSize
  received : before.isHost = true → after.receivedNoBytes = before.receivedNoBytes
  sent : before.isHost = false → after.numRoundSentBytes = before.numRoundSentBytes
  sentGrows : before.numRoundSentBytes ≤ after.numRoundSentBytes

theorem Frame.counts {after : MpGame} (frame : game.Frame after) : game.Counts after :=
  ⟨frame.isHost, frame.within, fun _ => frame.receivedNoBytes, fun _ => frame.numRoundSentBytes,
    Nat.le_of_eq frame.numRoundSentBytes.symm⟩

theorem Counts.refl (within : game.guessed ≤ game.buttonsSize) : game.Counts game :=
  (Frame.refl within).counts

theorem Counts.trans {before middle after : MpGame} (left : before.Counts middle) (right : middle.Counts after) :
    before.Counts after :=
  { isHost := right.isHost.trans left.isHost
    within := right.within
    received := fun hosting => (right.received (left.isHost.trans hosting)).trans (left.received hosting)
    sent := fun connecting => (right.sent (left.isHost.trans connecting)).trans (left.sent connecting)
    sentGrows := Nat.le_trans left.sentGrows right.sentGrows }

theorem startGame_host_cases (hosting : game.isHost = true) (data : UInt8) (emptyThr : Bool) :
    game.startGame data emptyThr = game ∨
    (data = Coms.connected.toByte ∧ game.numRoundSentBytes < 2 ∧ game.uart.thr = none ∧
      game.startGame data emptyThr =
        { game with
          uart := game.uart.serialWriteByte (roundsByte game.maxButtonsSize game.numRoundSentBytes)
          numRoundSentBytes := game.numRoundSentBytes + 1 }) ∨
    (data = Coms.ack.toByte ∧ game.startGame data emptyThr = { game with gameStarted := true }) := by
  by_cases acked : data = Coms.ack.toByte
  · subst acked
    exact .inr (.inr ⟨rfl, startGame_host_ack hosting emptyThr⟩)
  · by_cases asked : data = Coms.connected.toByte ∧ game.numRoundSentBytes < 2
    · obtain ⟨rfl, remaining⟩ := asked
      cases thr : game.uart.thr with
      | none => exact .inr (.inl ⟨rfl, remaining, rfl, startGame_host_next hosting thr remaining emptyThr⟩)
      | some byte =>
          left
          have busy : ¬ game.uart.checkThrEmtpy = true := by simp [Uart.checkThrEmtpy, thr]
          have asked : Coms.connected.toByte = Coms.connected.toByte ∧ game.numRoundSentBytes < 2 :=
            ⟨rfl, remaining⟩
          rw [startGame, if_pos hosting, if_neg acked, if_pos asked, if_neg busy]
    · left
      rw [startGame, if_pos hosting, if_neg acked, if_neg asked]

theorem startGame_client_cases (connecting : game.isHost = false) (data : UInt8) (emptyThr : Bool) :
    game.startGame data emptyThr = game ∨
    (emptyThr = true ∧ game.receivedNoBytes = 2 ∧
      game.startGame data emptyThr =
        { game with uart := game.uart.serialWriteByte Coms.ack.toByte, gameStarted := true }) ∨
    (emptyThr = false ∧ game.receivedNoBytes = 0 ∧
      game.startGame data emptyThr = { game with receivedByte := data, receivedNoBytes := 1 }) ∨
    (emptyThr = false ∧ game.receivedNoBytes ≠ 0 ∧
      ∃ uart started, game.startGame data emptyThr =
        { game.mpResetGame ((data.toNat <<< 8) ||| game.receivedByte.toNat) with
          uart := uart, gameStarted := started, receivedNoBytes := game.receivedNoBytes + 1 }) := by
  have notHost : ¬ game.isHost = true := by simp [connecting]
  cases emptyThr with
  | true =>
      by_cases owed : game.receivedNoBytes = 2
      · refine .inr (.inl ⟨rfl, owed, ?_⟩)
        rw [startGame, if_neg notHost, if_pos rfl, if_pos owed]
        rfl
      · left
        rw [startGame, if_neg notHost, if_pos rfl, if_neg owed]
  | false =>
      by_cases first : game.receivedNoBytes = 0
      · exact .inr (.inr (.inl ⟨rfl, first, startGame_client_first connecting first data⟩))
      · refine .inr (.inr (.inr ⟨rfl, first, ?_⟩))
        rw [startGame, if_neg notHost, if_neg Bool.false_ne_true, if_neg first]
        dsimp only
        split
        · exact ⟨_, _, rfl⟩
        · exact ⟨_, _, rfl⟩

theorem counts_startGame (within : game.guessed ≤ game.buttonsSize) (data : UInt8) (emptyThr : Bool) :
    game.Counts (game.startGame data emptyThr) := by
  by_cases hosting : game.isHost = true
  · obtain same | ⟨_, _, _, next⟩ | ⟨_, acked⟩ := startGame_host_cases hosting data emptyThr
    · rw [same]
      exact .refl within
    · rw [next]
      exact ⟨rfl, within, fun _ => rfl, by simp [hosting], Nat.le_succ _⟩
    · rw [acked]
      exact ⟨rfl, within, fun _ => rfl, fun _ => rfl, Nat.le_refl _⟩
  · have connecting : game.isHost = false := by simpa using hosting
    obtain same | ⟨_, _, owed⟩ | ⟨_, _, first⟩ | ⟨_, _, uart, started, second⟩ :=
      startGame_client_cases connecting data emptyThr
    · rw [same]
      exact .refl within
    · rw [owed]
      exact ⟨rfl, within, fun _ => rfl, fun _ => rfl, Nat.le_refl _⟩
    · rw [first]
      exact ⟨rfl, within, by simp [connecting], fun _ => rfl, Nat.le_refl _⟩
    · rw [second]
      exact ⟨rfl, Nat.zero_le _, by simp [connecting], fun _ => rfl, Nat.le_refl _⟩

theorem counts_uartNotification (within : game.guessed ≤ game.buttonsSize) (data : UInt8) (type : IntOrigin) :
    game.Counts (game.uartNotification data type) := by
  by_cases started : game.gameStarted = true
  · exact (frame_uartNotification started within data type).counts
  · unfold uartNotification mpGameUpdateStatusUart
    split
    · cases type with
      | recData | transEmpty =>
          simp only [started, Bool.not_false, if_true]
          exact counts_startGame within _ _
      | modStat | lineStat | charTimeout | reserved => exact .refl within
    · exact .refl within

theorem eventHandler_waiting (unstarted : game.gameStarted = false) (running : game.gameEnd = false)
    (noClock : game.timeLeftForClick = -1) (input : Input) :
    ∃ mouse screen seconds,
      game.eventHandler input = { game with mpMouse := mouse, ps := screen, timeLeftForScreen := seconds } := by
  have steps := localStep_eventHandler game input
  generalize game.eventHandler input = after at steps
  cases steps with
  | idle mouse screen seconds => exact ⟨mouse, screen, seconds, rfl⟩
  | click active => simp [active.1] at unstarted
  | expire _ _ expired => simp [expired] at noClock
  | pass _ _ expired => simp [expired] at noClock
  | count _ _ remaining => omega
  | leave ended => simp [ended] at running

theorem noAck_serialWriteByte {uart : Uart} {byte : UInt8} (other : byte ≠ Coms.ack.toByte)
    (noAck : Coms.ack.toByte ∉ uart.inFlight) : Coms.ack.toByte ∉ (uart.serialWriteByte byte).inFlight := by
  cases thr : uart.thr with
  | none =>
      rw [Uart.inFlight_serialWriteByte thr]
      simp [noAck, other.symm]
  | some held =>
      have busy : uart.serialWriteByte byte = uart := by simp [Uart.serialWriteByte, Uart.checkThrEmtpy, thr]
      rw [busy]
      exact noAck

theorem noAck_sendOrQueue {byte : UInt8} (other : byte ≠ Coms.ack.toByte)
    (noAck : Coms.ack.toByte ∉ game.uart.inFlight) :
    Coms.ack.toByte ∉ (game.sendOrQueue byte).uart.inFlight := by
  rw [sendOrQueue_eq]
  dsimp only
  split
  · exact noAck_serialWriteByte other noAck
  · exact noAck

theorem noAck_eventHandler (unstarted : game.gameStarted = false) (input : Input)
    (noAck : Coms.ack.toByte ∉ game.uart.inFlight) :
    Coms.ack.toByte ∉ (game.eventHandler input).uart.inFlight := by
  have steps := localStep_eventHandler game input
  generalize game.eventHandler input = after at steps
  cases steps with
  | idle => exact noAck
  | click active => simp [active.1] at unstarted
  | expire =>
      -- the client of a session that has not begun can run out of time
      rw [mpSendWinner_eq]
      refine noAck_sendOrQueue ?_ noAck
      split
      · decide
      · decide
  | pass =>
      rw [mpChangePlayer_eq]
      refine noAck_sendOrQueue ?_ noAck
      split
      · decide
      · decide
  | count => exact noAck
  | leave ended alarm =>
      obtain ⟨mode, left⟩ := leave_mode { game with alarm := alarm }
      rw [left]
      exact noAck

/-- The host has not sent both length bytes yet, so nobody can start. -/
structure Early (host client : MpGame) : Prop where
  hosting : host.isHost = true
  hostUnstarted : host.gameStarted = false
  running : host.gameEnd = false
  noClock : host.timeLeftForClick = -1
  connecting : client.isHost = false
  clientUnstarted : client.gameStarted = false
  clientWithin : client.guessed ≤ client.buttonsSize
  noAck : Coms.ack.toByte ∉ client.uart.inFlight
  counted : client.receivedNoBytes + host.uart.inFlight.length ≤ host.numRoundSentBytes
  unfinished : host.numRoundSentBytes < 2

/-- The host has sent both length bytes, or nobody has started. -/
structure SentOrEarly (host client : MpGame) : Prop where
  within : host.guessed ≤ host.buttonsSize
  sent : 2 ≤ host.numRoundSentBytes ∨ Early host client

theorem SentOrEarly.of_counts {after : MpGame} (counts : host.Counts after)
    (sent : 2 ≤ host.numRoundSentBytes) : SentOrEarly after client :=
  ⟨counts.within, .inl (Nat.le_trans sent counts.sentGrows)⟩

theorem SentOrEarly.notified (within : host.guessed ≤ host.buttonsSize) (sent : 2 ≤ host.numRoundSentBytes)
    (data : UInt8) (type : IntOrigin) : SentOrEarly (host.uartNotification data type) client :=
  of_counts (counts_uartNotification within data type) sent

theorem Early.hostStartGame (early : Early host client) (within : host.guessed ≤ host.buttonsSize)
    {data : UInt8} (other : data ≠ Coms.ack.toByte) (emptyThr : Bool) :
    SentOrEarly (host.startGame data emptyThr) client := by
  obtain same | ⟨_, _, thr, next⟩ | ⟨acked, _⟩ := startGame_host_cases early.hosting data emptyThr
  · rw [same]
    exact ⟨within, .inr early⟩
  · rw [next]
    by_cases both : 2 ≤ host.numRoundSentBytes + 1
    · exact ⟨within, .inl both⟩
    · have counted := early.counted
      refine ⟨within, .inr { early with counted := ?_, unfinished := Nat.lt_of_not_le both }⟩
      simp only [Uart.inFlight_serialWriteByte thr, List.length_append, List.length_singleton]
      omega
  · exact absurd acked other

theorem Early.clientReceives {byte : UInt8} {rest : List UInt8} (early : Early host client)
    (onLine : host.uart.line = byte :: rest) :
    Early { host with uart := { host.uart with line := rest } } (client.uartNotification byte .recData) := by
  have counted := early.counted
  have unfinished := early.unfinished
  rw [Uart.inFlight_of_line onLine, List.length_cons] at counted
  have first : client.receivedNoBytes = 0 := by omega
  by_cases listening : client.mode = .mpGame
  · rw [uartNotification_unstarted listening early.clientUnstarted,
      startGame_client_first early.connecting first]
    refine { early with counted := ?_ }
    dsimp only
    omega
  · rw [uartNotification, if_neg listening]
    refine { early with counted := ?_ }
    dsimp only
    omega

theorem serialInvariant_sentOrEarly : TwoPc.SerialInvariant SentOrEarly where
  hostReceives := by
    intro host client byte rest keeps onLine
    rcases keeps.sent with sent | early
    · exact SentOrEarly.notified keeps.within sent byte .recData
    · have noAck := early.noAck
      rw [Uart.inFlight_of_line onLine, List.mem_cons, not_or] at noAck
      have early : Early host { client with uart := { client.uart with line := rest } } :=
        { early with noAck := noAck.2 }
      by_cases listening : host.mode = .mpGame
      · rw [uartNotification_unstarted listening early.hostUnstarted]
        exact early.hostStartGame keeps.within (Ne.symm noAck.1) false
      · rw [uartNotification, if_neg listening]
        exact ⟨keeps.within, .inr early⟩
  clientReceives := by
    intro host client byte rest keeps onLine
    rcases keeps.sent with sent | early
    · exact ⟨keeps.within, .inl sent⟩
    · exact ⟨keeps.within, .inr (early.clientReceives onLine)⟩
  hostTransEmpty := by
    intro host client keeps raised
    rcases keeps.sent with sent | early
    · apply SentOrEarly.notified
      · exact keeps.within
      · exact sent
    · have cleared : Early { host with uart := { host.uart with transEmpty := false } } client := { early with }
      by_cases listening : host.mode = .mpGame
      · have notified :
            uartNotification { host with uart := { host.uart with transEmpty := false } } 0 .transEmpty =
              startGame { host with uart := { host.uart with transEmpty := false } } Coms.connected.toByte true := by
          simp [uartNotification, mpGameUpdateStatusUart, listening, early.hostUnstarted]
        rw [notified]
        exact cleared.hostStartGame keeps.within (by decide) true
      · rw [uartNotification, if_neg listening]
        exact ⟨keeps.within, .inr cleared⟩
  clientTransEmpty := by
    intro host client keeps raised
    rcases keeps.sent with sent | early
    · exact ⟨keeps.within, .inl sent⟩
    · have counted := early.counted
      have unfinished := early.unfinished
      have missing : client.receivedNoBytes ≠ 2 := by omega
      have same :
          uartNotification { client with uart := { client.uart with transEmpty := false } } 0 .transEmpty =
            { client with uart := { client.uart with transEmpty := false } } := by
        simp [uartNotification, mpGameUpdateStatusUart, startGame, early.clientUnstarted, early.connecting, missing]
      rw [same]
      exact ⟨keeps.within, .inr { early with }⟩
  hostShiftsOut := by
    intro host client keeps
    rcases keeps.sent with sent | early
    · exact ⟨keeps.within, .inl sent⟩
    · exact ⟨keeps.within, .inr { early with counted := by simpa using early.counted }⟩
  clientShiftsOut := by
    intro host client keeps
    rcases keeps.sent with sent | early
    · exact ⟨keeps.within, .inl sent⟩
    · exact ⟨keeps.within, .inr { early with noAck := by simpa using early.noAck }⟩

theorem SentOrEarly.hostInput (keeps : SentOrEarly host client) (input : Input) :
    SentOrEarly (host.eventHandler input) client := by
  have frame := frame_eventHandler keeps.within input
  rcases keeps.sent with sent | early
  · exact of_counts frame.counts sent
  · obtain ⟨mouse, screen, seconds, handled⟩ :=
      eventHandler_waiting early.hostUnstarted early.running early.noClock input
    rw [handled]
    exact ⟨keeps.within, .inr { early with }⟩

theorem SentOrEarly.clientInput (keeps : SentOrEarly host client) (input : Input) :
    SentOrEarly host (client.eventHandler input) := by
  rcases keeps.sent with sent | early
  · exact ⟨keeps.within, .inl sent⟩
  · have frame := frame_eventHandler early.clientWithin input
    refine ⟨keeps.within, .inr ?_⟩
    exact
      { early with
        connecting := frame.isHost.trans early.connecting
        clientUnstarted := frame.gameStarted.trans early.clientUnstarted
        clientWithin := frame.within
        noAck := noAck_eventHandler early.clientUnstarted input early.noAck
        counted := by rw [frame.receivedNoBytes]; exact early.counted }

end MpGame

namespace TwoPc

open MpGame

variable {pcs : TwoPc}

theorem sentOrEarly_step (keeps : SentOrEarly (pcs .host) (pcs .client)) (event : Side × Event) :
    SentOrEarly (pcs.step event .host) (pcs.step event .client) := by
  obtain ⟨side, event⟩ := event
  cases event with
  | input happens =>
      cases side with
      | host => exact keeps.hostInput happens
      | client => exact keeps.clientInput happens
  | receive => exact serialInvariant_sentOrEarly.step keeps side .receive
  | transEmpty => exact serialInvariant_sentOrEarly.step keeps side .transEmpty
  | shiftOut => exact serialInvariant_sentOrEarly.step keeps side .shiftOut

/-- Whatever has happened in a session, a host that has started it has sent both
length bytes in its life. -/
theorem sent_of_started {host client : MpGame} {rounds : Nat} {events : List (Side × Event)}
    (keeps : SentOrEarly (entered host client rounds .host) (entered host client rounds .client))
    (started : (run (entered host client rounds) events .host).gameStarted = true) :
    2 ≤ (run (entered host client rounds) events .host).numRoundSentBytes := by
  have after : SentOrEarly (run (entered host client rounds) events .host)
      (run (entered host client rounds) events .client) :=
    run_invariant (fun pcs : TwoPc => SentOrEarly (pcs .host) (pcs .client))
      (fun _ event keeps _ => sentOrEarly_step keeps event) keeps along_true
  rcases after.sent with sent | early
  · exact sent
  · rw [early.hostUnstarted] at started
    contradiction

/-- The counters that a session leaves alone, whatever happens in it: what its
host has received and what its client has sent. -/
theorem counts_run {place : Side} (within : (pcs place).guessed ≤ (pcs place).buttonsSize)
    (events : List (Side × Event)) : (pcs place).Counts (run pcs events place) := by
  refine run_invariant (fun after : TwoPc => (pcs place).Counts (after place)) ?_ (.refl within) along_true
  intro after event counts _
  refine step_keeps ?_ ?_ ?_ counts event
  · intro game counts input
    exact counts.trans (frame_eventHandler counts.within input).counts
  · intro game counts data type
    exact counts.trans (counts_uartNotification counts.within data type)
  · intro game counts uart
    exact { counts with }

/-- A game that was started is over, and the line is quiet again. -/
structure Over (game : MpGame) : Prop where
  started : game.gameStarted = true
  ended : game.gameEnd = true
  quiet : game.uart.Quiet

instance (game : MpGame) : Decidable (Over game) :=
  decidable_of_iff (game.gameStarted = true ∧ game.gameEnd = true ∧ game.uart.Quiet)
    ⟨fun isOver => ⟨isOver.1, isOver.2.1, isOver.2.2⟩, fun isOver => ⟨isOver.started, isOver.ended, isOver.quiet⟩⟩

/-- Two programs after some two-PC games. The list says for each game, the last
one first, whether the first program was the host. -/
inductive Sessions : List Bool → MpGame → MpGame → Prop where
  | boot (first second : Machine) : Sessions [] first.boot second.boot
  | game {hosted first second} (earlier : Sessions hosted first second) (rounds : Nat)
      (events : List (Side × Event)) (isOver : ∀ side, Over (run (entered first second rounds) events side)) :
      Sessions (true :: hosted) (run (entered first second rounds) events .host)
        (run (entered first second rounds) events .client)
  | swap {hosted first second} (earlier : Sessions hosted first second) :
      Sessions (hosted.map (! ·)) second first
  -- between two games the first program shows other screens
  | elsewhere {hosted first second} (earlier : Sessions hosted first second) (mode : GameModes) (alarm : Alarm)
      (lowestHiScore : Int) (uninitialised : Nat → Memory.Cell) :
      Sessions hosted { first with mode, alarm, lowestHiScore, uninitialised } second

/-- How the counters of a host and its client tell whether the two have been in
these roles before. -/
structure Used (before : Prop) (host client : MpGame) : Prop where
  sent : before → 2 ≤ host.numRoundSentBytes
  unused : ¬ before → host.numRoundSentBytes = 0 ∧ client.receivedNoBytes = 0

structure Rested (hosted : List Bool) (game : MpGame) : Prop where
  within : game.guessed ≤ game.buttonsSize
  quiet : game.uart.Quiet
  ended : hosted ≠ [] → game.gameEnd = true

structure History (hosted : List Bool) (first second : MpGame) : Prop where
  firstRested : Rested hosted first
  secondRested : Rested hosted second
  firstHosts : Used (true ∈ hosted) first second
  secondHosts : Used (false ∈ hosted) second first

variable {hosted : List Bool} {first second : MpGame} {rounds : Nat}

theorem History.sentOrEarly (history : History hosted first second) (rounds : Nat) :
    SentOrEarly (entered first second rounds .host) (entered first second rounds .client) := by
  refine ⟨Nat.le_refl 0, ?_⟩
  by_cases before : true ∈ hosted
  · exact .inl (history.firstHosts.sent before)
  · right
    obtain ⟨unsent, unread⟩ := history.firstHosts.unused before
    have calling := inFlight_connectConfirm history.secondRested.quiet
    have silent := Uart.inFlight_of_quiet history.firstRested.quiet
    exact
      { hosting := rfl
        hostUnstarted := rfl
        running := rfl
        noClock := rfl
        connecting := rfl
        clientUnstarted := rfl
        clientWithin := history.secondRested.within
        noAck := by rw [entered, calling]; decide
        counted := by
          change second.receivedNoBytes + first.uart.inFlight.length ≤ first.numRoundSentBytes
          rw [unsent, unread, silent]
          exact Nat.le_refl 0
        unfinished := by
          change first.numRoundSentBytes < 2
          omega }

theorem History.game (history : History hosted first second) (events : List (Side × Event))
    (isOver : ∀ side, Over (run (entered first second rounds) events side)) :
    History (true :: hosted) (run (entered first second rounds) events .host)
      (run (entered first second rounds) events .client) := by
  have host : (entered first second rounds .host).Counts (run (entered first second rounds) events .host) :=
    counts_run (Nat.le_refl 0) events
  have client : (entered first second rounds .client).Counts (run (entered first second rounds) events .client) :=
    counts_run history.secondRested.within events
  have received : (run (entered first second rounds) events .host).receivedNoBytes = first.receivedNoBytes :=
    host.received rfl
  have sent : (run (entered first second rounds) events .client).numRoundSentBytes = second.numRoundSentBytes :=
    client.sent rfl
  exact
    { firstRested := ⟨host.within, (isOver .host).quiet, fun _ => (isOver .host).ended⟩
      secondRested := ⟨client.within, (isOver .client).quiet, fun _ => (isOver .client).ended⟩
      firstHosts :=
        { sent := fun _ => sent_of_started (history.sentOrEarly rounds) (isOver .host).started
          unused := fun never => absurd List.mem_cons_self never }
      secondHosts :=
        { sent := by
            intro before
            rw [sent]
            exact history.secondHosts.sent (by simpa using before)
          unused := by
            intro never
            rw [sent, received]
            exact history.secondHosts.unused (by simpa using never) } }

theorem history_of_sessions (sessions : Sessions hosted first second) : History hosted first second := by
  induction sessions with
  | boot first second =>
      have rested (machine : Machine) : Rested [] machine.boot :=
        ⟨Nat.le_refl 0, Uart.quiet_idle machine.instant, fun some => absurd rfl some⟩
      have unused (role : Bool) (host client : Machine) : Used (role ∈ []) host.boot client.boot :=
        ⟨fun before => absurd before List.not_mem_nil, fun _ => ⟨rfl, rfl⟩⟩
      exact ⟨rested first, rested second, unused true first second, unused false second first⟩
  | game earlier rounds events isOver ih => exact ih.game events isOver
  | @swap hosted first second earlier ih =>
      have rested {game : MpGame} (rested : Rested hosted game) : Rested (hosted.map (! ·)) game :=
        ⟨rested.within, rested.quiet, fun some => rested.ended (by simpa using some)⟩
      have roles (role : Bool) : (role ∈ hosted.map (! ·)) = ((!role) ∈ hosted) := by
        cases role <;> simp
      exact
        { firstRested := rested ih.secondRested
          secondRested := rested ih.firstRested
          firstHosts := by rw [roles]; exact ih.secondHosts
          secondHosts := by rw [roles]; exact ih.firstHosts }
  | elsewhere earlier mode alarm lowestHiScore uninitialised ih =>
      exact
        { firstRested := ⟨ih.firstRested.within, ih.firstRested.quiet, ih.firstRested.ended⟩
          secondRested := ih.secondRested
          firstHosts := ⟨ih.firstHosts.sent, ih.firstHosts.unused⟩
          secondHosts := ⟨ih.secondHosts.sent, ih.secondHosts.unused⟩ }

end TwoPc

end SimonVs
