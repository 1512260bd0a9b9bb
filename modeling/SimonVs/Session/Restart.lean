import SimonVs.Session.History

namespace SimonVs

open Data Serial

namespace MpGame

variable {host client : MpGame}

/-- A repeated session: the host sends nothing, so the client keeps its ended
game. -/
structure Stale (host client : MpGame) : Prop where
  hosting : host.isHost = true
  sent : 2 ≤ host.numRoundSentBytes
  hostQueue : host.uartHasDataToSend = false
  silent : host.uart.inFlight = []
  connecting : client.isHost = false
  clientQueue : client.uartHasDataToSend = false
  ended : client.gameEnd = true
  calls : ∀ byte ∈ client.uart.inFlight, byte = Coms.connected.toByte ∨ byte = Coms.ack.toByte

theorem Stale.hostNotified (stale : Stale host client) {byte : UInt8}
    (call : byte = Coms.connected.toByte ∨ byte = Coms.ack.toByte) :
    Stale (host.uartNotification byte .recData) client := by
  by_cases listening : host.mode = .mpGame
  · by_cases started : host.gameStarted = true
    · have plays : host.uartNotification byte .recData = host.playGame byte := by
        simp [uartNotification, mpGameUpdateStatusUart, listening, started]
      rw [plays]
      rcases call with rfl | rfl
      · -- `CONNECTED` has the value of the enumerator `TIE`
        have tied : host.playGame Coms.connected.toByte = mpEndGame { host with ws := .tie } := rfl
        rw [tied]
        exact { stale with }
      · have same : host.playGame Coms.ack.toByte = host := rfl
        rw [same]
        exact stale
    · have unstarted : host.gameStarted = false := by simpa using started
      rw [uartNotification_unstarted listening unstarted]
      rcases call with rfl | rfl
      · rw [startGame_host_done stale.hosting stale.sent]
        exact stale
      · rw [startGame_host_ack stale.hosting]
        exact { stale with }
  · rw [uartNotification, if_neg listening]
    exact stale

theorem Stale.hostTransEmpty (stale : Stale host client) :
    Stale (uartNotification { host with uart := { host.uart with transEmpty := false } } 0 .transEmpty) client := by
  have cleared : Stale { host with uart := { host.uart with transEmpty := false } } client := { stale with }
  by_cases listening : host.mode = .mpGame
  · rw [uartNotification_interrupt listening stale.hostQueue, startGame_host_done cleared.hosting cleared.sent,
      ite_self]
    exact cleared
  · rw [uartNotification, if_neg listening]
    exact cleared

theorem Stale.clientTransEmpty (stale : Stale host client) :
    Stale host (uartNotification { client with uart := { client.uart with transEmpty := false } } 0 .transEmpty) := by
  have cleared : Stale host { client with uart := { client.uart with transEmpty := false } } := { stale with }
  by_cases listening : client.mode = .mpGame
  · rw [uartNotification_interrupt listening stale.clientQueue]
    split
    · exact cleared
    · obtain same | ⟨_, _, owed⟩ | ⟨unasked, _⟩ | ⟨unasked, _⟩ :=
        startGame_client_cases cleared.connecting Coms.connected.toByte true
      · rw [same]
        exact cleared
      · -- the counter of an earlier session is still 2: an `ACK` without length bytes
        rw [owed]
        refine { cleared with calls := ?_ }
        intro byte inFlight
        cases thr : client.uart.thr with
        | none =>
            have appended : Uart.inFlight (Uart.serialWriteByte { client.uart with transEmpty := false }
                Coms.ack.toByte) = client.uart.inFlight ++ [Coms.ack.toByte] :=
              Uart.inFlight_serialWriteByte thr
            rw [appended, List.mem_append, List.mem_singleton] at inFlight
            rcases inFlight with before | rfl
            · exact stale.calls byte before
            · exact .inr rfl
        | some held =>
            have busy : Uart.serialWriteByte { client.uart with transEmpty := false } Coms.ack.toByte =
                { client.uart with transEmpty := false } := by
              simp [Uart.serialWriteByte, Uart.checkThrEmtpy, thr]
            rw [busy] at inFlight
            exact stale.calls byte inFlight
      · contradiction
      · contradiction
  · rw [uartNotification, if_neg listening]
    exact cleared

theorem serialInvariant_stale : TwoPc.SerialInvariant Stale where
  hostReceives := by
    intro host client byte rest stale onLine
    have calls := stale.calls
    rw [Uart.inFlight_of_line onLine] at calls
    have read : Stale host { client with uart := { client.uart with line := rest } } :=
      { stale with calls := fun other inFlight => calls other (List.mem_cons_of_mem byte inFlight) }
    exact read.hostNotified (calls byte List.mem_cons_self)
  clientReceives := by
    intro host client byte rest stale onLine
    have silent := stale.silent
    rw [Uart.inFlight_of_line onLine] at silent
    contradiction
  hostTransEmpty := fun stale _ => stale.hostTransEmpty
  clientTransEmpty := fun stale _ => stale.clientTransEmpty
  hostShiftsOut := fun stale => { stale with silent := by simpa using stale.silent }
  clientShiftsOut := fun stale => { stale with calls := by simpa using stale.calls }

/-- The game is as it was right after the first handshake of the program. -/
structure Fresh (rounds : Nat) (game : MpGame) : Prop where
  started : game.gameStarted = true
  running : game.gameEnd = false
  size : game.buttonsSize = 0
  guessed : game.guessed = 0
  firstPlayer : game.isPlayer1 = true
  maxSize : game.maxButtonsSize = rounds

theorem SetUp.fresh {game : MpGame} {isHost : Bool} {rounds : Nat} (setUp : game.SetUp isHost rounds)
    (started : game.gameStarted = true) : Fresh rounds game :=
  { setUp with started := started }

end MpGame

namespace TwoPc

open MpGame

/-- The bytes of the next handshake can all be delivered, and once they are, both
PCs have a new game. -/
def StartsAfresh (host client : MpGame) (rounds : Nat) : Prop :=
  (∃ events, ∀ side, (Data.run serialStep (entered host client rounds) events side).uart.Quiet) ∧
  ∀ events, (∀ side, (Data.run serialStep (entered host client rounds) events side).uart.Quiet) →
    ∀ side, Fresh rounds (Data.run serialStep (entered host client rounds) events side)

variable {hosted : List Bool} {host client : MpGame} {rounds : Nat}

/-- In a repeated session no order of events gives the client a new game. -/
theorem ended_of_hosted (history : History hosted host client) (before : true ∈ hosted) (rounds : Nat)
    (events : List (Side × SerialEvent)) :
    (Data.run serialStep (entered host client rounds) events .client).gameEnd = true := by
  have calling := inFlight_connectConfirm history.secondRested.quiet
  have stale : Stale (entered host client rounds .host) (entered host client rounds .client) :=
    { hosting := rfl
      sent := history.firstHosts.sent before
      hostQueue := rfl
      silent := Uart.inFlight_of_quiet history.firstRested.quiet
      connecting := rfl
      clientQueue := rfl
      ended := history.secondRested.ended (List.ne_nil_of_mem before)
      calls := by
        intro byte inFlight
        rw [entered, calling, List.mem_singleton] at inFlight
        exact .inl inFlight }
  exact (serialInvariant_stale.run stale events).ended

theorem startsAfresh_of_unused (history : History hosted host client) (never : true ∉ hosted)
    (fits : rounds < 256) : StartsAfresh host client rounds := by
  obtain ⟨unsent, unread⟩ := history.firstHosts.unused never
  have hostQuiet := history.firstRested.quiet
  have clientQuiet := history.secondRested.quiet
  refine ⟨exists_quiet hostQuiet clientQuiet unsent unread rounds, ?_⟩
  intro events quiet side
  have shaking := shaking_run hostQuiet clientQuiet unsent unread rounds events
  obtain ⟨hostStarted, clientStarted⟩ := shaking.started_of_quiet (quiet .host) (quiet .client)
  cases side with
  | host => exact shaking.hosting.fresh hostStarted
  | client =>
      have setUp := shaking.accepted clientStarted
      rw [Nat.mod_eq_of_lt fits] at setUp
      exact setUp.fresh clientStarted

/-- The next session starts afresh precisely if its host has hosted none of the
earlier ones. -/
theorem starts_afresh_iff (sessions : Sessions hosted host client) (fits : rounds ≤ 255) :
    StartsAfresh host client rounds ↔ true ∉ hosted := by
  have history := history_of_sessions sessions
  constructor
  · intro afresh before
    obtain ⟨⟨events, quiet⟩, fresh⟩ := afresh
    have running := (fresh events quiet .client).running
    rw [ended_of_hosted history before rounds events] at running
    contradiction
  · intro never
    exact startsAfresh_of_unused history never (Nat.lt_succ_of_le fits)

/-- A short game: the host adds a button and the client runs out of time. -/
def shortGame : TwoPc :=
  run (entered someMachine.boot someMachine.boot 3)
    (handshakeEvents ++
      [(.host, .input (.click .redB)), (.client, .receive), (.client, .receive),
        (.client, .input .rtc), (.client, .input .rtc), (.client, .input .rtc), (.client, .input .rtc),
        (.client, .input .rtc), (.host, .receive), (.host, .transEmpty), (.client, .transEmpty)])

theorem starts_afresh_otherHost : StartsAfresh (shortGame .client) (shortGame .host) 5 :=
  (starts_afresh_iff (.swap (.game (.boot someMachine someMachine) 3 _ (by decide))) (by decide)).mpr (by decide)

/-- After one game the same program cannot host again. -/
theorem second_session_not_afresh :
    ∃ host client, Sessions [true] host client ∧ ¬ StartsAfresh host client 3 := by
  refine ⟨shortGame .host, shortGame .client, .game (.boot someMachine someMachine) 3 _ (by decide), ?_⟩
  intro afresh
  have quiet : ∀ side,
      (Data.run serialStep (entered (shortGame .host) (shortGame .client) 3)
        [(.client, .transEmpty), (.client, .transEmpty), (.host, .receive), (.host, .receive)]
        side).uart.Quiet := by
    decide
  have running := (afresh.2 _ quiet .client).running
  revert running
  decide

end TwoPc

end SimonVs
