import SimonVs.Data.Run
import SimonVs.TwoPc

namespace SimonVs

open Data Serial

/-! The handshake: `CONNECTED` from the client, two length bytes from the host,
`ACK` from the client. The second length byte leaves when the transmitter of the
host reports that the first one is gone. -/

/-- What the serial line does by itself. -/
inductive SerialEvent where
  | receive
  | transEmpty
  | shiftOut
deriving DecidableEq, Repr

def SerialEvent.event : SerialEvent → Event
  | .receive => .receive
  | .transEmpty => .transEmpty
  | .shiftOut => .shiftOut

/-- What two freshly started programs can differ in. -/
structure Machine where
  instant : Bool
  lowestHiScore : Int
  uninitialised : Nat → Memory.Cell

def Machine.boot (machine : Machine) : MpGame :=
  .boot (.idle machine.instant) machine.lowestHiScore machine.uninitialised

def someMachine : Machine := ⟨true, 0, fun _ => none⟩

namespace Serial

variable {uart : Uart} {byte : UInt8} {rest : List UInt8}

theorem Uart.inFlight_of_line (onLine : uart.line = byte :: rest) :
    uart.inFlight = byte :: Uart.inFlight { uart with line := rest } := by
  simp [Uart.inFlight, onLine]

theorem Uart.thr_of_inFlight (nothing : uart.inFlight = []) : uart.thr = none := by
  cases held : uart.thr with
  | none => rfl
  | some byte => simp [Uart.inFlight, held] at nothing

theorem Uart.quiet_idle (instant : Bool) : (Uart.idle instant).Quiet := ⟨rfl, rfl, rfl⟩

theorem Uart.inFlight_of_quiet (quiet : uart.Quiet) : uart.inFlight = [] := by
  obtain ⟨thr, line, _⟩ := quiet
  simp [Uart.inFlight, thr, line]

end Serial

namespace MpGame

/-- What `mp_reset_game` leaves behind, on a PC that knows its role. -/
structure SetUp (game : MpGame) (isHost : Bool) (rounds : Nat) : Prop where
  role : game.isHost = isHost
  running : game.gameEnd = false
  listening : game.mode = .mpGame
  noQueue : game.uartHasDataToSend = false
  maxSize : game.maxButtonsSize = rounds
  size : game.buttonsSize = 0
  guessed : game.guessed = 0
  score : game.playerScore = 0
  firstPlayer : game.isPlayer1 = true
  vsRound : game.isVsRound = true
  closed : game.vsWasPressed = false
  noClock : game.timeLeftForClick = -1

variable {game : MpGame} {isHost : Bool} {rounds : Nat}

theorem SetUp.counted (setUp : game.SetUp isHost rounds) (uart : Uart) (started : Bool) (received sent : Nat)
    (byte : UInt8) :
    SetUp
      { game with
        uart, gameStarted := started, receivedNoBytes := received, numRoundSentBytes := sent
        receivedByte := byte } isHost rounds :=
  { setUp with }

/-- `CONNECTED`, or a transmitter that is empty again, makes a host send the
next length byte. -/
theorem startGame_host_next (hosting : game.isHost = true) (thrEmpty : game.uart.thr = none)
    (remaining : game.numRoundSentBytes < 2) (emptyThr : Bool) :
    game.startGame Coms.connected.toByte emptyThr =
      { game with
        uart := game.uart.serialWriteByte (roundsByte game.maxButtonsSize game.numRoundSentBytes)
        numRoundSentBytes := game.numRoundSentBytes + 1 } := by
  have empty : game.uart.checkThrEmtpy = true := by simp [Uart.checkThrEmtpy, thrEmpty]
  have other : Coms.connected.toByte ≠ Coms.ack.toByte := by decide
  have asked : Coms.connected.toByte = Coms.connected.toByte ∧ game.numRoundSentBytes < 2 := ⟨rfl, remaining⟩
  rw [startGame, if_pos hosting, if_neg other, if_pos asked, if_pos empty]
  rfl

theorem startGame_host_done (hosting : game.isHost = true) (done : 2 ≤ game.numRoundSentBytes) (emptyThr : Bool) :
    game.startGame Coms.connected.toByte emptyThr = game := by
  have other : Coms.connected.toByte ≠ Coms.ack.toByte := by decide
  have none : ¬ game.numRoundSentBytes < 2 := by omega
  rw [startGame, if_pos hosting, if_neg other, if_neg (not_and_of_not_right _ none)]

theorem startGame_host_ack (hosting : game.isHost = true) (emptyThr : Bool) :
    game.startGame Coms.ack.toByte emptyThr = { game with gameStarted := true } := by
  have other : Coms.ack.toByte ≠ Coms.connected.toByte := by decide
  have unasked : ¬ (Coms.ack.toByte = Coms.connected.toByte ∧ game.numRoundSentBytes < 2) :=
    not_and_of_not_left _ other
  rw [startGame, if_pos hosting, if_pos rfl, if_neg unasked]

theorem startGame_client_first (connecting : game.isHost = false) (first : game.receivedNoBytes = 0)
    (data : UInt8) :
    game.startGame data false = { game with receivedByte := data, receivedNoBytes := 1 } := by
  simp [startGame, connecting, first]

theorem startGame_client_second (connecting : game.isHost = false) (second : game.receivedNoBytes = 1)
    (thrEmpty : game.uart.thr = none) (data : UInt8) :
    game.startGame data false =
      { game.mpResetGame ((data.toNat <<< 8) ||| game.receivedByte.toNat) with
        uart := game.uart.serialWriteByte Coms.ack.toByte, gameStarted := true, receivedNoBytes := 2 } := by
  have empty : game.uart.checkThrEmtpy = true := by simp [Uart.checkThrEmtpy, thrEmpty]
  simp [startGame, connecting, second, mpResetGame, mpIsVSRound, serialWriteByte, empty]

/-- The two counters of `start_game` say how far the handshake is: how many
length bytes the host has sent, and how many of them the client has read. -/
structure Shaking (rounds : Nat) (host client : MpGame) : Prop where
  hosting : host.SetUp true rounds
  connecting : client.isHost = false
  listening : client.mode = .mpGame
  noQueue : client.uartHasDataToSend = false
  accepted : client.gameStarted = true → client.SetUp false (rounds % 256)
  sentBound : host.numRoundSentBytes ≤ 2
  receivedBound : client.receivedNoBytes ≤ host.numRoundSentBytes
  toClient : host.uart.inFlight =
    ([roundsByte rounds 0, roundsByte rounds 1].take host.numRoundSentBytes).drop client.receivedNoBytes
  toHost : client.uart.inFlight =
    if host.numRoundSentBytes = 0 then [Coms.connected.toByte]
    else if client.gameStarted && !host.gameStarted then [Coms.ack.toByte] else []
  clientStarted : client.gameStarted = true ↔ client.receivedNoBytes = 2
  hostStarted : host.gameStarted = true → client.receivedNoBytes = 2
  firstByte : 1 ≤ client.receivedNoBytes → client.receivedByte = roundsByte rounds 0
  -- the interrupt that follows the first length byte is not lost
  unused : host.numRoundSentBytes = 0 → host.uart.thr = none ∧ host.uart.transEmpty = false
  raised : host.numRoundSentBytes = 1 → (host.uart.thr = none ↔ host.uart.transEmpty = true)

variable {host client : MpGame}

structure Hosting (game : MpGame) (rounds : Nat) : Prop where
  setUp : game.SetUp true rounds
  unstarted : game.gameStarted = false
  unsent : game.numRoundSentBytes = 0
  quiet : game.uart.Quiet

structure Connecting (game : MpGame) : Prop where
  role : game.isHost = false
  listening : game.mode = .mpGame
  noQueue : game.uartHasDataToSend = false
  unstarted : game.gameStarted = false
  unread : game.receivedNoBytes = 0

/-- `host_mp_game` does not reset the counters: they have to be zero already. -/
theorem hosting_hostConfirm (quiet : game.uart.Quiet) (unsent : game.numRoundSentBytes = 0) :
    (game.hostConfirm rounds).Hosting rounds :=
  { setUp := ⟨rfl, rfl, rfl, rfl, rfl, rfl, rfl, rfl, rfl, rfl, rfl, rfl⟩
    unstarted := rfl
    unsent := unsent
    quiet := quiet }

theorem connecting_connectConfirm (unread : game.receivedNoBytes = 0) : game.connectConfirm.Connecting :=
  ⟨rfl, rfl, rfl, rfl, unread⟩

theorem inFlight_connectConfirm (quiet : game.uart.Quiet) :
    game.connectConfirm.uart.inFlight = [Coms.connected.toByte] := by
  have sent : (game.uart.serialWriteByte Coms.connected.toByte).inFlight = _ :=
    Uart.inFlight_serialWriteByte quiet.1
  rw [Uart.inFlight_of_quiet quiet] at sent
  exact sent

theorem Shaking.begin (hosting : host.Hosting rounds) (connecting : client.Connecting)
    (toHost : client.uart.inFlight = [Coms.connected.toByte]) : Shaking rounds host client where
  hosting := hosting.setUp
  connecting := connecting.role
  listening := connecting.listening
  noQueue := connecting.noQueue
  accepted := by simp [connecting.unstarted]
  sentBound := by simp [hosting.unsent]
  receivedBound := by simp [connecting.unread]
  toClient := by simp [Uart.inFlight_of_quiet hosting.quiet, hosting.unsent]
  toHost := by rw [toHost, if_pos hosting.unsent]
  clientStarted := by simp [connecting.unstarted, connecting.unread]
  hostStarted := by simp [hosting.unstarted]
  firstByte := by simp [connecting.unread]
  unused := fun _ => ⟨hosting.quiet.1, hosting.quiet.2.2⟩
  raised := by simp [hosting.unsent]

/-- A handshake can only come to rest by being complete. -/
theorem Shaking.started_of_quiet (shaking : Shaking rounds host client) (hostQuiet : host.uart.Quiet)
    (clientQuiet : client.uart.Quiet) : host.gameStarted = true ∧ client.gameStarted = true := by
  have sentBound := shaking.sentBound
  have toHost := shaking.toHost
  rw [Uart.inFlight_of_quiet clientQuiet] at toHost
  have toClient := congrArg List.length shaking.toClient
  rw [Uart.inFlight_of_quiet hostQuiet] at toClient
  simp only [List.length_nil, List.length_drop, List.length_take, List.length_cons] at toClient
  have received := shaking.receivedBound
  have connected : host.numRoundSentBytes ≠ 0 := by
    intro unsent
    simp [unsent] at toHost
  have both : host.numRoundSentBytes ≠ 1 := by
    intro sent
    have raised := (shaking.raised sent).mp hostQuiet.1
    simp [hostQuiet.2.2] at raised
  have started : client.gameStarted = true := shaking.clientStarted.mpr (by omega)
  refine ⟨?_, started⟩
  by_contra unstarted
  simp [connected, started, unstarted] at toHost

theorem uartNotification_unstarted (listening : game.mode = .mpGame) (unstarted : game.gameStarted = false)
    (data : UInt8) : game.uartNotification data .recData = game.startGame data false := by
  simp [uartNotification, mpGameUpdateStatusUart, listening, unstarted]

theorem uartNotification_interrupt (listening : game.mode = .mpGame) (noQueue : game.uartHasDataToSend = false)
    (uart : Uart) (data : UInt8) :
    uartNotification { game with uart } data .transEmpty =
      if game.gameStarted then { game with uart }
      else startGame { game with uart } Coms.connected.toByte true := by
  by_cases started : game.gameStarted = true
  · simp [uartNotification, mpGameUpdateStatusUart, listening, noQueue, started]
  · simp [uartNotification, mpGameUpdateStatusUart, listening, started]

/-- The client answers a transmitter that is empty only if it owes an `ACK`. -/
theorem uartNotification_unowed (connecting : game.isHost = false) (noQueue : game.uartHasDataToSend = false)
    (unowed : game.gameStarted = true ∨ game.receivedNoBytes ≠ 2) (uart : Uart) (data : UInt8) :
    uartNotification { game with uart } data .transEmpty = { game with uart } := by
  rcases unowed with started | missing
  · simp [uartNotification, mpGameUpdateStatusUart, started, noQueue]
  · simp [uartNotification, mpGameUpdateStatusUart, startGame, connecting, noQueue, missing]

/-- The decoder of the client is the inverse of the encoder only below 256. -/
theorem roundsByte_decoded (rounds : Nat) :
    ((roundsByte rounds 1).toNat <<< 8) ||| (roundsByte rounds 0).toNat = rounds % 256 := by
  rw [roundsByte_one, roundsByte_zero]
  simp

theorem raised_serialWriteByte {uart : Uart} (thr : uart.thr = none) (unraised : uart.transEmpty = false)
    (byte : UInt8) :
    (uart.serialWriteByte byte).thr = none ↔ (uart.serialWriteByte byte).transEmpty = true := by
  cases mode : uart.instant <;>
    simp [Uart.serialWriteByte, Uart.checkThrEmtpy, Uart.outb, thr, unraised, mode]

/-- Nobody starts before the client has read both length bytes. -/
theorem Shaking.unstarted (shaking : Shaking rounds host client) (unread : client.receivedNoBytes < 2) :
    host.gameStarted = false ∧ client.gameStarted = false := by
  constructor
  · by_contra started
    have := shaking.hostStarted (by simpa using started)
    omega
  · by_contra started
    have := shaking.clientStarted.mp (by simpa using started)
    omega

theorem Shaking.hostReceives {byte : UInt8} {rest : List UInt8} (shaking : Shaking rounds host client)
    (onLine : client.uart.line = byte :: rest) :
    Shaking rounds (host.uartNotification byte .recData)
      { client with uart := { client.uart with line := rest } } := by
  have inFlight := shaking.toHost
  rw [Uart.inFlight_of_line onLine] at inFlight
  have listening := shaking.hosting.listening
  by_cases first : host.numRoundSentBytes = 0
  · -- `CONNECTED`: the first length byte leaves
    have received : client.receivedNoBytes = 0 := by
      have := shaking.receivedBound
      omega
    obtain ⟨unstarted, clientUnstarted⟩ := shaking.unstarted (by omega)
    obtain ⟨thr, unraised⟩ := shaking.unused first
    rw [if_pos first] at inFlight
    obtain ⟨rfl, empty⟩ := List.cons_eq_cons.mp inFlight
    rw [uartNotification_unstarted listening unstarted,
      startGame_host_next shaking.hosting.role thr (by omega)]
    have nothing : host.uart.inFlight = [] := by rw [shaking.toClient, first, received]; rfl
    refine
      { shaking with
        hosting := shaking.hosting.counted _ _ _ _ _
        accepted := fun started => (shaking.accepted started).counted _ _ _ _ _
        sentBound := by simp [first]
        receivedBound := by simp [received]
        toClient := ?_
        toHost := by simpa [clientUnstarted] using empty
        unused := by simp
        raised := fun _ => raised_serialWriteByte thr unraised _ }
    simp [Uart.inFlight_serialWriteByte thr, nothing, first, received, shaking.hosting.maxSize]
  · -- `ACK`: the host starts
    rw [if_neg first] at inFlight
    by_cases waiting : (client.gameStarted && !host.gameStarted) = true
    · rw [if_pos waiting] at inFlight
      obtain ⟨rfl, empty⟩ := List.cons_eq_cons.mp inFlight
      obtain ⟨started, unstarted⟩ : client.gameStarted = true ∧ host.gameStarted = false := by
        simpa using waiting
      rw [uartNotification_unstarted listening unstarted, startGame_host_ack shaking.hosting.role]
      exact
        { shaking with
          hosting := shaking.hosting.counted _ _ _ _ _
          accepted := fun started => (shaking.accepted started).counted _ _ _ _ _
          toHost := by simpa [first] using empty
          hostStarted := fun _ => shaking.clientStarted.mp started }
    · rw [if_neg waiting] at inFlight
      exact absurd inFlight (List.cons_ne_nil _ _)

theorem Shaking.clientReceives {byte : UInt8} {rest : List UInt8} (shaking : Shaking rounds host client)
    (onLine : host.uart.line = byte :: rest) :
    Shaking rounds { host with uart := { host.uart with line := rest } }
      (client.uartNotification byte .recData) := by
  have inFlight := shaking.toClient
  rw [Uart.inFlight_of_line onLine] at inFlight
  have sentBound := shaking.sentBound
  have receivedBound := shaking.receivedBound
  have unread : client.receivedNoBytes < host.numRoundSentBytes := by
    by_contra all
    have same : client.receivedNoBytes = host.numRoundSentBytes := by omega
    rw [same] at inFlight
    simp at inFlight
  obtain ⟨hostUnstarted, unstarted⟩ := shaking.unstarted (by omega)
  have nothing : client.uart.inFlight = [] := by
    rw [shaking.toHost, if_neg (by omega), unstarted]
    rfl
  rw [uartNotification_unstarted shaking.listening unstarted]
  by_cases first : client.receivedNoBytes = 0
  · have taken : byte = roundsByte rounds 0 ∧ Uart.inFlight { host.uart with line := rest } =
        ([roundsByte rounds 0, roundsByte rounds 1].take host.numRoundSentBytes).drop 1 := by
      obtain sent | sent : host.numRoundSentBytes = 1 ∨ host.numRoundSentBytes = 2 := by omega
      · simpa [first, sent] using inFlight
      · simpa [first, sent] using inFlight
    rw [startGame_client_first shaking.connecting first]
    exact
      { shaking with
        hosting := shaking.hosting.counted _ _ _ _ _
        accepted := fun started => (shaking.accepted started).counted _ _ _ _ _
        receivedBound := Nat.one_le_of_lt unread
        toClient := taken.2
        clientStarted := by simp [unstarted]
        hostStarted := by simp [hostUnstarted]
        firstByte := fun _ => taken.1 }
  · have second : client.receivedNoBytes = 1 := by omega
    have sent : host.numRoundSentBytes = 2 := by omega
    have taken : byte = roundsByte rounds 1 ∧ Uart.inFlight { host.uart with line := rest } = [] := by
      simpa [second, sent] using inFlight
    have thr : client.uart.thr = none := Uart.thr_of_inFlight nothing
    have length : (byte.toNat <<< 8) ||| client.receivedByte.toNat = rounds % 256 := by
      rw [taken.1, shaking.firstByte (by omega), roundsByte_decoded]
    rw [startGame_client_second shaking.connecting second thr, length]
    exact
      { shaking with
        hosting := shaking.hosting.counted _ _ _ _ _
        accepted := fun _ =>
          ⟨shaking.connecting, rfl, shaking.listening, shaking.noQueue, rfl, rfl, rfl, rfl, rfl, rfl, rfl, rfl⟩
        receivedBound := by simp [sent]
        toClient := by simpa [sent] using taken.2
        toHost := by simp [sent, hostUnstarted, Uart.inFlight_serialWriteByte thr, nothing]
        clientStarted := by simp
        hostStarted := fun _ => rfl
        firstByte := fun _ => shaking.firstByte (by omega) }

theorem Shaking.hostTransEmpty (shaking : Shaking rounds host client)
    (raised : host.uart.transEmpty = true) :
    Shaking rounds
      (uartNotification { host with uart := { host.uart with transEmpty := false } } 0 .transEmpty) client := by
  have sentBound := shaking.sentBound
  have receivedBound := shaking.receivedBound
  have sentOne : host.numRoundSentBytes ≠ 0 := by
    intro unsent
    simp [(shaking.unused unsent).2] at raised
  have setUp : SetUp { host with uart := { host.uart with transEmpty := false } } true rounds :=
    shaking.hosting.counted _ _ _ _ _
  rw [uartNotification_interrupt shaking.hosting.listening shaking.hosting.noQueue]
  obtain sent | sent : host.numRoundSentBytes = 1 ∨ host.numRoundSentBytes = 2 := by omega
  · -- the second length byte leaves
    have thr : host.uart.thr = none := (shaking.raised sent).mpr raised
    obtain ⟨unstarted, clientUnstarted⟩ := shaking.unstarted (by omega)
    have inFlight : host.uart.inFlight = [roundsByte rounds 0].drop client.receivedNoBytes := by
      rw [shaking.toClient, sent]
      rfl
    have unread : client.receivedNoBytes ≤ 1 := by omega
    have next := startGame_host_next setUp.role thr (by simp [sent]) true
    rw [if_neg (by simp [unstarted]), next]
    refine
      { shaking with
        hosting := shaking.hosting.counted _ _ _ _ _
        sentBound := by simp [sent]
        receivedBound := Nat.le_succ_of_le receivedBound
        toClient := ?_
        toHost := by simpa [sent, clientUnstarted] using shaking.toHost
        unused := by simp
        raised := by simp [sent] }
    have appended : Uart.inFlight (Uart.serialWriteByte { host.uart with transEmpty := false }
        (roundsByte host.maxButtonsSize host.numRoundSentBytes)) =
          host.uart.inFlight ++ [roundsByte rounds 1] := by
      rw [shaking.hosting.maxSize, sent]
      exact Uart.inFlight_serialWriteByte thr
    rw [appended, inFlight]
    simp only [sent]
    exact (List.drop_append_of_le_length unread).symm
  · rw [startGame_host_done setUp.role (Nat.le_of_eq sent.symm), ite_self]
    exact
      { shaking with
        hosting := shaking.hosting.counted _ _ _ _ _
        unused := by simp [sent]
        raised := by simp [sent] }

theorem Shaking.rewired (shaking : Shaking rounds host client) {hostUart clientUart : Uart}
    (toClient : hostUart.inFlight = host.uart.inFlight) (toHost : clientUart.inFlight = client.uart.inFlight)
    (unused : host.uart.thr = none → host.uart.transEmpty = false →
      hostUart.thr = none ∧ hostUart.transEmpty = false)
    (raised : (host.uart.thr = none ↔ host.uart.transEmpty = true) →
      (hostUart.thr = none ↔ hostUart.transEmpty = true)) :
    Shaking rounds { host with uart := hostUart } { client with uart := clientUart } :=
  { shaking with
    hosting := shaking.hosting.counted _ _ _ _ _
    accepted := fun started => (shaking.accepted started).counted _ _ _ _ _
    toClient := toClient.trans shaking.toClient
    toHost := toHost.trans shaking.toHost
    unused := fun unsent => unused (shaking.unused unsent).1 (shaking.unused unsent).2
    raised := fun sent => raised (shaking.raised sent) }

theorem Shaking.clientTransEmpty (shaking : Shaking rounds host client) :
    Shaking rounds host
      (uartNotification { client with uart := { client.uart with transEmpty := false } } 0 .transEmpty) := by
  have unowed : client.gameStarted = true ∨ client.receivedNoBytes ≠ 2 := by
    rw [shaking.clientStarted]
    exact Classical.em _
  rw [uartNotification_unowed shaking.connecting shaking.noQueue unowed]
  exact shaking.rewired rfl rfl And.intro id

theorem Shaking.hostShiftsOut (shaking : Shaking rounds host client) :
    Shaking rounds { host with uart := host.uart.shiftOut } client := by
  refine shaking.rewired Uart.inFlight_shiftOut rfl ?_ ?_
  · intro thr unraised
    simp [Uart.shiftOut, thr, unraised]
  · intro raised
    cases held : host.uart.thr with
    | none => simpa [Uart.shiftOut, held] using raised
    | some byte => simp [Uart.shiftOut, held]

theorem Shaking.clientShiftsOut (shaking : Shaking rounds host client) :
    Shaking rounds host { client with uart := client.uart.shiftOut } :=
  shaking.rewired rfl Uart.inFlight_shiftOut And.intro id

end MpGame

namespace TwoPc

open MpGame

variable {pcs : TwoPc} {rounds : Nat}

/-- A relation between the host and the client that the serial line keeps,
whichever way it touches them. -/
structure SerialInvariant (keeps : MpGame → MpGame → Prop) : Prop where
  hostReceives : ∀ {host client : MpGame} {byte rest}, keeps host client → client.uart.line = byte :: rest →
    keeps (host.uartNotification byte .recData) { client with uart := { client.uart with line := rest } }
  clientReceives : ∀ {host client : MpGame} {byte rest}, keeps host client → host.uart.line = byte :: rest →
    keeps { host with uart := { host.uart with line := rest } } (client.uartNotification byte .recData)
  hostTransEmpty : ∀ {host client : MpGame}, keeps host client → host.uart.transEmpty = true →
    keeps (uartNotification { host with uart := { host.uart with transEmpty := false } } 0 .transEmpty) client
  clientTransEmpty : ∀ {host client : MpGame}, keeps host client → client.uart.transEmpty = true →
    keeps host (uartNotification { client with uart := { client.uart with transEmpty := false } } 0 .transEmpty)
  hostShiftsOut : ∀ {host client : MpGame}, keeps host client →
    keeps { host with uart := host.uart.shiftOut } client
  clientShiftsOut : ∀ {host client : MpGame}, keeps host client →
    keeps host { client with uart := client.uart.shiftOut }

def serialStep (pcs : TwoPc) (event : Side × SerialEvent) : TwoPc := pcs.step (event.1, event.2.event)

theorem SerialInvariant.step {keeps : MpGame → MpGame → Prop} (invariant : SerialInvariant keeps)
    (holds : keeps (pcs .host) (pcs .client)) (side : Side) (event : SerialEvent) :
    keeps (pcs.step (side, event.event) .host) (pcs.step (side, event.event) .client) := by
  cases event with
  | receive =>
      cases onLine : (pcs side.other).uart.line with
      | nil => simpa only [SerialEvent.event, TwoPc.step, onLine] using holds
      | cons byte rest =>
          simp only [SerialEvent.event, TwoPc.step, onLine]
          cases side with
          | host => exact invariant.hostReceives holds onLine
          | client => exact invariant.clientReceives holds onLine
  | transEmpty =>
      by_cases raised : (pcs side).uart.transEmpty = true
      · simp only [SerialEvent.event, TwoPc.step, raised, if_true]
        cases side with
        | host => exact invariant.hostTransEmpty holds raised
        | client => exact invariant.clientTransEmpty holds raised
      · simpa only [SerialEvent.event, TwoPc.step, raised, Bool.false_eq_true, if_false] using holds
  | shiftOut =>
      cases side with
      | host => exact invariant.hostShiftsOut holds
      | client => exact invariant.clientShiftsOut holds

theorem SerialInvariant.run {keeps : MpGame → MpGame → Prop} (invariant : SerialInvariant keeps)
    (holds : keeps (pcs .host) (pcs .client)) (events : List (Side × SerialEvent)) :
    keeps (Data.run serialStep pcs events .host) (Data.run serialStep pcs events .client) :=
  run_invariant (fun pcs : TwoPc => keeps (pcs .host) (pcs .client))
    (fun _ event holds _ => invariant.step holds event.1 event.2) holds along_true

theorem serialInvariant_shaking : SerialInvariant (Shaking rounds) where
  hostReceives := Shaking.hostReceives
  clientReceives := Shaking.clientReceives
  hostTransEmpty := Shaking.hostTransEmpty
  clientTransEmpty := fun shaking _ => shaking.clientTransEmpty
  hostShiftsOut := Shaking.hostShiftsOut
  clientShiftsOut := Shaking.clientShiftsOut

section

variable {host client : MpGame} (hostQuiet : host.uart.Quiet) (clientQuiet : client.uart.Quiet)
  (unsent : host.numRoundSentBytes = 0) (unread : client.receivedNoBytes = 0)

include hostQuiet clientQuiet unsent unread

theorem shaking_entered (rounds : Nat) :
    Shaking rounds (entered host client rounds .host) (entered host client rounds .client) :=
  Shaking.begin (hosting_hostConfirm hostQuiet unsent) (connecting_connectConfirm unread)
    (inFlight_connectConfirm clientQuiet)

theorem shaking_run (rounds : Nat) (events : List (Side × SerialEvent)) :
    Shaking rounds (Data.run serialStep (entered host client rounds) events .host)
      (Data.run serialStep (entered host client rounds) events .client) :=
  serialInvariant_shaking.run (shaking_entered hostQuiet clientQuiet unsent unread rounds) events

/-- One order in which everything is delivered, whether or not the transmitters
take their time. -/
theorem exists_quiet (rounds : Nat) :
    ∃ events, ∀ side, (Data.run serialStep (entered host client rounds) events side).uart.Quiet := by
  let events : List (Side × SerialEvent) :=
    [(.client, .shiftOut), (.host, .receive), (.client, .transEmpty), (.host, .shiftOut), (.host, .transEmpty),
      (.host, .shiftOut), (.host, .transEmpty), (.client, .receive), (.client, .receive),
      (.client, .shiftOut), (.client, .transEmpty), (.host, .receive)]
  refine ⟨events, fun side => ?_⟩
  obtain ⟨hostThr, hostLine, hostInterrupt⟩ := hostQuiet
  obtain ⟨clientThr, clientLine, clientInterrupt⟩ := clientQuiet
  cases hostMode : host.uart.instant <;> cases clientMode : client.uart.instant <;> cases side <;>
    simp [events, serialStep, SerialEvent.event, TwoPc.step, entered, hostConfirm, hostMpGame, mpResetGame,
      mpIsVSRound, connectConfirm, connectMpGame, uartNotification, mpGameUpdateStatusUart, startGame,
      MpGame.serialWriteByte, Uart.serialWriteByte, Uart.checkThrEmtpy, Uart.outb, Uart.shiftOut, Uart.Quiet,
      Side.other, Coms.toByte, hostThr, hostLine, hostInterrupt, clientThr, clientLine, clientInterrupt,
      hostMode, clientMode, unsent, unread]

/-- Once everything is delivered the two PCs are ready to play, if the number of
rounds fits into a byte. -/
theorem handshaken_of_quiet {rounds : Nat} (fits : rounds < 256) (events : List (Side × SerialEvent))
    (quiet : ∀ side, (Data.run serialStep (entered host client rounds) events side).uart.Quiet)
    (instant : ∀ side, (Data.run serialStep (entered host client rounds) events side).uart.instant = true) :
    (Data.run serialStep (entered host client rounds) events).Handshaken rounds := by
  have shaking := shaking_run hostQuiet clientQuiet unsent unread rounds events
  obtain ⟨hostStarted, clientStarted⟩ := shaking.started_of_quiet (quiet .host) (quiet .client)
  have begun {side : Side} {isHost : Bool}
      (setUp : SetUp (Data.run serialStep (entered host client rounds) events side) isHost rounds)
      (started : (Data.run serialStep (entered host client rounds) events side).gameStarted = true) :
      Begun (Data.run serialStep (entered host client rounds) events side) isHost rounds :=
    { setUp with
      started := started
      instant := instant side
      thrEmpty := (quiet side).1
      lineEmpty := (quiet side).2.1 }
  have clientSetUp := shaking.accepted clientStarted
  rw [Nat.mod_eq_of_lt fits] at clientSetUp
  exact ⟨begun shaking.hosting hostStarted, begun clientSetUp clientStarted⟩

end

end TwoPc

end SimonVs
