import SimonVs.Data.Run
import SimonVs.MpGame

namespace SimonVs

open Data Serial

namespace MpGame

/-- A request to send, or the transmitter empties the THR, or the interrupt that this
raises is handled. -/
inductive QueueEvent where
  | sendButton (click : ButtonClick)
  | sendWinner
  | changePlayer
  | shiftOut
  | transEmpty (data : UInt8)
deriving DecidableEq, Repr

/-- The byte a sender asks for. -/
def requestedByte (game : MpGame) : QueueEvent → Option UInt8
  | .sendButton click => some (buttonByte click)
  | .sendWinner => some (if game.ws = .tie then Coms.tieRemote.toByte else Coms.lose.toByte)
  | .changePlayer => some (if game.isHost then Coms.isVs.toByte else Coms.ready.toByte)
  | .shiftOut => none
  | .transEmpty _ => none

def queueStep (game : MpGame) : QueueEvent → MpGame
  | .sendButton click => game.mpSendButton click
  | .sendWinner => game.mpSendWinner
  | .changePlayer => game.mpChangePlayer
  | .shiftOut => { game with uart := game.uart.shiftOut }
  | .transEmpty data =>
      if game.uart.transEmpty then
        mpGameUpdateStatusUart { game with uart := { game.uart with transEmpty := false } } data .transEmpty
      else game

def queued (game : MpGame) : List UInt8 := if game.uartHasDataToSend then [game.uartData] else []

/-- The bytes that have reached the transmitter or wait for it, oldest first. -/
def accepted (game : MpGame) : List UInt8 := game.uart.written ++ game.queued

/-- The queue can take the event: nothing waits in it that a new byte would
replace or overtake, and it is not emptied into a busy THR. -/
def Lossless (game : MpGame) (event : QueueEvent) : Prop :=
  match game.requestedByte event, event with
  | some byte, _ => game.uartHasDataToSend = false ∨ game.uart.thr = none ∧ byte = game.uartData
  | none, .transEmpty _ => game.uart.transEmpty = false ∨ game.uartHasDataToSend = false ∨ game.uart.thr = none
  | none, _ => True

variable {game : MpGame}

theorem written_serialWriteByte {uart : Uart} (empty : uart.thr = none) (byte : UInt8) :
    (uart.serialWriteByte byte).written = uart.written ++ [byte] := by
  cases mode : uart.instant <;>
    simp [Uart.serialWriteByte, Uart.checkThrEmtpy, Uart.outb, empty, mode]

theorem accepted_sendOrQueue (data : UInt8) :
    (game.sendOrQueue data).accepted =
      if game.uart.thr = none then game.uart.written ++ [data] ++ game.queued
      else game.uart.written ++ [data] := by
  rw [sendOrQueue_eq]
  cases held : game.uart.thr with
  | none =>
      have empty : game.uart.checkThrEmtpy = true := by simp [Uart.checkThrEmtpy, held]
      simp only [accepted, queued, empty, if_true]
      rw [written_serialWriteByte held]
  | some byte =>
      have busy : game.uart.checkThrEmtpy = false := by simp [Uart.checkThrEmtpy, held]
      simp [accepted, queued, busy]

/-- A send loses, duplicates or reorders nothing precisely if the queue is empty,
or the byte that overtakes the queued one equals it. -/
theorem accepted_send_iff (data : UInt8) :
    (game.sendOrQueue data).accepted = game.accepted ++ [data] ↔
      game.uartHasDataToSend = false ∨ game.uart.thr = none ∧ data = game.uartData := by
  rw [accepted_sendOrQueue]
  cases pending : game.uartHasDataToSend with
  | false => simp [accepted, queued, pending]
  | true =>
      cases held : game.uart.thr with
      | none =>
          simp only [accepted, queued, pending, if_true, reduceCtorEq, false_or, true_and,
            List.append_assoc, List.append_cancel_left_eq, List.singleton_append, List.cons.injEq, and_true]
          constructor
          · exact fun same => same.1
          · exact fun same => ⟨same, same.symm⟩
      | some byte => simp [accepted, queued, pending]

/-- The queue is emptied into the THR if that is empty; a busy THR swallows the
byte. -/
theorem accepted_transEmpty_iff (started : game.gameStarted = true) (data : UInt8) :
    (game.queueStep (.transEmpty data)).accepted = game.accepted ↔
      game.uart.transEmpty = false ∨ game.uartHasDataToSend = false ∨ game.uart.thr = none := by
  cases raised : game.uart.transEmpty with
  | false => simp [queueStep, raised]
  | true =>
      simp only [queueStep, raised, if_true, mpGameUpdateStatusUart, started, Bool.not_true,
        Bool.false_eq_true, if_false, reduceCtorEq, false_or]
      cases pending : game.uartHasDataToSend with
      | false => simp [accepted, queued, pending]
      | true =>
          cases held : game.uart.thr with
          | none =>
              cases mode : game.uart.instant <;>
                simp [accepted, queued, pending, uartReady, serialWriteByte, Uart.serialWriteByte,
                  Uart.checkThrEmtpy, Uart.outb]
          | some byte =>
              simp [accepted, queued, pending, uartReady, serialWriteByte, Uart.serialWriteByte,
                Uart.checkThrEmtpy]

structure Sender where
  game : MpGame
  requested : List UInt8

def Sender.step (sender : Sender) (event : QueueEvent) : Sender :=
  { game := sender.game.queueStep event
    requested := sender.requested ++ (sender.game.requestedByte event).toList }

/-- A started game with an empty queue. -/
def Sender.start (game : MpGame) : Sender :=
  { game := { game with gameStarted := true, uartHasDataToSend := false }
    requested := game.uart.written }

def Sender.Faithful (sender : Sender) : Prop := sender.requested = sender.game.accepted

instance (sender : Sender) : Decidable sender.Faithful := inferInstanceAs (Decidable (_ = _))

theorem Sender.faithful_step_iff {sender : Sender} (started : sender.game.gameStarted = true)
    (faithful : sender.Faithful) (event : QueueEvent) :
    (sender.step event).Faithful ↔ sender.game.Lossless event := by
  have sends (data : UInt8) : sender.requested ++ [data] = (sender.game.sendOrQueue data).accepted ↔
      sender.game.uartHasDataToSend = false ∨
        sender.game.uart.thr = none ∧ data = sender.game.uartData := by
    rw [faithful, eq_comm]
    exact accepted_send_iff data
  cases event with
  | sendButton click => exact sends _
  | sendWinner =>
      change sender.requested ++ [_] = sender.game.mpSendWinner.accepted ↔ _
      rw [mpSendWinner_eq]
      exact sends _
  | changePlayer =>
      change sender.requested ++ [_] = sender.game.mpChangePlayer.accepted ↔ _
      rw [mpChangePlayer_eq, faithful, eq_comm]
      exact accepted_send_iff _
  | shiftOut =>
      have same : sender.game.uart.shiftOut.written = sender.game.uart.written := by
        unfold Uart.shiftOut
        split <;> rfl
      have accepts : (sender.game.queueStep .shiftOut).accepted = sender.game.accepted :=
        congrArg (fun written => written ++ sender.game.queued) same
      have requests : (sender.step .shiftOut).requested = sender.requested := List.append_nil _
      refine iff_of_true ?_ trivial
      exact requests.trans (faithful.trans accepts.symm)
  | transEmpty data =>
      have requests : (sender.step (.transEmpty data)).requested = sender.requested := List.append_nil _
      rw [Faithful, requests, faithful, eq_comm]
      exact accepted_transEmpty_iff started data

/-- The bytes written and the queued one are the bytes requested in every state
of a run precisely if the queue can take every event of it. -/
theorem queue_faithful_iff (game : MpGame) (events : List QueueEvent) :
    (∀ done, done <+: events → (Data.run Sender.step (.start game) done).Faithful) ↔
    Along Sender.step (fun sender event => sender.game.Lossless event) (.start game) events := by
  refine prefixes_safe_iff_along (fun sender : Sender => sender.game.gameStarted = true) Sender.Faithful
    ?_ ?_ ?_ ?_
  · intro sender event started _
    cases event with
    | sendButton | sendWinner | changePlayer =>
        simpa [Sender.step, queueStep, mpSendButton, mpSendWinner_eq, mpChangePlayer_eq, sendOrQueue_eq]
          using started
    | shiftOut => exact started
    | transEmpty data =>
        simp only [Sender.step, queueStep]
        split
        · simp only [mpGameUpdateStatusUart, started, Bool.not_true, Bool.false_eq_true, if_false]
          split <;> rfl
        · exact started
  · intro sender event started faithful
    exact Sender.faithful_step_iff started faithful event
  · rfl
  · exact (List.append_nil _).symm

/-- Three buttons of a VS window in a row: the third one replaces the second one
in the queue. -/
theorem queue_loses_byte :
    ¬ (Data.run Sender.step (.start (.boot (.idle false) 0 fun _ => none))
      [.sendButton .vsB, .sendButton .redB, .sendButton .blueB]).Faithful := by
  decide

end MpGame

end SimonVs
