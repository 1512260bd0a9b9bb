import SimonVs.Rules.Frame

namespace SimonVs

open Data Serial Rules

namespace MpGame

variable {game : MpGame}

structure Finished (game : MpGame) : Prop where
  started : game.gameStarted = true
  ended : game.gameEnd = true
  sound : game.guessed ≤ game.buttonsSize

theorem Frame.finished {after : MpGame} (frame : game.Frame after) (finished : game.Finished) :
    after.Finished :=
  ⟨frame.gameStarted.trans finished.started, frame.ended finished.ended, frame.within⟩

theorem finished_eventHandler (finished : game.Finished) (input : Input) :
    (game.eventHandler input).Finished :=
  (frame_eventHandler finished.sound input).finished finished

theorem finished_uartNotification (finished : game.Finished) (data : UInt8) (type : IntOrigin) :
    (game.uartNotification data type).Finished :=
  (frame_uartNotification finished.started finished.sound data type).finished finished

end MpGame

namespace TwoPc

variable {pcs : TwoPc} {Related Next : Seat → Seat → Prop}

def Ended (pcs : TwoPc) : Prop := ∃ side, (pcs side).Finished

theorem ended_step (ended : pcs.Ended) (event : Side × Event) : (pcs.step event).Ended := by
  obtain ⟨place, finished⟩ := ended
  refine ⟨place, ?_⟩
  exact step_keeps MpGame.finished_eventHandler MpGame.finished_uartNotification
    (fun finished _ => ⟨finished.started, finished.ended, finished.sound⟩) finished event

/-- The PCs take turns, related by `Related` once the bytes on the line are
read. -/
structure InTurn (Related : Seat → Seat → Prop) (pcs : TwoPc) : Prop where
  online : pcs.Online
  playing : Playing Seat.protocol Seat.Active Seat.Over Turn Related pcs.link

theorem InTurn.reads (inTurn : InTurn Related pcs) (event : Side × Event) : pcs.ReadsInTurn event := by
  obtain ⟨holder, holds⟩ := inTurn.playing
  obtain ⟨side, event⟩ := event
  cases event with
  | input | transEmpty | shiftOut => trivial
  | receive =>
      rcases side.eq_or_eq_other holder with rfl | rfl
      · exact .inl holds.silent
      · refine .inr ⟨by simpa [Seat.Over, link, MpGame.seat, MpGame.play] using holds.otherAlive,
          fun active => holds.waiting ?_⟩
        exact (MpGame.seat_active (inTurn.online _).started).mpr active

theorem inTurn_step (inTurn : InTurn Related pcs) (event : Side × Event)
    (rests : (∀ side action, pcs.move event = .act side action → ¬ (pcs side).seat.Active) → Next = Related)
    (swap : ∀ {giver taker}, ¬ giver.Active → taker.Active → Related giver taker → Related taker giver)
    (follows : ∀ side action, pcs.move event = .act side action → (pcs side).seat.Active →
      ¬ ((pcs side).seat.act action).1.Over → ∀ reader, Related (pcs side).seat reader →
      Next ((pcs side).seat.act action).1 (Seat.protocol.drain reader ((pcs side).seat.act action).2)) :
    InTurn Next (pcs.step event) ∨ (pcs.step event).Ended := by
  obtain ⟨online, linked⟩ := step_follows inTurn.online event (inTurn.reads event)
  rcases Seat.turnTaking.playing_step inTurn.playing (pcs.move event) rests swap follows with playing | ended
  · exact .inl ⟨online, linked ▸ playing⟩
  · obtain ⟨side, isOver⟩ := ended
    rw [← linked] at isOver
    exact .inr ⟨side, (online side).started, isOver, (online side).sound⟩

theorem Handshaken.inTurn {rounds : Nat} (shaken : pcs.Handshaken rounds)
    (related : Related (pcs .host).seat (pcs .client).seat) : InTurn Related pcs := by
  obtain ⟨host, client⟩ := shaken
  refine ⟨?_, .host, ?_⟩
  · intro side
    cases side with
    | host =>
        refine ⟨host.started, host.instant, host.thrEmpty, host.noQueue, ?_, fun _ => host.listening⟩
        rw [host.guessed]
        exact Nat.zero_le _
    | client =>
        refine ⟨client.started, client.instant, client.thrEmpty, client.noQueue, ?_, fun _ => client.listening⟩
        rw [client.guessed]
        exact Nat.zero_le _
  · have hostLine : pcs.link.line .host = [] := host.lineEmpty
    refine
      { silent := client.lineEmpty
        waiting := ?_
        holderAlive := by simp [Seat.Over, link, MpGame.seat, MpGame.play, host.running]
        otherAlive := by simp [Seat.Over, link, MpGame.seat, MpGame.play, Side.other, client.running]
        turn := ?_
        related := ?_ }
    · simp [Seat.Active, link, MpGame.seat, MpGame.play, Side.other, client.role, client.firstPlayer]
    · left
      rw [hostLine]
      exact ⟨⟨host.running, by simp [link, MpGame.seat, MpGame.play, host.role, host.firstPlayer]⟩, by simp⟩
    · rw [hostLine]
      exact related

theorem inTurn_run {rounds : Nat} (shaken : pcs.Handshaken rounds) (events : List (Side × Event)) :
    InTurn (fun _ _ => True) (pcs.run events) ∨ (pcs.run events).Ended := by
  refine run_invariant (fun pcs => InTurn (fun _ _ => True) pcs ∨ pcs.Ended) ?_
    (.inl (shaken.inTurn trivial)) along_true
  intro pcs event holds _
  rcases holds with inTurn | ended
  · refine inTurn_step inTurn event (fun _ => rfl) (fun _ _ _ => trivial) ?_
    intros
    trivial
  · exact .inr (ended_step ended event)

/-- Exactly one turn byte is in flight, behind everything else on its line. -/
def TurnInFlight (pcs : TwoPc) : Prop :=
  ∃ side, EndsInTurn Turn (pcs side).uart.inFlight ∧
    ∀ byte ∈ (pcs side.other).uart.inFlight, ¬ Turn byte

/-- Exactly one of three: the host plays, the client plays, or the turn is in
flight. -/
def TokenHeld (pcs : TwoPc) : Prop :=
  ((pcs .host).Active ∧ ¬ (pcs .client).Active ∧ ¬ pcs.TurnInFlight) ∨
  (¬ (pcs .host).Active ∧ (pcs .client).Active ∧ ¬ pcs.TurnInFlight) ∨
  (¬ (pcs .host).Active ∧ ¬ (pcs .client).Active ∧ pcs.TurnInFlight)

/-- Nothing is sent or queued, and the variables of the rules are unchanged. -/
structure Unaffected (before after : MpGame) : Prop where
  uart : after.uart = before.uart
  pending : after.uartHasDataToSend = before.uartHasDataToSend
  buttons : after.buttons = before.buttons
  buttonsSize : after.buttonsSize = before.buttonsSize
  guessed : after.guessed = before.guessed
  isPlayer1 : after.isPlayer1 = before.isPlayer1
  vsWasPressed : after.vsWasPressed = before.vsWasPressed
  playerScore : after.playerScore = before.playerScore

theorem InTurn.inFlight (inTurn : InTurn Related pcs) (side : Side) :
    (pcs side).uart.inFlight = pcs.link.line side := by
  simp [Uart.inFlight, (inTurn.online side).thrEmpty, link]

theorem InTurn.tokenHeld (inTurn : InTurn Related pcs) : pcs.TokenHeld := by
  have seated (side : Side) : (pcs side).Active ↔ (pcs.link.peer side).Active :=
    (MpGame.seat_active (inTurn.online side).started).symm
  obtain ⟨holder, holds⟩ := inTurn.playing
  have other : ¬ (pcs holder.other).Active := fun active => holds.waiting ((seated _).mp active)
  have silent : (pcs holder.other).uart.inFlight = [] := by rw [inTurn.inFlight, holds.silent]
  rcases holds.turn with ⟨active, plain⟩ | ⟨inactive, ends⟩
  · have mine : (pcs holder).Active := (seated holder).mpr active
    have noTurn : ¬ pcs.TurnInFlight := by
      intro flying
      obtain ⟨side, turnEnds, _⟩ := flying
      rcases side.eq_or_eq_other holder with rfl | rfl
      · rw [inTurn.inFlight] at turnEnds
        exact turnEnds.not_plain plain
      · rw [silent] at turnEnds
        exact turnEnds.not_plain (by simp)
    cases holder with
    | host => exact .inl ⟨mine, other, noTurn⟩
    | client => exact .inr (.inl ⟨other, mine, noTurn⟩)
  · have mine : ¬ (pcs holder).Active := fun active => inactive ((seated _).mp active)
    have flying : pcs.TurnInFlight := by
      refine ⟨holder, ?_, ?_⟩
      · rw [inTurn.inFlight]
        exact ends
      · rw [silent]
        simp
    cases holder with
    | host => exact .inr (.inr ⟨mine, other, flying⟩)
    | client => exact .inr (.inr ⟨other, mine, flying⟩)

theorem InTurn.nothing_towards_active (inTurn : InTurn Related pcs) {side : Side}
    (active : (pcs side).Active) : (pcs side.other).uart.inFlight = [] := by
  obtain ⟨holder, holds⟩ := inTurn.playing
  have seated := (MpGame.seat_active (inTurn.online side).started).mpr active
  have here : side = holder := (holds.active_other seated).1
  rw [inTurn.inFlight, here]
  exact holds.silent

theorem InTurn.unaffected (inTurn : InTurn Related pcs) {side : Side} (inactive : ¬ (pcs side).Active)
    (input : MpGame.Input) : Unaffected (pcs side) ((pcs side).handle input) := by
  obtain ⟨_, _, _, _, _, handled, _⟩ :=
    MpGame.idles_handle (inTurn.online side).started inactive input
  rw [handled]
  constructor <;> rfl

/-- In every state before the end of the game, the turn is in exactly one place,
nothing is on its way to the PC that plays, and the other PC does nothing on
its own. -/
theorem turn_token {rounds : Nat} (shaken : pcs.Handshaken rounds) (events : List (Side × Event))
    (running : ∀ side, (pcs.run events side).gameEnd = false) :
    (pcs.run events).TokenHeld ∧
    (∀ side, (pcs.run events side).Active → (pcs.run events side.other).uart.inFlight = []) ∧
    (∀ side, ¬ (pcs.run events side).Active →
      ∀ input, Unaffected (pcs.run events side) ((pcs.run events side).handle input)) := by
  have inTurn : InTurn (fun _ _ => True) (pcs.run events) := by
    rcases inTurn_run shaken events with inTurn | ended
    · exact inTurn
    · obtain ⟨side, finished⟩ := ended
      have alive := running side
      rw [finished.ended] at alive
      cases alive
  exact ⟨inTurn.tokenHeld, fun _ active => inTurn.nothing_towards_active active,
    fun _ inactive input => inTurn.unaffected inactive input⟩

/-- The host appends a button and its turn byte is still in flight. -/
theorem turn_token_after_append :
    (handshaken 3).Handshaken 3 ∧
    (run (handshaken 3) [(.host, .input (.click .redB)), (.client, .receive)]).TokenHeld :=
  ⟨handshaken_three,
    (turn_token handshaken_three [(.host, .input (.click .redB)), (.client, .receive)]
      (fun side => by cases side <;> rfl)).1⟩

end TwoPc

end SimonVs
