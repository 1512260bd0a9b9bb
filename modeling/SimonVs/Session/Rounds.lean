import SimonVs.Rules.Frame
import SimonVs.Session.Handshake

namespace SimonVs

open Data Serial

namespace MpGame

structure Playing (maxSize : Nat) (game : MpGame) : Prop where
  started : game.gameStarted = true
  within : game.guessed ≤ game.buttonsSize
  maxSize : game.maxButtonsSize = maxSize

variable {game after : MpGame} {maxSize : Nat}

theorem Playing.framed (playing : Playing maxSize game) (frame : game.Frame after) : Playing maxSize after :=
  ⟨frame.gameStarted.trans playing.started, frame.within, frame.maxButtonsSize.trans playing.maxSize⟩

end MpGame

namespace TwoPc

open MpGame

/-- The users wait for the end of the handshake; the serial line does not wait. -/
def Orderly (pcs : TwoPc) (event : Side × Event) : Prop :=
  match event.2 with
  | .input _ => ∀ side, (pcs side).gameStarted = true
  | _ => True

instance (pcs : TwoPc) : (event : Side × Event) → Decidable (Orderly pcs event)
  | (_, .input _) => inferInstanceAs (Decidable (∀ side, (pcs side).gameStarted = true))
  | (_, .receive) => inferInstanceAs (Decidable True)
  | (_, .transEmpty) => inferInstanceAs (Decidable True)
  | (_, .shiftOut) => inferInstanceAs (Decidable True)

theorem along_serial {pcs : TwoPc} (events : List (Side × SerialEvent)) :
    Along step Orderly pcs (events.map fun event => (event.1, event.2.event)) := by
  induction events generalizing pcs with
  | nil => trivial
  | cons event rest ih =>
      refine ⟨?_, ih⟩
      obtain ⟨side, event⟩ := event
      cases event <;> trivial

def agreedRounds (rounds : Nat) : Side → Nat
  | .host => rounds
  | .client => rounds % 256

variable {pcs : TwoPc} {rounds : Nat}

theorem playing_step {maxSize : Nat} {place : Side} (playing : Playing maxSize (pcs place))
    (event : Side × Event) : Playing maxSize (pcs.step event place) := by
  refine step_keeps ?_ ?_ ?_ playing event
  · intro game playing input
    exact playing.framed (frame_eventHandler playing.within input)
  · intro game playing data type
    exact playing.framed (frame_uartNotification playing.started playing.within data type)
  · intro game playing uart
    exact ⟨playing.started, playing.within, playing.maxSize⟩

/-- A session shakes hands and then plays with the rounds agreed on. -/
def InSession (rounds : Nat) (pcs : TwoPc) : Prop :=
  Shaking rounds (pcs .host) (pcs .client) ∨ ∀ side, Playing (agreedRounds rounds side) (pcs side)

theorem playing_of_shaking (shaking : Shaking rounds (pcs .host) (pcs .client))
    (started : ∀ side, (pcs side).gameStarted = true) (side : Side) :
    Playing (agreedRounds rounds side) (pcs side) := by
  have playing {isHost : Bool} {size : Nat} {game : MpGame} (setUp : game.SetUp isHost size)
      (started : game.gameStarted = true) : Playing size game :=
    ⟨started, by rw [setUp.guessed]; exact Nat.zero_le _, setUp.maxSize⟩
  cases side with
  | host => exact playing shaking.hosting (started .host)
  | client => exact playing (shaking.accepted (started .client)) (started .client)

theorem inSession_step (inSession : InSession rounds pcs) (event : Side × Event) (orderly : Orderly pcs event) :
    InSession rounds (pcs.step event) := by
  rcases inSession with shaking | playing
  · obtain ⟨side, event⟩ := event
    cases event with
    | input happens =>
        right
        intro place
        exact playing_step (playing_of_shaking shaking orderly place) (side, .input happens)
    | receive => exact .inl (serialInvariant_shaking.step shaking side .receive)
    | transEmpty => exact .inl (serialInvariant_shaking.step shaking side .transEmpty)
    | shiftOut => exact .inl (serialInvariant_shaking.step shaking side .shiftOut)
  · exact .inr fun place => playing_step (playing place) event

theorem InSession.playing (inSession : InSession rounds pcs) (started : ∀ side, (pcs side).gameStarted = true)
    (side : Side) : Playing (agreedRounds rounds side) (pcs side) := by
  rcases inSession with shaking | playing
  · exact playing_of_shaking shaking started side
  · exact playing side

def RoundsAgree (rounds : Nat) (pcs : TwoPc) : Prop :=
  (pcs .client).maxButtonsSize = (pcs .host).maxButtonsSize ∧ (pcs .host).maxButtonsSize = rounds

instance (rounds : Nat) (pcs : TwoPc) : Decidable (RoundsAgree rounds pcs) := inferInstanceAs (Decidable (_ ∧ _))

theorem roundsAgree_iff (playing : ∀ side, Playing (agreedRounds rounds side) (pcs side)) :
    RoundsAgree rounds pcs ↔ rounds < 256 := by
  unfold RoundsAgree
  rw [(playing .host).maxSize, (playing .client).maxSize]
  simp only [agreedRounds, and_true]
  omega

/-- In the first session of two programs the client always gets the number of
rounds of the host precisely if that number fits into a byte. -/
theorem rounds_agree_iff (host client : Machine) (rounds : Nat) :
    (∀ events, Along step Orderly (entered host.boot client.boot rounds) events →
      (∀ side, (run (entered host.boot client.boot rounds) events side).gameStarted = true) →
      RoundsAgree rounds (run (entered host.boot client.boot rounds) events)) ↔
    rounds < 256 := by
  have hostQuiet : host.boot.uart.Quiet := Uart.quiet_idle host.instant
  have clientQuiet : client.boot.uart.Quiet := Uart.quiet_idle client.instant
  constructor
  · intro agree
    -- some order of events completes the handshake, whatever the number of rounds
    obtain ⟨serial, quiet⟩ := exists_quiet hostQuiet clientQuiet rfl rfl rounds
    have shaking := shaking_run hostQuiet clientQuiet rfl rfl rounds serial
    obtain ⟨hostStarted, clientStarted⟩ := shaking.started_of_quiet (quiet .host) (quiet .client)
    have started (side : Side) :
        (Data.run serialStep (entered host.boot client.boot rounds) serial side).gameStarted = true := by
      cases side with
      | host => exact hostStarted
      | client => exact clientStarted
    let events := serial.map fun event => (event.1, event.2.event)
    have same : run (entered host.boot client.boot rounds) events =
        Data.run serialStep (entered host.boot client.boot rounds) serial := List.foldl_map
    have orderly : Along step Orderly (entered host.boot client.boot rounds) events := along_serial serial
    have agrees := agree events orderly (by rw [same]; exact started)
    rw [same] at agrees
    exact (roundsAgree_iff (playing_of_shaking shaking started)).mp agrees
  · intro fits events orderly started
    have inSession : InSession rounds (run (entered host.boot client.boot rounds) events) :=
      run_invariant (InSession rounds) (fun _ event inSession => inSession_step inSession event)
        (.inl (shaking_entered hostQuiet clientQuiet rfl rfl rounds)) orderly
    exact (roundsAgree_iff (inSession.playing started)).mpr fits

/-- 300 rounds on the host are 44 rounds on the client. -/
theorem rounds_disagree :
    ∃ events, Along step Orderly (entered someMachine.boot someMachine.boot 300) events ∧
      (∀ side, (run (entered someMachine.boot someMachine.boot 300) events side).gameStarted = true) ∧
      ¬ RoundsAgree 300 (run (entered someMachine.boot someMachine.boot 300) events) :=
  ⟨handshakeEvents, by decide⟩

end TwoPc

end SimonVs
