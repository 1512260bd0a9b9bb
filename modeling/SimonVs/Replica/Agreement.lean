import SimonVs.Replica.Turn

namespace SimonVs

open Data Serial Rules

namespace Rules

/-- What both PCs keep: everything but their own clock and their own verdict on
the winner. -/
def Play.shared (play : Play) : Play := { play with timeLeft := 0, winner := .winner1 }

theorem Play.verdict_shared (play : Play) (click : ButtonClick) :
    play.shared.verdict click = play.verdict click := rfl

theorem Play.press_shared (play : Play) (click : ButtonClick) :
    (play.press click).shared = play.shared.press click := by
  unfold Play.press
  rw [Play.verdict_shared]
  cases play.verdict click <;> rfl

/-- The two PCs hold the same game from opposite roles. -/
structure Seat.Agree (first second : Seat) : Prop where
  shared : first.play.shared = second.play.shared
  roles : first.isHost ≠ second.isHost
  vsRound : first.play.isVsRound = true

namespace Seat

variable {holder reader : Seat} {button : ButtonClick}

theorem Agree.isVsRound_reader (agree : holder.Agree reader) : reader.play.isVsRound = true := by
  have same : holder.play.shared.isVsRound = reader.play.shared.isVsRound := by rw [agree.shared]
  rw [← agree.vsRound]
  exact same.symm

theorem Agree.symm (agree : holder.Agree reader) : reader.Agree holder :=
  ⟨agree.shared.symm, agree.roles.symm, agree.isVsRound_reader⟩

theorem Agree.verdict (agree : holder.Agree reader) (button : ButtonClick) :
    reader.play.verdict button = holder.play.verdict button := by
  rw [← Play.verdict_shared, ← agree.shared, Play.verdict_shared]

theorem Agree.press (agree : holder.Agree reader) (real : button ≠ .noButton)
    (notTied : holder.play.verdict button ≠ .tied) :
    Agree { holder with play := holder.play.press button } (reader.receive (buttonByte button)) := by
  rw [receive_buttonByte real]
  simp only [remoteClick, agree.verdict, notTied, if_false]
  refine ⟨?_, agree.roles, ?_⟩
  · rw [Play.press_shared, Play.press_shared, agree.shared]
  · rw [Play.press_isVsRound]
    exact agree.vsRound

theorem passTurn_shared (vsRound : holder.play.isVsRound = true)
    (closed : holder.isHost = false → holder.play.vsPressed = false) :
    holder.passTurn.1.play.shared = (holder.play.newTurn true).shared := by
  unfold passTurn
  cases hosting : holder.isHost with
  | true => rfl
  | false => simp [Play.shared, Play.newTurn, vsRound, closed hosting]

theorem drain_passTurn : protocol.drain reader holder.passTurn.2 =
    { reader with play := reader.play.newTurn true } := by
  unfold passTurn
  cases holder.isHost <;> rfl

/-- The turn passes to the reader. A client that hands over must have its VS
window closed, because only the host closes it here. -/
theorem Agree.passTurn (agree : holder.Agree reader)
    (closed : holder.isHost = false → holder.play.vsPressed = false) :
    Agree holder.passTurn.1 (protocol.drain reader holder.passTurn.2) := by
  obtain ⟨shared, roles, vsRound⟩ := agree
  rw [drain_passTurn]
  have turned : (holder.play.newTurn true).shared = (reader.play.newTurn true).shared := by
    have same : (holder.play.shared.newTurn true).shared = (reader.play.shared.newTurn true).shared := by
      rw [shared]
    exact same
  have passed := passTurn_shared vsRound closed
  refine ⟨?_, ?_, ?_⟩
  · rw [passed, turned]
  · rw [passTurn_isHost]
    exact roles
  · have same : holder.passTurn.1.play.shared.isVsRound = (holder.play.newTurn true).shared.isVsRound := by
      rw [passed]
    exact same

theorem Agree.click (agree : holder.Agree reader) (real : button ≠ .noButton)
    (alive : ¬ (holder.click button).1.Over) :
    Agree (holder.click button).1 (protocol.drain reader (holder.click button).2) := by
  have pressed (notTied : holder.play.verdict button ≠ .tied) := agree.press real notTied
  unfold Seat.click at alive ⊢
  cases found : holder.play.verdict button with
  | matched =>
      obtain ⟨shared, roles, vsRound⟩ := pressed (by simp [found])
      exact ⟨shared, roles, vsRound⟩
  | wrong => simp [found, Over, Play.lose] at alive
  | tied => simp [found, Over, Play.tie] at alive
  | opened =>
      obtain ⟨shared, roles, vsRound⟩ := pressed (by simp [found])
      exact ⟨shared, roles, vsRound⟩
  | extended => exact pressed (by simp [found])
  | appended =>
      obtain ⟨_, _, unlucky⟩ := Play.meets_of_verdict found
      obtain ⟨_, closed, _⟩ := unlucky agree.vsRound
      refine (pressed (by simp [found])).passTurn fun _ => ?_
      simpa [Play.press, Play.scored, found] using closed

/-- A second of the holder that neither ends the game nor closes the VS window
of a client. -/
theorem Agree.tick (agree : holder.Agree reader) (alive : ¬ holder.tick.1.Over)
    (notExpired : ¬ (holder.isHost = false ∧ holder.play.timeLeft = 0 ∧ holder.play.isVsRound = true ∧
      holder.play.vsPressed = true)) :
    Agree holder.tick.1 (protocol.drain reader holder.tick.2) := by
  unfold Seat.tick at alive ⊢
  split
  · rename_i expired
    simp [expired, Over, Play.lose] at alive
  · split
    · rename_i window
      refine agree.passTurn fun client => ?_
      exact absurd ⟨client, window.1, by simpa using window.2⟩ notExpired
    · split
      · exact ⟨agree.shared, agree.roles, agree.vsRound⟩
      · exact agree

end Seat

end Rules

namespace TwoPc

variable {pcs : TwoPc}

/-- An RTC event of the PC that plays as client closes its VS window. -/
def ClientWindowExpires (pcs : TwoPc) (event : Side × Event) : Prop :=
  event.2 = .input .rtc ∧ (pcs event.1).isHost = false ∧ (pcs event.1).Active ∧
    (pcs event.1).timeLeftForClick = 0 ∧ (pcs event.1).isVsRound = true ∧
    (pcs event.1).vsWasPressed = true

instance (pcs : TwoPc) (event : Side × Event) : Decidable (pcs.ClientWindowExpires event) :=
  inferInstanceAs (Decidable (_ ∧ _ ∧ _ ∧ _ ∧ _ ∧ _))

theorem move_tick {event : Side × Event} {side : Side} (ticks : pcs.move event = .act side .tick) :
    event = (side, .input .rtc) := by
  obtain ⟨place, event⟩ := event
  cases event with
  | input input =>
      cases input with
      | rtc =>
          simp only [move, Move.act.injEq] at ticks
          rw [ticks.1]
      | click | mouse | key | timer => simp [move, MpGame.action] at ticks
  | receive | transEmpty | shiftOut => simp [move] at ticks

theorem agree_follows (online : pcs.Online) {event : Side × Event} (good : ¬ pcs.ClientWindowExpires event)
    {side : Side} {action : Action} (moved : pcs.move event = .act side action)
    (active : (pcs side).seat.Active) (alive : ¬ ((pcs side).seat.act action).1.Over) {reader : Seat}
    (agree : (pcs side).seat.Agree reader) :
    ((pcs side).seat.act action).1.Agree
      (Seat.protocol.drain reader ((pcs side).seat.act action).2) := by
  cases action with
  | click button =>
      by_cases real : button = .noButton
      · subst real
        simpa only [Seat.act_noButton, Protocol.drain_nil] using agree
      · rw [Seat.act_click active real] at alive ⊢
        exact agree.click real alive
  | tick =>
      have happens := move_tick moved
      rw [Seat.act_tick active] at alive ⊢
      refine agree.tick alive ?_
      intro expires
      apply good
      rw [happens]
      exact ⟨rfl, expires.1, (MpGame.seat_active (online side).started).mp active, expires.2⟩
  | rest => exact agree

theorem agree_step (inTurn : InTurn Seat.Agree pcs) (event : Side × Event)
    (good : ¬ pcs.ClientWindowExpires event) :
    InTurn Seat.Agree (pcs.step event) ∨ (pcs.step event).Ended := by
  apply inTurn_step inTurn event (fun _ => rfl) (fun _ _ agree => agree.symm)
  intro side action moved active alive reader agree
  exact agree_follows inTurn.online good moved active alive agree

theorem Handshaken.agree {rounds : Nat} (shaken : pcs.Handshaken rounds) :
    (pcs .host).seat.Agree (pcs .client).seat := by
  obtain ⟨host, client⟩ := shaken
  refine ⟨?_, ?_, host.vsRound⟩
  · simp [Play.shared, MpGame.seat, MpGame.play, host.size, client.size, host.guessed, client.guessed,
      host.maxSize, client.maxSize, host.score, client.score, host.firstPlayer, client.firstPlayer,
      host.vsRound, client.vsRound, host.closed, client.closed, host.running, client.running]
  · simp [MpGame.seat, host.role, client.role]

theorem agree_run {rounds : Nat} (shaken : pcs.Handshaken rounds) {events : List (Side × Event)}
    (along : Along step (fun pcs event => ¬ pcs.ClientWindowExpires event) pcs events) :
    InTurn Seat.Agree (pcs.run events) ∨ (pcs.run events).Ended := by
  refine run_invariant (fun pcs => InTurn Seat.Agree pcs ∨ pcs.Ended) ?_ (.inl (shaken.inTurn shaken.agree)) along
  intro pcs event holds good
  rcases holds with inTurn | ended
  · exact agree_step inTurn event good
  · exact .inr (ended_step ended event)

/-- The same sequence, progress and player on both PCs. -/
structure Replicas (pcs : TwoPc) : Prop where
  buttons : (pcs .host).buttons.firstCells (pcs .host).buttonsSize =
    (pcs .client).buttons.firstCells (pcs .client).buttonsSize
  buttonsSize : (pcs .host).buttonsSize = (pcs .client).buttonsSize
  guessed : (pcs .host).guessed = (pcs .client).guessed
  isPlayer1 : (pcs .host).isPlayer1 = (pcs .client).isPlayer1

theorem replicas_of_agree (agree : (pcs .host).seat.Agree (pcs .client).seat) : pcs.Replicas := by
  have shared := agree.shared
  simp only [Play.shared, MpGame.seat, MpGame.play, Play.mk.injEq] at shared
  obtain ⟨buttons, guessed, _, _, isPlayer1, _⟩ := shared
  refine ⟨buttons, ?_, guessed, isPlayer1⟩
  have sizes := congrArg List.length buttons
  simpa using sizes

theorem InTurn.agree_of_silent (inTurn : InTurn Seat.Agree pcs)
    (silent : ∀ side, (pcs side).uart.inFlight = []) : (pcs .host).seat.Agree (pcs .client).seat := by
  obtain ⟨holder, holds⟩ := inTurn.playing
  have related := holds.related
  rw [← inTurn.inFlight, silent, Protocol.drain_nil] at related
  cases holder with
  | host => exact related
  | client => exact related.symm

/-- In every run in which no client closes its VS window, the PCs hold the same
game whenever nothing is in flight. -/
theorem replicas_agree {rounds : Nat} (shaken : pcs.Handshaken rounds) {events : List (Side × Event)}
    (along : Along step (fun pcs event => ¬ pcs.ClientWindowExpires event) pcs events) :
    ∀ done, done <+: events →
      (∀ side, (pcs.run done side).uart.inFlight = []) →
      (∀ side, (pcs.run done side).gameEnd = false) → (pcs.run done).Replicas := by
  intro done isPrefix silent running
  obtain ⟨later, rfl⟩ := isPrefix
  rcases agree_run shaken (along_append.mp along).1 with inTurn | ended
  · exact replicas_of_agree (inTurn.agree_of_silent silent)
  · obtain ⟨side, finished⟩ := ended
    have alive := running side
    rw [finished.ended] at alive
    cases alive

theorem replicas_agree_hostWindow :
    (run (handshaken 3)
      ([(.host, .input (.click .vsB)), (.host, .input (.click .redB))] ++
        List.replicate 7 (.host, .input .rtc) ++ List.replicate 3 (.client, .receive))).Replicas := by
  refine replicas_agree handshaken_three ?_ _ List.prefix_rfl ?_ ?_
  · decide
  · intro side
    cases side <;> rfl
  · intro side
    cases side <;> rfl

/-- The host appends a button; the client repeats it and opens a VS window that
runs out; the host takes its turn and repeats the first button. -/
def clientWindowRun : List (Side × Event) :=
  [(.host, .input (.click .redB)), (.client, .receive), (.client, .receive),
    (.client, .input (.click .redB)), (.client, .input (.click .vsB))] ++
  List.replicate 7 (.client, .input .rtc) ++ List.replicate 3 (.host, .receive) ++
  [(.host, .input (.click .redB)), (.client, .receive)]

/-- The client still believes in its VS window and appends the button that the
host has only repeated. -/
theorem replicas_disagree :
    (handshaken 3).Handshaken 3 ∧
    (∀ side, (run (handshaken 3) clientWindowRun side).uart.inFlight = []) ∧
    (∀ side, (run (handshaken 3) clientWindowRun side).gameEnd = false) ∧
    ¬ (run (handshaken 3) clientWindowRun).Replicas := by
  refine ⟨handshaken_three, ?_, ?_, ?_⟩
  · intro side
    cases side <;> rfl
  · intro side
    cases side <;> rfl
  · intro replicas
    have sizes := replicas.buttonsSize
    revert sizes
    decide

end TwoPc

end SimonVs
