import SimonVs.Replica.Agreement

namespace SimonVs

open Data Serial Rules

namespace Rules.Seat

variable {holder reader : Seat} {button : ButtonClick}

/-- The other PC has ended with the same winner. -/
def Lost (ender reader : Seat) : Prop :=
  ender.play.winner ≠ .tie ∧ reader.play.ended = true ∧ reader.play.winner = ender.play.winner

/-- The other PC has not noticed the tie. -/
def Tied (ender reader : Seat) : Prop :=
  ender.play.winner = .tie ∧ reader.play.ended = false

theorem Agree.ended (agree : holder.Agree reader) : reader.play.ended = holder.play.ended := by
  have same : holder.play.shared.ended = reader.play.shared.ended := by rw [agree.shared]
  exact same.symm

theorem Agree.alive (agree : holder.Agree reader) (alive : ¬ holder.Over) : ¬ reader.Over := by
  unfold Over at alive ⊢
  rwa [agree.ended]

/-- The loser names the other player, and so does the PC that reads `LOSE`. -/
theorem Agree.lost (agree : holder.Agree reader) (active : holder.Active) :
    Lost { holder with play := holder.play.lose } (reader.receive Coms.lose.toByte) := by
  have received : reader.receive Coms.lose.toByte =
      { reader with play :=
        { reader.play with winner := if reader.isHost then .winner1 else .winner2, ended := true } } := rfl
  have mine := active.2
  have roles := agree.roles
  rw [received]
  unfold Lost Play.lose
  rw [← mine]
  cases first : holder.isHost <;> cases second : reader.isHost <;> simp_all

/-- `TIE_REMOTE` means nothing to the PC that reads it. -/
theorem Agree.tied (agree : holder.Agree reader) (alive : ¬ holder.Over) :
    Tied { holder with play := (holder.play.press button).tie } (reader.receive Coms.tieRemote.toByte) := by
  refine ⟨rfl, ?_⟩
  have ignored : reader.receive Coms.tieRemote.toByte = reader := rfl
  rw [ignored]
  simpa [Over] using agree.alive alive

end Rules.Seat

namespace TwoPc

variable {pcs : TwoPc} {Outcome : Seat → Seat → Prop}

/-- A PC has ended the game; what it has sent before is still read in order. -/
structure Concluding (Outcome : Seat → Seat → Prop) (pcs : TwoPc) : Prop where
  online : pcs.Online
  closing : ∃ side, Closing Seat.protocol Seat.Active Seat.Over Turn Outcome pcs.link side

theorem Concluding.reads (concluding : Concluding Outcome pcs) (event : Side × Event) :
    pcs.ReadsInTurn event := by
  obtain ⟨ender, closing⟩ := concluding.closing
  obtain ⟨side, event⟩ := event
  cases event with
  | input | transEmpty | shiftOut => trivial
  | receive =>
      rcases side.eq_or_eq_other ender with rfl | rfl
      · exact .inl closing.silent
      · by_cases silent : pcs.link.line ender = []
        · left
          simpa [link] using silent
        · right
          have alive := closing.unread [] (pcs.link.line ender) rfl silent
          refine ⟨by simpa [Seat.Over, link, MpGame.seat, MpGame.play] using alive, fun active => closing.waiting ?_⟩
          exact (MpGame.seat_active (concluding.online _).started).mpr active

theorem concluding_step (concluding : Concluding Outcome pcs) (event : Side × Event) :
    Concluding Outcome (pcs.step event) := by
  obtain ⟨online, linked⟩ := step_follows concluding.online event (concluding.reads event)
  obtain ⟨side, closing⟩ := concluding.closing
  refine ⟨online, side, ?_⟩
  rw [linked]
  exact Seat.turnTaking.closing_step closing (pcs.move event)

theorem Concluding.inactive (concluding : Concluding Outcome pcs) (side : Side) : ¬ (pcs side).Active := by
  obtain ⟨ender, closing⟩ := concluding.closing
  intro active
  have seated := (MpGame.seat_active (concluding.online side).started).mpr active
  rcases side.eq_or_eq_other ender with rfl | rfl
  · exact Seat.turnTaking.activeAlive seated closing.isOver
  · exact closing.waiting seated

theorem Concluding.settled (concluding : Concluding Outcome pcs) {side : Side}
    (ended : (pcs side).gameEnd = true) (delivered : (pcs side).uart.inFlight = []) :
    ∃ ender, (side = ender ∨ side = ender.other) ∧ (pcs ender).gameEnd = true ∧
      Outcome (pcs ender).seat (pcs ender.other).seat := by
  obtain ⟨ender, closing⟩ := concluding.closing
  have settled : pcs.link.line ender = [] → Outcome (pcs ender).seat (pcs ender.other).seat := by
    intro silent
    have outcome := closing.outcome
    rw [silent, Protocol.drain_nil] at outcome
    exact outcome
  refine ⟨ender, side.eq_or_eq_other ender, closing.isOver, settled ?_⟩
  rcases side.eq_or_eq_other ender with rfl | rfl
  · have noThr := (concluding.online side).thrEmpty
    simpa [Uart.inFlight, noThr, link] using delivered
  · by_contra unread
    exact closing.unread [] (pcs.link.line ender) rfl unread ended

/-- A click of the PC that plays, after all the buttons of the longest sequence
have been reproduced. -/
def TieClick (pcs : TwoPc) : Side × Event → Prop
  | (side, .input input) => (pcs side).Active ∧ (pcs side).clickOf input ≠ .noButton ∧
      (pcs side).guessed = (pcs side).buttonsSize ∧ (pcs side).buttonsSize = (pcs side).maxButtonsSize
  | _ => False

instance (pcs : TwoPc) : (event : Side × Event) → Decidable (pcs.TieClick event)
  | (_, .input _) => inferInstanceAs (Decidable (_ ∧ _ ∧ _ ∧ _))
  | (_, .receive) => inferInstanceAs (Decidable False)
  | (_, .transEmpty) => inferInstanceAs (Decidable False)
  | (_, .shiftOut) => inferInstanceAs (Decidable False)

theorem move_click {event : Side × Event} {side : Side} {button : ButtonClick}
    (clicks : pcs.move event = .act side (.click button)) :
    ∃ input, event = (side, .input input) ∧ (pcs side).clickOf input = button := by
  obtain ⟨place, event⟩ := event
  cases event with
  | input input =>
      cases input with
      | click other =>
          simp only [move, MpGame.action, Move.act.injEq, Action.click.injEq] at clicks
          obtain ⟨rfl, rfl⟩ := clicks
          exact ⟨.click other, rfl, rfl⟩
      | mouse packet =>
          simp only [move, MpGame.action, Move.act.injEq, Action.click.injEq] at clicks
          obtain ⟨rfl, rfl⟩ := clicks
          exact ⟨.mouse packet, rfl, rfl⟩
      | key | timer | rtc => simp [move, MpGame.action] at clicks
  | receive | transEmpty | shiftOut => simp [move] at clicks

theorem move_of_clickOf {side : Side} {input : MpGame.Input} (real : (pcs side).clickOf input ≠ .noButton) :
    pcs.move (side, .input input) = .act side (.click ((pcs side).clickOf input)) := by
  cases input with
  | click | mouse => rfl
  | key | timer | rtc => exact absurd rfl real

theorem verdict_tied (online : pcs.Online) (closed : ∀ side, (pcs side).vsWasPressed = false)
    {side : Side} {button : ButtonClick} :
    (pcs side).seat.play.verdict button = .tied ↔
      (pcs side).guessed = (pcs side).buttonsSize ∧ (pcs side).buttonsSize = (pcs side).maxButtonsSize := by
  constructor
  · intro found
    obtain ⟨first, full⟩ := MpGame.situation (online side).sound found
    have complete : (pcs side).guessed = (pcs side).buttonsSize := by simpa [closed side] using first
    exact ⟨complete, complete ▸ full⟩
  · intro tie
    simp [Play.verdict, Play.Complete, MpGame.seat, MpGame.play, tie.1, tie.2]

theorem outcome_step (inTurn : InTurn Seat.Agree pcs) (closed : ∀ side, (pcs side).vsWasPressed = false)
    (event : Side × Event) (noTie : ¬ pcs.TieClick event) :
    InTurn Seat.Agree (pcs.step event) ∨ Concluding Seat.Lost (pcs.step event) := by
  obtain ⟨online, linked⟩ := step_follows inTurn.online event (inTurn.reads event)
  have notExpired : ¬ pcs.ClientWindowExpires event := by
    intro expires
    have pressed := expires.2.2.2.2.2
    rw [closed] at pressed
    cases pressed
  have next : Playing Seat.protocol Seat.Active Seat.Over Turn Seat.Agree (pcs.step event).link ∨
      ∃ side, Closing Seat.protocol Seat.Active Seat.Over Turn Seat.Lost (pcs.step event).link side ∧
        ¬ ((pcs.step event).link.peer side.other).Over := by
    rw [linked]
    apply Seat.turnTaking.playing_or_closing_step inTurn.playing (pcs.move event) (fun _ => rfl)
    · exact fun _ _ agree => agree.symm
    · exact fun alive agree => agree.alive alive
    · intro side action moved active alive reader agree
      exact agree_follows inTurn.online notExpired moved active alive agree
    · intro side action moved active isOver
      rcases Seat.act_over active isOver with lost | ⟨button, clicks, real, found, _⟩
      · refine ⟨Coms.lose.toByte, congrArg Prod.snd lost, by decide, ?_⟩
        intro reader agree
        change Seat.Lost ((pcs.link.peer side).act action).1 _
        rw [lost]
        exact agree.lost active
      · exfalso
        rw [clicks] at moved
        obtain ⟨input, rfl, same⟩ := move_click moved
        apply noTie
        refine ⟨(MpGame.seat_active (inTurn.online side).started).mp active, same ▸ real, ?_⟩
        exact (verdict_tied inTurn.online closed).mp found
  rcases next with playing | ⟨side, closing, _⟩
  · exact .inl ⟨online, playing⟩
  · exact .inr ⟨online, side, closing⟩

theorem tie_step (inTurn : InTurn Seat.Agree pcs) (closed : ∀ side, (pcs side).vsWasPressed = false)
    {event : Side × Event} (tie : pcs.TieClick event) : Concluding Seat.Tied (pcs.step event) := by
  obtain ⟨online, linked⟩ := step_follows inTurn.online event (inTurn.reads event)
  obtain ⟨side, event⟩ := event
  cases event with
  | receive | transEmpty | shiftOut => exact tie.elim
  | input input =>
      obtain ⟨playing, real, complete⟩ := tie
      obtain ⟨holder, holds⟩ := inTurn.playing
      have active := (MpGame.seat_active (inTurn.online side).started).mpr playing
      have here : side = holder := (holds.active_other active).1
      subst here
      rw [move_of_clickOf real] at linked
      have found : (pcs side).seat.play.verdict ((pcs side).clickOf input) = .tied :=
        (verdict_tied inTurn.online closed).mpr complete
      have acts : (pcs side).seat.act (.click ((pcs side).clickOf input)) =
          ({ (pcs side).seat with play := ((pcs side).seat.play.press ((pcs side).clickOf input)).tie },
            [Coms.tieRemote.toByte]) := by
        rw [Seat.act_click active real]
        unfold Seat.click
        rw [found]
      refine ⟨online, side, ?_⟩
      rw [linked]
      refine Seat.turnTaking.closing_act holds active ?_ (fun agree => agree.alive holds.holderAlive)
        (congrArg Prod.snd acts) (by decide) ?_
      · exact congrArg (fun result => result.1.play.ended) acts
      · intro reader agree
        change Seat.Tied ((pcs side).seat.act _).1 _
        rw [acts]
        exact agree.tied holds.holderAlive

/-- No step leaves a VS window open on a PC. -/
def NoVs (pcs : TwoPc) (event : Side × Event) : Prop := ∀ side, (pcs.step event side).vsWasPressed = false

instance (pcs : TwoPc) (event : Side × Event) : Decidable (pcs.NoVs event) :=
  inferInstanceAs (Decidable (∀ _, _))

theorem lost_run {rounds : Nat} (shaken : pcs.Handshaken rounds) {events : List (Side × Event)}
    (noVs : Along step NoVs pcs events)
    (noTie : Along step (fun pcs event => ¬ pcs.TieClick event) pcs events) :
    (InTurn Seat.Agree (pcs.run events) ∨ Concluding Seat.Lost (pcs.run events)) ∧
      ∀ side, (pcs.run events side).vsWasPressed = false := by
  refine run_invariant (fun pcs => (InTurn Seat.Agree pcs ∨ Concluding Seat.Lost pcs) ∧
    ∀ side, (pcs side).vsWasPressed = false) ?_ ⟨.inl (shaken.inTurn shaken.agree), ?_⟩ (noVs.and noTie)
  · intro pcs event holds good
    refine ⟨?_, good.1⟩
    rcases holds.1 with inTurn | concluding
    · exact outcome_step inTurn holds.2 event good.2
    · exact .inr (concluding_step concluding event)
  · intro side
    cases side with
    | host => exact shaken.host.closed
    | client => exact shaken.client.closed

theorem concluding_run (concluding : Concluding Outcome pcs) (events : List (Side × Event)) :
    Concluding Outcome (pcs.run events) :=
  run_invariant (Concluding Outcome) (fun _ event concluding _ => concluding_step concluding event)
    concluding along_true

/-- A run with a tie click has closed in a tie that the other PC never learns
about. -/
theorem tied_run {rounds : Nat} (shaken : pcs.Handshaken rounds) {events : List (Side × Event)}
    (noVs : Along step NoVs pcs events)
    (tie : ¬ Along step (fun pcs event => ¬ pcs.TieClick event) pcs events) :
    Concluding Seat.Tied (pcs.run events) := by
  obtain ⟨before, event, after, rfl, noTie, tied⟩ := first_bad_of_not_along tie
  have tieClick : (pcs.run before).TieClick event := not_not.mp tied
  obtain ⟨reached, closed⟩ := lost_run shaken (along_append.mp noVs).1 noTie
  have playing : InTurn Seat.Agree (pcs.run before) := by
    rcases reached with inTurn | concluding
    · exact inTurn
    · exfalso
      obtain ⟨side, event⟩ := event
      cases event with
      | receive | transEmpty | shiftOut => exact tieClick
      | input => exact concluding.inactive side tieClick.1
  have concluding := tie_step playing closed tieClick
  have further := concluding_run concluding after
  simpa [run] using further

/-- Without VS rounds: when a PC has ended and everything it sent is read, the
other PC has ended with the same winner precisely if nobody clicked after the
longest sequence. -/
theorem outcome_propagates {rounds : Nat} (shaken : pcs.Handshaken rounds) {events : List (Side × Event)}
    (noVs : Along step NoVs pcs events) {side : Side} (ended : (pcs.run events side).gameEnd = true)
    (delivered : (pcs.run events side).uart.inFlight = []) :
    ((pcs.run events side.other).gameEnd = true ∧
      (pcs.run events side.other).ws = (pcs.run events side).ws) ↔
    Along step (fun pcs event => ¬ pcs.TieClick event) pcs events := by
  constructor
  · intro propagated
    by_contra tie
    obtain ⟨ender, place, _, tied⟩ := (tied_run shaken noVs tie).settled ended delivered
    have unaware : (pcs.run events ender.other).gameEnd = false := tied.2
    rcases place with rfl | rfl
    · rw [propagated.1] at unaware
      cases unaware
    · rw [ended] at unaware
      cases unaware
  · intro noTie
    rcases (lost_run shaken noVs noTie).1 with inTurn | concluding
    · exfalso
      obtain ⟨holder, holds⟩ := inTurn.playing
      rcases side.eq_or_eq_other holder with rfl | rfl
      · exact holds.holderAlive ended
      · exact holds.otherAlive ended
    · obtain ⟨ender, place, isOver, _, readerEnded, sameWinner⟩ := concluding.settled ended delivered
      rcases place with rfl | rfl
      · exact ⟨readerEnded, sameWinner⟩
      · rw [Side.other_other]
        exact ⟨isOver, sameWinner.symm⟩

def wrongClickRun : List (Side × Event) :=
  [(.host, .input (.click .redB)), (.client, .receive), (.client, .receive),
    (.client, .input (.click .blueB)), (.host, .receive)]

theorem outcome_propagates_wrongClick :
    (run (handshaken 3) wrongClickRun .client).gameEnd = true ∧
    (((run (handshaken 3) wrongClickRun (Side.other .client)).gameEnd = true ∧
      (run (handshaken 3) wrongClickRun (Side.other .client)).ws =
        (run (handshaken 3) wrongClickRun .client).ws) ↔
    Along step (fun pcs event => ¬ pcs.TieClick event) (handshaken 3) wrongClickRun) :=
  ⟨rfl, outcome_propagates handshaken_three (by decide) rfl rfl⟩

/-- One round: the client repeats the host's button and clicks once more. -/
def tieRun : List (Side × Event) :=
  [(.host, .input (.click .redB)), (.client, .receive), (.client, .receive),
    (.client, .input (.click .redB)), (.client, .input (.click .redB)),
    (.host, .receive), (.host, .receive)]

/-- The host reads `TIE_REMOTE`, compares it with `TIE`, and plays on. -/
theorem tie_not_propagated :
    (handshaken 1).Handshaken 1 ∧ Along step NoVs (handshaken 1) tieRun ∧
    (run (handshaken 1) tieRun .client).gameEnd = true ∧
    (run (handshaken 1) tieRun .client).ws = .tie ∧
    (run (handshaken 1) tieRun .client).uart.inFlight = [] ∧
    (run (handshaken 1) tieRun .host).gameEnd = false := by
  refine ⟨?_, by decide, rfl, rfl, rfl, rfl⟩
  constructor
  · constructor <;> rfl
  · constructor <;> rfl

end TwoPc

end SimonVs
