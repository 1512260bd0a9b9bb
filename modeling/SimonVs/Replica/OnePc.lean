import SimonVs.Replica.Outcome
import SimonVs.Rules.OnePc

namespace SimonVs

open Data Serial Rules

namespace Rules.Play

variable {play other : Play} {button : ButtonClick}

/-- Equal up to the choice of VS rounds and the winner of an earlier game. -/
def Matches (play other : Play) : Prop :=
  ∃ vsRound winner, other = { play with isVsRound := vsRound, winner := winner }

theorem Matches.verdict (same : play.Matches other) (closed : play.vsPressed = false)
    (unlucky : play.Complete → button ≠ .vsB) : other.verdict button = play.verdict button := by
  obtain ⟨vsRound, winner, rfl⟩ := same
  rw [verdict_closed closed fun complete _ => unlucky complete]
  exact verdict_closed closed fun complete _ => unlucky complete

theorem Matches.press (same : play.Matches other) (verdicts : other.verdict button = play.verdict button) :
    (play.press button).Matches (other.press button) := by
  obtain ⟨vsRound, winner, rfl⟩ := same
  unfold Play.press
  rw [verdicts]
  refine ⟨vsRound, winner, ?_⟩
  cases play.verdict button <;> rfl

def act (play : Play) (action : Action) (vsRound : Bool) : Play :=
  match action with
  | .click button => if button = .noButton then play else play.click button vsRound
  | .tick => play.tick vsRound
  | .rest => play

end Rules.Play

namespace Rules.Seat

variable {onePc : Play} {holder reader : Seat} {button : ButtonClick}

/-- The one-PC game is where the PC in turn is, which is the reader once the
turn is on the line. -/
structure Tracks (onePc : Play) (holder reader : Seat) : Prop where
  agree : holder.Agree reader
  closed : holder.play.vsPressed = false
  playing : holder.Active → holder.play.Matches onePc
  passed : ¬ holder.Active → reader.play.Matches onePc

theorem Agree.reader_eq (agree : holder.Agree reader) :
    ∃ timeLeft winner, reader.play = { holder.play with timeLeft := timeLeft, winner := winner } := by
  refine ⟨reader.play.timeLeft, reader.play.winner, ?_⟩
  calc reader.play
      = { reader.play.shared with timeLeft := reader.play.timeLeft, winner := reader.play.winner } := rfl
    _ = { holder.play.shared with timeLeft := reader.play.timeLeft, winner := reader.play.winner } := by
        rw [agree.shared]
    _ = { holder.play with timeLeft := reader.play.timeLeft, winner := reader.play.winner } := rfl

theorem Tracks.swap (tracks : Tracks onePc holder reader) (inactive : ¬ holder.Active)
    (active : reader.Active) : Tracks onePc reader holder := by
  have same : reader.play.vsPressed = holder.play.vsPressed := by
    obtain ⟨_, _, equal⟩ := tracks.agree.reader_eq
    rw [equal]
  exact ⟨tracks.agree.symm, by rw [same, tracks.closed], fun _ => tracks.passed inactive,
    fun waiting => absurd active waiting⟩

theorem Tracks.append (tracks : Tracks onePc holder reader) (active : holder.Active)
    (real : button ≠ .noButton) (found : holder.play.verdict button = .appended)
    (verdicts : onePc.verdict button = holder.play.verdict button) (vsRound : Bool) :
    ((protocol.drain reader (holder.click button).2).play).Matches ((onePc.press button).newTurn vsRound) := by
  obtain ⟨choice, winner, pressed⟩ := (tracks.playing active).press verdicts
  obtain ⟨timeLeft, other, same⟩ := tracks.agree.reader_eq
  have readerPress : reader.play.press button =
      { holder.play.press button with timeLeft := timeLeft, winner := other } := by
    rw [same]
    unfold Play.press
    have verdict : Play.verdict { holder.play with timeLeft := timeLeft, winner := other } button =
        .appended := found
    rw [verdict, found]
    rfl
  have drained : protocol.drain reader (holder.click button).2 =
      { reader with play := (reader.play.press button).newTurn true } := by
    have received : reader.receive (buttonByte button) = { reader with play := reader.play.press button } := by
      rw [receive_buttonByte real]
      simp [remoteClick, tracks.agree.verdict, found]
    simp only [Seat.click, found, Protocol.drain_cons]
    rw [drain_passTurn]
    simp only [protocol, received]
  rw [drained, pressed, readerPress]
  exact ⟨vsRound, winner, rfl⟩

theorem Tracks.click (tracks : Tracks onePc holder reader) (active : holder.Active)
    (real : button ≠ .noButton) (unlucky : holder.play.Complete → button ≠ .vsB)
    (alive : ¬ (holder.click button).1.Over) (vsRound : Bool) :
    Tracks (onePc.click button vsRound) (holder.click button).1
      (protocol.drain reader (holder.click button).2) := by
  have agree := tracks.agree.click real alive
  have same := tracks.playing active
  have verdicts := same.verdict tracks.closed unlucky
  have byCases := Play.verdict_closed tracks.closed fun complete _ => unlucky complete
  cases found : holder.play.verdict button with
  | matched =>
      obtain ⟨choice, winner, pressed⟩ := same.press verdicts
      have clicked : holder.click button =
          ({ holder with play := (holder.play.press button).restartClock }, [buttonByte button]) := by
        simp only [Seat.click, found]
      have onePcClick : onePc.click button vsRound = (onePc.press button).restartClock := by
        simp only [Play.click, verdicts, found]
      have still : Active { holder with play := (holder.play.press button).restartClock } := by
        simpa [Active, Play.restartClock] using active
      rw [clicked] at agree ⊢
      rw [onePcClick]
      refine ⟨agree, ?_, fun _ => ?_, fun waiting => absurd still waiting⟩
      · simpa [Play.press, found, Play.restartClock] using tracks.closed
      · rw [pressed]
        exact ⟨choice, winner, rfl⟩
  | wrong => simp [Seat.click, found, Over, Play.lose] at alive
  | tied => simp [Seat.click, found, Over, Play.tie] at alive
  | opened | extended =>
      rw [found] at byCases
      split at byCases
      · split at byCases <;> cases byCases
      · split at byCases <;> cases byCases
  | appended =>
      have onePcClick : onePc.click button vsRound = (onePc.press button).newTurn vsRound := by
        simp only [Play.click, verdicts, found]
      have passed : ¬ (holder.click button).1.Active := by
        simp only [Seat.click, found]
        exact passTurn_inactive (by simpa using active.2)
      rw [onePcClick]
      refine ⟨agree, ?_, fun still => absurd still passed, fun _ => ?_⟩
      · simp only [Seat.click, found, passTurn]
        split
        · rfl
        · simpa [Play.press, found, Play.scored] using tracks.closed
      · exact tracks.append active real found verdicts vsRound

theorem Tracks.tick (tracks : Tracks onePc holder reader) (active : holder.Active)
    (alive : ¬ holder.tick.1.Over) (vsRound : Bool) :
    Tracks (onePc.tick vsRound) holder.tick.1 (protocol.drain reader holder.tick.2) := by
  have closed := tracks.closed
  obtain ⟨choice, winner, rfl⟩ := tracks.playing active
  have notExpired : holder.play.timeLeft ≠ 0 := by
    intro expired
    simp [Seat.tick, expired, closed, Over, Play.lose] at alive
  by_cases running : holder.play.timeLeft > 0
  · have ticked : holder.tick = ({ holder with play := { holder.play with timeLeft := holder.play.timeLeft - 1 } }, []) := by
      simp [Seat.tick, notExpired, running]
    have onePcTick : Play.tick { holder.play with isVsRound := choice, winner := winner } vsRound =
        { holder.play with timeLeft := holder.play.timeLeft - 1, isVsRound := choice, winner := winner } := by
      simp [Play.tick, notExpired, running]
    rw [ticked, onePcTick]
    exact ⟨⟨tracks.agree.shared, tracks.agree.roles, tracks.agree.vsRound⟩, closed,
      fun _ => ⟨choice, winner, rfl⟩, fun waiting => absurd active waiting⟩
  · have ticked : holder.tick = (holder, []) := by simp [Seat.tick, notExpired, running]
    have onePcTick : Play.tick { holder.play with isVsRound := choice, winner := winner } vsRound =
        { holder.play with isVsRound := choice, winner := winner } := by
      simp [Play.tick, notExpired, running]
    rw [ticked, onePcTick]
    exact tracks

theorem Tracks.act (tracks : Tracks onePc holder reader) (active : holder.Active) {action : Action}
    (unlucky : ∀ button, action = .click button → holder.play.Complete → button ≠ .vsB)
    (alive : ¬ (holder.act action).1.Over) (vsRound : Bool) :
    Tracks (onePc.act action vsRound) (holder.act action).1 (protocol.drain reader (holder.act action).2) := by
  cases action with
  | click button =>
      by_cases real : button = .noButton
      · subst real
        simpa only [act_noButton, Play.act, if_true, Protocol.drain_nil] using tracks
      · rw [act_click active real] at alive ⊢
        simp only [Play.act, real, if_false]
        exact tracks.click active real (unlucky button rfl) alive vsRound
  | tick =>
      rw [act_tick active] at alive ⊢
      exact tracks.tick active alive vsRound
  | rest => exact tracks

/-- The one-PC game has ended as the PC has. -/
def SameEnd (onePc : Play) (ender : Seat) : Prop :=
  onePc.ended = true ∧ ender.play.winner = onePc.winner ∧ ender.play.score = onePc.score

theorem Tracks.ends (tracks : Tracks onePc holder reader) (active : holder.Active) {action : Action}
    (unlucky : ∀ button, action = .click button → holder.play.Complete → button ≠ .vsB)
    (isOver : (holder.act action).1.Over) (vsRound : Bool) :
    SameEnd (onePc.act action vsRound) (holder.act action).1 := by
  have same := tracks.playing active
  have closed := tracks.closed
  have running : holder.play.ended = false := active.1
  cases action with
  | click button =>
      by_cases real : button = .noButton
      · subst real
        rw [act_noButton] at isOver
        simp [Over, running] at isOver
      · have verdicts := same.verdict closed (unlucky button rfl)
        rw [act_click active real] at isOver ⊢
        simp only [Play.act, real, if_false]
        rcases click_over running isOver with ⟨found, lost⟩ | ⟨found, tied⟩
        · rw [lost]
          obtain ⟨choice, winner, rfl⟩ := same
          simp only [Play.click, verdicts, found]
          exact ⟨rfl, rfl, rfl⟩
        · rw [tied]
          obtain ⟨choice, winner, pressed⟩ := same.press verdicts
          simp only [Play.click, verdicts, found, pressed]
          exact ⟨rfl, rfl, rfl⟩
  | tick =>
      obtain ⟨choice, winner, rfl⟩ := same
      rw [act_tick active] at isOver ⊢
      have lost := tick_over running isOver
      have expired : holder.play.timeLeft = 0 := by
        by_contra notExpired
        by_cases left : holder.play.timeLeft > 0
        · simp [Seat.tick, notExpired, left, Over, running] at isOver
        · simp [Seat.tick, notExpired, left, Over, running] at isOver
      rw [lost]
      simp only [Play.act, Play.tick, expired, closed]
      exact ⟨rfl, rfl, rfl⟩
  | rest => simp [Seat.act, Over, running] at isOver

end Rules.Seat

/-- The one-PC game gets the clicks and RTC events of the PC in turn; `rand` is
what `rand()` would return. -/
def Game.follow (onePc : Game) (pcs : TwoPc) (event : Side × Event) (rand : Nat) : Game :=
  match event with
  | (side, .input input) =>
      if (pcs side).Active then
        match input with
        | .click click => onePc.handle (.click click rand)
        | .mouse packet => onePc.handle (.click ((pcs side).clickOf (.mouse packet)) rand)
        | .rtc => onePc.handle (.rtc rand)
        | _ => onePc
      else onePc
  | _ => onePc

structure Joint where
  pcs : TwoPc
  onePc : Game

namespace Joint

def step (joint : Joint) (event : (Side × Event) × Nat) : Joint :=
  { pcs := joint.pcs.step event.1
    onePc := joint.onePc.follow joint.pcs event.1 event.2 }

abbrev run (joint : Joint) (events : List ((Side × Event) × Nat)) : Joint := Data.run step joint events

/-- The PC in turn clicks the VS button with the sequence reproduced. -/
def VsClick (joint : Joint) (event : (Side × Event) × Nat) : Prop :=
  match event.1 with
  | (side, .input input) => (joint.pcs side).Active ∧ (joint.pcs side).clickOf input = .vsB ∧
      (joint.pcs side).guessed = (joint.pcs side).buttonsSize
  | _ => False

instance (joint : Joint) : (event : (Side × Event) × Nat) → Decidable (joint.VsClick event)
  | ((_, .input _), _) => inferInstanceAs (Decidable (_ ∧ _ ∧ _))
  | ((_, .receive), _) => inferInstanceAs (Decidable False)
  | ((_, .transEmpty), _) => inferInstanceAs (Decidable False)
  | ((_, .shiftOut), _) => inferInstanceAs (Decidable False)

def Running (joint : Joint) : Prop := ∀ side, (joint.pcs side).gameEnd = false

def Silent (joint : Joint) : Prop := ∀ side, (joint.pcs side).uart.inFlight = []

variable {joint : Joint} {event : (Side × Event) × Nat}

theorem follow_active (sound : joint.onePc.Sound) (running : joint.onePc.gameEnd = false)
    (online : joint.pcs.Online) {side : Side} {action : Action}
    (moved : joint.pcs.move event.1 = .act side action) (active : (joint.pcs side).seat.Active) :
    (joint.step event).onePc.play = joint.onePc.play.act action (Game.choosesVs event.2) ∧
    (joint.step event).onePc.Sound := by
  have playing : (joint.pcs side).Active := (MpGame.seat_active (online side).started).mp active
  obtain ⟨⟨place, happens⟩, rand⟩ := event
  cases happens with
  | input input =>
      simp only [TwoPc.move, Move.act.injEq] at moved
      obtain ⟨rfl, rfl⟩ := moved
      simp only [step, Game.follow, playing, if_true]
      cases input with
      | click click | mouse packet =>
          simp only [Game.handle, running, Bool.false_eq_true, if_false, MpGame.action, MpGame.clickOf, Play.act]
          exact Game.play_handleClick sound
      | key | timer => exact ⟨rfl, sound⟩
      | rtc => exact Game.play_gameUpdateStatusRtc sound
  | receive => simp [TwoPc.move] at moved
  | transEmpty | shiftOut =>
      simp only [TwoPc.move, Move.act.injEq] at moved
      obtain ⟨rfl, rfl⟩ := moved
      exact ⟨rfl, sound⟩

theorem follow_inactive (online : joint.pcs.Online)
    (inactive : ∀ side action, joint.pcs.move event.1 = .act side action → ¬ (joint.pcs side).seat.Active) :
    (joint.step event).onePc = joint.onePc := by
  obtain ⟨⟨place, happens⟩, rand⟩ := event
  cases happens with
  | input input =>
      have waiting : ¬ (joint.pcs place).Active := by
        intro playing
        exact inactive place _ rfl ((MpGame.seat_active (online place).started).mpr playing)
      simp [step, Game.follow, waiting]
  | receive | transEmpty | shiftOut => rfl

/-- The PCs take turns and the one-PC game keeps up with them. -/
structure Tracking (joint : Joint) : Prop where
  inTurn : TwoPc.InTurn (Seat.Tracks joint.onePc.play) joint.pcs
  sound : joint.onePc.Sound

theorem Tracking.onePc_running (tracking : joint.Tracking) : joint.onePc.gameEnd = false := by
  obtain ⟨holder, holds⟩ := tracking.inTurn.playing
  have alive : (joint.pcs.link.peer holder).play.ended = false := by
    simpa [Seat.Over] using holds.holderAlive
  have tracks := holds.related
  by_cases active : (joint.pcs.link.peer holder).Active
  · obtain ⟨_, _, same⟩ := tracks.playing active
    have ended : joint.onePc.play.ended = (joint.pcs.link.peer holder).play.ended := by rw [same]
    exact ended.trans alive
  · obtain ⟨_, _, same⟩ := tracks.passed active
    have ended : joint.onePc.play.ended =
        (Seat.protocol.drain (joint.pcs.link.peer holder.other) (joint.pcs.link.line holder)).play.ended := by
      rw [same]
    exact ended.trans (tracks.agree.ended.trans alive)

structure EndsTogether (joint : Joint) (ender : Side) : Prop where
  finished : (joint.pcs ender).Finished
  otherRuns : (joint.pcs ender.other).gameEnd = false
  sameEnd : Seat.SameEnd joint.onePc.play (joint.pcs ender).seat

theorem unlucky_of_not_vsClick (tracking : joint.Tracking) (good : ¬ joint.VsClick event) {side : Side}
    {action : Action} (moved : joint.pcs.move event.1 = .act side action)
    (active : (joint.pcs side).seat.Active) (button : ButtonClick) (clicks : action = .click button)
    (complete : (joint.pcs side).seat.play.Complete) : button ≠ .vsB := by
  intro lucky
  subst clicks lucky
  obtain ⟨⟨place, happens⟩, rand⟩ := event
  obtain ⟨input, same, clicked⟩ := TwoPc.move_click moved
  obtain ⟨rfl, rfl⟩ := Prod.mk.inj same
  apply good
  refine ⟨(MpGame.seat_active (tracking.inTurn.online place).started).mp active, clicked, ?_⟩
  simpa [Play.Complete, MpGame.seat, MpGame.play] using complete

theorem tracking_step (tracking : joint.Tracking) (event : (Side × Event) × Nat)
    (good : ¬ joint.VsClick event) :
    (joint.step event).Tracking ∨ ∃ ender, (joint.step event).EndsTogether ender := by
  have inTurn := tracking.inTurn
  have running := tracking.onePc_running
  obtain ⟨online, linked⟩ := TwoPc.step_follows inTurn.online event.1 (inTurn.reads event.1)
  have rests (inactive : ∀ side action, joint.pcs.move event.1 = .act side action →
      ¬ (joint.pcs side).seat.Active) : (joint.step event).onePc = joint.onePc :=
    follow_inactive inTurn.online inactive
  have sound : (joint.step event).onePc.Sound := by
    by_cases moves : ∃ side action, joint.pcs.move event.1 = .act side action ∧ (joint.pcs side).seat.Active
    · obtain ⟨side, action, moved, active⟩ := moves
      exact (follow_active tracking.sound running inTurn.online moved active).2
    · rw [rests fun side action moved active => moves ⟨side, action, moved, active⟩]
      exact tracking.sound
  have next : Playing Seat.protocol Seat.Active Seat.Over Turn
        (Seat.Tracks (joint.step event).onePc.play) (joint.pcs.step event.1).link ∨
      ∃ side, Closing Seat.protocol Seat.Active Seat.Over Turn
          (fun ender _ => Seat.SameEnd (joint.step event).onePc.play ender) (joint.pcs.step event.1).link side ∧
        ¬ ((joint.pcs.step event.1).link.peer side.other).Over := by
    rw [linked]
    apply Seat.turnTaking.playing_or_closing_step inTurn.playing (joint.pcs.move event.1)
    · intro inactive
      rw [rests inactive]
    · exact fun inactive active tracks => tracks.swap inactive active
    · exact fun alive tracks => tracks.agree.alive alive
    · intro side action moved active alive reader tracks
      rw [(follow_active tracking.sound running inTurn.online moved active).1]
      exact tracks.act active (unlucky_of_not_vsClick tracking good moved active) alive _
    · intro side action moved active isOver
      have unlucky := unlucky_of_not_vsClick tracking good moved active
      have plays := (follow_active tracking.sound running inTurn.online moved active).1
      have ends (reader : Seat) (tracks : Seat.Tracks joint.onePc.play (joint.pcs side).seat reader) :
          Seat.SameEnd (joint.step event).onePc.play ((joint.pcs side).seat.act action).1 := by
        rw [plays]
        exact tracks.ends active unlucky isOver _
      rcases Seat.act_over active isOver with lost | ⟨_, _, _, _, tied⟩
      · exact ⟨Coms.lose.toByte, congrArg Prod.snd lost, by decide, ends⟩
      · exact ⟨Coms.tieRemote.toByte, congrArg Prod.snd tied, by decide, ends⟩
  rcases next with playing | ⟨ender, closing, other⟩
  · exact .inl ⟨⟨online, playing⟩, sound⟩
  · right
    refine ⟨ender, ⟨(online ender).started, closing.isOver, (online ender).sound⟩, ?_, closing.outcome⟩
    exact Bool.eq_false_iff.mpr other

/-- Both PCs and the one-PC game are in the same state, and the clock of the PC
in turn is that of the one-PC game. -/
structure SameGame (joint : Joint) : Prop where
  buttons : ∀ side, (joint.pcs side).buttons.firstCells (joint.pcs side).buttonsSize =
    joint.onePc.buttons.firstCells joint.onePc.buttonsSize
  buttonsSize : ∀ side, (joint.pcs side).buttonsSize = joint.onePc.buttonsSize
  guessed : ∀ side, (joint.pcs side).guessed = joint.onePc.guessed
  isPlayer1 : ∀ side, (joint.pcs side).isPlayer1 = joint.onePc.isPlayer1
  playerScore : ∀ side, (joint.pcs side).playerScore = joint.onePc.playerScore
  timeLeft : ∀ side, (joint.pcs side).Active →
    (joint.pcs side).timeLeftForClick = joint.onePc.timeLeftForClick

/-- With nothing in flight each PC differs from the one-PC game in its clock, the
choice of VS rounds and the winner only. -/
theorem Tracking.sameGame (tracking : joint.Tracking) (silent : joint.Silent) : joint.SameGame := by
  have inTurn := tracking.inTurn
  obtain ⟨holder, holds⟩ := inTurn.playing
  have empty : joint.pcs.link.line holder = [] := by rw [← inTurn.inFlight, silent]
  have tracks := holds.related
  rw [empty, Protocol.drain_nil] at tracks
  have active : (joint.pcs holder).seat.Active := by
    rcases holds.turn with ⟨active, _⟩ | ⟨_, ends⟩
    · exact active
    · rw [empty] at ends
      exact absurd (by simp) ends.not_plain
  obtain ⟨choice, winner, onePc⟩ := tracks.playing active
  have placed (side : Side) : ∃ vsRound timeLeft winner, (joint.pcs side).play =
      { joint.onePc.play with isVsRound := vsRound, timeLeft := timeLeft, winner := winner } := by
    rw [onePc]
    rcases side.eq_or_eq_other holder with rfl | rfl
    · exact ⟨_, _, _, rfl⟩
    · obtain ⟨timeLeft, other, same⟩ := tracks.agree.reader_eq
      exact ⟨_, timeLeft, other, same⟩
  have buttons (side : Side) : (joint.pcs side).buttons.firstCells (joint.pcs side).buttonsSize =
      joint.onePc.buttons.firstCells joint.onePc.buttonsSize := by
    obtain ⟨_, _, _, same⟩ := placed side
    exact congrArg Play.sequence same
  refine ⟨buttons, ?_, ?_, ?_, ?_, ?_⟩
  · intro side
    simpa using congrArg List.length (buttons side)
  · intro side
    obtain ⟨_, _, _, same⟩ := placed side
    exact congrArg Play.guessed same
  · intro side
    obtain ⟨_, _, _, same⟩ := placed side
    exact congrArg Play.isPlayer1 same
  · intro side
    obtain ⟨_, _, _, same⟩ := placed side
    exact congrArg Play.score same
  · intro side playing
    have seated := (MpGame.seat_active (inTurn.online side).started).mpr playing
    have here : side = holder := (holds.active_other seated).1
    subst here
    exact (congrArg Play.timeLeft onePc).symm

theorem tracking_start {rounds rand : Nat} {game : Game} (shaken : joint.pcs.Handshaken rounds)
    (reset : joint.onePc = game.resetGame rounds rand) : joint.Tracking := by
  obtain ⟨plays, sound⟩ := @Game.play_resetGame rand game rounds
  obtain ⟨host, client⟩ := shaken
  have hostActive : (joint.pcs .host).seat.Active :=
    ⟨host.running, by simp [MpGame.seat, MpGame.play, host.role, host.firstPlayer]⟩
  refine ⟨TwoPc.Handshaken.inTurn ⟨host, client⟩ ?_, by rw [reset]; exact sound⟩
  refine ⟨TwoPc.Handshaken.agree ⟨host, client⟩, host.closed, fun _ => ?_, fun waiting => absurd hostActive waiting⟩
  rw [reset, plays]
  refine ⟨Game.choosesVs rand, game.ws, ?_⟩
  simp [Play.start, MpGame.seat, MpGame.play, host.size, host.guessed, host.maxSize, host.score,
    host.firstPlayer, host.closed, host.noClock, host.running]

theorem tracking_run {rounds rand : Nat} {game : Game} (shaken : joint.pcs.Handshaken rounds)
    (reset : joint.onePc = game.resetGame rounds rand) {events : List ((Side × Event) × Nat)}
    (along : Along step (fun joint event => ¬ joint.VsClick event) joint events) :
    (joint.run events).Tracking ∨ (joint.run events).pcs.Ended := by
  refine run_invariant (fun joint => joint.Tracking ∨ joint.pcs.Ended) ?_
    (.inl (tracking_start shaken reset)) along
  intro joint event holds good
  rcases holds with tracking | ended
  · rcases tracking_step tracking event good with next | ⟨ender, together⟩
    · exact .inl next
    · exact .inr ⟨ender, together.finished⟩
  · exact .inr (TwoPc.ended_step ended event.1)

/-- Without VS clicks: while no PC has ended, the one-PC game has not ended
either, and it is in the state of both PCs whenever nothing is in flight; and a
step that ends the game on a PC ends the one-PC game with the same winner and
score, and the other way round. -/
theorem refines_onePc {rounds rand : Nat} {game : Game} (shaken : joint.pcs.Handshaken rounds)
    (reset : joint.onePc = game.resetGame rounds rand) {events : List ((Side × Event) × Nat)}
    (along : Along step (fun joint event => ¬ joint.VsClick event) joint events)
    (running : (joint.run events).Running) :
    (joint.run events).onePc.gameEnd = false ∧
    ((joint.run events).Silent → (joint.run events).SameGame) ∧
    ∀ next, ¬ (joint.run events).VsClick next →
      (∀ ender, (((joint.run events).step next).pcs ender).gameEnd = true →
        ((joint.run events).step next).onePc.gameEnd = true ∧
        (((joint.run events).step next).pcs ender).ws = ((joint.run events).step next).onePc.ws ∧
        (((joint.run events).step next).pcs ender).playerScore =
          ((joint.run events).step next).onePc.playerScore) ∧
      (((joint.run events).step next).onePc.gameEnd = true →
        ∃ ender, (((joint.run events).step next).pcs ender).gameEnd = true) := by
  have tracking : (joint.run events).Tracking := by
    rcases tracking_run shaken reset along with tracking | ⟨side, finished⟩
    · exact tracking
    · have alive := running side
      rw [finished.ended] at alive
      cases alive
  refine ⟨tracking.onePc_running, tracking.sameGame, fun next good => ?_⟩
  rcases tracking_step tracking next good with goesOn | ⟨ender, together⟩
  · obtain ⟨holder, holds⟩ := goesOn.inTurn.playing
    constructor
    · intro side ended
      exfalso
      rcases side.eq_or_eq_other holder with rfl | rfl
      · exact holds.holderAlive ended
      · exact holds.otherAlive ended
    · intro ended
      rw [goesOn.onePc_running] at ended
      cases ended
  · refine ⟨?_, fun _ => ⟨ender, together.finished.ended⟩⟩
    intro side ended
    have here : side = ender := by
      rcases side.eq_or_eq_other ender with same | rfl
      · exact same
      · rw [together.otherRuns] at ended
        cases ended
    subst here
    exact together.sameEnd

def handshaken (rounds rand : Nat) : Joint :=
  { pcs := TwoPc.handshaken rounds
    onePc := (Game.boot 0 fun _ => none).resetGame rounds rand }

/-- The host appends a button, the client repeats it and appends another. -/
def twoTurns : List ((Side × Event) × Nat) :=
  [((.host, .input (.click .redB)), 0), ((.client, .receive), 0), ((.client, .receive), 0),
    ((.client, .input (.click .redB)), 0), ((.client, .input (.click .blueB)), 7),
    ((.host, .receive), 0), ((.host, .receive), 0), ((.host, .receive), 0)]

theorem refines_onePc_twoTurns : ((handshaken 3 4).run twoTurns).SameGame := by
  have refined := @refines_onePc (handshaken 3 4) 3 4 (Game.boot 0 fun _ => none)
    TwoPc.handshaken_three rfl twoTurns (by decide) (fun side => by cases side <;> rfl)
  exact refined.2.1 (fun side => by cases side <;> rfl)

end Joint

end SimonVs
