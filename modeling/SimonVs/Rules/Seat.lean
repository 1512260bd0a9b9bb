import SimonVs.Data.Link
import SimonVs.Rules.Play

namespace SimonVs.Rules

open Data

/-! One PC of the two-PC game, seen as a peer of a turn-taking protocol: its
own clicks and seconds act, and the bytes of the other PC are received. -/

structure Seat where
  isHost : Bool
  play : Play
deriving DecidableEq, Repr

/-- What a local event amounts to for the rules. -/
inductive Action where
  | click (click : ButtonClick)
  | tick
  | rest
deriving DecidableEq, Repr

/-- `READY`, `IS_VS` or `IS_NOT_VS` -/
def Turn (byte : UInt8) : Prop :=
  byte = Coms.ready.toByte ∨ byte = Coms.isVs.toByte ∨ byte = Coms.isNotVs.toByte

instance (byte : UInt8) : Decidable (Turn byte) := inferInstanceAs (Decidable (_ ∨ _ ∨ _))

theorem not_turn_buttonByte {click : ButtonClick} (real : click ≠ .noButton) :
    ¬ Turn (buttonByte click) := by
  cases click <;> first | decide | exact absurd rfl real

namespace Seat

def Over (seat : Seat) : Prop := seat.play.ended = true

def Active (seat : Seat) : Prop := seat.play.ended = false ∧ seat.isHost = seat.play.isPlayer1

instance (seat : Seat) : Decidable seat.Active := inferInstanceAs (Decidable (_ ∧ _))

/-- The turn is handed over. Only the host decides about the next VS round,
and only the host forgets an expired VS window here. -/
def passTurn (seat : Seat) : Seat × List UInt8 :=
  let play := { seat.play with isPlayer1 := !seat.play.isPlayer1, guessed := 0 }
  if seat.isHost then
    ({ seat with play := { play with isVsRound := true, vsPressed := false } }, [Coms.isVs.toByte])
  else
    ({ seat with play }, [Coms.ready.toByte])

def click (seat : Seat) (click : ButtonClick) : Seat × List UInt8 :=
  let play := seat.play.press click
  match seat.play.verdict click with
  | .matched => ({ seat with play := play.restartClock }, [buttonByte click])
  | .wrong => ({ seat with play := seat.play.lose }, [Coms.lose.toByte])
  | .tied => ({ seat with play := play.tie }, [Coms.tieRemote.toByte])
  | .opened => ({ seat with play := { play with timeLeft := vsInterval } }, [buttonByte click])
  | .extended => ({ seat with play }, [buttonByte click])
  | .appended =>
      let passed := passTurn { seat with play }
      (passed.1, buttonByte click :: passed.2)

def tick (seat : Seat) : Seat × List UInt8 :=
  if seat.play.timeLeft = 0 ∧ !seat.play.vsPressed then
    ({ seat with play := seat.play.lose }, [Coms.lose.toByte])
  else if seat.play.timeLeft = 0 ∧ seat.play.isVsRound ∧ seat.play.vsPressed then
    seat.passTurn
  else if seat.play.timeLeft > 0 then
    ({ seat with play := { seat.play with timeLeft := seat.play.timeLeft - 1 } }, [])
  else (seat, [])

def act (seat : Seat) (action : Action) : Seat × List UInt8 :=
  match action with
  | .click button => if seat.Active ∧ button ≠ .noButton then seat.click button else (seat, [])
  | .tick => if seat.Active then seat.tick else (seat, [])
  | .rest => (seat, [])

/-- A button of the other PC: the same effect as over there, except that the
turn does not pass yet. -/
def remoteClick (seat : Seat) (click : ButtonClick) : Seat :=
  let play := seat.play.press click
  { seat with play := if seat.play.verdict click = .tied then play.tie else play }

def receive (seat : Seat) (byte : UInt8) : Seat :=
  if 3 ≤ byte ∧ byte ≤ 8 then seat.remoteClick (byteButton byte)
  else if byte = Coms.isVs.toByte then { seat with play := seat.play.newTurn true }
  else if byte = Coms.isNotVs.toByte then { seat with play := seat.play.newTurn false }
  else if byte = Coms.ready.toByte then { seat with play := seat.play.newTurn true }
  else if byte = Coms.lose.toByte then
    { seat with play :=
      { seat.play with winner := if seat.isHost then .winner1 else .winner2, ended := true } }
  else if byte = UInt8.ofNat Winners.tie.value then { seat with play := seat.play.tie }
  else seat

def protocol : Protocol Seat UInt8 Action := { act, receive }

end Seat

section Press

variable (play : Play) (click : ButtonClick)

@[simp] theorem Play.press_isPlayer1 : (play.press click).isPlayer1 = play.isPlayer1 := by
  unfold Play.press; split <;> rfl

@[simp] theorem Play.press_ended : (play.press click).ended = play.ended := by
  unfold Play.press; split <;> rfl

@[simp] theorem Play.press_isVsRound : (play.press click).isVsRound = play.isVsRound := by
  unfold Play.press; split <;> rfl

end Press

namespace Seat

variable {seat : Seat} {button : ButtonClick} {byte : UInt8}

theorem act_click (active : seat.Active) (real : button ≠ .noButton) :
    seat.act (.click button) = seat.click button := by
  simp only [act]
  rw [if_pos ⟨active, real⟩]

theorem act_noButton : seat.act (.click .noButton) = (seat, []) := by
  simp [act]

theorem act_tick (active : seat.Active) : seat.act .tick = seat.tick := by
  simp only [act]
  rw [if_pos active]

@[simp] theorem receive_isHost : (seat.receive byte).isHost = seat.isHost := by
  unfold receive remoteClick
  repeat' split
  all_goals rfl

theorem receive_buttonByte (real : button ≠ .noButton) :
    seat.receive (buttonByte button) = seat.remoteClick button := by
  have inRange : 3 ≤ buttonByte button ∧ buttonByte button ≤ 8 := by
    cases button <;> first | decide | exact absurd rfl real
  rw [receive, if_pos inRange, byteButton_buttonByte]

theorem receive_over (isOver : seat.Over) : (seat.receive byte).Over := by
  unfold receive remoteClick Over at *
  repeat' split
  all_goals simp [Play.tie, Play.newTurn, isOver]

theorem receive_isPlayer1 (plain : ¬ Turn byte) :
    (seat.receive byte).play.isPlayer1 = seat.play.isPlayer1 := by
  simp only [Turn, not_or] at plain
  obtain ⟨notReady, notVs, notNotVs⟩ := plain
  simp only [receive, remoteClick, notReady, notVs, notNotVs, if_false]
  repeat' split
  all_goals simp [Play.tie]

theorem receive_turn (seat : Seat) (turn : Turn byte) :
    ∃ vsRound, seat.receive byte = { seat with play := seat.play.newTurn vsRound } := by
  rcases turn with rfl | rfl | rfl
  · exact ⟨true, rfl⟩
  · exact ⟨true, rfl⟩
  · exact ⟨false, rfl⟩

theorem passTurn_isPlayer1 : seat.passTurn.1.play.isPlayer1 = !seat.play.isPlayer1 := by
  unfold passTurn; split <;> rfl

theorem passTurn_ended : seat.passTurn.1.play.ended = seat.play.ended := by
  unfold passTurn; split <;> rfl

theorem passTurn_isHost : seat.passTurn.1.isHost = seat.isHost := by
  unfold passTurn; split <;> rfl

theorem passTurn_sends (seat : Seat) : ∃ byte, seat.passTurn.2 = [byte] ∧ Turn byte := by
  unfold passTurn
  split
  · exact ⟨_, rfl, by decide⟩
  · exact ⟨_, rfl, by decide⟩

theorem passTurn_inactive (mine : seat.isHost = seat.play.isPlayer1) : ¬ seat.passTurn.1.Active := by
  rintro ⟨_, same⟩
  rw [passTurn_isHost, passTurn_isPlayer1, mine] at same
  cases h : seat.play.isPlayer1 <;> simp [h] at same

theorem click_keepsOrPasses (active : seat.Active) (real : button ≠ .noButton)
    (alive : ¬ (seat.click button).1.Over) :
    ((seat.click button).1.Active ∧ ∀ byte ∈ (seat.click button).2, ¬ Turn byte) ∨
      (¬ (seat.click button).1.Active ∧ EndsInTurn Turn (seat.click button).2) := by
  have plain := not_turn_buttonByte real
  cases found : seat.play.verdict button with
  | matched =>
      left
      simpa [click, found, Active, Play.restartClock, plain] using active
  | wrong => simp [click, found, Over, Play.lose] at alive
  | tied => simp [click, found, Over, Play.tie] at alive
  | opened | extended =>
      left
      simpa [click, found, Active, plain] using active
  | appended =>
      right
      simp only [click, found]
      obtain ⟨byte, sent, turn⟩ := passTurn_sends { seat with play := seat.play.press button }
      refine ⟨passTurn_inactive (by simpa using active.2), [buttonByte button], byte, by simp [sent], ?_, turn⟩
      simpa using plain

theorem tick_keepsOrPasses (active : seat.Active) (alive : ¬ seat.tick.1.Over) :
    (seat.tick.1.Active ∧ ∀ byte ∈ seat.tick.2, ¬ Turn byte) ∨
      (¬ seat.tick.1.Active ∧ EndsInTurn Turn seat.tick.2) := by
  unfold tick at alive ⊢
  split
  · rename_i expired
    simp [expired, Over, Play.lose] at alive
  · split
    · obtain ⟨byte, sent, turn⟩ := passTurn_sends seat
      exact .inr ⟨passTurn_inactive active.2, [], byte, by simp [sent], by simp, turn⟩
    · split
      · exact .inl ⟨active, by simp⟩
      · exact .inl ⟨active, by simp⟩

theorem click_over (running : seat.play.ended = false) (isOver : (seat.click button).1.Over) :
    (seat.play.verdict button = .wrong ∧
      seat.click button = ({ seat with play := seat.play.lose }, [Coms.lose.toByte])) ∨
    (seat.play.verdict button = .tied ∧
      seat.click button = ({ seat with play := (seat.play.press button).tie }, [Coms.tieRemote.toByte])) := by
  unfold click at isOver ⊢
  cases found : seat.play.verdict button with
  | wrong => exact .inl ⟨rfl, rfl⟩
  | tied => exact .inr ⟨rfl, rfl⟩
  | matched | opened | extended => simp [found, Over, Play.restartClock, running] at isOver
  | appended => simp [found, Over, passTurn_ended, running] at isOver

theorem tick_over (running : seat.play.ended = false) (isOver : seat.tick.1.Over) :
    seat.tick = ({ seat with play := seat.play.lose }, [Coms.lose.toByte]) := by
  unfold tick at isOver ⊢
  by_cases expired : seat.play.timeLeft = 0 ∧ (!seat.play.vsPressed) = true
  · rw [if_pos expired]
  · rw [if_neg expired] at isOver
    split at isOver
    · simp [Over, passTurn_ended, running] at isOver
    · split at isOver
      · simp [Over, running] at isOver
      · simp [Over, running] at isOver

theorem act_over (active : seat.Active) {action : Action} (isOver : (seat.act action).1.Over) :
    seat.act action = ({ seat with play := seat.play.lose }, [Coms.lose.toByte]) ∨
    ∃ button, action = .click button ∧ button ≠ .noButton ∧ seat.play.verdict button = .tied ∧
      seat.act action = ({ seat with play := (seat.play.press button).tie }, [Coms.tieRemote.toByte]) := by
  have running : seat.play.ended = false := active.1
  cases action with
  | click button =>
      by_cases real : button = .noButton
      · subst real
        rw [act_noButton] at isOver
        simp [Over, running] at isOver
      · rw [act_click active real] at isOver ⊢
        rcases click_over running isOver with ⟨_, lost⟩ | ⟨found, tied⟩
        · exact .inl lost
        · exact .inr ⟨button, rfl, real, found, tied⟩
  | tick =>
      rw [act_tick active] at isOver ⊢
      exact .inl (tick_over running isOver)
  | rest => simp [act, Over, running] at isOver

theorem receive_waits (inactive : ¬ seat.Active) (plain : ¬ Turn byte) : ¬ (seat.receive byte).Active := by
  rintro ⟨alive, mine⟩
  rw [receive_isHost, receive_isPlayer1 plain] at mine
  refine inactive ⟨?_, mine⟩
  cases ended : seat.play.ended with
  | false => rfl
  | true =>
      have isOver : (seat.receive byte).Over := receive_over ended
      rw [Over, alive] at isOver
      cases isOver

theorem receive_takes (inactive : ¬ seat.Active) (alive : ¬ seat.Over) (turn : Turn byte) :
    (seat.receive byte).Active := by
  have running : seat.play.ended = false := by simpa [Over] using alive
  have waiting : seat.isHost ≠ seat.play.isPlayer1 := fun mine => inactive ⟨running, mine⟩
  obtain ⟨vsRound, same⟩ := receive_turn seat turn
  rw [same]
  refine ⟨running, ?_⟩
  cases first : seat.isHost <;> cases second : seat.play.isPlayer1 <;>
    simp_all [Play.newTurn]

theorem turnTaking : TurnTaking protocol Active Over Turn where
  activeAlive active isOver := by simp [Over, active.1] at isOver
  idle event inactive := by cases event <;> simp [protocol, act, inactive]
  keepsOrPasses event active alive := by
    cases event with
    | click button =>
        by_cases real : button = .noButton
        · simp [protocol, act, real, active]
        · simp only [protocol, act_click active real] at alive ⊢
          exact click_keepsOrPasses active real alive
    | tick =>
        simp only [protocol, act_tick active] at alive ⊢
        exact tick_keepsOrPasses active alive
    | rest => simp [protocol, act, active]
  waits inactive plain := receive_waits inactive plain
  takes inactive alive turn := receive_takes inactive alive turn
  overStays _ isOver := receive_over isOver

end Seat

end SimonVs.Rules
