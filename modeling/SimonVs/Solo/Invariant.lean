import SimonVs.Rules.OnePc

namespace SimonVs

open Data Memory Rules

namespace Rules.Play

variable {play : Play} {button : ButtonClick} {vsRound : Bool}

structure Regular (play : Play) : Prop where
  within : play.guessed ≤ play.sequence.length
  score : play.score ≤ play.sequence.length
  notBelow : -1 ≤ play.timeLeft
  notAbove : play.timeLeft ≤ vsInterval
  -- the time is unlimited once the sequence is complete, and only then
  unlimited : play.timeLeft = -1 ↔ play.Complete
  window : play.vsPressed = true → play.isVsRound = true
  -- a VS window appends, so that its sequence is never complete
  unfinished : play.vsPressed = true → ¬ play.Complete

theorem interval_nonneg : 0 ≤ interval := by decide

theorem interval_le : interval ≤ vsInterval := by decide

theorem vsInterval_nonneg : 0 ≤ vsInterval := by decide

/-- While the clock runs the sequence is not complete. -/
theorem Regular.timed (within : play.guessed ≤ play.sequence.length)
    (score : play.score ≤ play.sequence.length) (incomplete : ¬ play.Complete)
    (clock : 0 ≤ play.timeLeft) (limit : play.timeLeft ≤ vsInterval)
    (window : play.vsPressed = true → play.isVsRound = true) : play.Regular where
  within := within
  score := score
  notBelow := by omega
  notAbove := limit
  unlimited := by
    refine ⟨fun none => ?_, fun complete => absurd complete incomplete⟩
    rw [none] at clock
    exact absurd clock (by decide)
  window := window
  unfinished := fun _ => incomplete

theorem Regular.untimed (complete : play.Complete) (score : play.score ≤ play.sequence.length)
    (clock : play.timeLeft = -1) (closed : play.vsPressed = false) : play.Regular where
  within := Nat.le_of_eq complete
  score := score
  notBelow := Int.le_of_eq clock.symm
  notAbove := by
    rw [clock]
    decide
  unlimited := ⟨fun _ => complete, fun _ => clock⟩
  window := by simp [closed]
  unfinished := by simp [closed]

theorem Regular.limited (regular : play.Regular) (incomplete : ¬ play.Complete) : 0 ≤ play.timeLeft := by
  have notBelow := regular.notBelow
  have finite : play.timeLeft ≠ -1 := fun none => incomplete (regular.unlimited.mp none)
  omega

theorem Regular.scored_le (regular : play.Regular) : play.scored.score ≤ play.sequence.length := by
  unfold scored
  dsimp only
  split
  · exact Nat.le_refl _
  · exact regular.score

theorem Regular.matched (regular : play.Regular) (incomplete : ¬ play.Complete)
    (closed : play.vsPressed = false) :
    (restartClock { play with guessed := play.guessed + 1 }).Regular := by
  have within := regular.within
  have below : play.guessed + 1 ≤ play.sequence.length := by
    unfold Complete at incomplete
    omega
  by_cases complete : Complete { play with guessed := play.guessed + 1 }
  · simp only [restartClock, complete, if_true]
    exact Regular.untimed complete regular.score rfl closed
  · simp only [restartClock, complete, if_false]
    exact Regular.timed below regular.score complete interval_nonneg interval_le regular.window

theorem Regular.click (regular : play.Regular) (alive : (play.click button vsRound).ended = false) :
    (play.click button vsRound).Regular := by
  have within := regular.within
  have meets := play.verdict_meets button
  have score : play.scored.score ≤ (play.sequence ++ [some button]).length := by
    rw [List.length_append]
    exact Nat.le_add_right_of_le regular.scored_le
  cases found : play.verdict button with
  | matched =>
      rw [found] at meets
      simp only [Play.click, Play.press, found]
      exact regular.matched meets.1 meets.2.1
  | wrong | tied =>
      simp only [Play.click, found] at alive
      cases alive
  | opened =>
      rw [found] at meets
      obtain ⟨complete, closed, _, vsRound, _⟩ := meets
      simp only [Play.click, Play.press, found]
      have grown : play.guessed < (play.sequence ++ [some button]).length := by
        rw [complete, List.length_append]
        exact Nat.lt_succ_self _
      exact Regular.timed (Nat.le_of_lt grown) score (Nat.ne_of_lt grown) vsInterval_nonneg (Int.le_refl _)
        fun _ => vsRound
  | extended =>
      rw [found] at meets
      obtain ⟨pressed, _, vsRound⟩ := meets
      simp only [Play.click, Play.press, found]
      have clock : 0 ≤ play.timeLeft := regular.limited (regular.unfinished pressed)
      have grown : 0 < (play.sequence ++ [some button]).length := by simp
      exact Regular.timed (Nat.zero_le _) score (Nat.ne_of_lt grown) clock regular.notAbove fun _ => vsRound
  | appended =>
      simp only [Play.click, Play.press, found]
      have grown : 0 < (play.sequence ++ [some button]).length := by simp
      exact Regular.timed (Nat.zero_le _) score (Nat.ne_of_lt grown) interval_nonneg interval_le
        fun pressed => by cases pressed

theorem Regular.tick (regular : play.Regular) (alive : (play.tick vsRound).ended = false) :
    (play.tick vsRound).Regular := by
  unfold Play.tick at alive ⊢
  split at alive
  · cases alive
  · rename_i keeps
    rw [if_neg keeps]
    split
    · rename_i expired
      have incomplete : ¬ play.Complete := by
        rw [← regular.unlimited, expired.1]
        decide
      exact Regular.timed regular.within regular.score incomplete interval_nonneg interval_le
        fun pressed => by cases pressed
    · split
      · rename_i positive
        have notAbove := regular.notAbove
        have incomplete : ¬ play.Complete := by
          rw [← regular.unlimited]
          omega
        refine Regular.timed regular.within regular.score incomplete ?_ ?_ regular.window
        · exact Int.le_sub_one_of_lt positive
        · dsimp only
          omega
      · exact regular

theorem alive_before {move : Game.Move} (alive : (play.move move).ended = false) : play.ended = false := by
  cases move with
  | idle => exact alive
  | click button vsRound =>
      simp only [Play.move, Play.click, Play.press] at alive
      cases found : play.verdict button with
      | wrong | tied =>
          rw [found] at alive
          cases alive
      | matched | opened | extended | appended =>
          rw [found] at alive
          exact alive
  | tick vsRound =>
      simp only [Play.move, Play.tick] at alive
      split at alive
      · cases alive
      · split at alive
        · exact alive
        · split at alive <;> exact alive

theorem Regular.move (regular : play.Regular) {move : Game.Move} (alive : (play.move move).ended = false) :
    (play.move move).Regular := by
  cases move with
  | idle => exact regular
  | click button vsRound => exact regular.click alive
  | tick vsRound => exact regular.tick alive

/-- With a second left and none after it, the turn passes or is lost. -/
theorem Regular.expires (regular : play.Regular) (zero : play.timeLeft = 0) :
    (play.tick vsRound).ended = true ∨ (play.tick vsRound).isPlayer1 = !play.isPlayer1 := by
  unfold Play.tick
  cases pressed : play.vsPressed with
  | false =>
      rw [if_pos ⟨zero, rfl⟩]
      exact .inl rfl
  | true =>
      rw [if_neg (by simp), if_pos ⟨zero, regular.window pressed, rfl⟩]
      exact .inr rfl

end Rules.Play

namespace Game

variable {game : Game} {rand : Nat}

/-- The index at which `click_button` reads the array, if it does. -/
def readsAt (game : Game) (click : ButtonClick) : Option Nat :=
  if click = .noButton then none
  else if game.guessed = game.buttonsSize ∨ game.vsWasPressed then none
  else some game.guessed

/-- Another array makes no difference to `click_button` if it is the same there. -/
theorem clickButton_reads {click : ButtonClick} (cells : Nat → Memory.Cell)
    (same : ∀ index, game.readsAt click = some index → cells index = game.buttons.cells index) :
    { clickButton { game with buttons := { game.buttons with cells := cells } } click rand with
      buttons := (game.clickButton click rand).buttons } = game.clickButton click rand := by
  by_cases real : click = .noButton
  · simp only [clickButton, if_pos real]
  · by_cases first : game.guessed = game.buttonsSize ∨ game.vsWasPressed = true
    · simp only [clickButton, append, isVSRound, endGame, if_neg real, if_pos first]
      repeat' split
      all_goals rfl
    · have reads : cells game.guessed = game.buttons.cells game.guessed :=
        same game.guessed (by rw [readsAt, if_neg real, if_neg first])
      simp only [clickButton, if_neg real, if_neg first, reads]
      repeat' split
      all_goals rfl

/-- What is read decides whether the click was right. -/
theorem guessed_clickButton_iff {click : ButtonClick} {index : Nat} (reads : game.readsAt click = some index) :
    (game.clickButton click rand).guessed = game.guessed + 1 ↔ game.buttons.cells index = some click := by
  unfold readsAt at reads
  split at reads
  · cases reads
  · rename_i real
    split at reads
    · cases reads
    · rename_i incomplete
      injection reads with same
      rw [clickButton, if_neg real, if_neg incomplete, ← same]
      split
      · rename_i right
        refine iff_of_true ?_ right
        dsimp only
        split <;> rfl
      · rename_i wrong
        refine iff_of_false ?_ wrong
        exact (Nat.succ_ne_self _).symm

structure Regular (game : Game) : Prop where
  guessed : game.guessed ≤ game.buttonsSize
  score : game.playerScore ≤ game.buttonsSize
  clock : -1 ≤ game.timeLeftForClick ∧ game.timeLeftForClick ≤ 6
  unlimited : game.timeLeftForClick = -1 ↔ game.guessed = game.buttonsSize
  window : game.vsWasPressed = true → game.isVsRound = true
  expires : game.timeLeftForClick = 0 → ∀ rand,
    (game.gameUpdateStatusRtc rand).gameEnd = true ∨
      (game.gameUpdateStatusRtc rand).isPlayer1 = !game.isPlayer1
  reads : ∀ click index, game.readsAt click = some index → index < game.buttonsSize

theorem readsAt_lt (within : game.guessed ≤ game.buttonsSize) {click : ButtonClick} {index : Nat}
    (reads : game.readsAt click = some index) : index < game.buttonsSize := by
  unfold readsAt at reads
  split at reads
  · cases reads
  · split at reads
    · cases reads
    · rename_i incomplete
      have differs : game.guessed ≠ game.buttonsSize := fun complete => incomplete (.inl complete)
      injection reads with same
      omega

theorem regular_of_play (sound : game.Sound) (regular : game.play.Regular) : game.Regular where
  guessed := sound.within
  score := by simpa [play] using regular.score
  clock := ⟨regular.notBelow, regular.notAbove⟩
  unlimited := by simpa [play, Play.Complete] using regular.unlimited
  window := sound.window
  expires := by
    intro zero rand
    have plays := (@play_gameUpdateStatusRtc game rand sound).1
    have expired := @Play.Regular.expires game.play (choosesVs rand) regular zero
    rw [← plays] at expired
    exact expired
  reads := fun _ _ reads => readsAt_lt sound.within reads

theorem regular_play_run (game : Game) (rounds rand : Nat) (inputs : List Input)
    (running : (Data.run handle (game.resetGame rounds rand) inputs).gameEnd = false) :
    (Data.run handle (game.resetGame rounds rand) inputs).play.Regular := by
  have both : (Data.run handle (game.resetGame rounds rand) inputs).Sound ∧
      ((Data.run handle (game.resetGame rounds rand) inputs).play.ended = false →
        (Data.run handle (game.resetGame rounds rand) inputs).play.Regular) := by
    refine run_invariant (fun game : Game => game.Sound ∧ (game.play.ended = false → game.play.Regular))
      ?_ ?_ along_true
    · rintro state input ⟨sound, regular⟩ -
      obtain ⟨plays, after⟩ := play_handle sound input
      refine ⟨after, fun alive => ?_⟩
      rw [plays] at alive ⊢
      exact (regular (Play.alive_before alive)).move alive
    · obtain ⟨plays, sound⟩ := @play_resetGame rand game rounds
      refine ⟨sound, fun _ => ?_⟩
      rw [plays]
      exact Play.Regular.untimed rfl (Nat.le_refl _) rfl rfl
  exact both.2 running

/-- Every state of a running game is regular, whatever was clicked and however
the VS rounds fell. -/
theorem regular_run (game : Game) (rounds rand : Nat) (inputs : List Input)
    (running : (Data.run handle (game.resetGame rounds rand) inputs).gameEnd = false) :
    (Data.run handle (game.resetGame rounds rand) inputs).Regular :=
  regular_of_play (sound_run game rounds rand inputs) (regular_play_run game rounds rand inputs running)

/-- A VS window with one more button in it that runs out. -/
def windowInputs : List Input :=
  .click .vsB 0 :: .click .redB 0 :: List.replicate 7 (.rtc 1)

theorem regular_run_window :
    (Data.run handle (resetGame (.boot 0 fun _ => none) 3 0) windowInputs).isPlayer1 = false ∧
    (Data.run handle (resetGame (.boot 0 fun _ => none) 3 0) windowInputs).Regular :=
  ⟨rfl, regular_run (.boot 0 fun _ => none) 3 0 windowInputs rfl⟩

end Game

end SimonVs
