import SimonVs.Solo.Invariant

namespace SimonVs

open Data Memory Rules

namespace Rules.Play

variable {play : Play} {move : Game.Move}

/-- A second that ends a VS window in which the progress has not been reset. -/
def Stale (play : Play) : Game.Move → Prop
  | .tick _ => play.timeLeft = 0 ∧ play.isVsRound = true ∧ play.vsPressed = true ∧ play.guessed ≠ 0
  | _ => False

/-- The turn has passed: the window is closed, and the new player starts from
the first button unless a stale window ran out. -/
theorem passed (passes : (play.move move).isPlayer1 ≠ play.isPlayer1) :
    (play.move move).vsPressed = false ∧ ((play.move move).guessed ≠ 0 ↔ play.Stale move) := by
  cases move with
  | idle => exact absurd rfl passes
  | click button vsRound =>
      simp only [Play.move, Play.click, Play.press] at passes ⊢
      cases found : play.verdict button with
      | appended => simp [Play.newTurn, Stale]
      | matched | wrong | tied | opened | extended =>
          simp only [found] at passes
          exact absurd rfl passes
  | tick vsRound =>
      simp only [Play.move, Play.tick] at passes ⊢
      split at passes
      · exact absurd rfl passes
      · rename_i keeps
        rw [if_neg keeps]
        split at passes
        · rename_i expired
          rw [if_pos expired]
          refine ⟨rfl, fun progress => ?_, fun stale => stale.2.2.2⟩
          exact ⟨expired.1, expired.2.1, expired.2.2, progress⟩
        · split at passes <;> exact absurd rfl passes

theorem quiet (silent : move.clicks = []) : (play.move move).sequence = play.sequence := by
  cases move with
  | idle => rfl
  | click button vsRound => cases silent
  | tick vsRound =>
      simp only [Play.move, Play.tick]
      split
      · rfl
      · split
        · rfl
        · split <;> rfl

/-- Inside a turn, before anything is appended, the clicks are the buttons that
were next in the sequence. -/
theorem reproduces (closed : play.vsPressed = false) (alive : (play.move move).ended = false)
    (keeps : (play.move move).isPlayer1 = play.isPlayer1)
    (same : (play.move move).sequence.length ≤ play.sequence.length) :
    (play.move move).sequence = play.sequence ∧ (play.move move).vsPressed = false ∧
    play.sequence.drop play.guessed =
      move.clicks.map some ++ play.sequence.drop (play.move move).guessed := by
  cases move with
  | idle => exact ⟨rfl, closed, rfl⟩
  | click button vsRound =>
      have meets := play.verdict_meets button
      simp only [Play.move, Play.click, Play.press] at alive keeps same ⊢
      cases found : play.verdict button with
      | matched =>
          rw [found] at meets
          obtain ⟨below, next⟩ := List.getElem?_eq_some_iff.mp meets.2.2
          refine ⟨rfl, closed, ?_⟩
          rw [List.drop_eq_getElem_cons below, next]
          rfl
      | wrong | tied =>
          simp only [found] at alive
          cases alive
      | opened | extended | appended =>
          simp only [found, Play.newTurn, List.length_append, List.length_singleton] at same
          exact absurd same (Nat.not_succ_le_self _)
  | tick vsRound =>
      simp only [Play.move, Play.tick, closed] at alive keeps ⊢
      split at alive
      · cases alive
      · rename_i running
        rw [if_neg running, if_neg (by simp)]
        split
        · exact ⟨rfl, rfl, rfl⟩
        · exact ⟨rfl, closed, rfl⟩

/-- Outside a VS window only a complete sequence is extended or ends in a tie. -/
theorem complete_of_grows (closed : play.vsPressed = false) (running : play.ended = false)
    (grows : play.sequence.length < (play.move move).sequence.length ∨
      (play.move move).ended = true ∧ (play.move move).winner = .tie) : play.Complete := by
  cases move with
  | idle =>
      rcases grows with longer | ⟨ended, _⟩
      · exact absurd longer (Nat.lt_irrefl _)
      · rw [Play.move, running] at ended
        cases ended
  | click button vsRound =>
      have meets := play.verdict_meets button
      simp only [Play.move, Play.click, Play.press] at grows
      cases found : play.verdict button with
      | matched =>
          simp [found, restartClock, running] at grows
      | wrong =>
          cases player : play.isPlayer1 <;> simp [found, lose, player] at grows
      | tied | appended =>
          rw [found] at meets
          simpa [closed] using meets.1
      | opened =>
          rw [found] at meets
          exact meets.1
      | extended =>
          rw [found] at meets
          rw [meets.1] at closed
          cases closed
  | tick vsRound =>
      simp only [Play.move, Play.tick, closed] at grows
      split at grows
      · cases player : play.isPlayer1 <;> simp [lose, player] at grows
      · rw [if_neg (by simp)] at grows
        split at grows <;> simp [running] at grows

end Rules.Play

namespace Game

variable {game : Game}

/-- The buttons that are clicked in a run, as far as the game takes notice. -/
def clicked (game : Game) : List Input → List ButtonClick
  | [] => []
  | input :: rest => (game.moveOf input).clicks ++ clicked (game.handle input) rest

def Appends (game : Game) (input : Input) : Prop := game.buttonsSize < (game.handle input).buttonsSize

def Ties (game : Game) (input : Input) : Prop :=
  game.gameEnd = false ∧ (game.handle input).gameEnd = true ∧ (game.handle input).ws = .tie

def PassesTurn (game : Game) (input : Input) : Prop := (game.handle input).isPlayer1 ≠ game.isPlayer1

/-- A VS window runs out while `guessed` still counts the buttons reproduced
before it was opened. -/
def ExpiresStale (game : Game) : Input → Prop
  | .rtc _ => game.timeLeftForClick = 0 ∧ game.isVsRound = true ∧ game.vsWasPressed = true ∧ game.guessed ≠ 0
  | _ => False

instance (game : Game) (input : Input) : Decidable (game.Appends input) := inferInstanceAs (Decidable (_ < _))

instance (game : Game) (input : Input) : Decidable (game.PassesTurn input) := inferInstanceAs (Decidable (_ ≠ _))

/-- `before` ends where a turn begins, `turn` is what happens in it up to the
first click that appends or ties, which is `last`. -/
structure Turn (start : Game) (before turn : List Input) (last : Input) : Prop where
  begins : before = [] ∨ ∃ earlier input, before = earlier ++ [input] ∧
    (Data.run handle start earlier).PassesTurn input
  same : Along handle (fun game input => ¬ game.PassesTurn input ∧ ¬ game.Appends input)
    (Data.run handle start before) turn
  extended : (Data.run handle start (before ++ turn)).Appends last ∨
    (Data.run handle start (before ++ turn)).Ties last

/-- The clicks of the turn are the sequence as it was when the turn began. -/
def Whole (start : Game) (before turn : List Input) : Prop :=
  ((Data.run handle start before).clicked turn).map some =
    (Data.run handle start before).buttons.firstCells (Data.run handle start before).buttonsSize

instance (start : Game) (before turn : List Input) : Decidable (Whole start before turn) :=
  inferInstanceAs (Decidable (_ = _))

/-- The turn was passed on by a stale VS window. -/
def BeginsStale (start : Game) (before : List Input) : Prop :=
  ∃ earlier input, before = earlier ++ [input] ∧ (Data.run handle start earlier).ExpiresStale input

theorem expiresStale_iff {input : Input} : game.ExpiresStale input ↔ game.play.Stale (game.moveOf input) := by
  have clickMove (click : ButtonClick) (rand : Nat) : ¬ game.play.Stale (game.clickMove click rand) := by
    unfold Game.clickMove
    split <;> exact fun stale => stale
  cases input with
  | click click rand => exact iff_of_false (fun stale => stale) (clickMove _ _)
  | mouse packet rand => exact iff_of_false (fun stale => stale) (clickMove _ _)
  | key | timer | rtc => exact Iff.rfl

theorem alive_of_run (sound : game.Sound) {inputs : List Input}
    (alive : (Data.run handle game inputs).gameEnd = false) : game.gameEnd = false := by
  induction inputs generalizing game with
  | nil => exact alive
  | cons input rest ih =>
      obtain ⟨plays, after⟩ := play_handle sound input
      have next : (game.handle input).play.ended = false := ih after alive
      rw [plays] at next
      exact Play.alive_before next

/-- The clicks of a turn are a stretch of the sequence from `guessed` on. -/
theorem reproduces_run (sound : game.Sound) (closed : game.vsWasPressed = false) {turn : List Input}
    (same : Along handle (fun game input => ¬ game.PassesTurn input ∧ ¬ game.Appends input) game turn)
    (alive : (Data.run handle game turn).gameEnd = false) :
    (Data.run handle game turn).play.sequence = game.play.sequence ∧
    (Data.run handle game turn).vsWasPressed = false ∧
    game.play.sequence.drop game.guessed = (game.clicked turn).map some ++
      game.play.sequence.drop (Data.run handle game turn).guessed := by
  induction turn generalizing game with
  | nil => exact ⟨rfl, closed, rfl⟩
  | cons input rest ih =>
      obtain ⟨⟨keeps, appendsNot⟩, later⟩ := same
      obtain ⟨plays, after⟩ := play_handle sound input
      have next : (game.handle input).play.ended = false := alive_of_run after alive
      have player : (game.handle input).play.isPlayer1 = game.play.isPlayer1 := Decidable.not_not.mp keeps
      have size : (game.handle input).play.sequence.length ≤ game.play.sequence.length := by
        rw [length_sequence, length_sequence]
        exact Nat.le_of_not_lt appendsNot
      rw [plays] at next player size
      obtain ⟨sequence, stays, dropped⟩ := Play.reproduces closed next player size
      rw [← plays] at sequence stays dropped
      obtain ⟨sequences, closedAfter, rest⟩ := ih after stays later alive
      refine ⟨sequences.trans sequence, closedAfter, ?_⟩
      have first : game.play.sequence.drop game.guessed =
          (game.moveOf input).clicks.map some ++
            (game.handle input).play.sequence.drop (game.handle input).guessed := by
        rw [sequence]
        exact dropped
      rw [first, rest, sequence, clicked, List.map_append, List.append_assoc]
      rfl

/-- A turn begins outside VS windows, and with the first button unless a stale
window ran out. -/
theorem begins_closed {start : Game} {rounds rand : Nat} {before turn : List Input} {last : Input}
    (turns : Turn (start.resetGame rounds rand) before turn last) :
    (Data.run handle (start.resetGame rounds rand) before).vsWasPressed = false ∧
    ((Data.run handle (start.resetGame rounds rand) before).guessed ≠ 0 ↔
      BeginsStale (start.resetGame rounds rand) before) := by
  rcases turns.begins with rfl | ⟨earlier, input, rfl, passes⟩
  · refine ⟨rfl, iff_of_false (fun progress => progress rfl) ?_⟩
    rintro ⟨earlier, input, split, _⟩
    exact List.append_ne_nil_of_right_ne_nil _ (List.cons_ne_nil _ _) split.symm
  · have plays := (play_handle (sound_run start rounds rand earlier) input).1
    have player : ((Data.run handle (start.resetGame rounds rand) earlier).handle input).play.isPlayer1 ≠
        (Data.run handle (start.resetGame rounds rand) earlier).play.isPlayer1 := passes
    rw [plays] at player
    obtain ⟨closed, progress⟩ := Play.passed player
    rw [← plays, ← expiresStale_iff] at progress
    rw [← plays] at closed
    simp only [run_append, run_cons, run_nil]
    refine ⟨closed, progress.trans ⟨fun stale => ⟨earlier, input, rfl, stale⟩, ?_⟩⟩
    rintro ⟨others, other, split, stale⟩
    obtain ⟨rfl, same⟩ := List.append_inj' split rfl
    rw [List.singleton_inj.mp same]
    exact stale

theorem complete_of_extended {last : Input} (sound : game.Sound)
    (extended : game.Appends last ∨ game.Ties last) :
    game.gameEnd = false ∧ (game.vsWasPressed = false → game.play.Complete) := by
  obtain ⟨plays, _⟩ := play_handle sound last
  have sizes : game.Appends last →
      game.play.sequence.length < (game.play.move (game.moveOf last)).sequence.length := by
    intro appends
    rw [← plays, length_sequence, length_sequence]
    exact appends
  have running : game.gameEnd = false := by
    rcases extended with appends | ties
    · by_cases ended : game.gameEnd = true
      · have longer := sizes appends
        rw [Play.quiet (moveOf_ended ended last)] at longer
        exact absurd longer (Nat.lt_irrefl _)
      · exact Bool.eq_false_iff.mpr ended
    · exact ties.1
  refine ⟨running, fun closed => ?_⟩
  refine @Play.complete_of_grows game.play (game.moveOf last) closed running ?_
  rcases extended with appends | ties
  · exact .inl (sizes appends)
  · rw [← plays]
    exact .inr ties.2

/-- A turn that appends or ties has reproduced the sequence from where it
began. -/
theorem clicked_turn {start : Game} {rounds rand : Nat} {before turn : List Input} {last : Input}
    (turns : Turn (start.resetGame rounds rand) before turn last) :
    ((Data.run handle (start.resetGame rounds rand) before).clicked turn).map some =
      (Data.run handle (start.resetGame rounds rand) before).play.sequence.drop
        (Data.run handle (start.resetGame rounds rand) before).guessed := by
  have sound := sound_run start rounds rand before
  have closed := (begins_closed turns).1
  have extended := turns.extended
  rw [run_append] at extended
  obtain ⟨running, complete⟩ := complete_of_extended
    (run_append ▸ sound_run start rounds rand (before ++ turn)) extended
  obtain ⟨sequence, closedAfter, dropped⟩ := reproduces_run sound closed turns.same running
  have whole : (Data.run handle (start.resetGame rounds rand) before).play.sequence.length =
      (Data.run handle (Data.run handle (start.resetGame rounds rand) before) turn).guessed := by
    rw [← sequence]
    exact (complete closedAfter).symm
  rw [dropped, ← whole, List.drop_length, List.append_nil]

theorem whole_iff {start : Game} {rounds rand : Nat} {before turn : List Input} {last : Input}
    (turns : Turn (start.resetGame rounds rand) before turn last) :
    Whole (start.resetGame rounds rand) before turn ↔ ¬ BeginsStale (start.resetGame rounds rand) before := by
  have within := (sound_run start rounds rand before).within
  rw [← (begins_closed turns).2, Decidable.not_not, Whole, clicked_turn turns]
  constructor
  · intro same
    have lengths := congrArg List.length same
    rw [List.length_drop, length_sequence, Block.length_firstCells] at lengths
    omega
  · intro first
    rw [first]
    rfl

/-- A turn that appends or ties reproduces the whole sequence first, precisely
when it was not begun by a VS window that ran out with `guessed` unchanged.
Without such an expiry all turns of the run do. -/
theorem turns_whole (game : Game) (rounds rand : Nat) (inputs : List Input) :
    (∀ before turn last after, inputs = before ++ turn ++ last :: after →
      Turn (game.resetGame rounds rand) before turn last →
      (Whole (game.resetGame rounds rand) before turn ↔
        ¬ BeginsStale (game.resetGame rounds rand) before)) ∧
    (Along handle (fun game input => ¬ game.ExpiresStale input) (game.resetGame rounds rand) inputs →
      ∀ before turn last after, inputs = before ++ turn ++ last :: after →
        Turn (game.resetGame rounds rand) before turn last →
        Whole (game.resetGame rounds rand) before turn) := by
  refine ⟨fun _ _ _ _ _ turns => whole_iff turns, ?_⟩
  intro fresh before turn last after split turns
  rw [whole_iff turns]
  rintro ⟨earlier, input, rfl, stale⟩
  rw [split, List.append_assoc, List.append_assoc, along_append] at fresh
  exact fresh.2.1 stale

/-- Player 2 reproduces one button, opens a VS window with the second one and
lets it run out after `more` has been clicked in it. -/
def windowRunsOut (more : List ButtonClick) : List Input :=
  .click .redB 0 :: .click .redB 0 :: .click .vsB 0 :: more.map (.click · 0) ++ List.replicate 7 (.rtc 1)

/-- With a button clicked in the window, player 1 has to start from the first
button. -/
theorem turns_whole_reset :
    Turn (resetGame (.boot 0 fun _ => none) 4 1) (windowRunsOut [.blueB])
      [.click .redB 0, .click .vsB 0, .click .blueB 0] (.click .greenB 1) ∧
    Whole (resetGame (.boot 0 fun _ => none) 4 1) (windowRunsOut [.blueB])
      [.click .redB 0, .click .vsB 0, .click .blueB 0] := by
  have turns : Turn (resetGame (.boot 0 fun _ => none) 4 1) (windowRunsOut [.blueB])
      [.click .redB 0, .click .vsB 0, .click .blueB 0] (.click .greenB 1) :=
    { begins := .inr ⟨(windowRunsOut [.blueB]).dropLast, .rtc 1, rfl, by decide⟩
      same := by decide
      extended := .inl (by decide) }
  refine ⟨turns, ?_⟩
  refine ((turns_whole (.boot 0 fun _ => none) 4 1 (windowRunsOut [.blueB] ++
    [.click .redB 0, .click .vsB 0, .click .blueB 0] ++ [.click .greenB 1])).1 _ _ _ [] rfl turns).mpr ?_
  rw [← (begins_closed turns).2]
  decide

/-- Without one, player 1 only has to repeat the last button. -/
theorem turn_not_whole :
    Turn (resetGame (.boot 0 fun _ => none) 4 1) (windowRunsOut []) [.click .vsB 0] (.click .greenB 1) ∧
    ¬ Whole (resetGame (.boot 0 fun _ => none) 4 1) (windowRunsOut []) [.click .vsB 0] := by
  refine ⟨?_, by decide⟩
  exact
    { begins := .inr ⟨(windowRunsOut []).dropLast, .rtc 1, rfl, by decide⟩
      same := by decide
      extended := .inl (by decide) }

end Game

end SimonVs
