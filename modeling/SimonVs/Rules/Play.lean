import SimonVs.Memory.Block

namespace SimonVs.Rules

open Memory

/-! The rules of the game, apart from how they are programmed.

`Play` is what a game knows: the sequence as a list and the few variables that
decide what the next click or the next second does. The one-PC game and each
PC of the two-PC game are abstracted to it, so that the three copies of the
rules can be compared. -/

structure Play where
  sequence : List Cell
  guessed : Nat
  maxSize : Nat
  score : Nat
  isPlayer1 : Bool
  isVsRound : Bool
  vsPressed : Bool
  timeLeft : Int
  ended : Bool
  winner : Winners
deriving DecidableEq, Repr

/-- What a click turns out to be: the next button or a wrong one, a click after the
longest sequence, one that opens a VS window or goes on with it, or a new button,
after which the turn passes. -/
inductive Verdict where
  | matched
  | wrong
  | tied
  | opened
  | extended
  | appended
deriving DecidableEq, Repr

namespace Play

def Complete (play : Play) : Prop := play.guessed = play.sequence.length

instance (play : Play) : Decidable play.Complete := inferInstanceAs (Decidable (_ = _))

def verdict (play : Play) (click : ButtonClick) : Verdict :=
  if play.Complete ∨ play.vsPressed then
    if play.guessed = play.maxSize then .tied
    else if play.isVsRound then
      if play.vsPressed then .extended
      else if click = .vsB then .opened
      else .appended
    else .appended
  else if play.sequence[play.guessed]? = some (some click) then .matched
  else .wrong

/-- The score counts a sequence once it is complete. -/
def scored (play : Play) : Play :=
  { play with score := if play.Complete then play.sequence.length else play.score }

/-- The effect of a click on the sequence, the progress and the score. -/
def press (play : Play) (click : ButtonClick) : Play :=
  match play.verdict click with
  | .matched => { play with guessed := play.guessed + 1 }
  | .wrong => play
  | .tied => play.scored
  | .opened => { play.scored with sequence := play.sequence ++ [some click], vsPressed := true }
  | .extended | .appended => { play.scored with sequence := play.sequence ++ [some click] }

def lose (play : Play) : Play :=
  { play with winner := if play.isPlayer1 then .winner2 else .winner1, ended := true }

def tie (play : Play) : Play := { play with winner := .tie, ended := true }

/-- The clock after a correct click: none once the sequence is complete. -/
def restartClock (play : Play) : Play :=
  { play with timeLeft := if play.Complete then -1 else interval }

def newTurn (play : Play) (vsRound : Bool) : Play :=
  { play with
    isPlayer1 := !play.isPlayer1, guessed := 0, vsPressed := false, isVsRound := vsRound
    timeLeft := interval }

/-- Progress never exceeds the sequence, so that a read of `buttons[guessed]`
is a read of the sequence. -/
def Sound (play : Play) : Prop := play.guessed ≤ play.sequence.length

/-- The situation that each verdict stands for. -/
def Meets (play : Play) (click : ButtonClick) : Verdict → Prop
  | .matched => ¬ play.Complete ∧ play.vsPressed = false ∧ play.sequence[play.guessed]? = some (some click)
  | .wrong => ¬ play.Complete ∧ play.vsPressed = false ∧ play.sequence[play.guessed]? ≠ some (some click)
  | .tied => (play.Complete ∨ play.vsPressed = true) ∧ play.guessed = play.maxSize
  | .opened => play.Complete ∧ play.vsPressed = false ∧ play.guessed ≠ play.maxSize ∧
      play.isVsRound = true ∧ click = .vsB
  | .extended => play.vsPressed = true ∧ play.guessed ≠ play.maxSize ∧ play.isVsRound = true
  | .appended => (play.Complete ∨ play.vsPressed = true) ∧ play.guessed ≠ play.maxSize ∧
      (play.isVsRound = true → play.Complete ∧ play.vsPressed = false ∧ click ≠ .vsB)

theorem verdict_meets (play : Play) (click : ButtonClick) : play.Meets click (play.verdict click) := by
  unfold verdict
  by_cases first : play.Complete ∨ play.vsPressed = true
  · rw [if_pos first]
    by_cases full : play.guessed = play.maxSize
    · simpa [full, Meets] using first
    · rw [if_neg full]
      cases vsRound : play.isVsRound with
      | false => simpa [Meets, vsRound, full] using first
      | true =>
          cases pressed : play.vsPressed with
          | true => simp [Meets, pressed, full, vsRound]
          | false =>
              have complete : play.Complete := by simpa [pressed] using first
              by_cases lucky : click = .vsB <;>
                simp [Meets, pressed, full, vsRound, complete, lucky]
  · rw [if_neg first]
    simp only [not_or, Bool.not_eq_true] at first
    split
    · rename_i found
      exact ⟨first.1, first.2, found⟩
    · rename_i different
      exact ⟨first.1, first.2, different⟩

theorem meets_of_verdict {play : Play} {click : ButtonClick} {verdict : Verdict}
    (found : play.verdict click = verdict) : play.Meets click verdict :=
  found ▸ play.verdict_meets click

/-- Outside VS windows the verdict does not depend on the choice of VS rounds. -/
theorem verdict_closed {play : Play} {button : ButtonClick} (closed : play.vsPressed = false)
    (unlucky : play.Complete → play.isVsRound = true → button ≠ .vsB) :
    play.verdict button =
      if play.Complete then if play.guessed = play.maxSize then .tied else .appended
      else if play.sequence[play.guessed]? = some (some button) then .matched else .wrong := by
  unfold verdict
  by_cases complete : play.Complete
  · by_cases vsRound : play.isVsRound = true
    · have notVs : button ≠ .vsB := unlucky complete vsRound
      simp [complete, closed, notVs]
    · simp [complete, vsRound]
  · simp [complete, closed]

/-- `Meets` in the variables of the C code: `next` is `buttons[guessed]`. -/
def Situation (guessed size maxSize : Nat) (pressed vsRound : Bool) (next : Cell) (click : ButtonClick) :
    Verdict → Prop
  | .matched => guessed ≠ size ∧ pressed = false ∧ next = some click
  | .wrong => guessed ≠ size ∧ pressed = false ∧ next ≠ some click
  | .tied => (guessed = size ∨ pressed = true) ∧ guessed = maxSize
  | .opened => guessed = size ∧ pressed = false ∧ size ≠ maxSize ∧ vsRound = true ∧ click = .vsB
  | .extended => pressed = true ∧ guessed ≠ maxSize ∧ vsRound = true
  | .appended => (guessed = size ∨ pressed = true) ∧ guessed ≠ maxSize ∧
      (vsRound = true → guessed = size ∧ pressed = false ∧ size ≠ maxSize ∧ click ≠ .vsB)

def verdictOf (guessed size maxSize : Nat) (pressed vsRound : Bool) (next : Cell) (click : ButtonClick) : Verdict :=
  if guessed = size ∨ pressed then
    if guessed = maxSize then .tied
    else if vsRound then
      if pressed then .extended
      else if click = .vsB then .opened
      else .appended
    else .appended
  else if next = some click then .matched
  else .wrong

theorem situation_verdictOf (guessed size maxSize : Nat) (pressed vsRound : Bool) (next : Cell) (click : ButtonClick) :
    Situation guessed size maxSize pressed vsRound next click
      (verdictOf guessed size maxSize pressed vsRound next click) := by
  unfold verdictOf
  by_cases first : guessed = size ∨ pressed = true
  · rw [if_pos first]
    by_cases full : guessed = maxSize
    · rw [if_pos full]
      exact ⟨first, full⟩
    · rw [if_neg full]
      cases vsRound with
      | false => exact ⟨first, full, fun vsRound => nomatch vsRound⟩
      | true =>
          cases pressed with
          | true => exact ⟨rfl, full, rfl⟩
          | false =>
              have complete : guessed = size := by simpa using first
              by_cases lucky : click = .vsB
              · simp only [lucky, if_true, Bool.false_eq_true, if_false]
                exact ⟨complete, rfl, complete ▸ full, rfl, rfl⟩
              · simp only [lucky, if_true, Bool.false_eq_true, if_false]
                exact ⟨.inl complete, full, fun _ => ⟨complete, rfl, complete ▸ full, lucky⟩⟩
  · rw [if_neg first]
    simp only [not_or, Bool.not_eq_true] at first
    split
    · rename_i same
      exact ⟨first.1, first.2, same⟩
    · rename_i different
      exact ⟨first.1, first.2, different⟩

/-- The sequence is the beginning of the array, so an incomplete sequence is
read inside its bounds. -/
theorem verdict_eq_verdictOf {play : Play} {block : Block} {size : Nat} (array : play.sequence = block.firstCells size)
    (sound : play.Sound) (click : ButtonClick) :
    play.verdict click =
      verdictOf play.guessed size play.maxSize play.vsPressed play.isVsRound (block.cells play.guessed) click := by
  have length : play.sequence.length = size := by rw [array, Block.length_firstCells]
  have within : play.guessed ≤ size := length ▸ sound
  have complete : play.Complete ↔ play.guessed = size := by rw [Complete, length]
  unfold verdict verdictOf
  by_cases first : play.guessed = size ∨ play.vsPressed = true
  · simp only [complete, first, if_true]
  · have below : play.guessed < size := by
      simp only [not_or] at first
      omega
    rw [array, Block.firstCells_getElem? below]
    simp only [complete, first, if_false, Option.some.injEq]

end Play

end SimonVs.Rules
