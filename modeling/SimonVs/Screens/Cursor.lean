import Mathlib.Data.List.Perm.Basic
import Mathlib.Tactic.Linarith
import SimonVs.Memory.Capacity

namespace SimonVs

open Data Serial

/-- What a packet does to one coordinate, in unbounded integers. -/
structure AxisMoves (overflow : Bool) (before after : Nat) (delta limit : Int) : Prop where
  held : overflow = true → after = before
  low : overflow = false → (before : Int) < -delta → after = 1
  high : overflow = false → -delta ≤ before → limit ≤ before + delta → (after : Int) = limit
  exact : overflow = false → -delta ≤ before → before + delta < limit → (after : Int) = before + delta

theorem axisMoves_moveAxis {overflow : Bool} {before : Nat} {limit : Int} (positive : 0 < limit)
    (small : limit < 65536) (delta : Int) :
    AxisMoves overflow before (if overflow then before else moveAxis before delta limit) delta limit := by
  refine ⟨?_, ?_, ?_, ?_⟩
  · intro set
    rw [if_pos set]
  · intro clear low
    simp only [clear, Bool.false_eq_true, if_false, moveAxis, low, if_true]
  · intro clear notLow high
    have first : ¬ (before : Int) < -delta := by omega
    have second : (before : Int) + delta ≥ limit := high
    simp only [clear, Bool.false_eq_true, if_false, moveAxis, first, second, if_true, toUInt16]
    omega
  · intro clear notLow notHigh
    have first : ¬ (before : Int) < -delta := by omega
    have second : ¬ (before : Int) + delta ≥ limit := by omega
    simp only [clear, Bool.false_eq_true, if_false, moveAxis, first, second, toUInt16]
    omega

/-- Neither clamp nor move leaves the range. -/
theorem AxisMoves.le {overflow : Bool} {before after : Nat} {delta limit : Int}
    (moves : AxisMoves overflow before after delta limit) (positive : 0 < limit) (inside : (before : Int) ≤ limit) :
    (after : Int) ≤ limit := by
  cases flag : overflow with
  | true => rwa [moves.held flag]
  | false =>
      by_cases low : (before : Int) < -delta
      · rw [moves.low flag low]
        omega
      · by_cases high : limit ≤ before + delta
        · exact Int.le_of_eq (moves.high flag (by omega) high)
        · have exact := moves.exact flag (by omega) (by omega)
          omega

namespace MouseState

variable {mouse : MouseState} {packet : Packet}

structure OnScreen (mouse : MouseState) : Prop where
  x : (mouse.xPos : Int) ≤ modeWidth - mouseWidth
  y : (mouse.yPos : Int) ≤ modeHeight - mouseHeight

/-- What a packet that a game looks at does to the cursor. -/
structure Moves (before : MouseState) (packet : Packet) (after : MouseState) : Prop where
  x : AxisMoves packet.xOv before.xPos after.xPos packet.deltaX (modeWidth - mouseWidth)
  y : AxisMoves packet.yOv before.yPos after.yPos (-packet.deltaY) (modeHeight - mouseHeight)

/-- The cursor is where it was, and the button is held as it was. -/
structure SamePointer (before after : MouseState) : Prop where
  xPos : after.xPos = before.xPos
  yPos : after.yPos = before.yPos
  leftHold : after.leftHold = before.leftHold

theorem SamePointer.refl (mouse : MouseState) : mouse.SamePointer mouse := ⟨rfl, rfl, rfl⟩

theorem SamePointer.onScreen {after : MouseState} (same : mouse.SamePointer after) (onScreen : mouse.OnScreen) :
    after.OnScreen :=
  ⟨by rw [same.xPos]; exact onScreen.x, by rw [same.yPos]; exact onScreen.y⟩

theorem Moves.then {before after : MouseState} (moves : before.Moves packet mouse) (same : mouse.SamePointer after) :
    before.Moves packet after :=
  ⟨by rw [same.xPos]; exact moves.x, by rw [same.yPos]; exact moves.y⟩

theorem Moves.onScreen {before after : MouseState} (moves : before.Moves packet after) (onScreen : before.OnScreen) :
    after.OnScreen :=
  ⟨moves.x.le (by decide) onScreen.x, moves.y.le (by decide) onScreen.y⟩

theorem press_pointer (mouse : MouseState) (lb : Bool) :
    (mouse.press lb).xPos = mouse.xPos ∧ (mouse.press lb).yPos = mouse.yPos ∧ (mouse.press lb).leftHold = lb := by
  simp only [press]
  cases lb with
  | false => exact ⟨rfl, rfl, rfl⟩
  | true =>
      cases mouse.leftHold with
      | false => exact ⟨rfl, rfl, rfl⟩
      | true => exact ⟨rfl, rfl, rfl⟩

theorem moves_update (mouse : MouseState) (packet : Packet) : mouse.Moves packet (mouse.update packet) := by
  obtain ⟨x, y, _⟩ := press_pointer (mouse.move packet) packet.lb
  refine ⟨?_, ?_⟩
  · rw [update, x]
    exact axisMoves_moveAxis (by decide) (by decide) packet.deltaX
  · rw [update, y]
    exact axisMoves_moveAxis (by decide) (by decide) (-packet.deltaY)

theorem onScreen_centred : centred.OnScreen := ⟨by decide, by decide⟩

end MouseState

namespace Game

variable {game : Game}

theorem pointer_clickButton (game : Game) (click : ButtonClick) (rand : Nat) :
    game.mouse.SamePointer (game.clickButton click rand).mouse := by
  by_cases real : click = .noButton
  · rw [clickButton, if_pos real]
    exact ⟨rfl, rfl, rfl⟩
  · rw [clickButton_verdict real]
    cases game.verdict click with
    | matched | wrong | tied | opened | extended => exact .refl _
    | appended =>
        dsimp only
        split
        · exact .refl _
        · exact .refl _

theorem pointer_handleClick (game : Game) (click : ButtonClick) (rand : Nat) :
    game.mouse.SamePointer (game.handleClick click rand).mouse := by
  obtain ⟨screen, lit⟩ := lightButton_screen (game.clickButton click rand) click
  rw [handleClick, lit]
  exact pointer_clickButton game click rand

theorem mouse_leave (game : Game) : game.leave.mouse = game.mouse := by
  obtain ⟨mode, left⟩ := leave_mode game
  rw [left]

theorem mouse_leaveIfEnded (game : Game) : game.leaveIfEnded.mouse = game.mouse := by
  simp only [leaveIfEnded]
  split
  · exact mouse_leave _
  · rfl

theorem mouse_gameUpdateStatusRtc (game : Game) (rand : Nat) : (game.gameUpdateStatusRtc rand).mouse = game.mouse := by
  rw [gameUpdateStatusRtc, mouse_leaveIfEnded]
  simp only [countDown]
  repeat' split
  all_goals rfl

theorem moves_gameUpdateStatusMouse (running : game.gameEnd = false) (packet : Packet) (rand : Nat) :
    game.mouse.Moves packet (game.gameUpdateStatusMouse packet rand).mouse := by
  rw [gameUpdateStatusMouse, if_neg (by simp [running])]
  exact (game.mouse.moves_update packet).then
    (pointer_handleClick { game with mouse := game.mouse.update packet } _ rand)

/-- Only packets move the cursor. -/
theorem pointer_handle {input : Input} (noPacket : ∀ packet rand, input ≠ .mouse packet rand) :
    game.mouse.SamePointer (game.handle input).mouse := by
  cases input with
  | click click rand =>
      rw [handle]
      split
      · exact .refl _
      · exact pointer_handleClick game click rand
  | mouse packet rand => exact absurd rfl (noPacket packet rand)
  | key key =>
      rw [handle, gameUpdateStatusKey]
      split
      · split
        · rw [mouse_leave]
          exact .refl _
        · exact .refl _
      · exact .refl _
  | timer => exact ⟨rfl, rfl, rfl⟩
  | rtc rand =>
      rw [handle, mouse_gameUpdateStatusRtc]
      exact .refl _

theorem onScreen_handle (onScreen : game.mouse.OnScreen) (input : Input) : (game.handle input).mouse.OnScreen := by
  cases input with
  | mouse packet rand =>
      by_cases ended : game.gameEnd = true
      · rw [handle, gameUpdateStatusMouse, if_pos ended]
        exact onScreen
      · exact (moves_gameUpdateStatusMouse (Bool.eq_false_iff.mpr ended) packet rand).onScreen onScreen
  | click | key | timer | rtc => exact (pointer_handle (by simp)).onScreen onScreen

end Game

namespace MpGame

variable {game : MpGame}

theorem pointer_mpClickButton (game : MpGame) (click : ButtonClick) :
    game.mpMouse.SamePointer (game.mpClickButton click).mpMouse := by
  by_cases real : click = .noButton
  · rw [mpClickButton, if_pos real]
    exact ⟨rfl, rfl, rfl⟩
  · rw [mpClickButton_verdict real]
    cases game.verdict click with
    | matched =>
        simp only [mpSendButton, sendOrQueue_eq]
        exact .refl _
    | wrong | tied =>
        simp only [scored_eq, mpGetWinner, mpSendWinner_eq, mpEndGame, sendOrQueue_eq]
        exact .refl _
    | opened | extended =>
        simp only [scored_eq, mpAddButton, mpSendButton, sendOrQueue_eq]
        exact .refl _
    | appended =>
        simp only [scored_eq, mpAddButton, mpSendButton, mpChangePlayer_eq, sendOrQueue_eq]
        exact .refl _

theorem mpMouse_mpRemoteClickButton (game : MpGame) (click : ButtonClick) :
    (game.mpRemoteClickButton click).mpMouse = game.mpMouse := by
  rw [mpRemoteClickButton_verdict]
  cases game.verdict click with
  | matched | wrong => rfl
  | tied => simp only [scored_eq, mpEndGame]
  | opened | extended | appended => simp only [scored_eq, mpAddButton]

theorem pointer_mpButtonsHandler (game : MpGame) (click : ButtonClick) :
    game.mpMouse.SamePointer (game.mpButtonsHandler click).mpMouse := by
  by_cases mine : game.isHost = game.isPlayer1
  · obtain ⟨screen, seconds, handled⟩ := mpButtonsHandler_mine mine click
    rw [handled]
    exact pointer_mpClickButton game click
  · obtain ⟨screen, seconds, handled⟩ := mpButtonsHandler_remote mine click
    rw [handled]
    dsimp only
    rw [mpMouse_mpRemoteClickButton]
    exact .refl _

theorem pointer_handleClick (game : MpGame) (click : ButtonClick) :
    game.mpMouse.SamePointer (game.handleClick click).mpMouse := by
  simp only [handleClick]
  split
  · exact pointer_mpButtonsHandler game click
  · exact .refl _

theorem moves_mpGameUpdateStatusMouse (started : game.gameStarted = true) (running : game.gameEnd = false)
    (packet : Packet) : game.mpMouse.Moves packet (game.mpGameUpdateStatusMouse packet).mpMouse := by
  rw [mpGameUpdateStatusMouse, if_neg (by simp [running]), if_pos started]
  exact (game.mpMouse.moves_update packet).then
    (pointer_handleClick { game with mpMouse := game.mpMouse.update packet } _)

theorem mpMouse_leave (game : MpGame) : game.leave.mpMouse = game.mpMouse := by
  obtain ⟨mode, left⟩ := leave_mode game
  rw [left]

theorem mpMouse_leaveIfEnded (game : MpGame) : game.leaveIfEnded.mpMouse = game.mpMouse := by
  simp only [leaveIfEnded]
  split
  · exact mpMouse_leave _
  · rfl

theorem mpMouse_mpGameUpdateStatusRtc (game : MpGame) : game.mpGameUpdateStatusRtc.mpMouse = game.mpMouse := by
  simp only [mpGameUpdateStatusRtc]
  repeat' split
  all_goals simp only [mpMouse_leaveIfEnded, mpGetWinner, mpSendWinner_eq, mpEndGame, mpChangePlayer_eq,
    sendOrQueue_eq]

theorem onScreen_handle (onScreen : game.mpMouse.OnScreen) (input : Input) : (game.handle input).mpMouse.OnScreen := by
  cases input with
  | click click =>
      rw [handle, localClick]
      split
      · exact onScreen
      · split
        · exact (pointer_handleClick game click).onScreen onScreen
        · exact onScreen
  | mouse packet =>
      by_cases ended : game.gameEnd = true
      · rw [handle, mpGameUpdateStatusMouse, if_pos ended]
        exact onScreen
      · by_cases started : game.gameStarted = true
        · exact (moves_mpGameUpdateStatusMouse started (Bool.eq_false_iff.mpr ended) packet).onScreen onScreen
        · rw [handle, mpGameUpdateStatusMouse, if_neg ended, if_neg started]
          exact onScreen
  | key key =>
      rw [handle, mpGameUpdateStatusKey]
      split
      · split
        · rwa [mpMouse_leave]
        · exact onScreen
      · exact onScreen
  | timer =>
      rw [handle, mpGameUpdateStatusTimer]
      dsimp only
      split
      · exact ⟨onScreen.x, onScreen.y⟩
      · exact ⟨onScreen.x, onScreen.y⟩
  | rtc => rwa [handle, mpMouse_mpGameUpdateStatusRtc]

theorem onScreen_startGame (onScreen : game.mpMouse.OnScreen) (data : UInt8) (emptyThr : Bool) :
    (game.startGame data emptyThr).mpMouse.OnScreen := by
  unfold startGame
  dsimp only
  repeat' split
  all_goals first | exact onScreen | exact MouseState.onScreen_centred

theorem onScreen_playGame (onScreen : game.mpMouse.OnScreen) (data : UInt8) :
    (game.playGame data).mpMouse.OnScreen := by
  simp only [playGame]
  split
  · exact (pointer_mpButtonsHandler game _).onScreen onScreen
  · repeat' split
    all_goals exact onScreen

theorem onScreen_mpGameUpdateStatusUart (onScreen : game.mpMouse.OnScreen) (data : UInt8) (type : IntOrigin) :
    (game.mpGameUpdateStatusUart data type).mpMouse.OnScreen := by
  simp only [mpGameUpdateStatusUart]
  cases type with
  | recData =>
      dsimp only
      split
      · exact onScreen_startGame onScreen data false
      · exact onScreen_playGame onScreen data
  | transEmpty =>
      dsimp only
      split
      · exact onScreen_startGame onScreen _ true
      · split
        · exact onScreen
        · exact onScreen
  | modStat | lineStat | charTimeout | reserved => exact onScreen

theorem onScreen_happen (onScreen : game.mpMouse.OnScreen) (event : PcEvent) :
    (game.happen event).mpMouse.OnScreen := by
  cases event with
  | input input => exact onScreen_handle onScreen input
  | uart data type => exact onScreen_mpGameUpdateStatusUart onScreen data type

end MpGame

/-- Whatever happens after the start of a game, the cursor is on the screen, and
a packet moves it as far as it says, up to the clamps. -/
theorem cursor_on_screen (game : Game) (rounds rand : Nat) (inputs : List Game.Input) (mpGame : MpGame)
    (mpRounds : Nat) (events : List MpGame.PcEvent) :
    let solo := run Game.handle (game.resetGame rounds rand) inputs
    let pc := run MpGame.happen (mpGame.mpResetGame mpRounds) events
    (solo.mouse.OnScreen ∧ ∀ packet rand, solo.gameEnd = false →
      solo.mouse.Moves packet (solo.gameUpdateStatusMouse packet rand).mouse) ∧
    (pc.mpMouse.OnScreen ∧ ∀ packet, pc.gameStarted = true → pc.gameEnd = false →
      pc.mpMouse.Moves packet (pc.mpGameUpdateStatusMouse packet).mpMouse) := by
  intro solo pc
  refine ⟨⟨?_, fun packet rand running => Game.moves_gameUpdateStatusMouse running packet rand⟩,
    ?_, fun packet started running => MpGame.moves_mpGameUpdateStatusMouse started running packet⟩
  · refine @run_invariant _ _ _ _ _ (fun _ _ => True) (fun game : Game => game.mouse.OnScreen) ?_
      MouseState.onScreen_centred along_true
    exact fun _ input onScreen _ => Game.onScreen_handle onScreen input
  · refine @run_invariant _ _ _ _ _ (fun _ _ => True) (fun game : MpGame => game.mpMouse.OnScreen) ?_
      MouseState.onScreen_centred along_true
    exact fun _ event onScreen _ => MpGame.onScreen_happen onScreen event

namespace MouseState

variable {mouse : MouseState}

/-- The six hit tests. -/
def hits (mouse : MouseState) : ButtonClick → Bool
  | .redB => mouse.getRedClick
  | .greenB => mouse.getGreenClick
  | .purpleB => mouse.getPurpleClick
  | .blueB => mouse.getBlueClick
  | .yellowB => mouse.getYellowClick
  | .vsB => mouse.getVsClick
  | .noButton => false

/-- The order in which `get_button_click` makes the tests. -/
def testOrder : List ButtonClick := [.redB, .greenB, .purpleB, .blueB, .yellowB, .vsB]

/-- `get_button_click` with the tests in another order. -/
def firstHit (mouse : MouseState) (order : List ButtonClick) : ButtonClick := (order.find? mouse.hits).getD .noButton

theorem getButtonClick_eq (mouse : MouseState) : mouse.getButtonClick = mouse.firstHit testOrder := by
  simp only [getButtonClick, firstHit, testOrder, List.find?_cons, List.find?_nil, hits]
  repeat' split
  all_goals simp_all

/-- Discs whose centres are more than two radii apart have no point in common:
the distance of the centres is at most the sum of the distances from a point. -/
theorem within_far {x y x' y' : Int} (far : 4 * (buttonWidth * buttonWidth) < (x - x') * (x - x') + (y - y') * (y - y'))
    (first : mouse.within x y = true) : mouse.within x' y' = false := by
  refine Bool.eq_false_iff.mpr fun second => ?_
  have near := of_decide_eq_true first
  have nearToo := of_decide_eq_true second
  nlinarith [mul_self_nonneg (2 * (mouse.xPos : Int) - x - x'), mul_self_nonneg (2 * (mouse.yPos : Int) - y - y')]

def centre : ButtonClick → Int × Int
  | .redB => (400, 92)
  | .greenB => (218, 218)
  | .purpleB => (293, 413)
  | .blueB => (507, 413)
  | .yellowB => (583, 225)
  | .vsB => (400, 260)
  | .noButton => (0, 0)

theorem hits_eq (mouse : MouseState) {button : ButtonClick} (real : button ≠ .noButton) :
    mouse.hits button = mouse.within (centre button).1 (centre button).2 := by
  cases button with
  | noButton => exact absurd rfl real
  | redB | greenB | purpleB | blueB | yellowB | vsB => rfl

theorem real_of_hits {button : ButtonClick} (hit : mouse.hits button = true) : button ≠ .noButton := by
  rintro rfl
  cases hit

/-- The red disc and the VS disc are the only ones that are not far apart. -/
theorem far_centres {button other : ButtonClick} (real : button ≠ .noButton) (realToo : other ≠ .noButton)
    (different : button ≠ other) (notRedVs : ¬ (button = .redB ∧ other = .vsB))
    (notVsRed : ¬ (button = .vsB ∧ other = .redB)) :
    4 * (buttonWidth * buttonWidth) <
      ((centre button).1 - (centre other).1) * ((centre button).1 - (centre other).1) +
      ((centre button).2 - (centre other).2) * ((centre button).2 - (centre other).2) := by
  cases button <;> cases other <;> first | decide | simp at real realToo different notRedVs notVsRed

/-- At most one test succeeds. -/
def Unambiguous (mouse : MouseState) : Prop :=
  ∀ button other, mouse.hits button = true → mouse.hits other = true → button = other

theorem unambiguous_of_apart (apart : ¬ (mouse.getRedClick = true ∧ mouse.getVsClick = true)) : mouse.Unambiguous := by
  intro button other hit hitToo
  refine Decidable.byContradiction fun different => ?_
  have real := real_of_hits hit
  have realToo := real_of_hits hitToo
  have far := far_centres real realToo different
    (by rintro ⟨rfl, rfl⟩; exact apart ⟨hit, hitToo⟩) (by rintro ⟨rfl, rfl⟩; exact apart ⟨hitToo, hit⟩)
  rw [hits_eq mouse real] at hit
  rw [hits_eq mouse realToo, within_far far hit] at hitToo
  cases hitToo

theorem firstHit_perm (unambiguous : mouse.Unambiguous) {order other : List ButtonClick} (perm : order.Perm other) :
    mouse.firstHit order = mouse.firstHit other := by
  simp only [firstHit]
  cases found : order.find? mouse.hits with
  | none =>
      have nowhere : other.find? mouse.hits = none :=
        List.find?_eq_none.mpr fun button member => List.find?_eq_none.mp found button (perm.mem_iff.mpr member)
      rw [nowhere]
  | some button =>
      have hit := List.find?_some found
      have member := perm.mem_iff.mp (List.mem_of_find?_eq_some found)
      cases foundToo : other.find? mouse.hits with
      | none => exact absurd hit (List.find?_eq_none.mp foundToo button member)
      | some second => rw [unambiguous button second hit (List.find?_some foundToo)]

/-- The tests exclude each other, and their order does not matter, precisely
outside the common part of the red and the VS disc. -/
theorem hits_unambiguous_iff (mouse : MouseState) :
    (mouse.Unambiguous ∧ ∀ order, order.Perm testOrder → mouse.firstHit order = mouse.getButtonClick) ↔
      ¬ (mouse.getRedClick = true ∧ mouse.getVsClick = true) := by
  constructor
  · rintro ⟨unambiguous, _⟩ ⟨red, vs⟩
    exact absurd (unambiguous .redB .vsB red vs) (by decide)
  · intro apart
    have unambiguous := unambiguous_of_apart apart
    refine ⟨unambiguous, fun order perm => ?_⟩
    rw [getButtonClick_eq]
    exact firstHit_perm unambiguous perm

end MouseState

/-- A packet that moves the cursor up by 124. -/
def upwards : Packet := { lb := true, xOv := false, yOv := false, deltaX := 0, deltaY := 124 }

/-- Between the red and the VS button a click is on both of them, in both games. -/
theorem red_and_vs_hit :
    let game := Data.run Game.handle ((Game.boot 0 fun _ => none).resetGame 3 1) [.mouse upwards 1]
    let pc := Data.run MpGame.handle (TwoPc.handshaken 3 .host) [.mouse upwards]
    (game.mouse.xPos = 400 ∧ game.mouse.yPos = 176) ∧ (pc.mpMouse.xPos = 400 ∧ pc.mpMouse.yPos = 176) ∧
    (game.mouse.getRedClick = true ∧ game.mouse.getVsClick = true) ∧
    (pc.mpMouse.getRedClick = true ∧ pc.mpMouse.getVsClick = true) ∧
    game.mouse.firstHit [.vsB, .redB, .greenB, .purpleB, .blueB, .yellowB] ≠ game.mouse.getButtonClick := by
  decide +kernel

end SimonVs
