import Mathlib.Data.List.Induction
import SimonVs.Rules.Simon
import SimonVs.Screens.Cursor

namespace SimonVs

open Data

namespace MouseState

theorem getButtonClick_ne_iff (mouse : MouseState) :
    mouse.getButtonClick ≠ .noButton ↔ ∃ button, mouse.hits button = true := by
  rw [getButtonClick_eq, firstHit]
  constructor
  · intro real
    cases found : testOrder.find? mouse.hits with
    | none =>
        rw [found] at real
        exact absurd rfl real
    | some button => exact ⟨button, List.find?_some found⟩
  · rintro ⟨button, hit⟩
    have tested : button ∈ testOrder := by
      have real := real_of_hits hit
      cases button with
      | noButton => exact absurd rfl real
      | redB | greenB | purpleB | blueB | yellowB | vsB => simp [testOrder]
    cases found : testOrder.find? mouse.hits with
    | none => exact absurd hit (List.find?_eq_none.mp found button tested)
    | some first => exact real_of_hits (List.find?_some found)

theorem hits_press (mouse : MouseState) (lb : Bool) : (mouse.press lb).hits = mouse.hits := by
  obtain ⟨x, y, _⟩ := press_pointer mouse lb
  funext button
  cases button with
  | noButton => rfl
  | redB | greenB | purpleB | blueB | yellowB | vsB =>
      rw [hits_eq _ (by decide), hits_eq _ (by decide), within, within, x, y]

theorem leftClick_press (mouse : MouseState) (lb : Bool) :
    (mouse.press lb).leftClick = true ↔ lb = true ∧ mouse.leftHold = false := by
  unfold press
  cases lb <;> cases mouse.leftHold <;> simp

theorem click_update_iff (mouse : MouseState) (packet : Packet) :
    (mouse.update packet).click ≠ .noButton ↔
      packet.lb = true ∧ mouse.leftHold = false ∧ ∃ button, (mouse.move packet).hits button = true := by
  have clicks := leftClick_press (mouse.move packet) packet.lb
  have held : (mouse.move packet).leftHold = mouse.leftHold := rfl
  rw [held] at clicks
  rw [update, click, ← hits_press (mouse.move packet) packet.lb, ← and_assoc, ← clicks]
  split
  · rename_i pressed
    rw [getButtonClick_ne_iff]
    exact (and_iff_right pressed).symm
  · rename_i released
    exact iff_of_false (fun real => real rfl) fun all => released all.1

end MouseState

namespace Game

variable {game : Game}

/-- What reaches the one-PC game from outside. -/
inductive Arrival where
  | packet (packet : Packet) (rand : Nat)
  | tick
  | key (key : KeyPress)
  | alarm (rand : Nat)
deriving DecidableEq, Repr

def Arrival.input : Arrival → Input
  | .packet moved rand => .mouse moved rand
  | .tick => .timer
  | .key pressed => .key pressed
  | .alarm rand => .rtc rand

def arrive (game : Game) (arrival : Arrival) : Game := game.handle arrival.input

def Arrival.packet? : Arrival → Option Packet
  | .packet moved _ => some moved
  | _ => none

def packets (arrivals : List Arrival) : List Packet := arrivals.filterMap Arrival.packet?

theorem ended_countDown (ended : game.gameEnd = true) (rand : Nat) : (game.countDown rand).gameEnd = true := by
  unfold countDown
  repeat' split
  all_goals first | rfl | exact ended

theorem ended_leave (ended : game.gameEnd = true) : game.leave.gameEnd = true := by
  obtain ⟨mode, left⟩ := leave_mode game
  rwa [left]

theorem ended_arrive (ended : game.gameEnd = true) (arrival : Arrival) : (game.arrive arrival).gameEnd = true := by
  cases arrival with
  | packet packet rand =>
      change (game.gameUpdateStatusMouse packet rand).gameEnd = true
      rwa [gameUpdateStatusMouse, if_pos ended]
  | tick => exact ended
  | key key =>
      change (game.gameUpdateStatusKey key).gameEnd = true
      rw [gameUpdateStatusKey, if_pos ended]
      split
      · exact ended_leave ended
      · exact ended
  | alarm rand =>
      change (game.gameUpdateStatusRtc rand).gameEnd = true
      have counted := ended_countDown ended rand
      rw [gameUpdateStatusRtc, leaveIfEnded, if_pos counted]
      exact ended_leave counted

/-- The button of the last packet, if the game has seen one. -/
def lastButton (arrivals : List Arrival) : Bool := ((packets arrivals).getLast?.map Packet.lb).getD false

theorem lastButton_concat (before : List Arrival) (arrival : Arrival) :
    lastButton (before ++ [arrival]) =
      match arrival.packet? with
      | some packet => packet.lb
      | none => lastButton before := by
  unfold lastButton packets
  rw [List.filterMap_append]
  cases found : arrival.packet? with
  | none => simp [found]
  | some packet => simp [found]

theorem leftHold_arrive (running : game.gameEnd = false) {before : List Arrival}
    (held : game.mouse.leftHold = lastButton before) (arrival : Arrival) :
    (game.arrive arrival).mouse.leftHold = lastButton (before ++ [arrival]) := by
  rw [lastButton_concat]
  cases arrival with
  | packet packet rand =>
      dsimp only [arrive, Arrival.input, Arrival.packet?, handle]
      rw [gameUpdateStatusMouse, if_neg (by simp [running])]
      dsimp only
      rw [(pointer_handleClick { game with mouse := game.mouse.update packet } _ rand).leftHold]
      exact (MouseState.press_pointer _ _).2.2
  | tick | key | alarm =>
      dsimp only [Arrival.packet?, arrive, Arrival.input]
      rw [← held]
      exact (pointer_handle (by simp)).leftHold

theorem leftHold_run (game : Game) (rounds rand : Nat) (before : List Arrival)
    (running : (run arrive (game.resetGame rounds rand) before).gameEnd = false) :
    (run arrive (game.resetGame rounds rand) before).mouse.leftHold = lastButton before := by
  induction before using List.reverseRecOn with
  | nil => rfl
  | append_singleton before arrival ih =>
      rw [run_append] at running ⊢
      have alive : (run arrive (game.resetGame rounds rand) before).gameEnd = false := by
        refine Bool.eq_false_iff.mpr fun ended => ?_
        have after := ended_arrive ended arrival
        exact Bool.false_ne_true (running.symm.trans after)
      exact leftHold_arrive alive (ih alive) arrival

/-- A press on the red button that is held during a timer tick, and one more
packet. -/
def heldPress : List Arrival :=
  [.packet { lb := true, xOv := false, yOv := false, deltaX := 0, deltaY := 208 } 1, .tick]

end Game

end SimonVs
