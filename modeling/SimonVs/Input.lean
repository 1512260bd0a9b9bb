import SimonVs.Consts

namespace SimonVs

/-! Mouse packets, key presses and the part of the mouse handling that
`game.c` and `mp_game.c` share word for word: each file applies it to its own
`struct mouse_state`. -/

/-- `struct packet`, the fields the games read. -/
structure Packet where
  lb : Bool
  xOv : Bool
  yOv : Bool
  deltaX : Int
  deltaY : Int
deriving DecidableEq, Repr

structure KeyPress where
  key : Nat
  down : Bool
deriving DecidableEq, Repr

structure MouseState where
  xPos : Nat
  yPos : Nat
  leftHold : Bool
  leftClick : Bool
deriving DecidableEq, Repr

def modeWidth : Int := 800
def modeHeight : Int := 600

def mouseWidth : Int := 42
def mouseHeight : Int := 44
def buttonWidth : Int := 89

def toUInt16 (value : Int) : Nat := (value % 65536).toNat

/-- The two clamps and the move of one axis. -/
def moveAxis (position delta limit : Int) : Nat :=
  if position < -delta then 1
  else if position + delta ≥ limit then toUInt16 limit
  else toUInt16 (position + delta)

def MouseState.move (mouse : MouseState) (packet : Packet) : MouseState :=
  { mouse with
    xPos := if packet.xOv then mouse.xPos
      else moveAxis mouse.xPos packet.deltaX (modeWidth - mouseWidth)
    yPos := if packet.yOv then mouse.yPos
      else moveAxis mouse.yPos (-packet.deltaY) (modeHeight - mouseHeight) }

def MouseState.press (mouse : MouseState) (lb : Bool) : MouseState :=
  if lb then
    if mouse.leftHold then { mouse with leftClick := false }
    else { mouse with leftClick := true, leftHold := true }
  else
    { mouse with leftHold := false, leftClick := false }

def MouseState.update (mouse : MouseState) (packet : Packet) : MouseState :=
  (mouse.move packet).press packet.lb

/-- The hit test of a button with its centre at `x`, `y`. -/
def MouseState.within (mouse : MouseState) (x y : Int) : Bool :=
  decide ((mouse.xPos - x) * (mouse.xPos - x) + (mouse.yPos - y) * (mouse.yPos - y)
    ≤ buttonWidth * buttonWidth)

def MouseState.getRedClick (mouse : MouseState) : Bool := mouse.within 400 92
def MouseState.getGreenClick (mouse : MouseState) : Bool := mouse.within 218 218
def MouseState.getPurpleClick (mouse : MouseState) : Bool := mouse.within 293 413
def MouseState.getBlueClick (mouse : MouseState) : Bool := mouse.within 507 413
def MouseState.getYellowClick (mouse : MouseState) : Bool := mouse.within 583 225
def MouseState.getVsClick (mouse : MouseState) : Bool := mouse.within 400 260

/-- `get_button_click`, `mp_get_button_click` -/
def MouseState.getButtonClick (mouse : MouseState) : ButtonClick :=
  if mouse.getRedClick then .redB
  else if mouse.getGreenClick then .greenB
  else if mouse.getPurpleClick then .purpleB
  else if mouse.getBlueClick then .blueB
  else if mouse.getYellowClick then .yellowB
  else if mouse.getVsClick then .vsB
  else .noButton

/-- The local variable `click` of the two mouse handlers. -/
def MouseState.click (mouse : MouseState) : ButtonClick :=
  if mouse.leftClick then mouse.getButtonClick else .noButton

/-- The mouse of `reset_game` and `mp_reset_game`. -/
def MouseState.centred : MouseState :=
  { xPos := toUInt16 (modeWidth / 2), yPos := toUInt16 (modeHeight / 2), leftHold := false, leftClick := false }

/-- What the RTC is programmed to do: an alarm every second
(`set_seconds_alarm`) or one alarm after some seconds (`set_timed_alarm`). -/
inductive Alarm where
  | everySecond
  | timed (seconds : Nat)
deriving DecidableEq, Repr

end SimonVs
