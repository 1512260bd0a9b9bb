import SimonVs.Devices.Keyboard
import SimonVs.Loop.Dispatch

namespace SimonVs

open Data Devices Serial

/-! The interrupt loop `run` (`simon.c`). It is modelled for any
`event_handler`: `σ` is what the screens keep, and the handler tells whether the
program is to be left. -/

inductive RtcInt where
  | periodic
  | alarm
  | update
  | rtcNoInt
deriving DecidableEq, Repr

/-- `rtc_handler`, with the value of register C that it reads. -/
def rtcHandler (registerC : UInt8) : RtcInt :=
  if registerC &&& bit 5 != 0 then .alarm
  else if registerC &&& bit 4 != 0 then .update
  else if registerC &&& bit 6 != 0 then .periodic
  else .rtcNoInt

/-- A hardware notification: the interrupts it stands for and what the device
handlers find. -/
structure Notification where
  interrupts : UInt32
  kbc : KbcRead
  -- what `key.key` holds on the stack of `assemble_key_press`
  uninitialisedKey : Nat
  mousePacket : Option Packet
  registerC : UInt8
  -- what `uart_handler` returns, and the byte it reads if it reads one
  uartType : IntOrigin
  uartByte : UInt8
deriving DecidableEq, Repr

namespace Notification

def irq (line : Nat) : UInt32 := UInt32.ofNat (1 <<< line)

/-- `msg.m_notify.interrupts & BIT(line)` -/
def has (notification : Notification) (line : Nat) : Bool := notification.interrupts &&& irq line != 0

def hasKeyboard (notification : Notification) : Bool := notification.has 1
def hasMouse (notification : Notification) : Bool := notification.has 12
def hasTimer (notification : Notification) : Bool := notification.has 0
def hasRtc (notification : Notification) : Bool := notification.has 8
def hasUart (notification : Notification) : Bool := notification.has 4

end Notification

structure Loop (σ : Type) where
  flags : Flags
  keyboard : Keyboard
  exit : Bool
  screens : σ

namespace Loop

variable {σ : Type}

/-- The beginning of `run`: static variables are zero. -/
def start (screens : σ) : Loop σ where
  flags :=
    { gotKeyPress := false, keyboardPacket := { key := 0, down := false }
      gotMousePacket := false
      mousePacket := { lb := false, xOv := false, yOv := false, deltaX := 0, deltaY := 0 }
      timerInterrupt := false, rtcInterrupt := false
      uartInterrupt := false, uartTypeInterrupt := .modStat, dataPacket := 0 }
  keyboard := .boot
  exit := false
  screens

def takeKeyboard (loop : Loop σ) (notification : Notification) : Loop σ :=
  if notification.hasKeyboard then
    let (keyboard, key, got) := keyboardHandler loop.keyboard loop.flags.keyboardPacket notification.kbc
      notification.uninitialisedKey
    { loop with keyboard, flags := { loop.flags with gotKeyPress := got, keyboardPacket := key } }
  else
    { loop with
      flags := { loop.flags with
        gotKeyPress := false, keyboardPacket := { loop.flags.keyboardPacket with key := 0 } } }

def takeMouse (loop : Loop σ) (notification : Notification) : Loop σ :=
  { loop with
    flags :=
      if notification.hasMouse then
        match notification.mousePacket with
        | some packet => { loop.flags with gotMousePacket := true, mousePacket := packet }
        | none => { loop.flags with gotMousePacket := false }
      else { loop.flags with gotMousePacket := false } }

def takeTimer (loop : Loop σ) (notification : Notification) : Loop σ :=
  { loop with flags := { loop.flags with timerInterrupt := notification.hasTimer } }

/-- The only flag without an `else` for an interrupt that is not the one looked
for. -/
def takeRtc (loop : Loop σ) (notification : Notification) : Loop σ :=
  if notification.hasRtc then
    if rtcHandler notification.registerC = .alarm then
      { loop with flags := { loop.flags with rtcInterrupt := true } }
    else loop
  else { loop with flags := { loop.flags with rtcInterrupt := false } }

def takeUart (loop : Loop σ) (notification : Notification) : Loop σ :=
  { loop with
    flags :=
      if notification.hasUart then
        { loop.flags with
          uartInterrupt := true, uartTypeInterrupt := notification.uartType
          dataPacket := if notification.uartType = .recData then notification.uartByte
            else loop.flags.dataPacket }
      else { loop.flags with uartInterrupt := false } }

/-- The state in which `event_handler` is called for a notification. -/
def take (loop : Loop σ) (notification : Notification) : Loop σ :=
  ((((loop.takeKeyboard notification).takeMouse notification).takeTimer notification).takeRtc
    notification).takeUart notification

variable (eventHandler : σ → Flags → σ × Bool)

def step (loop : Loop σ) (notification : Notification) : Loop σ :=
  let loop := loop.take notification
  let (screens, exit) := eventHandler loop.screens loop.flags
  { loop with screens, exit }

def Leaves (loop : Loop σ) : Bool := loop.keyboard.scancodeIsEscBreak || loop.exit

/-- The notifications that the loop receives before it is left. -/
def received (loop : Loop σ) : List Notification → List Notification
  | [] => []
  | notification :: rest =>
      notification :: if (loop.step eventHandler notification).Leaves then []
        else received (loop.step eventHandler notification) rest

def run (loop : Loop σ) (notifications : List Notification) : Loop σ :=
  Data.run (step eventHandler) loop (loop.received eventHandler notifications)

/-- The flags at each call of `event_handler`, for notifications that are all
received. -/
def callsFor (loop : Loop σ) : List Notification → List (Notification × Flags)
  | [] => []
  | notification :: rest =>
      (notification, (loop.take notification).flags) :: callsFor (loop.step eventHandler notification) rest

/-- The calls of `event_handler` that `run` makes. -/
def calls (loop : Loop σ) (notifications : List Notification) : List (Notification × Flags) :=
  loop.callsFor eventHandler (loop.received eventHandler notifications)

end Loop

end SimonVs
