import SimonVs.Data.Run
import SimonVs.Game
import SimonVs.TwoPc

namespace SimonVs

open Data Serial

/-! `event_handler` (`simon.c`). One call looks at the mode once and then hands
everything the notification brought to the handlers of that screen. -/

/-- The globals of `simon.c` that `run` fills in and `event_handler` reads. -/
structure Flags where
  gotKeyPress : Bool
  keyboardPacket : KeyPress
  gotMousePacket : Bool
  mousePacket : Packet
  timerInterrupt : Bool
  rtcInterrupt : Bool
  uartInterrupt : Bool
  uartTypeInterrupt : IntOrigin
  dataPacket : UInt8
deriving DecidableEq, Repr

/-- A call of `event_handler`, with the numbers that `rand()` returns if the
mouse or the RTC handler draws one. -/
structure Call where
  flags : Flags
  clickRand : Nat
  tickRand : Nat
deriving DecidableEq, Repr

/-- A mouse packet or an alarm and nothing else. -/
def Call.ofMouse (packet : Option Packet) (alarm : Bool) : Call :=
  { flags :=
      { gotKeyPress := false, keyboardPacket := { key := 0, down := false }
        gotMousePacket := packet.isSome
        mousePacket := packet.getD { lb := false, xOv := false, yOv := false, deltaX := 0, deltaY := 0 }
        timerInterrupt := false, rtcInterrupt := alarm
        uartInterrupt := false, uartTypeInterrupt := .reserved, dataPacket := 0 }
    clickRand := 1, tickRand := 1 }

namespace Game

/-- The `GAME` case of `event_handler`. -/
def eventHandler (game : Game) (call : Call) : Game :=
  if game.mode = .game then
    let game := if call.flags.gotKeyPress then game.gameUpdateStatusKey call.flags.keyboardPacket else game
    let game := if call.flags.gotMousePacket then
      game.gameUpdateStatusMouse call.flags.mousePacket call.clickRand else game
    let game := if call.flags.timerInterrupt then game.gameUpdateStatusTimer else game
    if call.flags.rtcInterrupt then game.gameUpdateStatusRtc call.tickRand else game
  else game

/-- `number_of_rounds_update_status` once the number of rounds is confirmed. -/
def confirm (game : Game) (numRounds rand : Nat) : Game :=
  resetGame { game with mode := .game } numRounds rand

/-- The events of a call up to the RTC, in the order of `event_handler`. -/
def localInputs (call : Call) : List Input :=
  (if call.flags.gotKeyPress then [.key call.flags.keyboardPacket] else []) ++
  (if call.flags.gotMousePacket then [.mouse call.flags.mousePacket call.clickRand] else []) ++
  (if call.flags.timerInterrupt then [.timer] else [])

def inputs (call : Call) : List Input :=
  localInputs call ++ (if call.flags.rtcInterrupt then [.rtc call.tickRand] else [])

theorem eventHandler_eq (game : Game) (call : Call) :
    game.eventHandler call = if game.mode = .game then Data.run handle game (inputs call) else game := by
  simp only [inputs, localInputs, run_append, run_when]
  rfl

end Game

namespace MpGame

variable {game : MpGame}

/-- The `MP_GAME` case of `event_handler` for everything that a notification
brings. -/
def eventHandlerCall (game : MpGame) (flags : Flags) : MpGame :=
  if game.mode = .mpGame then
    let game := if flags.gotKeyPress then game.mpGameUpdateStatusKey flags.keyboardPacket else game
    let game := if flags.gotMousePacket then game.mpGameUpdateStatusMouse flags.mousePacket else game
    let game := if flags.timerInterrupt then game.mpGameUpdateStatusTimer else game
    let game := if flags.rtcInterrupt then game.mpGameUpdateStatusRtc else game
    if flags.uartInterrupt then game.mpGameUpdateStatusUart flags.dataPacket flags.uartTypeInterrupt else game
  else game

/-- The local events of a notification. -/
def inputs (flags : Flags) : List Input :=
  (if flags.gotKeyPress then [.key flags.keyboardPacket] else []) ++
  (if flags.gotMousePacket then [.mouse flags.mousePacket] else []) ++
  (if flags.timerInterrupt then [.timer] else []) ++
  (if flags.rtcInterrupt then [.rtc] else [])

theorem eventHandlerCall_eq (playing : game.mode = .mpGame) (flags : Flags) :
    game.eventHandlerCall flags =
      if flags.uartInterrupt then
        (Data.run handle game (inputs flags)).mpGameUpdateStatusUart flags.dataPacket flags.uartTypeInterrupt
      else Data.run handle game (inputs flags) := by
  simp only [inputs, run_append, run_when]
  rw [eventHandlerCall, if_pos playing]
  rfl

end MpGame

end SimonVs
