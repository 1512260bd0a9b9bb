import SimonVs.Devices.Keyboard

namespace SimonVs.Devices

/-! The mouse half of the KBC (`mouse.c`). -/

def kbdStatRegAux : UInt8 := bit 5

/-- The bits of the first byte of a packet. -/
def packetYOvfl : UInt8 := bit 7
def packetXOvfl : UInt8 := bit 6
def packetYMsb : UInt8 := bit 5
def packetXMsb : UInt8 := bit 4
def packetMb : UInt8 := bit 2
def packetRb : UInt8 := bit 1
def packetLb : UInt8 := bit 0

/-- `uint8_t bytes[MOUSE_PACKET_SIZE]` -/
abbrev PacketBytes := Vector UInt8 3

/-- `struct packet` -/
structure MousePacket where
  bytes : PacketBytes
  rb : Bool
  mb : Bool
  lb : Bool
  deltaX : Int
  deltaY : Int
  xOv : Bool
  yOv : Bool
deriving DecidableEq, Repr

/-- The globals of `mouse.c` and the static variables of `mouse_handler`. -/
structure Mouse where
  kbcIhErr : Bool
  kbcIhObf : Bool
  kbcIhAux : Bool
  kbcIhOutput : UInt8
  bytes : PacketBytes
  byteCount : Nat
deriving DecidableEq, Repr

namespace Mouse

def boot : Mouse :=
  { kbcIhErr := false, kbcIhObf := false, kbcIhAux := false, kbcIhOutput := 0
    bytes := #v[0, 0, 0], byteCount := 0 }

def mouseGetState (mouse : Mouse) (read : KbcRead) : Mouse :=
  let obf := read.statReg &&& kbcStatRegObf != 0
  { mouse with
    kbcIhErr := read.statReg &&& (kbcStatRegPar ||| kbcStatRegTimeout) != 0
    kbcIhObf := obf
    kbcIhAux := read.statReg &&& kbdStatRegAux != 0
    kbcIhOutput := if obf then read.outBuf else 0 }

end Mouse

/-- The 9-bit two's complement number of a byte and its sign bit. -/
def cpl2_9To16 (value : UInt8) (signBit : Bool) : Int :=
  if signBit then -(1 <<< 8) + value.toNat else value.toNat

def assemblyPacket (bytes : PacketBytes) : MousePacket where
  bytes
  rb := bytes[0] &&& packetRb != 0
  mb := bytes[0] &&& packetMb != 0
  lb := bytes[0] &&& packetLb != 0
  deltaX := cpl2_9To16 bytes[1] (bytes[0] &&& packetXMsb != 0)
  deltaY := cpl2_9To16 bytes[2] (bytes[0] &&& packetYMsb != 0)
  xOv := bytes[0] &&& packetXOvfl != 0
  yOv := bytes[0] &&& packetYOvfl != 0

def mouseIsSynched (bytes : PacketBytes) (size : Nat) : Bool :=
  if size = 1 then bytes[0] &&& bit 3 != 0 else true

/-- `mouse_handler`: the packet is written, and "true" returned, only when it is
complete. -/
def mouseHandler (mouse : Mouse) (read : KbcRead) : Mouse × Option MousePacket :=
  let mouse := mouse.mouseGetState read
  if mouse.kbcIhErr ∨ !mouse.kbcIhObf ∨ !mouse.kbcIhAux then ({ mouse with byteCount := 0 }, none)
  else
    let mouse := { mouse with bytes := mouse.bytes.setIfInBounds mouse.byteCount mouse.kbcIhOutput }
    if !mouseIsSynched mouse.bytes mouse.byteCount then ({ mouse with byteCount := 0 }, none)
    else
      let mouse := { mouse with byteCount := mouse.byteCount + 1 }
      if mouse.byteCount < 3 then (mouse, none)
      else ({ mouse with byteCount := 0 }, some (assemblyPacket mouse.bytes))

structure KbcRead.GoodMouse (read : KbcRead) : Prop where
  good : read.Good
  aux : read.statReg &&& kbdStatRegAux ≠ 0

instance (read : KbcRead) : Decidable read.GoodMouse :=
  decidable_of_iff (read.Good ∧ read.statReg &&& kbdStatRegAux ≠ 0)
    ⟨fun good => ⟨good.1, good.2⟩, fun good => ⟨good.good, good.aux⟩⟩

/-- What `mouse_handler` does with a byte that has no error. -/
def Mouse.takeByte (mouse : Mouse) (byte : UInt8) : Mouse × Option MousePacket :=
  let bytes := mouse.bytes.setIfInBounds mouse.byteCount byte
  let taken : Mouse :=
    { kbcIhErr := false, kbcIhObf := true, kbcIhAux := true, kbcIhOutput := byte, bytes, byteCount := 0 }
  if mouse.byteCount = 1 ∧ bytes[0] &&& bit 3 = 0 then (taken, none)
  else if mouse.byteCount < 2 then ({ taken with byteCount := mouse.byteCount + 1 }, none)
  else (taken, some (assemblyPacket bytes))

variable {mouse : Mouse} {read : KbcRead}

theorem mouseHandler_good (good : read.GoodMouse) : mouseHandler mouse read = mouse.takeByte read.outBuf := by
  obtain ⟨⟨noError, full⟩, aux⟩ := good
  have state : mouse.mouseGetState read =
      { mouse with kbcIhErr := false, kbcIhObf := true, kbcIhAux := true, kbcIhOutput := read.outBuf } := by
    simp [Mouse.mouseGetState, noError, full, aux]
  unfold mouseHandler Mouse.takeByte
  rw [state]
  simp only [Bool.false_eq_true, Bool.not_true, or_self, if_false]
  by_cases second : mouse.byteCount = 1
  · simp [mouseIsSynched, second]
  · have next : mouse.byteCount + 1 < 3 ↔ mouse.byteCount < 2 := by omega
    simp only [mouseIsSynched, second, if_false, false_and, Bool.not_true, Bool.false_eq_true, next]

theorem mouseHandler_bad (bad : ¬ read.GoodMouse) :
    (mouseHandler mouse read).2 = none ∧ (mouseHandler mouse read).1.byteCount = 0 := by
  have refused : (mouse.mouseGetState read).kbcIhErr = true ∨ (!(mouse.mouseGetState read).kbcIhObf) = true ∨
      (!(mouse.mouseGetState read).kbcIhAux) = true := by
    refine Decidable.byContradiction fun accepted => ?_
    simp only [Mouse.mouseGetState, not_or, Bool.not_eq_true, Bool.not_eq_false', bne_iff_ne, ne_eq,
      Decidable.not_not] at accepted
    exact bad ⟨⟨accepted.1, accepted.2.1⟩, accepted.2.2⟩
  unfold mouseHandler
  rw [if_pos refused]
  exact ⟨rfl, rfl⟩

end SimonVs.Devices
