namespace SimonVs.Serial

/-- `get_int_origin`: the values of the IIR that `uart.h` names. -/
inductive IntOrigin where
  | modStat
  | transEmpty
  | recData
  | lineStat
  | charTimeout
  | reserved
deriving DecidableEq, Repr

/-- What is in the THR, on the line to the other PC and ever written, oldest byte first,
and whether an `IIR_TRANS_EMPTY` interrupt waits. An `instant` transmitter shifts a
byte out as soon as it is written. -/
structure Uart where
  instant : Bool
  thr : Option UInt8
  line : List UInt8
  written : List UInt8
  transEmpty : Bool
deriving DecidableEq, Repr

def Uart.idle (instant : Bool) : Uart :=
  { instant, thr := none, line := [], written := [], transEmpty := false }

def Uart.checkThrEmtpy (uart : Uart) : Bool := uart.thr.isNone

/-- `sys_outb(COM1 + SER_DATA, byte)` with the divisor latch closed. -/
def Uart.outb (uart : Uart) (byte : UInt8) : Uart :=
  if uart.instant then
    { uart with line := uart.line ++ [byte], written := uart.written ++ [byte], transEmpty := true }
  else
    { uart with thr := some byte, written := uart.written ++ [byte] }

/-- `serial_write_byte`: a busy THR makes the byte disappear. No caller looks
at the returned flag. -/
def Uart.serialWriteByte (uart : Uart) (byte : UInt8) : Uart :=
  if uart.checkThrEmtpy then uart.outb byte else uart

/-- The hardware moves the byte of the THR onto the line and raises the
transmitter-empty interrupt. -/
def Uart.shiftOut (uart : Uart) : Uart :=
  match uart.thr with
  | none => uart
  | some byte => { uart with thr := none, line := uart.line ++ [byte], transEmpty := true }

/-- Bytes on their way to the other PC, oldest first. -/
def Uart.inFlight (uart : Uart) : List UInt8 := uart.line ++ uart.thr.toList

/-- Nothing is on its way and no interrupt of the transmitter is pending. -/
def Uart.Quiet (uart : Uart) : Prop :=
  uart.thr = none ∧ uart.line = [] ∧ uart.transEmpty = false

instance (uart : Uart) : Decidable uart.Quiet := inferInstanceAs (Decidable (_ ∧ _ ∧ _))

variable {uart : Uart} {byte : UInt8}

theorem Uart.inFlight_serialWriteByte (empty : uart.thr = none) :
    (uart.serialWriteByte byte).inFlight = uart.inFlight ++ [byte] := by
  cases mode : uart.instant <;>
    simp [Uart.serialWriteByte, Uart.checkThrEmtpy, Uart.outb, Uart.inFlight, empty, mode]

theorem Uart.written_serialWriteByte_cases :
    (uart.serialWriteByte byte).written = uart.written ∨
    (uart.serialWriteByte byte).written = uart.written ++ [byte] := by
  unfold Uart.serialWriteByte Uart.outb
  split
  · right
    split
    · rfl
    · rfl
  · exact .inl rfl

@[simp] theorem Uart.inFlight_shiftOut : uart.shiftOut.inFlight = uart.inFlight := by
  cases held : uart.thr <;> simp [Uart.shiftOut, Uart.inFlight, held]

@[simp] theorem Uart.written_shiftOut : uart.shiftOut.written = uart.written := by
  cases held : uart.thr <;> simp [Uart.shiftOut, held]

end SimonVs.Serial
