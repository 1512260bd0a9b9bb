import Mathlib.Logic.Relation
import SimonVs.Data.BitFields
import SimonVs.Data.Ports
import SimonVs.Devices.Keyboard
import SimonVs.Serial.Uart

namespace SimonVs.Serial

open Data PortIo Devices Relation

/-! The registers of the first serial port and the functions of `uart.c` over
them. The transmitter and the line move on by themselves between two accesses. -/

def com1 : Nat := 0x3f8
def serData : Nat := 0
def ier : Nat := 1
def iir : Nat := 2
def lcr : Nat := 3
def lsr : Nat := 5

def lcrDlab : UInt8 := bit 7

def lsrRecData : UInt8 := bit 0
def lsrThr : UInt8 := bit 5
def lsrFifoError : UInt8 := bit 7

def ierDataInt : UInt8 := bit 0
def ierTransEmptyInt : UInt8 := bit 1

/-- The values of `IIR_MOD_STAT` to `IIR_CHAR_TIMEOUT`. -/
def intOrigin (value : UInt8) : IntOrigin :=
  if value = 0 then .modStat
  else if value = 1 then .transEmpty
  else if value = 2 then .recData
  else if value = 3 then .lineStat
  else if value = 4 then .charTimeout
  else .reserved

namespace Com1

/-- `!value` of C. -/
def logicalNot (value : UInt8) : UInt8 := if value = 0 then 1 else 0

def checkThrEmtpy : PortIo Bool := do
  let byte ← sysInb (com1 + lsr)
  return byte &&& lsrThr != 0

/-- 0 if there is something to read, 1 for an error, 2 if there is nothing. -/
def checkBuffer : PortIo Nat := do
  let byte ← sysInb (com1 + lsr)
  let error := byte &&& lsrFifoError != 0
  let empty := byte &&& lsrRecData == 0
  return if error then 1 else if empty then 2 else 0

def checkDataDlab : PortIo Bool := do
  let byte ← sysInb (com1 + lcr)
  return byte &&& logicalNot lcrDlab != 0

def setDataDlab : PortIo Unit := do
  let byte ← sysInb (com1 + lcr)
  sysOutb (com1 + lcr) (byte &&& ~~~lcrDlab)

def serialWriteByte (byte : UInt8) : PortIo Bool := do
  let closed ← checkDataDlab
  if !closed then setDataDlab
  let empty ← checkThrEmtpy
  if empty then
    sysOutb (com1 + serData) byte
    return true
  else
    return false

/-- The loop of `serial_write_message`, which goes on after a failure. -/
def writeBytes : Bool → List UInt8 → PortIo Bool
  | success, [] => pure success
  | success, byte :: rest => do
      let sent ← serialWriteByte byte
      writeBytes (success && sent) rest

def serialWriteMessage (bytes : List UInt8) : PortIo Bool := writeBytes true bytes

def seriaWriteAck : PortIo Bool := serialWriteByte 0

def serialReadByte : PortIo (UInt8 × Bool) := do
  let byte ← sysInb (com1 + serData)
  let empty ← checkThrEmtpy
  return (byte, empty)

/-- `ier = change(ier)`, which the next four do. -/
def changeIer (change : UInt8 → UInt8) : PortIo Unit := do
  let byte ← sysInb (com1 + ier)
  sysOutb (com1 + ier) (change byte)

def enableReceivedDataInt : PortIo Unit := changeIer (· ||| ierDataInt)

-- `~!` where `~` is meant
def disableReceivedDataInt : PortIo Unit := changeIer (· &&& ~~~logicalNot ierDataInt)

def enableTransEmptyInt : PortIo Unit := changeIer (· ||| ierTransEmptyInt)

def disableTransEmptyInt : PortIo Unit := changeIer (· &&& ~~~logicalNot ierTransEmptyInt)

def getIntOrigin : PortIo UInt8 := do
  let byte ← sysInb (com1 + iir)
  return (byte >>> 1) &&& 0x7

/-- The origin of the interrupt, and the received byte if that is it. -/
def uartHandler : PortIo (UInt8 × Option UInt8) := do
  let orig ← getIntOrigin
  if intOrigin orig = .recData then
    let read ← serialReadByte
    return (orig, some read.1)
  else
    return (orig, none)

end Com1

structure Com1 where
  uart : Uart
  /-- received bytes that wait to be read, oldest first -/
  received : List UInt8
  /-- bytes that the other PC has taken from the line, oldest first -/
  taken : List UInt8
  ier : UInt8
  lcr : UInt8
  /-- the divisor latch, low byte first -/
  divisor : UInt8 × UInt8
deriving DecidableEq, Repr

namespace Com1

def dlab (port : Com1) : Bool := port.lcr &&& lcrDlab != 0

/-- What the bits of the line status that the code looks at say. The others are
chosen. -/
def lineStatus (port : Com1) (choice : UInt8) : UInt8 :=
  (choice &&& ~~~(lsrThr ||| lsrRecData)) ||| (if port.uart.checkThrEmtpy then lsrThr else 0) |||
    (if port.received.isEmpty then 0 else lsrRecData)

/-- The first two addresses are those of the divisor latch while it is open. -/
def bus : Bus Com1 UInt8 where
  out port address value :=
    if address = com1 + serData then
      if port.dlab then { port with divisor := (value, port.divisor.2) }
      else { port with uart := port.uart.outb value }
    else if address = com1 + Serial.ier then
      if port.dlab then { port with divisor := (port.divisor.1, value) } else { port with ier := value }
    else if address = com1 + Serial.lcr then { port with lcr := value }
    else port
  inp port address choice :=
    if address = com1 + serData then
      if port.dlab then (port.divisor.1, port)
      else
        match port.received with
        | [] => (choice, port)
        | byte :: rest => (byte, { port with received := rest })
    else if address = com1 + Serial.ier then (if port.dlab then port.divisor.2 else port.ier, port)
    else if address = com1 + Serial.lcr then (port.lcr, port)
    else if address = com1 + lsr then (port.lineStatus choice, port)
    else (choice, port)

/-- What happens by itself: a byte leaves the holding register, the other PC takes
one from the line, or one is received. -/
inductive Moves (port : Com1) : Com1 → Prop where
  | shiftOut : Moves port { port with uart := port.uart.shiftOut }
  | take (byte : UInt8) (rest : List UInt8) (next : port.uart.line = byte :: rest) :
      Moves port { port with uart := { port.uart with line := rest }, taken := port.taken ++ [byte] }
  | receive (byte : UInt8) : Moves port { port with received := port.received ++ [byte] }

/-- Every byte that was written has been taken or is on its way. -/
def NothingLost (port : Com1) : Prop := port.taken ++ port.uart.inFlight = port.uart.written

instance (port : Com1) : Decidable port.NothingLost := inferInstanceAs (Decidable (_ = _))

abbrev Later (port later : Com1) : Prop := ReflTransGen Moves port later

/-- Between two states of the port these bytes were written, and nothing else was
done by the program. The latch may have been closed. -/
structure Sent (before after : Com1) (bytes : List UInt8) : Prop where
  written : after.uart.written = before.uart.written ++ bytes
  nothingLost : before.NothingLost → after.NothingLost
  ier : after.ier = before.ier
  divisor : after.divisor = before.divisor
  closed : before.dlab = false → after.dlab = false

variable {port later : Com1}

theorem Sent.refl (port : Com1) : port.Sent port [] := ⟨(List.append_nil _).symm, id, rfl, rfl, id⟩

theorem Sent.trans {a b c : Com1} {first second : List UInt8} (ab : a.Sent b first) (bc : b.Sent c second) :
    a.Sent c (first ++ second) where
  written := by rw [bc.written, ab.written, List.append_assoc]
  nothingLost := bc.nothingLost ∘ ab.nothingLost
  ier := bc.ier.trans ab.ier
  divisor := bc.divisor.trans ab.divisor
  closed := bc.closed ∘ ab.closed

theorem sent_moves (moves : port.Moves later) : port.Sent later [] := by
  cases moves with
  | shiftOut =>
      refine ⟨?_, fun whole => ?_, rfl, rfl, id⟩
      · rw [List.append_nil]
        exact Uart.written_shiftOut
      · rw [NothingLost] at whole ⊢
        rw [Uart.inFlight_shiftOut, Uart.written_shiftOut]
        exact whole
  | take byte rest next =>
      refine ⟨(List.append_nil _).symm, fun whole => ?_, rfl, rfl, id⟩
      rw [NothingLost, Uart.inFlight, next] at whole
      rw [NothingLost, Uart.inFlight, ← whole, List.append_assoc]
      rfl
  | receive byte => exact ⟨(List.append_nil _).symm, id, rfl, rfl, id⟩

theorem sent_later (moves : port.Later later) : port.Sent later [] := by
  induction moves with
  | refl => exact .refl port
  | tail _ last ih => exact ih.trans (sent_moves last)

theorem thr_later (moves : port.Later later) (empty : port.uart.thr = none) : later.uart.thr = none := by
  induction moves with
  | refl => exact empty
  | tail _ last ih =>
      cases last with
      | shiftOut =>
          rw [Uart.shiftOut, ih]
          exact ih
      | take | receive => exact ih

/-- The holding register is written when it is empty. -/
theorem sent_outb (empty : port.uart.thr = none) (byte : UInt8) :
    port.Sent { port with uart := port.uart.outb byte } [byte] := by
  have written : (port.uart.outb byte).written = port.uart.written ++ [byte] := by
    rw [Uart.outb]
    split
    · rfl
    · rfl
  have inFlight : (port.uart.outb byte).inFlight = port.uart.inFlight ++ [byte] := by
    have sent := @Uart.inFlight_serialWriteByte port.uart byte empty
    rwa [Uart.serialWriteByte, Uart.checkThrEmtpy, empty] at sent
  refine ⟨written, fun whole => ?_, rfl, rfl, id⟩
  rw [NothingLost] at whole ⊢
  rw [written, inFlight, ← List.append_assoc, whole]

def close (port : Com1) : Com1 := { port with lcr := port.lcr &&& ~~~lcrDlab }

theorem dlab_close (port : Com1) : port.close.dlab = false := by
  have cleared : (port.lcr &&& ~~~lcrDlab) &&& lcrDlab = 0 := by
    rw [UInt8.and_assoc, UInt8.not_and_self, UInt8.and_zero]
  rw [dlab, close, cleared]
  rfl

theorem sent_close (port : Com1) : port.Sent port.close [] :=
  ⟨(List.append_nil _).symm, id, rfl, rfl, fun _ => dlab_close port⟩

theorem lcr_later (moves : port.Later later) : later.lcr = port.lcr := by
  induction moves with
  | refl => rfl
  | tail _ last ih => cases last <;> exact ih

variable {rely : Com1 → Com1 → Prop}

/-- The latch is said to be open, whatever the register says. -/
theorem wp_checkDataDlab {post : Bool → Com1 → Prop} (holds : ∀ later, rely port later → post false later) :
    checkDataDlab.wp bus rely post port := by
  rw [checkDataDlab, wp_bind, wp_sysInb]
  intro later choice moves
  have never : ((bus.inp later (com1 + Serial.lcr) choice).1 &&& logicalNot lcrDlab != 0) = false := by
    have none : logicalNot lcrDlab = 0 := rfl
    rw [none, UInt8.and_zero]
    rfl
  rw [wp_pure, never]
  exact holds later moves

theorem wp_setDataDlab {post : Unit → Com1 → Prop}
    (holds : ∀ read later, rely port read → rely read later → post () later.close)
    (kept : ∀ read later, rely read later → later.lcr = read.lcr) : setDataDlab.wp bus rely post port := by
  rw [setDataDlab, wp_bind, wp_sysInb]
  intro read choice first
  rw [wp_sysOutb]
  intro later second
  have second : rely read later := second
  have written : bus.out later (com1 + Serial.lcr) (read.lcr &&& ~~~lcrDlab) = later.close := by
    rw [← kept read later second]
    rfl
  have holds := holds read later first second
  rwa [← written] at holds

theorem lineStatus_thr (port : Com1) (choice : UInt8) :
    (port.lineStatus choice &&& lsrThr != 0) = port.uart.checkThrEmtpy := by
  have hidden : (choice &&& ~~~(lsrThr ||| lsrRecData)) &&& lsrThr = 0 := by
    have apart : ~~~(lsrThr ||| lsrRecData) &&& lsrThr = 0 := by decide
    rw [UInt8.and_assoc, apart, UInt8.and_zero]
  rw [lineStatus, or_and_byte, or_and_byte, hidden]
  cases port.uart.checkThrEmtpy with
  | false => cases port.received.isEmpty <;> decide
  | true => cases port.received.isEmpty <;> decide

theorem wp_checkThrEmtpy {post : Bool → Com1 → Prop}
    (holds : ∀ later, rely port later → post later.uart.checkThrEmtpy later) :
    checkThrEmtpy.wp bus rely post port := by
  rw [checkThrEmtpy, wp_bind, wp_sysInb]
  intro later choice moves
  have read : bus.inp later (com1 + lsr) choice = (later.lineStatus choice, later) := rfl
  rw [wp_pure, read, lineStatus_thr]
  exact holds later moves

theorem wp_serialWriteByte {byte : UInt8} {post : Bool → Com1 → Prop}
    (holds : ∀ success after, port.Sent after (if success then [byte] else []) → after.dlab = false →
      post success after) :
    (serialWriteByte byte).wp bus Later post port := by
  rw [serialWriteByte, wp_bind]
  refine wp_checkDataDlab fun first start => ?_
  dsimp only
  rw [Bool.not_false, if_pos rfl, wp_bind]
  refine wp_setDataDlab (fun read second looked further => ?_) fun _ _ => lcr_later
  rw [wp_bind]
  refine wp_checkThrEmtpy fun third last => ?_
  have closed : third.dlab = false := (sent_later last).closed (dlab_close second)
  have nothing : port.Sent third [] :=
    ((sent_later ((start.trans looked).trans further)).trans (sent_close second)).trans (sent_later last)
  cases empty : third.uart.checkThrEmtpy with
  | false => exact holds false third nothing closed
  | true =>
      intro fourth moves
      have moves : third.Later fourth := moves
      have free : fourth.uart.thr = none := thr_later moves (by simpa [Uart.checkThrEmtpy] using empty)
      have still : fourth.dlab = false := (sent_later moves).closed closed
      have written : bus.out fourth (com1 + serData) byte = { fourth with uart := fourth.uart.outb byte } := by
        simp only [bus, still, if_true]
        rfl
      rw [written]
      exact holds true _ ((nothing.trans (sent_later moves)).trans (sent_outb free byte)) still

theorem wp_writeBytes {bytes : List UInt8} {success : Bool} {post : Bool → Com1 → Prop}
    (holds : ∀ sent after, sent.Sublist bytes → port.Sent after sent → (bytes ≠ [] → after.dlab = false) →
      post (success && decide (sent = bytes)) after) :
    (writeBytes success bytes).wp bus Later post port := by
  induction bytes generalizing port success with
  | nil =>
      have done := holds [] port (List.Sublist.refl []) (.refl port) fun some => absurd rfl some
      rw [decide_eq_true rfl, Bool.and_true] at done
      exact done
  | cons byte rest ih =>
      rw [writeBytes, wp_bind]
      refine wp_serialWriteByte fun wrote between first closed => ih fun sent after sublist second _ => ?_
      have both := first.trans second
      have stays : after.dlab = false := second.closed closed
      cases wrote with
      | true =>
          have whole := holds (byte :: sent) after (sublist.cons_cons byte) both fun _ => stays
          simpa using whole
      | false =>
          have short : sent ≠ byte :: rest := fun same => by
            have shorter := sublist.length_le
            rw [same, List.length_cons] at shorter
            omega
          have whole := holds sent after (sublist.cons byte) both fun _ => stays
          simpa [short] using whole

/-- `serial_write_message` beside any moves of the hardware: the bytes that it
writes are some of the message in their order, all of them precisely when it
says so; no byte is overwritten in the holding register, and the interrupts and
the divisor stay as they are. -/
theorem message_accounted (port : Com1) (nothingLost : port.NothingLost) (bytes : List UInt8) :
    (serialWriteMessage bytes).wp bus Later
      (fun success after => ∃ sent, sent.Sublist bytes ∧ (success = true ↔ sent = bytes) ∧
        after.uart.written = port.uart.written ++ sent ∧ after.NothingLost ∧
        after.ier = port.ier ∧ after.divisor = port.divisor ∧ (bytes ≠ [] → after.dlab = false)) port := by
  refine wp_writeBytes fun sent after sublist accounted closed => ?_
  refine ⟨sent, sublist, ?_, accounted.written, accounted.nothingLost nothingLost, accounted.ier, accounted.divisor, closed⟩
  rw [Bool.true_and, decide_eq_true_iff]

/-- A port whose transmitter is slower than the program. -/
def slow : Com1 :=
  { uart := .idle false, received := [], taken := [], ier := 0, lcr := lcrDlab, divisor := (12, 0) }

/-- Of two bytes in a row the second one is not written. -/
theorem message_accounted_slow :
    (serialWriteMessage [1, 2]).wp bus Later
      (fun success after => ∃ sent, sent.Sublist [1, 2] ∧ (success = true ↔ sent = [1, 2]) ∧
        after.uart.written = slow.uart.written ++ sent ∧ after.NothingLost ∧
        after.ier = slow.ier ∧ after.divisor = slow.divisor ∧ ([1, 2] ≠ ([] : List UInt8) → after.dlab = false)) slow ∧
    (serialWriteMessage [1, 2]).exec { out := bus.out, inp := fun port address _ => bus.inp port address 0 } slow =
      (false, { slow with uart := { slow.uart with thr := some 1, written := [1] }, lcr := 0 }) :=
  ⟨message_accounted slow rfl [1, 2], by decide⟩

/-- The transmitter of `Uart` is what remains when nothing moves during a call. -/
theorem serialWriteByte_refines (port : Com1) (byte : UInt8) :
    (serialWriteByte byte).wp bus Eq
      (fun success after => success = port.uart.checkThrEmtpy ∧
        after = { port.close with uart := port.uart.serialWriteByte byte }) port := by
  rw [serialWriteByte, wp_bind]
  refine wp_checkDataDlab fun first same => ?_
  cases same
  dsimp only
  rw [Bool.not_false, if_pos rfl, wp_bind]
  refine wp_setDataDlab (fun read later same further => ?_) fun read later same => by rw [same]
  cases same
  cases further
  rw [wp_bind]
  refine wp_checkThrEmtpy fun third same => ?_
  cases same
  have looked : port.close.uart.checkThrEmtpy = port.uart.checkThrEmtpy := rfl
  rw [looked, Uart.serialWriteByte]
  cases port.uart.checkThrEmtpy with
  | false => exact ⟨rfl, rfl⟩
  | true =>
      rintro _ rfl
      have written : bus.out port.close (com1 + serData) byte = { port.close with uart := port.uart.outb byte } := by
        simp only [bus, dlab_close, if_true]
        rfl
      exact ⟨rfl, written⟩

theorem wp_checkBuffer {post : Nat → Com1 → Prop} (holds : ∀ status later, rely port later → post status later) :
    checkBuffer.wp bus rely post port := by
  rw [checkBuffer, wp_bind, wp_sysInb]
  exact fun later choice moves => holds _ later moves

theorem wp_changeIer {change : UInt8 → UInt8} {post : Unit → Com1 → Prop} (closed : port.dlab = false)
    (holds : ∀ later, port.Later later → post () { later with ier := change port.ier }) :
    (changeIer change).wp bus Later post port := by
  rw [changeIer, wp_bind, wp_sysInb]
  intro read choice first
  have first : port.Later read := first
  have looked : bus.inp read (com1 + Serial.ier) choice = (port.ier, read) := by
    have still := (sent_later first).closed closed
    have same := (sent_later first).ier
    simp only [bus, still, ← same]
    rfl
  rw [looked, wp_sysOutb]
  intro later second
  have moves : port.Later later := first.trans second
  have written : bus.out later (com1 + Serial.ier) (change port.ier) = { later with ier := change port.ier } := by
    have still := (sent_later moves).closed closed
    simp only [bus, still]
    rfl
  rw [written]
  exact holds later moves

theorem wp_serialReadByte {post : UInt8 × Bool → Com1 → Prop}
    (holds : ∀ read after, port.Sent after [] → post read after) : serialReadByte.wp bus Later post port := by
  rw [serialReadByte, wp_bind, wp_sysInb]
  intro later choice first
  have read : later.Sent (bus.inp later (com1 + serData) choice).2 [] := by
    simp only [bus, if_true]
    split
    · exact .refl later
    · split
      · exact .refl later
      · exact ⟨(List.append_nil _).symm, id, rfl, rfl, id⟩
  rw [wp_bind]
  refine wp_checkThrEmtpy fun after second => ?_
  exact holds _ after (((sent_later first).trans read).trans (sent_later second))

theorem wp_uartHandler {post : UInt8 × Option UInt8 → Com1 → Prop}
    (holds : ∀ handled after, port.Sent after [] → post handled after) : uartHandler.wp bus Later post port := by
  rw [uartHandler, wp_bind, getIntOrigin, wp_bind, wp_sysInb]
  intro later choice first
  have looked : bus.inp later (com1 + iir) choice = (choice, later) := rfl
  rw [looked, wp_pure]
  split
  · rw [wp_bind]
    refine wp_serialReadByte fun read after second => ?_
    exact holds _ after ((sent_later first).trans second)
  · exact holds _ later (sent_later first)

/-- The functions that the program calls. -/
inductive DriverCall where
  | write (bytes : List UInt8)
  | read
  | checkThr
  | checkBuffer
  | handle
  | enableReceived
  | disableReceived
  | enableTransEmpty
  | disableTransEmpty
deriving DecidableEq, Repr

namespace DriverCall

def perform : DriverCall → PortIo Unit
  | write bytes => do let _ ← serialWriteMessage bytes
  | read => do let _ ← serialReadByte
  | checkThr => do let _ ← checkThrEmtpy
  | checkBuffer => do let _ ← Com1.checkBuffer
  | handle => do let _ ← uartHandler
  | enableReceived => enableReceivedDataInt
  | disableReceived => disableReceivedDataInt
  | enableTransEmpty => enableTransEmptyInt
  | disableTransEmpty => disableTransEmptyInt

def requested : DriverCall → List UInt8
  | write bytes => bytes
  | _ => []

/-- The interrupts that a call means to enable. -/
def enables : DriverCall → UInt8
  | enableReceived => ierDataInt
  | enableTransEmpty => ierTransEmptyInt
  | _ => 0

end DriverCall

def performAll : List DriverCall → PortIo Unit
  | [] => pure ()
  | call :: rest => do
      call.perform
      performAll rest

def enabled (calls : List DriverCall) : UInt8 := calls.foldr (fun call bits => call.enables ||| bits) 0

/-- What calls can do to an open port. -/
structure Driven (before after : Com1) (bits : UInt8) (requested : List UInt8) : Prop where
  ier : after.ier = before.ier ||| bits
  divisor : after.divisor = before.divisor
  closed : after.dlab = false
  nothingLost : before.NothingLost → after.NothingLost
  written : ∃ sent, sent.Sublist requested ∧ after.uart.written = before.uart.written ++ sent

theorem Driven.of_sent {after : Com1} {sent requested : List UInt8} (accounted : port.Sent after sent)
    (closed : port.dlab = false) (sublist : sent.Sublist requested) : port.Driven after 0 requested where
  ier := by rw [accounted.ier, UInt8.or_zero]
  divisor := accounted.divisor
  closed := accounted.closed closed
  nothingLost := accounted.nothingLost
  written := ⟨sent, sublist, accounted.written⟩

theorem Driven.trans {a b c : Com1} {first second : UInt8} {early late : List UInt8} (ab : a.Driven b first early)
    (bc : b.Driven c second late) : a.Driven c (first ||| second) (early ++ late) where
  ier := by rw [bc.ier, ab.ier, UInt8.or_assoc]
  divisor := bc.divisor.trans ab.divisor
  closed := bc.closed
  nothingLost := bc.nothingLost ∘ ab.nothingLost
  written := by
    obtain ⟨sent, sublist, written⟩ := ab.written
    obtain ⟨more, further, after⟩ := bc.written
    refine ⟨sent ++ more, sublist.append further, ?_⟩
    rw [after, written, List.append_assoc]

theorem driven_changeIer {change : UInt8 → UInt8} {bits : UInt8} (closed : port.dlab = false)
    (sets : change port.ier = port.ier ||| bits) :
    (changeIer change).wp bus Later (fun _ after => port.Driven after bits []) port := by
  refine wp_changeIer closed fun later moves => ?_
  have same := sent_later moves
  rw [sets]
  exact ⟨rfl, same.divisor, same.closed closed, same.nothingLost, [], .refl [], same.written⟩

/-- A function that is meant to disable an interrupt changes nothing. -/
theorem disable_nothing (bits : UInt8) (some : bits ≠ 0) (register : UInt8) :
    register &&& ~~~logicalNot bits = register ||| 0 := by
  have none : logicalNot bits = 0 := if_neg some
  have all : ~~~(0 : UInt8) = -1 := by decide
  rw [none, UInt8.or_zero, all, UInt8.and_neg_one]

theorem driven_perform (closed : port.dlab = false) (call : DriverCall) :
    call.perform.wp bus Later (fun _ after => port.Driven after call.enables call.requested) port := by
  cases call with
  | write bytes =>
      rw [DriverCall.perform, wp_bind]
      exact wp_writeBytes fun sent after sublist accounted _ => .of_sent accounted closed sublist
  | read =>
      rw [DriverCall.perform, wp_bind]
      exact wp_serialReadByte fun _ after accounted => .of_sent accounted closed (.refl [])
  | checkThr =>
      rw [DriverCall.perform, wp_bind]
      exact wp_checkThrEmtpy fun later moves => .of_sent (sent_later moves) closed (.refl [])
  | checkBuffer =>
      rw [DriverCall.perform, wp_bind]
      exact wp_checkBuffer fun _ later moves => .of_sent (sent_later moves) closed (.refl [])
  | handle =>
      rw [DriverCall.perform, wp_bind]
      exact wp_uartHandler fun _ after accounted => .of_sent accounted closed (.refl [])
  | enableReceived => exact driven_changeIer closed rfl
  | disableReceived => exact driven_changeIer closed (disable_nothing ierDataInt (by decide) _)
  | enableTransEmpty => exact driven_changeIer closed rfl
  | disableTransEmpty => exact driven_changeIer closed (disable_nothing ierTransEmptyInt (by decide) _)

/-- Any calls of the driver beside any moves of the hardware. Interrupts that are
enabled stay so, the functions that are meant to disable them included; the bytes
that are written are some of the requested ones in their order, and none of them
is overwritten. -/
theorem driver_accounted (port : Com1) (closed : port.dlab = false) (calls : List DriverCall) :
    (performAll calls).wp bus Later
      (fun _ after => port.Driven after (enabled calls) (calls.flatMap DriverCall.requested)) port := by
  induction calls generalizing port with
  | nil => exact .of_sent (.refl port) closed (.refl [])
  | cons call rest ih =>
      rw [performAll, wp_bind]
      refine wp_mono (driven_perform closed call) fun _ between first => ?_
      exact wp_mono (ih between first.closed) fun _ after second => first.trans second

/-- The receiver interrupt after it was to be disabled. -/
theorem driver_accounted_disabled :
    (performAll [.enableReceived, .disableReceived]).wp bus Later
      (fun _ after => Driven { slow with lcr := 3 } after 1 []) { slow with lcr := 3 } :=
  driver_accounted { slow with lcr := 3 } rfl [.enableReceived, .disableReceived]

end Com1

end SimonVs.Serial
