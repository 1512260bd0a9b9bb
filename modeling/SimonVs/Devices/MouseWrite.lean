import SimonVs.Data.Ports
import SimonVs.Devices.Mouse

namespace SimonVs.Devices

open Data PortIo

/-! Commands to the mouse (`mouse.c`). The waits between two accesses leave no
trace. -/

def kbcOutBuf : Nat := 0x60
def kbcArgReg : Nat := 0x60
def kbcCmdReg : Nat := 0x64
def kbcStatReg : Nat := 0x64

def kbcStatRegIbf : UInt8 := bit 1

def byteToMouseCmd : UInt8 := 0xd4
def byteToMouseSuccess : UInt8 := 0xfa

def mouseDisDataRep : UInt8 := 0xf5
def mouseEnabDataRep : UInt8 := 0xf4

/-- What `mouse_get_state` leaves in the global variables. -/
structure KbcState where
  err : Bool
  obf : Bool
  ibf : Bool
  aux : Bool
  output : UInt8
deriving DecidableEq, Repr

namespace MouseWrite

def mouseGetState : PortIo KbcState := do
  let statReg ← sysInb kbcStatReg
  let obf := statReg &&& kbcStatRegObf != 0
  let state : KbcState :=
    { err := statReg &&& (kbcStatRegPar ||| kbcStatRegTimeout) != 0, obf
      ibf := statReg &&& kbcStatRegIbf != 0, aux := statReg &&& kbdStatRegAux != 0, output := 0 }
  if obf then
    let byte ← sysInb kbcOutBuf
    return { state with output := byte }
  else
    return state

def mouseWriteByteAck : PortIo Bool := do
  let ack ← sysInb kbcOutBuf
  return ack == byteToMouseSuccess

/-- The loop of `mouse_write_byte`, with a number of turns left. The argument is
given before the command. -/
def writeByteTurns (byte : UInt8) : Nat → PortIo Bool
  | 0 => return false
  | turns + 1 => do
      let state ← mouseGetState
      if !state.err && !state.obf && !state.ibf then
        sysOutb kbcArgReg byte
        sysOutb kbcCmdReg byteToMouseCmd
        mouseWriteByteAck
      else
        writeByteTurns byte turns

def mouseWriteByte (byte : UInt8) : PortIo Bool := writeByteTurns byte 10

def writeAll : List UInt8 → PortIo Bool
  | [] => return true
  | byte :: rest => do
      let acknowledged ← mouseWriteByte byte
      if acknowledged then writeAll rest else return false

/-- The response, if one is wanted; `none` is the return value "false". -/
def mouseWriteCommand (command : UInt8) (args : List UInt8) (hasRet : Bool) : PortIo (Option (Option UInt8)) := do
  let written ← writeAll (command :: args)
  if !written then return none
  else if hasRet then
    let state ← mouseGetState
    if !state.err && state.obf && state.aux then return some (some state.output) else return none
  else return some none

def operationTurns (command : UInt8) (args : List UInt8) (hasRet : Bool) : Nat → PortIo (Option (Option UInt8))
  | 0 => return none
  | turns + 1 => do
      match ← mouseWriteCommand command args hasRet with
      | some ret => return some ret
      | none => operationTurns command args hasRet turns

def tryMouseOperation (command : UInt8) (args : List UInt8) (hasRet : Bool) : PortIo (Option (Option UInt8)) :=
  operationTurns command args hasRet 10

def mouseDataReportingEnable : PortIo Bool := do
  let done ← tryMouseOperation mouseEnabDataRep [] false
  return done.isSome

def mouseDataReportingDisable : PortIo Bool := do
  let done ← tryMouseOperation mouseDisDataRep [] false
  return done.isSome

end MouseWrite

/-- Where the bytes for the two devices go. A byte is for the mouse if the command
for it has come before. -/
structure Kbc where
  toMouse : Bool
  keyboard : List UInt8
  mouse : List UInt8
deriving DecidableEq, Repr

namespace Kbc

/-- What is read is chosen. -/
def bus : Bus Kbc UInt8 where
  out kbc port value :=
    if port = kbcCmdReg then if value = byteToMouseCmd then { kbc with toMouse := true } else kbc
    else if port = kbcArgReg then
      if kbc.toMouse then { kbc with toMouse := false, mouse := kbc.mouse ++ [value] }
      else { kbc with keyboard := kbc.keyboard ++ [value] }
    else kbc
  inp kbc _ choice := (choice, kbc)

/-- These bytes were written, each followed by the command. The first one is for
the keyboard, unless a command was left over. -/
structure Wrote (before after : Kbc) (bytes : List UInt8) : Prop where
  keyboard : after.keyboard = before.keyboard ++ if before.toMouse then [] else bytes.take 1
  mouse : after.mouse = before.mouse ++ if before.toMouse then bytes else bytes.drop 1
  toMouse : after.toMouse = (before.toMouse || !bytes.isEmpty)

variable {kbc : Kbc}

theorem Wrote.refl (kbc : Kbc) : kbc.Wrote kbc [] := by
  constructor
  · rw [List.take_nil, ite_self, List.append_nil]
  · rw [List.drop_nil, ite_self, List.append_nil]
  · exact (Bool.or_false _).symm

theorem Wrote.trans {a b c : Kbc} {first second : List UInt8} (ab : a.Wrote b first) (bc : b.Wrote c second) :
    a.Wrote c (first ++ second) := by
  obtain ⟨keyboard, mouse, toMouse⟩ := ab
  obtain ⟨keyboardToo, mouseToo, toMouseToo⟩ := bc
  rw [keyboard, toMouse] at keyboardToo
  rw [mouse, toMouse] at mouseToo
  rw [toMouse] at toMouseToo
  cases pending : a.toMouse with
  | true =>
      rw [pending] at keyboardToo mouseToo toMouseToo
      constructor
      · simpa [pending] using keyboardToo
      · simpa [pending] using mouseToo
      · simpa [pending] using toMouseToo
  | false =>
      rw [pending] at keyboardToo mouseToo toMouseToo
      cases first with
      | nil =>
          exact ⟨by simpa [pending] using keyboardToo, by simpa [pending] using mouseToo,
            by simpa [pending] using toMouseToo⟩
      | cons byte rest =>
          exact ⟨by simpa [pending] using keyboardToo, by simpa [pending] using mouseToo,
            by simpa [pending] using toMouseToo⟩

theorem wrote_byte (kbc : Kbc) (byte : UInt8) :
    kbc.Wrote (bus.out (bus.out kbc kbcArgReg byte) kbcCmdReg byteToMouseCmd) [byte] := by
  have apart : kbcArgReg ≠ kbcCmdReg := by decide
  cases pending : kbc.toMouse with
  | true => constructor <;> simp [bus, apart, pending]
  | false => constructor <;> simp [bus, apart, pending]

open MouseWrite

theorem wp_mouseGetState {post : KbcState → Kbc → Prop} (holds : ∀ state, post state kbc) :
    mouseGetState.wp bus Eq post kbc := by
  rw [mouseGetState, wp_bind, wp_sysInb]
  rintro _ choice rfl
  dsimp only
  split
  · rw [wp_bind, wp_sysInb]
    rintro _ answer rfl
    exact holds _
  · exact holds _

/-- At most the byte itself is written, and it is if the answer is "true". -/
theorem wp_writeByteTurns {byte : UInt8} {turns : Nat} {post : Bool → Kbc → Prop}
    (holds : ∀ acknowledged sent after, kbc.Wrote after sent → sent.Sublist [byte] →
      (acknowledged = true → sent = [byte]) → post acknowledged after) :
    (writeByteTurns byte turns).wp bus Eq post kbc := by
  induction turns with
  | zero => exact holds false [] kbc (.refl kbc) (List.nil_sublist _) fun no => absurd no Bool.false_ne_true
  | succ turns ih =>
      rw [writeByteTurns, wp_bind]
      refine wp_mouseGetState fun state => ?_
      split
      · rw [wp_bind, wp_sysOutb]
        rintro _ rfl
        rw [wp_bind, wp_sysOutb]
        rintro _ rfl
        rw [mouseWriteByteAck, wp_bind, wp_sysInb]
        rintro _ answer rfl
        exact holds _ [byte] _ (wrote_byte kbc byte) (.refl _) fun _ => rfl
      · exact ih

theorem wp_writeAll {bytes : List UInt8} {post : Bool → Kbc → Prop}
    (holds : ∀ done sent after, kbc.Wrote after sent → sent.Sublist bytes → (done = true → sent = bytes) →
      post done after) :
    (writeAll bytes).wp bus Eq post kbc := by
  induction bytes generalizing kbc with
  | nil => exact holds true [] kbc (.refl kbc) (.refl _) fun _ => rfl
  | cons byte rest ih =>
      rw [writeAll, wp_bind]
      refine wp_writeByteTurns fun acknowledged sent between first sublist whole => ?_
      split
      · next yes =>
          refine ih fun done more after second further complete => ?_
          refine holds done (sent ++ more) after (first.trans second) ?_ fun all => ?_
          · rw [whole yes]
            exact further.cons_cons byte
          · rw [whole yes, complete all]
            rfl
      · refine holds false sent between first ?_ fun no => absurd no Bool.false_ne_true
        exact sublist.trans (List.singleton_sublist.mpr List.mem_cons_self)

theorem wp_mouseWriteCommand {command : UInt8} {args : List UInt8} {hasRet : Bool}
    {post : Option (Option UInt8) → Kbc → Prop}
    (holds : ∀ result sent after, kbc.Wrote after sent → sent.Sublist (command :: args) →
      (result.isSome = true → sent = command :: args) → post result after) :
    (mouseWriteCommand command args hasRet).wp bus Eq post kbc := by
  rw [mouseWriteCommand, wp_bind]
  refine wp_writeAll fun done sent after wrote sublist whole => ?_
  split
  · exact holds none sent after wrote sublist fun no => absurd no Bool.false_ne_true
  · next yes =>
      have whole := whole (by simpa using yes)
      split
      · rw [wp_bind]
        refine wp_mouseGetState fun state => ?_
        split
        · exact holds _ sent after wrote sublist fun _ => whole
        · exact holds none sent after wrote sublist fun _ => whole
      · exact holds _ sent after wrote sublist fun _ => whole

theorem wp_operationTurns {command : UInt8} {args : List UInt8} {hasRet : Bool} {turns : Nat}
    {post : Option (Option UInt8) → Kbc → Prop}
    (holds : ∀ result sent after, kbc.Wrote after sent → sent.length ≤ turns * (args.length + 1) →
      (result.isSome = true → (command :: args) <:+ sent) → post result after) :
    (operationTurns command args hasRet turns).wp bus Eq post kbc := by
  induction turns generalizing kbc with
  | zero => exact holds none [] kbc (.refl kbc) (Nat.zero_le _) fun no => absurd no Bool.false_ne_true
  | succ turns ih =>
      rw [operationTurns, wp_bind]
      refine wp_mouseWriteCommand fun result sent between first sublist whole => ?_
      have length : sent.length ≤ args.length + 1 := sublist.length_le
      have enough : (turns + 1) * (args.length + 1) = turns * (args.length + 1) + (args.length + 1) := Nat.succ_mul _ _
      cases result with
      | some ret =>
          have all : sent = _ := whole rfl
          exact holds (some ret) sent between first (by omega) fun _ => all ▸ List.suffix_refl sent
      | none =>
          refine ih fun result more after second short complete => ?_
          refine holds result (sent ++ more) after (first.trans second) ?_ fun yes => ?_
          · rw [List.length_append]
            omega
          · exact (complete yes).trans (List.suffix_append sent more)

theorem within_mouseGetState : mouseGetState.Within 2 := by
  refine @Within.bind _ _ _ _ 1 1 (within_sysInb kbcStatReg) fun statReg => ?_
  dsimp only
  split
  · exact @Within.bind _ _ _ _ 1 0 (within_sysInb kbcOutBuf) fun byte => within_pure _
  · trivial

theorem within_writeByteTurns (byte : UInt8) (turns : Nat) : (writeByteTurns byte turns).Within (2 * turns + 3) := by
  induction turns with
  | zero => trivial
  | succ turns ih =>
      have sum : 2 * (turns + 1) + 3 = 2 + (2 * turns + 3) := by omega
      rw [writeByteTurns, sum]
      refine within_mouseGetState.bind fun state => ?_
      split
      · have written : (sysOutb kbcArgReg byte >>= fun _ =>
            sysOutb kbcCmdReg byteToMouseCmd >>= fun _ => mouseWriteByteAck).Within (1 + (1 + (1 + 0))) :=
          (within_sysOutb _ _).bind fun _ => (within_sysOutb _ _).bind fun _ =>
            (within_sysInb kbcOutBuf).bind fun _ => within_pure _
        exact written.mono (by omega)
      · exact ih

theorem within_writeAll (bytes : List UInt8) : (writeAll bytes).Within (23 * bytes.length) := by
  induction bytes with
  | nil => trivial
  | cons byte rest ih =>
      have sum : 23 * (byte :: rest).length = 23 + 23 * rest.length := by
        rw [List.length_cons]
        omega
      rw [writeAll, sum]
      refine (within_writeByteTurns byte 10).bind fun acknowledged => ?_
      split
      · exact ih
      · trivial

theorem within_mouseWriteCommand (command : UInt8) (args : List UInt8) (hasRet : Bool) :
    (mouseWriteCommand command args hasRet).Within (23 * (args.length + 1) + 2) := by
  refine (within_writeAll (command :: args)).bind fun written => ?_
  split
  · trivial
  · split
    · refine @Within.bind _ _ _ _ 2 0 within_mouseGetState fun state => ?_
      split
      · exact within_pure _
      · exact within_pure _
    · trivial

theorem within_operationTurns (command : UInt8) (args : List UInt8) (hasRet : Bool) (turns : Nat) :
    (operationTurns command args hasRet turns).Within (turns * (23 * (args.length + 1) + 2)) := by
  induction turns with
  | zero => trivial
  | succ turns ih =>
      rw [operationTurns, Nat.succ_mul, Nat.add_comm]
      refine (within_mouseWriteCommand command args hasRet).bind fun result => ?_
      cases result with
      | some ret => trivial
      | none => exact ih

/-- Whatever the controller answers, a command to the mouse ends after a bounded
number of accesses, and "true" means that all its bytes were written in a row. But
each byte is given before the command for the mouse: of all that is written, the
first byte goes to the keyboard unless a command was left over, and one is left
over at the end. -/
theorem operation_accounted (command : UInt8) (args : List UInt8) (hasRet : Bool) (kbc : Kbc) :
    (tryMouseOperation command args hasRet).Within (10 * (23 * (args.length + 1) + 2)) ∧
    (tryMouseOperation command args hasRet).wp bus Eq
      (fun result after => ∃ sent, sent.length ≤ 10 * (args.length + 1) ∧
        (result.isSome = true → (command :: args) <:+ sent) ∧
        after.keyboard = kbc.keyboard ++ (if kbc.toMouse then [] else sent.take 1) ∧
        after.mouse = kbc.mouse ++ (if kbc.toMouse then sent else sent.drop 1) ∧
        after.toMouse = (kbc.toMouse || !sent.isEmpty)) kbc := by
  refine ⟨within_operationTurns command args hasRet 10, wp_operationTurns fun result sent after wrote short complete => ?_⟩
  exact ⟨sent, short, complete, wrote.keyboard, wrote.mouse, wrote.toMouse⟩

end Kbc

end SimonVs.Devices
