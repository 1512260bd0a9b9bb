import SimonVs.Data.Ports
import SimonVs.Devices.Keyboard

namespace SimonVs.Labs

open Data Devices PortIo

/-! Commands to the mouse through the KBC (`lab4/mouse.c`). The calls of the
kernel succeed, and the waits between two tries leave no trace. -/

def kbcStReg : Nat := 0x64
def kbcCmdReg : Nat := 0x64
def kbcArgReg : Nat := 0x60
def kbcOutBuf : Nat := 0x60

def ibf : UInt8 := bit 1

def writeBMouse : UInt8 := 0xd4
def kbcWrtCommand : UInt8 := 0x60

def ack : UInt8 := 0xfa
def nack : UInt8 := 0xfe
def error : UInt8 := 0xfc

def kbcCheckInBuf : PortIo Bool := do
  let status ← sysInb kbcStReg
  return status &&& ibf == 0

/-- The loop of the three functions that write, with a number of tries left;
`none` is the return value 1. -/
def whenReady {α : Type} (write : PortIo α) : Nat → PortIo (Option α)
  | 0 => return none
  | tries + 1 => do
      let ready ← kbcCheckInBuf
      if ready then
        let result ← write
        return some result
      else whenReady write tries

def kbcWriteCommand (cmd : UInt8) : PortIo (Option Unit) := whenReady (sysOutb kbcCmdReg cmd) 3

def kbcWriteArgument (arg : UInt8) : PortIo (Option Unit) := whenReady (sysOutb kbcArgReg arg) 3

def mouseWriteCommand (cmd : UInt8) : PortIo (Option UInt8) :=
  whenReady (sysOutb kbcArgReg cmd >>= fun _ => sysInb kbcOutBuf) 3

/-- `while (tries < 3)`, and the return behind it. -/
def triesLeft (tries : Nat) : Nat ⊕ Nat := if tries < 3 then .inl tries else .inr 1

/-- One turn of the loop of `kbc_command_handler`, from `tries` to the next
value of it or to the return value. -/
def kbcCommandTurn (cmd arg : UInt8) (tries : Nat) : PortIo (Nat ⊕ Nat) := do
  match ← kbcWriteCommand cmd with
  | none => return .inr 1
  | some () =>
      if cmd = writeBMouse then
        match ← mouseWriteCommand arg with
        | none => return .inr 1
        | some resp =>
            if resp = ack then return .inr 0
            else if resp = nack then return triesLeft (tries + 1)
            else if resp = error then return .inr 1
            else return triesLeft tries
      else if cmd = kbcWrtCommand then
        match ← kbcWriteArgument arg with
        | none => return .inr 1
        | some () => return .inr 0
      else return triesLeft tries

/-- How many bytes of each kind have been read. -/
structure KbcReads where
  statuses : Nat
  responses : Nat
deriving DecidableEq, Repr

/-- The bytes that the KBC delivers. -/
structure KbcStreams where
  status : Nat → UInt8
  response : Nat → UInt8

namespace KbcStreams

def bus (kbc : KbcStreams) : Bus KbcReads Unit where
  out reads _ _ := reads
  inp reads port _ :=
    if port = kbcStReg then (kbc.status reads.statuses, { reads with statuses := reads.statuses + 1 })
    else if port = kbcOutBuf then (kbc.response reads.responses, { reads with responses := reads.responses + 1 })
    else (0, reads)

/-- A call of `kbc_command_handler(WRITE_B_MOUSE, arg)` after some accesses. -/
def mouseCommand (kbc : KbcStreams) (arg : UInt8) (accesses : Nat) : Call KbcReads Nat Nat :=
  Call.alone kbc.bus (kbcCommandTurn writeBMouse arg) accesses
    { device := ⟨0, 0⟩, program := kbcCommandTurn writeBMouse arg 0 }

variable {kbc : KbcStreams} {reads after : KbcReads} {arg : UInt8} {tries next position code : Nat}

def Busy (kbc : KbcStreams) (position : Nat) : Prop := kbc.status position &&& ibf ≠ 0

instance : Decidable (kbc.Busy position) := inferInstanceAs (Decidable (_ ≠ _))

def BusyThrice (kbc : KbcStreams) (position : Nat) : Prop :=
  kbc.Busy position ∧ kbc.Busy (position + 1) ∧ kbc.Busy (position + 2)

/-- Where a write goes on after the first status that is not busy. -/
def ready (kbc : KbcStreams) : Nat → Nat → Option Nat
  | 0, _ => none
  | tries + 1, position => if kbc.Busy position then kbc.ready tries (position + 1) else some (position + 1)

@[simp] theorem bus_out {port : Nat} {value : UInt8} : kbc.bus.out reads port value = reads := rfl

@[simp] theorem bus_inp_outBuf :
    kbc.bus.inp reads kbcOutBuf () =
      (kbc.response reads.responses, { reads with responses := reads.responses + 1 }) := rfl

theorem whenReady_exec {α : Type} (write : PortIo α) (tries : Nat) (reads : KbcReads) :
    (whenReady write tries).exec kbc.bus reads =
      match kbc.ready tries reads.statuses with
      | none => (none, { reads with statuses := reads.statuses + tries })
      | some position =>
          let written := write.exec kbc.bus { reads with statuses := position }
          (some written.1, written.2) := by
  induction tries generalizing reads with
  | zero => rfl
  | succ tries ih =>
      have status : kbcCheckInBuf.exec kbc.bus reads =
        (kbc.status reads.statuses &&& ibf == 0, { reads with statuses := reads.statuses + 1 }) := rfl
      by_cases busy : kbc.Busy reads.statuses
      · have full : (kbc.status reads.statuses &&& ibf == 0) = false := beq_false_of_ne busy
        simp only [whenReady, exec_bind, status, full, Bool.false_eq_true, if_false, ih, ready, busy, if_true]
        rw [Nat.add_right_comm, Nat.add_assoc]
      · have free : (kbc.status reads.statuses &&& ibf == 0) = true := by simpa [Busy] using busy
        simp only [whenReady, exec_bind, status, free, if_true, ready, busy, if_false, exec_pure]

theorem busyThrice_of_ready_none (gaveUp : kbc.ready 3 position = none) : kbc.BusyThrice position := by
  simp only [ready] at gaveUp
  split at gaveUp
  · next first =>
      split at gaveUp
      · next second =>
          split at gaveUp
          · next third => exact ⟨first, second, third⟩
          · cases gaveUp
      · cases gaveUp
  · cases gaveUp

theorem free_of_ready_some (goesOn : kbc.ready 3 position = some next) :
    ∃ wait < 3, next = position + wait + 1 ∧ ¬ kbc.Busy (position + wait) := by
  simp only [ready] at goesOn
  split at goesOn
  · split at goesOn
    · split at goesOn
      · cases goesOn
      · next free =>
          cases goesOn
          exact ⟨2, by decide, rfl, free⟩
    · next free =>
        cases goesOn
        exact ⟨1, by decide, rfl, free⟩
  · next free =>
      cases goesOn
      exact ⟨0, by decide, rfl, free⟩

/-- A write that goes on has not passed three busy statuses in a row. -/
theorem ready_le (goesOn : kbc.ready 3 position = some next) {busy : Nat} (ahead : position ≤ busy)
    (thrice : kbc.BusyThrice busy) : next ≤ busy := by
  obtain ⟨wait, below, rfl, free⟩ := free_of_ready_some goesOn
  obtain ⟨first, second, third⟩ := thrice
  by_contra passed
  have among : position + wait = busy ∨ position + wait = busy + 1 ∨ position + wait = busy + 2 := by omega
  rcases among with same | same | same
  · exact free (same ▸ first)
  · exact free (same ▸ second)
  · exact free (same ▸ third)

/-- The loop goes on to the next turn. -/
structure GoesOn (kbc : KbcStreams) (tries : Nat) (reads : KbcReads) (next : Nat) (after : KbcReads) : Prop where
  statuses : reads.statuses < after.statuses
  waits : ∀ busy, reads.statuses ≤ busy → kbc.BusyThrice busy → after.statuses ≤ busy
  responses : after.responses = reads.responses + 1
  notAck : kbc.response reads.responses ≠ ack
  notError : kbc.response reads.responses ≠ error
  tries : next = if kbc.response reads.responses = nack then tries + 1 else tries
  below : next < 3

/-- The loop is left with a return value. -/
inductive Ends (kbc : KbcStreams) (tries : Nat) (reads : KbcReads) : Nat → KbcReads → Prop where
  | gaveUp (statuses position : Nat) (busy : kbc.BusyThrice position) : Ends kbc tries reads 1 { reads with statuses }
  | acked (statuses : Nat) (response : kbc.response reads.responses = ack) :
      Ends kbc tries reads 0 ⟨statuses, reads.responses + 1⟩
  | failed (statuses : Nat) (response : kbc.response reads.responses = error) :
      Ends kbc tries reads 1 ⟨statuses, reads.responses + 1⟩
  | nacked (statuses : Nat) (response : kbc.response reads.responses = nack) (last : 3 ≤ tries + 1) :
      Ends kbc tries reads 1 ⟨statuses, reads.responses + 1⟩

theorem turn_cases (arg : UInt8) (reads : KbcReads) (below : tries < 3) :
    (∃ next after, (kbcCommandTurn writeBMouse arg tries).exec kbc.bus reads = (.inl next, after) ∧
      kbc.GoesOn tries reads next after) ∨
    ∃ code after, (kbcCommandTurn writeBMouse arg tries).exec kbc.bus reads = (.inr code, after) ∧
      kbc.Ends tries reads code after := by
  simp only [kbcCommandTurn, kbcWriteCommand, mouseWriteCommand, exec_bind, whenReady_exec]
  cases first : kbc.ready 3 reads.statuses with
  | none => exact .inr ⟨1, _, rfl, .gaveUp _ _ (busyThrice_of_ready_none first)⟩
  | some written =>
      simp only [exec_sysOutb, bus_out, if_true, exec_bind, whenReady_exec]
      cases second : kbc.ready 3 written with
      | none => exact .inr ⟨1, _, rfl, .gaveUp _ _ (busyThrice_of_ready_none second)⟩
      | some answered =>
          simp only [exec_sysInb, bus_inp_outBuf]
          have later : reads.statuses < answered := by
            obtain ⟨_, _, rfl, _⟩ := free_of_ready_some first
            obtain ⟨_, _, rfl, _⟩ := free_of_ready_some second
            omega
          have waits : ∀ busy, reads.statuses ≤ busy → kbc.BusyThrice busy → answered ≤ busy :=
            fun busy ahead thrice => ready_le second (ready_le first ahead thrice) thrice
          by_cases isAck : kbc.response reads.responses = ack
          · simp only [isAck, if_true, exec_pure]
            exact .inr ⟨0, _, rfl, .acked answered isAck⟩
          · by_cases isNack : kbc.response reads.responses = nack
            · simp only [isNack, show nack ≠ ack by decide, if_true, if_false, exec_pure, triesLeft]
              by_cases last : tries + 1 < 3
              · rw [if_pos last]
                refine .inl ⟨tries + 1, _, rfl, later, waits, rfl, isAck, ?_, (if_pos isNack).symm, last⟩
                rw [isNack]
                decide
              · rw [if_neg last]
                exact .inr ⟨1, _, rfl, .nacked answered isNack (by omega)⟩
            · by_cases isError : kbc.response reads.responses = error
              · simp only [isError, show error ≠ ack by decide, show error ≠ nack by decide, if_true, if_false,
                  exec_pure]
                exact .inr ⟨1, _, rfl, .failed answered isError⟩
              · simp only [isAck, isNack, isError, if_false, exec_pure, triesLeft, below, if_true]
                exact .inl ⟨tries, _, rfl, later, waits, rfl, isAck, isError, (if_neg isNack).symm, below⟩

def nacks (kbc : KbcStreams) (count : Nat) : Nat := (List.range count).countP (kbc.response · == nack)

theorem nacks_succ (count : Nat) :
    kbc.nacks (count + 1) = if kbc.response count = nack then kbc.nacks count + 1 else kbc.nacks count := by
  by_cases isNack : kbc.response count = nack <;> simp [nacks, List.range_succ, isNack]

/-- The KBC refuses three statuses in a row, or answers with something that the
loop is left at. -/
def Settles (kbc : KbcStreams) : Prop :=
  (∃ position, kbc.BusyThrice position) ∨
  (∃ position, kbc.response position = ack ∨ kbc.response position = error) ∨
  ∃ count, 3 ≤ kbc.nacks count

/-- The last response read was an ACK. -/
def Acked (kbc : KbcStreams) (reads : KbcReads) : Prop :=
  0 < reads.responses ∧ kbc.response (reads.responses - 1) = ack

abbrev mouseTurns (kbc : KbcStreams) (arg : UInt8) : Nat → Nat → KbcReads → Option (Nat × KbcReads) :=
  turns kbc.bus (kbcCommandTurn writeBMouse arg)

theorem settles_of_turns {count : Nat} (below : tries < 3) (counted : tries = kbc.nacks reads.responses)
    (returned : kbc.mouseTurns arg count tries reads = some (code, after)) : kbc.Settles := by
  induction count generalizing tries reads with
  | zero => cases returned
  | succ count ih =>
      obtain ⟨next, later, turn, goesOn⟩ | ⟨code', later, turn, ends⟩ := @turn_cases kbc tries arg reads below
      · rw [mouseTurns, turns, turn] at returned
        refine ih goesOn.below ?_ returned
        rw [goesOn.responses, nacks_succ, goesOn.tries, counted]
      · cases ends with
        | gaveUp statuses position busy => exact .inl ⟨position, busy⟩
        | acked statuses response => exact .inr (.inl ⟨_, .inl response⟩)
        | failed statuses response => exact .inr (.inl ⟨_, .inr response⟩)
        | nacked statuses response last =>
            refine .inr (.inr ⟨reads.responses + 1, ?_⟩)
            rw [nacks_succ, if_pos response, ← counted]
            exact last

/-- The return value tells whether the last response was an ACK. -/
theorem code_of_turns {count : Nat} (below : tries < 3) (notYet : ¬ kbc.Acked reads)
    (returned : kbc.mouseTurns arg count tries reads = some (code, after)) :
    (code = 0 ∧ kbc.Acked after) ∨ (code = 1 ∧ ¬ kbc.Acked after) := by
  induction count generalizing tries reads with
  | zero => cases returned
  | succ count ih =>
      obtain ⟨next, later, turn, goesOn⟩ | ⟨code', later, turn, ends⟩ := @turn_cases kbc tries arg reads below
      · rw [mouseTurns, turns, turn] at returned
        refine ih goesOn.below ?_ returned
        rintro ⟨_, acked⟩
        rw [goesOn.responses] at acked
        exact goesOn.notAck acked
      · rw [mouseTurns, turns, turn] at returned
        cases returned
        cases ends with
        | gaveUp statuses position busy => exact .inr ⟨rfl, notYet⟩
        | acked statuses response => exact .inl ⟨rfl, Nat.succ_pos _, response⟩
        | failed statuses response =>
            refine .inr ⟨rfl, fun acked => ?_⟩
            have same := acked.2.symm.trans response
            revert same
            decide
        | nacked statuses response last =>
            refine .inr ⟨rfl, fun acked => ?_⟩
            have same := acked.2.symm.trans response
            revert same
            decide

def Returns (kbc : KbcStreams) (arg : UInt8) (tries : Nat) (reads : KbcReads) : Prop :=
  ∃ count, (kbc.mouseTurns arg count tries reads).isSome

/-- It is enough to return from wherever the loop goes on. -/
theorem returns_of_next (below : tries < 3)
    (goesOn : ∀ next after, kbc.GoesOn tries reads next after → kbc.Returns arg next after) :
    kbc.Returns arg tries reads := by
  obtain ⟨next, later, turn, continues⟩ | ⟨code, later, turn, ends⟩ := @turn_cases kbc tries arg reads below
  · obtain ⟨count, returned⟩ := goesOn next later continues
    exact ⟨count + 1, by rwa [mouseTurns, turns, turn]⟩
  · exact ⟨1, by rw [mouseTurns, turns, turn]; rfl⟩

theorem returns_of_busy {ahead : Nat} (thrice : kbc.BusyThrice (reads.statuses + ahead)) (below : tries < 3) :
    kbc.Returns arg tries reads := by
  induction ahead using Nat.strongRecOn generalizing tries reads with
  | _ ahead ih =>
      refine returns_of_next below fun next after goesOn => ?_
      have notPassed := goesOn.waits _ (Nat.le_add_right _ _) thrice
      obtain ⟨rest, same⟩ := Nat.exists_eq_add_of_le notPassed
      rw [same] at thrice
      have closer := goesOn.statuses
      exact ih rest (by omega) thrice goesOn.below

theorem returns_of_response {ahead : Nat}
    (response : kbc.response (reads.responses + ahead) = ack ∨ kbc.response (reads.responses + ahead) = error)
    (below : tries < 3) : kbc.Returns arg tries reads := by
  induction ahead generalizing tries reads with
  | zero =>
      refine returns_of_next below fun next after goesOn => ?_
      rcases response with isAck | isError
      · exact absurd isAck goesOn.notAck
      · exact absurd isError goesOn.notError
  | succ ahead ih =>
      refine returns_of_next below fun next after goesOn => ih ?_ goesOn.below
      rw [goesOn.responses, Nat.add_assoc, Nat.add_comm 1]
      exact response

theorem returns_of_nacks {ahead : Nat} (enough : 3 ≤ kbc.nacks (reads.responses + ahead))
    (counted : tries = kbc.nacks reads.responses) (below : tries < 3) : kbc.Returns arg tries reads := by
  induction ahead generalizing tries reads with
  | zero =>
      rw [Nat.add_zero, ← counted] at enough
      omega
  | succ ahead ih =>
      refine returns_of_next below fun next after goesOn => ih ?_ ?_ goesOn.below
      · rw [goesOn.responses, Nat.add_assoc, Nat.add_comm 1]
        exact enough
      · rw [goesOn.responses, nacks_succ, goesOn.tries, counted]

theorem returns_of_settles (settles : kbc.Settles) : kbc.Returns arg 0 ⟨0, 0⟩ := by
  rcases settles with ⟨position, busy⟩ | ⟨position, response⟩ | ⟨count, enough⟩
  · rw [← Nat.zero_add position] at busy
    exact returns_of_busy busy (by decide)
  · rw [← Nat.zero_add position] at response
    exact returns_of_response response (by decide)
  · rw [← Nat.zero_add count] at enough
    exact returns_of_nacks enough rfl (by decide)

/-- The command returns after finitely many accesses, with 0 after an ACK and 1
otherwise, precisely when the KBC settles it. -/
theorem mouseCommand_returns_iff :
    (∃ accesses code reads, kbc.mouseCommand arg accesses = ⟨reads, .done (.inr code)⟩ ∧
      (code = 0 ∧ kbc.Acked reads ∨ code = 1 ∧ ¬ kbc.Acked reads)) ↔ kbc.Settles := by
  constructor
  · rintro ⟨accesses, code, reads, returned, _⟩
    obtain ⟨count, turned⟩ := Call.returns_iff.mp ⟨accesses, returned⟩
    exact settles_of_turns (Nat.succ_pos 2) rfl turned
  · intro settles
    obtain ⟨count, isSome⟩ := @returns_of_settles kbc arg settles
    obtain ⟨⟨code, reads⟩, turned⟩ := Option.isSome_iff_exists.mp isSome
    obtain ⟨accesses, returned⟩ := Call.returns_iff.mpr ⟨count, turned⟩
    exact ⟨accesses, code, reads, returned, code_of_turns (Nat.succ_pos 2) (fun acked => absurd acked.1 (by decide)) turned⟩

/-- A mouse that is always ready and always answers with zero. -/
def zeros : KbcStreams := { status := fun _ => 0, response := fun _ => 0 }

theorem zeros_never_returns :
    ¬ ∃ accesses code reads, zeros.mouseCommand 0xf4 accesses = ⟨reads, .done (.inr code)⟩ := by
  rintro ⟨accesses, code, reads, returned⟩
  obtain ⟨count, turned⟩ := Call.returns_iff.mp ⟨accesses, returned⟩
  have settles : zeros.Settles := settles_of_turns (Nat.succ_pos 2) rfl turned
  rcases settles with ⟨position, busy, _⟩ | ⟨position, isAck | isError⟩ | ⟨count, enough⟩
  · exact absurd (show (0 : UInt8) &&& ibf = 0 by decide) busy
  · exact absurd (show (0 : UInt8) = ack from isAck) (by decide)
  · exact absurd (show (0 : UInt8) = error from isError) (by decide)
  · have none : zeros.nacks count = 0 := by simp [nacks, zeros, nack]
    omega

end KbcStreams

end SimonVs.Labs
