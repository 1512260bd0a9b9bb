import Mathlib.Logic.Function.Basic
import SimonVs.Data.Ports
import SimonVs.Data.Run
import SimonVs.Devices.Keyboard

namespace SimonVs.Devices

open Data PortIo

/-! The real time clock and `get_date` (`rtc.c`). The clock moves on by itself:
between two port accesses the date may be replaced. -/

def rtcAddrReg : Nat := 0x70
def rtcDataReg : Nat := 0x71

def dayReg : UInt8 := 7
def monthReg : UInt8 := 8
def yearReg : UInt8 := 9
def registerA : UInt8 := 10
def registerB : UInt8 := 11

def uipBit : UInt8 := bit 7
def uieBit : UInt8 := bit 4
def setBit : UInt8 := bit 7

/-- `struct date` -/
structure Date where
  year : Nat
  month : Nat
  day : Nat
deriving DecidableEq, Repr

/-- `reg_b = reg_b & mask`, which both of the following do. -/
def maskRegisterB (mask : UInt8) : PortIo Unit := do
  sysOutb rtcAddrReg registerB
  let regB ← sysInb rtcDataReg
  let regB := regB &&& mask
  sysOutb rtcAddrReg registerB
  sysOutb rtcDataReg regB

def enableUpdates : PortIo Unit := maskRegisterB (~~~setBit)

def disableUpdates : PortIo Unit := maskRegisterB (~~~uieBit)

def bcdToInt (number : UInt8) : Nat := (number &&& 0x0f).toNat + (number >>> 4).toNat * 10

/-- `none` is the return value `false`, with the date left as it was. -/
def readDate : PortIo (Option Date) := do
  sysOutb rtcAddrReg registerA
  let regA ← sysInb rtcDataReg
  if regA &&& uipBit ≠ 0 then
    return none
  else
    sysOutb rtcAddrReg yearReg
    let year ← sysInb rtcDataReg
    sysOutb rtcAddrReg monthReg
    let month ← sysInb rtcDataReg
    sysOutb rtcAddrReg dayReg
    let day ← sysInb rtcDataReg
    return some ⟨bcdToInt year, bcdToInt month, bcdToInt day⟩

/-- One turn of the loop of `get_date`. -/
def getDateTurn (_ : Unit) : PortIo (Unit ⊕ Date) := do
  disableUpdates
  let gotDate ← readDate
  enableUpdates
  match gotDate with
  | none => return .inl ()
  | some newDate => return .inr newDate

/-- The three registers of a date, in BCD. -/
structure BcdDate where
  year : UInt8
  month : UInt8
  day : UInt8
deriving DecidableEq, Repr

def BcdDate.toDate (date : BcdDate) : Date := ⟨bcdToInt date.year, bcdToInt date.month, bcdToInt date.day⟩

/-- The order of the dates of one century. -/
def BcdDate.Later (date earlier : BcdDate) : Prop :=
  earlier.year < date.year ∨
    earlier.year = date.year ∧ (earlier.month < date.month ∨ earlier.month = date.month ∧ earlier.day < date.day)

instance (date earlier : BcdDate) : Decidable (date.Later earlier) :=
  inferInstanceAs (Decidable (_ ∨ _))

structure Rtc where
  /-- the register that the data port stands for -/
  selected : UInt8
  registers : UInt8 → UInt8
  /-- the register of the last read, of this call -/
  lastRead : Option UInt8
  /-- the dates that were in the registers during this call -/
  held : List BcdDate

namespace Rtc

def date (rtc : Rtc) : BcdDate := ⟨rtc.registers yearReg, rtc.registers monthReg, rtc.registers dayReg⟩

def record (rtc : Rtc) : Rtc := { rtc with held := rtc.date :: rtc.held }

def updatesInhibited (rtc : Rtc) : Bool := rtc.registers registerB &&& setBit != 0

def setDate (rtc : Rtc) (date : BcdDate) : Rtc :=
  { rtc with
    registers := Function.update (Function.update (Function.update rtc.registers
      yearReg date.year) monthReg date.month) dayReg date.day }

def update (rtc : Rtc) (date : BcdDate) : Rtc :=
  if rtc.updatesInhibited then rtc else (rtc.setDate date).record

/-- A read of register A gives any byte; all other reads give what the register has. -/
def bus : Bus Rtc UInt8 where
  out rtc port value :=
    if port = rtcAddrReg then { rtc with selected := value }
    else if port = rtcDataReg then
      record { rtc with registers := Function.update rtc.registers rtc.selected value }
    else rtc
  inp rtc port choice :=
    if port = rtcDataReg then
      (if rtc.selected = registerA then choice else rtc.registers rtc.selected,
       { rtc with lastRead := some rtc.selected })
    else (choice, rtc)

end Rtc

/-- A call of `get_date` that has come some way. -/
abbrev GetDate := Call Rtc Unit Date

/-- An update of the clock, or the next port access of the call, with a choice for the
reads of register A. -/
inductive RtcEvent where
  | update (date : BcdDate)
  | access (choice : UInt8)
deriving DecidableEq

namespace GetDate

def start (selected : UInt8) (registers : UInt8 → UInt8) : GetDate :=
  { device := Rtc.record { selected, registers, lastRead := none, held := [] }, program := getDateTurn () }

/-- What happens after the call does not count. -/
def step (call : GetDate) (event : RtcEvent) : GetDate :=
  if call.result?.isSome then call
  else
    match event with
    | .update date => { call with device := call.device.update date }
    | .access choice => call.access Rtc.bus getDateTurn choice

end GetDate

/-- What has been read of the date in this turn is still in the registers. -/
structure Rtc.KeepsRead (rtc : Rtc) (date : BcdDate) : Prop where
  year : rtc.lastRead = some yearReg ∨ rtc.lastRead = some monthReg → date.year = rtc.date.year
  month : rtc.lastRead = some monthReg → date.month = rtc.date.month

/-- The condition on an event: an update that takes effect between the reads
of the year and of the day keeps what has been read. -/
def GetDate.Unmixed (call : GetDate) : RtcEvent → Prop
  | .update date => call.device.updatesInhibited = false → call.device.KeepsRead date
  | .access _ => True

instance (rtc : Rtc) (date : BcdDate) : Decidable (rtc.KeepsRead date) :=
  decidable_of_iff ((rtc.lastRead = some yearReg ∨ rtc.lastRead = some monthReg → date.year = rtc.date.year) ∧
      (rtc.lastRead = some monthReg → date.month = rtc.date.month))
    ⟨fun both => ⟨both.1, both.2⟩, fun keeps => ⟨keeps.year, keeps.month⟩⟩

instance (call : GetDate) : (event : RtcEvent) → Decidable (call.Unmixed event)
  | .update date => inferInstanceAs (Decidable (call.device.updatesInhibited = false → call.device.KeepsRead date))
  | .access _ => inferInstanceAs (Decidable True)

/-- What then holds of the clock at a later access, up to the next read. -/
structure Rtc.Since (before after : Rtc) : Prop where
  lastRead : after.lastRead = before.lastRead
  held : ∀ date ∈ before.held, date ∈ after.held
  date : before.date ∈ before.held → after.date ∈ after.held
  keeps : before.KeepsRead after.date

/-- What the code can rely on between two accesses. -/
structure Rtc.Rely (before after : Rtc) : Prop extends before.Since after where
  selected : after.selected = before.selected

namespace Rtc

variable {rtc : Rtc} {date : BcdDate}

theorem Since.refl (rtc : Rtc) : rtc.Since rtc := ⟨rfl, fun _ member => member, id, fun _ => rfl, fun _ => rfl⟩

theorem Since.trans {a b c : Rtc} (first : a.Since b) (second : b.Since c) : a.Since c where
  lastRead := second.lastRead.trans first.lastRead
  held date member := second.held date (first.held date member)
  date member := second.date (first.date member)
  keeps :=
    { year := fun read => (second.keeps.year (by rwa [first.lastRead])).trans (first.keeps.year read)
      month := fun read => (second.keeps.month (by rwa [first.lastRead])).trans (first.keeps.month read) }

theorem Rely.refl (rtc : Rtc) : rtc.Rely rtc := ⟨.refl rtc, rfl⟩

theorem Rely.trans {a b c : Rtc} (first : a.Rely b) (second : b.Rely c) : a.Rely c :=
  ⟨first.toSince.trans second.toSince, second.selected.trans first.selected⟩

@[simp] theorem setDate_date : (rtc.setDate date).date = date := by
  simp [setDate, Rtc.date, Function.update, yearReg, monthReg, dayReg]

@[simp] theorem record_date : rtc.record.date = rtc.date := rfl

theorem rely_update (keeps : rtc.updatesInhibited = false → rtc.KeepsRead date) : rtc.Rely (rtc.update date) := by
  cases inhibited : rtc.updatesInhibited with
  | true =>
      have same : rtc.update date = rtc := if_pos inhibited
      rw [same]
      exact .refl rtc
  | false =>
      have moved : rtc.update date = (rtc.setDate date).record := if_neg (by simp [inhibited])
      rw [moved]
      refine ⟨⟨rfl, fun earlier member => List.mem_cons_of_mem _ member, fun _ => List.mem_cons_self, ?_⟩, rfl⟩
      rw [record_date, setDate_date]
      exact keeps inhibited

/-- The clock has held its date and the dates in `seen` during the call. -/
structure Knows (seen : List BcdDate) (rtc : Rtc) : Prop where
  now : rtc.date ∈ rtc.held
  seen : ∀ date ∈ seen, date ∈ rtc.held

variable {seen : List BcdDate} {moved : Rtc} {port : Nat} {value choice : UInt8}

theorem Knows.since (knows : Knows seen rtc) (since : rtc.Since moved) : Knows seen moved :=
  ⟨since.date knows.now, fun date member => since.held date (knows.seen date member)⟩

theorem Knows.out (knows : Knows seen rtc) : Knows seen (bus.out rtc port value) := by
  simp only [bus]
  split
  · exact ⟨knows.now, knows.seen⟩
  · split
    · exact ⟨List.mem_cons_self, fun date member => List.mem_cons_of_mem _ (knows.seen date member)⟩
    · exact knows

theorem Knows.inp (knows : Knows seen rtc) : Knows seen (bus.inp rtc port choice).2 := by
  simp only [bus]
  split
  · exact ⟨knows.now, knows.seen⟩
  · exact knows

theorem maskRegisterB_knows {mask : UInt8} (knows : Knows seen rtc) :
    (maskRegisterB mask).wp bus Rely (fun _ after => Knows seen after) rtc := by
  simp only [maskRegisterB, wp_bind, wp_sysOutb, wp_sysInb]
  intro _ first _ _ second _ third _ fourth
  have atRead := (knows.since first.toSince).out.since second.toSince
  exact ((atRead.inp.since third.toSince).out.since fourth.toSince).out

/-- A register is read in two accesses, with the clock going on before each. -/
theorem wp_read {β : Type} {register : UInt8} {after : UInt8 → PortIo β} {post : β → Rtc → Prop}
    (reads : ∀ found byte, rtc.Since found → (register ≠ registerA → byte = found.registers register) →
      (after byte).wp bus Rely post { found with lastRead := some register }) :
    (sysOutb rtcAddrReg register >>= fun _ => sysInb rtcDataReg >>= after).wp bus Rely post rtc := by
  simp only [wp_bind, wp_sysOutb, wp_sysInb]
  intro before first found choice second
  have chosen : found.selected = register := second.selected
  have since : rtc.Since found := first.toSince.trans
    ⟨second.lastRead, second.held, second.date, second.keeps.year, second.keeps.month⟩
  have result := reads found (if register = registerA then choice else found.registers register) since
    fun other => if_neg other
  rw [← chosen] at result
  exact result

/-- What the three reads have found. -/
def Found (found : Option Date) (rtc : Rtc) : Prop :=
  match found with
  | none => Knows [] rtc
  | some date => ∃ held : BcdDate, date = held.toDate ∧ Knows [held] rtc

/-- The date found is the one at the last read: the registers read before it
have not changed since. -/
theorem readDate_found (knows : Knows [] rtc) : readDate.wp bus Rely Found rtc := by
  unfold readDate
  refine wp_read fun status regA since _ => ?_
  have knowsStatus := knows.since since
  split
  · exact ⟨knowsStatus.now, knowsStatus.seen⟩
  · refine wp_read fun atYear year sinceStatus yearRead => ?_
    refine wp_read fun atMonth month sinceYear monthRead => ?_
    refine wp_read fun atDay day sinceMonth dayRead => ?_
    have yearKept : atMonth.date.year = atYear.date.year := sinceYear.keeps.year (.inl rfl)
    have yearKeptAgain : atDay.date.year = atMonth.date.year := sinceMonth.keeps.year (.inr rfl)
    have monthKept : atDay.date.month = atMonth.date.month := sinceMonth.keeps.month rfl
    have recorded : atDay.date ∈ atDay.held :=
      sinceMonth.date (sinceYear.date (sinceStatus.date knowsStatus.now))
    refine ⟨atDay.date, ?_, recorded, ?_⟩
    · rw [yearRead (by decide), monthRead (by decide), dayRead (by decide), BcdDate.toDate, yearKeptAgain,
        yearKept, monthKept]
      rfl
    · simpa using recorded

/-- What a turn of the loop has reached. -/
def Turned (result : Unit ⊕ Date) (rtc : Rtc) : Prop :=
  match result with
  | .inl _ => Knows [] rtc
  | .inr date => ∃ held : BcdDate, date = held.toDate ∧ Knows [held] rtc

theorem getDateTurn_turned (knows : Knows [] rtc) : (getDateTurn ()).wp bus Rely Turned rtc := by
  simp only [getDateTurn, disableUpdates, enableUpdates, wp_bind]
  refine wp_mono (maskRegisterB_knows knows) fun _ disabled knowsDisabled => ?_
  refine wp_mono (readDate_found knowsDisabled) fun found read reached => ?_
  cases found with
  | none => exact wp_mono (maskRegisterB_knows reached) fun _ enabled knowsEnabled => knowsEnabled
  | some date =>
      obtain ⟨held, decoded, knowsHeld⟩ := reached
      exact wp_mono (maskRegisterB_knows knowsHeld) fun _ enabled knowsEnabled => ⟨held, decoded, knowsEnabled⟩

theorem Turned.rely {result : Unit ⊕ Date} (turned : Turned result rtc) (rely : rtc.Rely moved) :
    Turned result moved := by
  cases result with
  | inl again => exact Knows.since turned rely.toSince
  | inr date =>
      obtain ⟨held, decoded, knows⟩ := turned
      exact ⟨held, decoded, knows.since rely.toSince⟩

end Rtc

namespace GetDate

variable {call : GetDate} {event : RtcEvent} {events : List RtcEvent} {selected : UInt8}
variable {registers : UInt8 → UInt8} {date : Date}

/-- The call ends well from here. -/
def Safe (call : GetDate) : Prop := call.program.wp Rtc.bus Rtc.Rely Rtc.Turned call.device

theorem start_safe : (start selected registers).Safe :=
  Rtc.getDateTurn_turned ⟨List.mem_cons_self, fun _ member => nomatch member⟩

theorem step_safe (safe : call.Safe) (unmixed : call.Unmixed event) : (call.step event).Safe := by
  unfold step
  split
  · exact safe
  · cases event with
    | update date =>
        have stable : ∀ result (a b : Rtc), a.Rely b → Rtc.Turned result a → Rtc.Turned result b :=
          fun _ _ _ rely turned => turned.rely rely
        refine wp_rely ?_ stable (Rtc.rely_update unmixed) safe
        exact fun a b c first second => first.trans second
    | access choice =>
        exact wp_resume (fun _ _ turned => Rtc.getDateTurn_turned turned) (wp_advance Rtc.Rely.refl safe)

theorem Safe.held (safe : call.Safe) (returned : call.result? = some date) :
    ∃ held ∈ call.device.held, date = held.toDate := by
  unfold Safe at safe
  unfold Call.result? at returned
  split at returned
  · next same =>
      cases returned
      rw [same] at safe
      obtain ⟨held, decoded, knows⟩ := safe
      exact ⟨held, knows.seen held List.mem_cons_self, decoded⟩
  · cases returned

/-- A call whose reads are not mixed returns a date that the clock held during it. -/
theorem returns_held (unmixed : Along step Unmixed (start selected registers) events)
    (returned : (run step (start selected registers) events).result? = some date) :
    ∃ held ∈ (run step (start selected registers) events).device.held, date = held.toDate := by
  have safe : (run step (start selected registers) events).Safe :=
    run_invariant Safe (fun _ _ holds good => step_safe holds good) start_safe unmixed
  exact safe.held returned

/-- The last day of 2020, in the registers of a clock with all else zero. -/
def newYearsEve : UInt8 → UInt8 := fun register =>
  if register = yearReg then 0x20 else if register = monthReg then 0x12 else if register = dayReg then 0x31 else 0

/-- The accesses of one turn: four to mask register B, two for each register
read, four again. -/
def accesses (count : Nat) : List RtcEvent := List.replicate count (.access 0)

/-- Midnight before the year is read. -/
theorem returns_held_new_year :
    ∃ held ∈ (run step (start 0 newYearsEve) (accesses 7 ++ .update ⟨0x21, 0x01, 0x01⟩ :: accesses 9)).device.held,
      (⟨21, 1, 1⟩ : Date) = held.toDate :=
  returns_held (by decide) (by decide)

/-- Midnight between the reads of the year and of the month. -/
theorem year_of_the_eve :
    BcdDate.Later ⟨0x21, 0x01, 0x01⟩ ⟨0x20, 0x12, 0x31⟩ ∧
    let call := run step (start 0 newYearsEve) (accesses 8 ++ .update ⟨0x21, 0x01, 0x01⟩ :: accesses 8)
    call.result? = some ⟨20, 1, 1⟩ ∧ ¬ ∃ held ∈ call.device.held, (⟨20, 1, 1⟩ : Date) = held.toDate := by
  decide

end GetDate

end SimonVs.Devices
