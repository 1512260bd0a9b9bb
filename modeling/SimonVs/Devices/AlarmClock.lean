import Mathlib.Logic.Relation
import SimonVs.Data.BitFields
import SimonVs.Data.Transducer
import SimonVs.Devices.Rtc
import SimonVs.Input
import SimonVs.Loop.Run

namespace SimonVs.Devices

open Data PortIo Relation

def secondsReg : UInt8 := 0
def secondsAlarm : UInt8 := 1
def minutesReg : UInt8 := 2
def minutesAlarm : UInt8 := 3
def hoursReg : UInt8 := 4
def hoursAlarm : UInt8 := 5
def registerC : UInt8 := 12

def afBit : UInt8 := bit 5
def ufBit : UInt8 := bit 4
def pfBit : UInt8 := bit 6

def intToBcd (number : Nat) : UInt8 := UInt8.ofNat (number % 10) ||| (UInt8.ofNat (number / 10) <<< 4)

/-- The value that stands for any second, minute or hour. -/
def anyTime : UInt8 := 0xc0

/-- The two accesses that every change of a register takes. -/
def writeRegister (register value : UInt8) : PortIo Unit := do
  sysOutb rtcAddrReg register
  sysOutb rtcDataReg value

def readRegister (register : UInt8) : PortIo UInt8 := do
  sysOutb rtcAddrReg register
  sysInb rtcDataReg

def setSecondsAlarm : PortIo Unit := do
  let byte := anyTime
  writeRegister secondsAlarm byte
  writeRegister minutesAlarm byte
  writeRegister hoursAlarm byte

def setTimedAlarm (seconds : UInt8) : PortIo Unit := do
  let byte := anyTime
  let data ← readRegister secondsReg
  let now := bcdToInt data
  writeRegister secondsAlarm (intToBcd ((now + seconds.toNat) % 60))
  writeRegister minutesAlarm byte
  writeRegister hoursAlarm byte

def clearInterruptions : PortIo UInt8 := readRegister registerC

/-- The two settings that the games use. -/
def setAlarm : Alarm → PortIo Unit
  | .everySecond => setSecondsAlarm
  | .timed seconds => setTimedAlarm (UInt8.ofNat seconds)

structure AlarmClock where
  selected : UInt8
  registers : UInt8 → UInt8
  /-- the seconds that have passed since some minute began -/
  time : Nat

namespace AlarmClock

/-- A read of register C clears it. -/
def bus : Bus AlarmClock Unit where
  out clock port value :=
    if port = rtcAddrReg then { clock with selected := value }
    else if port = rtcDataReg then
      { clock with registers := Function.update clock.registers clock.selected value }
    else clock
  inp clock port _ :=
    if port = rtcDataReg then
      (clock.registers clock.selected,
       if clock.selected = registerC then { clock with registers := Function.update clock.registers registerC 0 }
       else clock)
    else (0, clock)

def updatesInhibited (clock : AlarmClock) : Bool := clock.registers registerB &&& setBit != 0

/-- The two highest bits of an alarm register make it match any time. -/
def matchesAlarm (alarm value : UInt8) : Bool := alarm &&& anyTime == anyTime || alarm == value

def setFlags (clock : AlarmClock) (flags : UInt8) : AlarmClock :=
  { clock with registers := Function.update clock.registers registerC (clock.registers registerC ||| flags) }

/-- The next second. The minutes and the hours are what the chip makes of them. -/
def tick (clock : AlarmClock) (minutes hours : UInt8) : AlarmClock :=
  if clock.updatesInhibited then clock
  else
    let seconds := intToBcd ((clock.time + 1) % 60)
    let rings := matchesAlarm (clock.registers secondsAlarm) seconds &&
      matchesAlarm (clock.registers minutesAlarm) minutes && matchesAlarm (clock.registers hoursAlarm) hours
    setFlags
      { clock with
        time := clock.time + 1
        registers := Function.update (Function.update (Function.update clock.registers
          secondsReg seconds) minutesReg minutes) hoursReg hours }
      (if rings then ufBit ||| afBit else ufBit)

inductive Ticks (clock : AlarmClock) : AlarmClock → Prop where
  | tick (minutes hours : UInt8) : Ticks clock (clock.tick minutes hours)

abbrev Later (clock later : AlarmClock) : Prop := ReflTransGen Ticks clock later

/-- What happens after an alarm has been set: a second, the periodic flag, which
nothing has asked for, or a call of `rtc_handler`. -/
inductive Happening where
  | tick (minutes hours : UInt8)
  | periodic
  | handle

def step (clock : AlarmClock) : Happening → AlarmClock × Option RtcInt
  | .tick minutes hours => (clock.tick minutes hours, none)
  | .periodic => (clock.setFlags pfBit, none)
  | .handle =>
      let cleared := clearInterruptions.exec bus clock
      (cleared.2, some (rtcHandler cleared.1))

/-- The seconds register shows the time, and the updates are not inhibited. -/
structure Runs (clock : AlarmClock) : Prop where
  seconds : clock.registers secondsReg = intToBcd (clock.time % 60)
  going : clock.updatesInhibited = false

end AlarmClock

/-- An alarm for a second of each minute, or for every second, and what has
happened since it was last looked at. -/
structure Bell where
  time : Nat
  phase : Option Nat
  alarm : Bool
  update : Bool
  periodic : Bool
deriving DecidableEq, Repr

namespace Bell

def rings (bell : Bell) : Bool := bell.phase.all (bell.time % 60 == ·)

/-- Flags that have been raised are seen by the next call of the handler. -/
def step (bell : Bell) : AlarmClock.Happening → Bell × Option RtcInt
  | .tick _ _ =>
      let bell := { bell with time := bell.time + 1 }
      ({ bell with alarm := bell.alarm || bell.rings, update := true }, none)
  | .periodic => ({ bell with periodic := true }, none)
  | .handle =>
      ({ bell with alarm := false, update := false, periodic := false },
       some (if bell.alarm then .alarm else if bell.update then .update
         else if bell.periodic then .periodic else .rtcNoInt))

/-- The second of the minute for an alarm that is set at a time. -/
def phaseOf (time : Nat) : Alarm → Option Nat
  | .everySecond => none
  | .timed seconds => some ((time + seconds % 256) % 60)

end Bell

theorem bcdToInt_intToBcd {number : Nat} (small : number < 60) : bcdToInt (intToBcd number) = number := by
  have all : ∀ number < 60, bcdToInt (intToBcd number) = number := by decide
  exact all number small

theorem intToBcd_and_anyTime {number : Nat} (small : number < 60) : (intToBcd number &&& anyTime == anyTime) = false := by
  have all : ∀ number < 60, (intToBcd number &&& anyTime == anyTime) = false := by decide
  exact all number small

namespace AlarmClock

variable {clock later : AlarmClock} {phase : Option Nat}

theorem matchesAlarm_any (value : UInt8) : matchesAlarm anyTime value = true := rfl

theorem matchesAlarm_bcd {second now : Nat} (small : second < 60) (smallNow : now < 60) :
    matchesAlarm (intToBcd second) (intToBcd now) = (now == second) := by
  rw [matchesAlarm, intToBcd_and_anyTime small, Bool.false_or]
  by_cases same : now = second
  · rw [same, beq_self_eq_true, beq_self_eq_true]
  · have other : intToBcd second ≠ intToBcd now := fun bcd => same <| by
      rw [← bcdToInt_intToBcd small, bcd, bcdToInt_intToBcd smallNow]
    rw [beq_eq_false_iff_ne.mpr other, beq_eq_false_iff_ne.mpr same]

/-- The registers that the chip changes by itself. -/
def moving (register : UInt8) : Bool :=
  register == secondsReg || register == minutesReg || register == hoursReg || register == registerC

/-- Time has passed, and the other registers are what they were. -/
structure Onward (before after : AlarmClock) : Prop where
  time : before.time ≤ after.time
  runs : before.Runs → after.Runs
  registers : ∀ register, moving register = false → after.registers register = before.registers register

theorem Onward.refl (clock : AlarmClock) : clock.Onward clock := ⟨Nat.le_refl _, id, fun _ _ => rfl⟩

theorem Onward.trans {a b c : AlarmClock} (ab : a.Onward b) (bc : b.Onward c) : a.Onward c where
  time := Nat.le_trans ab.time bc.time
  runs := bc.runs ∘ ab.runs
  registers register still := (bc.registers register still).trans (ab.registers register still)

theorem registers_tick (going : clock.updatesInhibited = false) (minutes hours register : UInt8)
    (other : register ≠ registerC) :
    (clock.tick minutes hours).registers register =
      if register = hoursReg then hours else if register = minutesReg then minutes
      else if register = secondsReg then intToBcd ((clock.time + 1) % 60) else clock.registers register := by
  simp [tick, going, setFlags, Function.update_apply, other]

theorem onward_tick (clock : AlarmClock) (minutes hours : UInt8) : clock.Onward (clock.tick minutes hours) := by
  by_cases inhibited : clock.updatesInhibited = true
  · rw [tick, if_pos inhibited]
    exact .refl clock
  · have going : clock.updatesInhibited = false := by simpa using inhibited
    have time : (clock.tick minutes hours).time = clock.time + 1 := by
      rw [tick, if_neg inhibited]
      rfl
    have registers (register : UInt8) (still : moving register = false) :
        (clock.tick minutes hours).registers register = clock.registers register := by
      simp only [moving, Bool.or_eq_false_iff, beq_eq_false_iff_ne] at still
      obtain ⟨⟨⟨seconds, minute⟩, hour⟩, flags⟩ := still
      rw [registers_tick going minutes hours register flags, if_neg hour, if_neg minute, if_neg seconds]
    refine ⟨by omega, fun _ => ⟨?_, ?_⟩, registers⟩
    · rw [registers_tick going minutes hours secondsReg (by decide), time]
      rfl
    · rw [updatesInhibited, registers registerB rfl]
      exact going

theorem onward_later (moves : clock.Later later) : clock.Onward later ∧ later.selected = clock.selected := by
  induction moves with
  | refl => exact ⟨.refl clock, rfl⟩
  | tail _ last ih =>
      cases last with
      | tick minutes hours =>
          refine ⟨ih.1.trans (onward_tick _ minutes hours), ?_⟩
          rw [← ih.2, tick]
          split
          · rfl
          · rfl

theorem onward_select (clock : AlarmClock) (register : UInt8) : clock.Onward { clock with selected := register } :=
  ⟨Nat.le_refl _, fun runs => ⟨runs.seconds, runs.going⟩, fun _ _ => rfl⟩

theorem wp_writeRegister {register value : UInt8} {post : Unit → AlarmClock → Prop} (still : moving register = false)
    (other : register ≠ registerB)
    (holds : ∀ after, clock.time ≤ after.time → (clock.Runs → after.Runs) → after.registers register = value →
      (∀ another, moving another = false → another ≠ register →
        after.registers another = clock.registers another) → post () after) :
    (writeRegister register value).wp bus Later post clock := by
  rw [writeRegister, wp_bind, wp_sysOutb]
  intro first start
  rw [wp_sysOutb]
  intro second further
  have further : Later { first with selected := register } second := further
  obtain ⟨onward, selected⟩ := onward_later further
  have onward := ((onward_later start).1.trans (onward_select first register)).trans onward
  have written : bus.out second rtcDataReg value =
      { second with registers := Function.update second.registers register value } := by
    have address : rtcDataReg ≠ rtcAddrReg := by decide
    simp only [bus, if_neg address, if_true, selected]
  have notSeconds : secondsReg ≠ register := fun same => by
    rw [← same] at still
    cases still
  rw [written]
  refine holds _ onward.time (fun runs => ?_) (Function.update_self _ _ _) fun another unmoved different => ?_
  · have now := onward.runs runs
    refine ⟨(Function.update_of_ne notSeconds _ _).trans now.seconds, ?_⟩
    have kept : Function.update second.registers register value registerB = second.registers registerB :=
      Function.update_of_ne other.symm _ _
    simp only [updatesInhibited, kept]
    exact now.going
  · exact (Function.update_of_ne different _ _).trans (onward.registers another unmoved)

theorem wp_readSeconds {post : UInt8 → AlarmClock → Prop} (runs : clock.Runs)
    (holds : ∀ after, clock.Onward after → post (intToBcd (after.time % 60)) after) :
    (readRegister secondsReg).wp bus Later post clock := by
  rw [readRegister, wp_bind, wp_sysOutb]
  intro first start
  rw [wp_sysInb]
  rintro second ⟨⟩ further
  have further : Later { first with selected := secondsReg } second := further
  obtain ⟨onward, selected⟩ := onward_later further
  have onward := ((onward_later start).1.trans (onward_select first secondsReg)).trans onward
  have read : bus.inp second rtcDataReg () = (second.registers secondsReg, second) := by
    have notC : secondsReg ≠ registerC := by decide
    simp only [bus, if_true, selected, if_neg notC]
  rw [read, (onward.runs runs).seconds]
  exact holds second onward

/-- The flags of register C. -/
def bell (clock : AlarmClock) (phase : Option Nat) : Bell where
  time := clock.time
  phase := phase
  alarm := clock.registers registerC &&& afBit != 0
  update := clock.registers registerC &&& ufBit != 0
  periodic := clock.registers registerC &&& pfBit != 0

structure Rings (clock : AlarmClock) (phase : Option Nat) : Prop where
  runs : clock.Runs
  below : ∀ second ∈ phase, second < 60
  seconds : clock.registers secondsAlarm = (phase.map intToBcd).getD anyTime
  minutes : clock.registers minutesAlarm = anyTime
  hours : clock.registers hoursAlarm = anyTime

theorem Rings.onward (rings : clock.Rings phase) (onward : clock.Onward later) : later.Rings phase where
  runs := onward.runs rings.runs
  below := rings.below
  seconds := (onward.registers secondsAlarm rfl).trans rings.seconds
  minutes := (onward.registers minutesAlarm rfl).trans rings.minutes
  hours := (onward.registers hoursAlarm rfl).trans rings.hours

theorem Rings.matches (rings : clock.Rings phase) (now : Nat) :
    matchesAlarm (clock.registers secondsAlarm) (intToBcd (now % 60)) = phase.all (now % 60 == ·) := by
  rw [rings.seconds]
  cases phase with
  | none => exact matchesAlarm_any _
  | some second => exact matchesAlarm_bcd (rings.below second rfl) (Nat.mod_lt _ (by decide))

theorem bell_setFlags (clock : AlarmClock) (phase : Option Nat) (raised : UInt8) :
    (clock.setFlags raised).bell phase =
      { clock.bell phase with
        alarm := (clock.bell phase).alarm || (raised &&& afBit != 0)
        update := (clock.bell phase).update || (raised &&& ufBit != 0)
        periodic := (clock.bell phase).periodic || (raised &&& pfBit != 0) } := by
  simp only [bell, setFlags, Function.update_self, or_and_flag]

/-- The register that is selected and the flags do not matter. -/
theorem onward_flags (clock : AlarmClock) (selected flags : UInt8) :
    clock.Onward { clock with selected, registers := Function.update clock.registers registerC flags } := by
  have kept (register : UInt8) (other : register ≠ registerC) :
      Function.update clock.registers registerC flags register = clock.registers register :=
    Function.update_of_ne other _ _
  refine ⟨Nat.le_refl _, fun runs => ⟨?_, ?_⟩, fun register still => kept register fun same => ?_⟩
  · exact (kept secondsReg (by decide)).trans runs.seconds
  · simp only [updatesInhibited, kept registerB (by decide)]
    exact runs.going
  · rw [same] at still
    cases still

theorem bell_tick (rings : clock.Rings phase) (minutes hours : UInt8) :
    (clock.tick minutes hours).bell phase = ((clock.bell phase).step (.tick minutes hours)).1 := by
  have going : ¬ clock.updatesInhibited = true := by simp [rings.runs.going]
  have untouched (seconds : UInt8) : Function.update (Function.update (Function.update clock.registers
      secondsReg seconds) minutesReg minutes) hoursReg hours registerC = clock.registers registerC := by
    rw [Function.update_of_ne (by decide), Function.update_of_ne (by decide), Function.update_of_ne (by decide)]
  rw [tick, if_neg going]
  dsimp only
  rw [bell_setFlags, rings.matches, rings.minutes, rings.hours, matchesAlarm_any, matchesAlarm_any, Bool.and_true,
    Bool.and_true]
  simp only [bell, Bell.step, Bell.rings, untouched]
  cases phase.all ((clock.time + 1) % 60 == ·) with
  | false =>
      have flags : (ufBit &&& afBit != 0) = false ∧ (ufBit &&& ufBit != 0) = true ∧ (ufBit &&& pfBit != 0) = false := by
        decide
      simp only [Bool.false_eq_true, if_false, flags.1, flags.2.1, flags.2.2, Bool.or_false, Bool.or_true]
  | true =>
      have flags : ((ufBit ||| afBit) &&& afBit != 0) = true ∧ ((ufBit ||| afBit) &&& ufBit != 0) = true ∧
          ((ufBit ||| afBit) &&& pfBit != 0) = false := by decide
      simp only [if_true, flags.1, flags.2.1, flags.2.2, Bool.or_false, Bool.or_true]

/-- A step of the chip is one of the abstract alarm. -/
theorem Rings.step (rings : clock.Rings phase) (happening : Happening) :
    (clock.step happening).1.Rings phase ∧
    (clock.step happening).1.bell phase = ((clock.bell phase).step happening).1 ∧
    (clock.step happening).2 = ((clock.bell phase).step happening).2 := by
  cases happening with
  | tick minutes hours => exact ⟨rings.onward (onward_tick clock minutes hours), bell_tick rings minutes hours, rfl⟩
  | periodic =>
      have flags : (pfBit &&& afBit != 0) = false ∧ (pfBit &&& ufBit != 0) = false ∧ (pfBit &&& pfBit != 0) = true := by
        decide
      refine ⟨rings.onward (onward_flags clock clock.selected _), ?_, rfl⟩
      rw [AlarmClock.step, bell_setFlags, flags.1, flags.2.1, flags.2.2, Bool.or_false, Bool.or_false, Bool.or_true]
      rfl
  | handle =>
      refine ⟨rings.onward (onward_flags clock registerC 0), ?_, rfl⟩
      have cleared : (clock.step .handle).1 =
          { clock with selected := registerC, registers := Function.update clock.registers registerC 0 } := rfl
      rw [cleared]
      simp only [bell, Function.update_self, UInt8.zero_and]
      rfl

/-- Whatever happens afterwards, the handler sees what it would see of the
abstract alarm. -/
theorem Rings.refines (rings : clock.Rings phase) (happenings : List Happening) :
    answers AlarmClock.step clock happenings = answers Bell.step (clock.bell phase) happenings := by
  refine (answers_related (fun clock bell => clock.Rings phase ∧ clock.bell phase = bell)
    (fun clock bell happening holds => ?_) ⟨rings, rfl⟩).1
  obtain ⟨rings, rfl⟩ := holds
  obtain ⟨still, same, answer⟩ := rings.step happening
  exact ⟨⟨still, same⟩, answer⟩

/-- The last two registers of either setting. -/
theorem wp_anyMinute {post : Unit → AlarmClock → Prop} (runs : clock.Runs) (below : ∀ second ∈ phase, second < 60)
    (seconds : clock.registers secondsAlarm = (phase.map intToBcd).getD anyTime)
    (holds : ∀ after, clock.time ≤ after.time → after.Rings phase → post () after) :
    (writeRegister minutesAlarm anyTime >>= fun _ => writeRegister hoursAlarm anyTime).wp bus Later post clock := by
  rw [wp_bind]
  refine wp_writeRegister rfl (by decide) fun first passed stillRuns minutes others => ?_
  refine wp_writeRegister rfl (by decide) fun second further runsOn hours othersToo => ?_
  refine holds second (Nat.le_trans passed further) ⟨runsOn (stillRuns runs), below, ?_, ?_, hours⟩
  · rw [othersToo secondsAlarm rfl (by decide), others secondsAlarm rfl (by decide)]
    exact seconds
  · rw [othersToo minutesAlarm rfl (by decide)]
    exact minutes

/-- Setting the alarm, beside the ticks of the clock. From then on the handler of
the RTC sees alarms precisely when they were asked for: every second, or in the
second of each minute that lies so many seconds after the one that was read. -/
theorem alarm_as_set (clock : AlarmClock) (runs : clock.Runs) (alarm : Alarm) :
    (setAlarm alarm).wp bus Later
      (fun _ after => ∃ read, clock.time ≤ read ∧ read ≤ after.time ∧ ∀ happenings,
        answers step after happenings = answers Bell.step (after.bell (Bell.phaseOf read alarm)) happenings)
      clock := by
  cases alarm with
  | everySecond =>
      rw [setAlarm, setSecondsAlarm, wp_bind]
      refine wp_writeRegister rfl (by decide) fun first passed stillRuns seconds _ => ?_
      refine @wp_anyMinute first none _ (stillRuns runs) (fun _ none => nomatch none) seconds fun after further rings => ?_
      exact ⟨clock.time, Nat.le_refl _, Nat.le_trans passed further, rings.refines⟩
  | timed seconds =>
      rw [setAlarm, setTimedAlarm, wp_bind]
      refine wp_readSeconds runs fun read onward => ?_
      rw [wp_bind]
      refine wp_writeRegister rfl (by decide) fun first passed stillRuns alarm _ => ?_
      have now : bcdToInt (intToBcd (read.time % 60)) = read.time % 60 := bcdToInt_intToBcd (Nat.mod_lt _ (by decide))
      have phase : (read.time % 60 + (UInt8.ofNat seconds).toNat) % 60 = (read.time + seconds % 256) % 60 := by
        rw [UInt8.toNat_ofNat', Nat.mod_add_mod]
      rw [now, phase] at alarm
      refine @wp_anyMinute first (some ((read.time + seconds % 256) % 60)) _ (stillRuns (onward.runs runs)) ?_ alarm
        fun after further rings => ?_
      · rintro _ ⟨⟩
        exact Nat.mod_lt _ (by decide)
      · exact ⟨read.time, onward.time, Nat.le_trans passed further, rings.refines⟩

/-- Three seconds before the minute is full. -/
def beforeTheMinute : AlarmClock :=
  { selected := 0, time := 57, registers := fun register => if register = secondsReg then 0x57 else 0 }

/-- The end of a game asks for an alarm after five seconds. -/
theorem alarm_as_set_five :
    (setAlarm (.timed 5)).wp bus Later
      (fun _ after => ∃ read, beforeTheMinute.time ≤ read ∧ read ≤ after.time ∧ ∀ happenings,
        answers step after happenings = answers Bell.step (after.bell (Bell.phaseOf read (.timed 5))) happenings)
      beforeTheMinute ∧
    answers step ((setAlarm (.timed 5)).exec bus beforeTheMinute).2
      [.tick 0 0, .tick 0 0, .tick 1 0, .tick 1 0, .handle, .tick 1 0, .handle] =
      [none, none, none, none, some .update, none, some .alarm] :=
  ⟨alarm_as_set beforeTheMinute ⟨by decide, by decide⟩ (.timed 5), by decide⟩

end AlarmClock

end SimonVs.Devices
