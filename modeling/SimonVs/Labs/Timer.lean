import Mathlib.Logic.Function.Basic
import SimonVs.Data.BitFields
import SimonVs.Data.Ports
import SimonVs.Data.Run
import SimonVs.Devices.Keyboard

namespace SimonVs.Labs

open Data PortIo Devices

/-! The timers of the i8254 (`lab2/timer.c`, `lab2/lab2.c`). The calls of the
kernel succeed. -/

def timerFreq : Nat := 1193182

/-- `TIMER_0` to `TIMER_2` -/
def timerPort (timer : Fin 3) : Nat := 0x40 + timer.val
def timerCtrl : Nat := 0x43

/-- `TIMER_SEL0` to `TIMER_SEL2` -/
def timerSel (timer : Fin 3) : UInt8 := UInt8.ofNat (timer.val <<< 6)
def timerLsbMsb : UInt8 := bit 4 ||| bit 5
def timerBin : UInt8 := 0
def timerRbCmd : UInt8 := bit 7 ||| bit 6
def timerRbCount : UInt8 := bit 5
def timerRbSel (timer : Fin 3) : UInt8 := bit (timer.val + 1)

def utilGetLSB (value : UInt16) : UInt8 := (value &&& 0xff).toUInt8
def utilGetMSB (value : UInt16) : UInt8 := ((value &&& 0xff00) >>> 8).toUInt8

def timerGetConf (timer : Fin 3) : PortIo UInt8 := do
  let rbc := timerRbCmd ||| timerRbCount ||| timerRbSel timer
  sysOutb timerCtrl rbc
  sysInb (timerPort timer)

def timerSetFrequency (timer : Fin 3) (freq : UInt32) : PortIo Nat := do
  if freq.toNat < 19 ∨ freq.toNat > timerFreq then return 1
  else
    let st ← timerGetConf timer
    let savefb := st &&& 0x0f
    sysOutb timerCtrl (timerSel timer ||| timerLsbMsb ||| savefb)
    let divisor := UInt16.ofNat (timerFreq / freq.toNat)
    sysOutb (timerPort timer) (utilGetLSB divisor)
    sysOutb (timerPort timer) (utilGetMSB divisor)
    return 0

/-- `enum timer_status_field` -/
inductive TimerStatusField where
  | all
  | initial
  | mode
  | base
deriving DecidableEq, Repr

/-- `union timer_status_field_val` -/
inductive TimerStatusFieldVal where
  | byte (st : UInt8)
  | inMode (value : UInt8)
  | countMode (value : UInt8)
  | bcd (value : Bool)
deriving DecidableEq, Repr

/-- What `timer_display_conf` prints. -/
def timerDisplayConf (st : UInt8) : TimerStatusField → TimerStatusFieldVal
  | .all => .byte st
  | .initial => .inMode ((st &&& timerLsbMsb) >>> 4)
  | .mode => .countMode ((st &&& 0xf) >>> 1)
  | .base => .bcd (!(timerBin &&& st == 1))

/-- The number of a timer, if it is one. -/
def timerOf (timer : UInt8) : Option (Fin 3) := if small : timer.toNat < 3 then some ⟨timer.toNat, small⟩ else none

def timerTestReadConfig (timer : UInt8) (field : TimerStatusField) : PortIo (Option TimerStatusFieldVal) :=
  match timerOf timer with
  | none => return none
  | some timer => do
      let st ← timerGetConf timer
      return some (timerDisplayConf st field)

def timerTestTimeBase (timer : UInt8) (freq : UInt32) : PortIo Nat :=
  match timerOf timer with
  | none => return 1
  | some timer => timerSetFrequency timer freq

/-- A timer of the chip: its last control word, the two highest bits of its status,
which it changes by itself, its count, the low byte of one whose high byte has not
come yet, and a status that waits to be read. Counts are never read. -/
structure Counter where
  control : UInt8
  moving : UInt8
  count : Nat
  low : Option UInt8
  latched : Option UInt8
deriving DecidableEq, Repr

namespace Counter

def status (counter : Counter) : UInt8 := (counter.moving &&& 0xc0) ||| (counter.control &&& 0x3f)

def latchStatus (counter : Counter) : Counter :=
  { counter with latched := some (counter.latched.getD counter.status) }

def writeControl (counter : Counter) (word : UInt8) : Counter := { counter with control := word &&& 0x3f, low := none }

/-- A byte of the count, as the bits for it in the control word say. -/
def writeCount (counter : Counter) (byte : UInt8) : Counter :=
  if counter.control &&& timerLsbMsb = timerLsbMsb then
    match counter.low with
    | none => { counter with low := some byte }
    | some low => { counter with low := none, count := low.toNat + 256 * byte.toNat }
  else if counter.control &&& timerLsbMsb = bit 4 then { counter with count := byte.toNat }
  else { counter with count := 256 * byte.toNat }

end Counter

abbrev I8254 := Fin 3 → Counter

namespace I8254

/-- A byte that is read without a latched status is chosen. -/
def bus : Bus I8254 UInt8 where
  out chip port value :=
    if port = timerCtrl then
      if value &&& timerRbCmd = timerRbCmd then
        fun timer => if value &&& timerRbSel timer ≠ 0 ∧ value &&& bit 4 = 0 then (chip timer).latchStatus else chip timer
      else fun timer => if value &&& timerRbCmd = timerSel timer then (chip timer).writeControl value else chip timer
    else fun timer => if port = timerPort timer then (chip timer).writeCount value else chip timer
  inp chip port choice :=
    match (List.finRange 3).find? fun timer => port = timerPort timer with
    | none => (choice, chip)
    | some timer =>
        ((chip timer).latched.getD choice, Function.update chip timer { chip timer with latched := none })

def Drifts (chip later : I8254) : Prop := ∀ timer, ∃ moving, later timer = { chip timer with moving }

end I8254

/-- What a caller knows of a timer: how it counts, and from where. -/
structure Setting where
  config : UInt8
  count : Nat
deriving DecidableEq, Repr

abbrev Settings := Fin 3 → Setting

inductive TimerCall where
  | timeBase (timer : UInt8) (freq : UInt32)
  | readConfig (timer : UInt8) (field : TimerStatusField)
deriving DecidableEq, Repr

inductive TimerAnswer where
  | returned (value : Nat)
  | printed (value : Option TimerStatusFieldVal)
deriving DecidableEq, Repr

def TimerCall.perform : TimerCall → PortIo TimerAnswer
  | timeBase timer freq => do
      let value ← timerTestTimeBase timer freq
      return .returned value
  | readConfig timer field => do
      let value ← timerTestReadConfig timer field
      return .printed value

def performAll : List TimerCall → PortIo (List TimerAnswer)
  | [] => return []
  | call :: rest => do
      let answer ← call.perform
      let answers ← performAll rest
      return answer :: answers

/-- The frequencies that can be set. -/
def Settable (freq : UInt32) : Prop := 19 ≤ freq.toNat ∧ freq.toNat ≤ timerFreq

instance (freq : UInt32) : Decidable (Settable freq) := inferInstanceAs (Decidable (_ ∧ _))

namespace Settings

/-- The mode and the base are kept. -/
def setFrequency (settings : Settings) (timer : Fin 3) (freq : UInt32) : Settings :=
  if Settable freq then
    Function.update settings timer
      { config := timerLsbMsb ||| ((settings timer).config &&& 0x0f), count := timerFreq / freq.toNat }
  else settings

def step (settings : Settings) : TimerCall → Settings
  | .timeBase timer freq =>
      match timerOf timer with
      | none => settings
      | some timer => settings.setFrequency timer freq
  | .readConfig _ _ => settings

end Settings

/-- What may be printed of a timer. The base is always said to be BCD. -/
def Setting.Prints (setting : Setting) : TimerStatusField → TimerStatusFieldVal → Prop
  | .all, value => ∃ st, value = .byte st ∧ st &&& 0x3f = setting.config
  | .initial, value => value = .inMode ((setting.config &&& timerLsbMsb) >>> 4)
  | .mode, value => value = .countMode ((setting.config &&& 0x0f) >>> 1)
  | .base, value => value = .bcd true

def Settings.Answers (settings : Settings) : TimerCall → TimerAnswer → Prop
  | .timeBase timer freq, answer =>
      answer = .returned (if (timerOf timer).isSome ∧ Settable freq then 0 else 1)
  | .readConfig timer field, answer =>
      match timerOf timer with
      | none => answer = .printed none
      | some timer => ∃ value, answer = .printed (some value) ∧ (settings timer).Prints field value

/-- The answers to calls, each by the settings it finds. -/
inductive Settings.Answered : Settings → List TimerCall → List TimerAnswer → Prop where
  | nil (settings : Settings) : Answered settings [] []
  | cons {settings : Settings} {call : TimerCall} {answer : TimerAnswer} {rest : List TimerCall}
      {answers : List TimerAnswer} (answered : settings.Answers call answer)
      (later : Answered (settings.step call) rest answers) : Answered settings (call :: rest) (answer :: answers)

/-- A counter that has been set so, with what has not been written or read yet. -/
structure Counter.Holds (counter : Counter) (setting : Setting) (low latched : Option UInt8) : Prop where
  control : counter.control &&& 0x3f = setting.config
  count : counter.count = setting.count
  low : counter.low = low
  latched : counter.latched = latched

def I8254.Shows (chip : I8254) (settings : Settings) : Prop := ∀ timer, (chip timer).Holds (settings timer) none none

theorem toNat_utilGetLSB (value : UInt16) : (utilGetLSB value).toNat = value.toNat % 256 := by
  have mask : value.toNat &&& 255 = value.toNat % 256 := Nat.and_two_pow_sub_one_eq_mod value.toNat 8
  rw [utilGetLSB, UInt16.toNat_toUInt8, UInt16.toNat_and]
  exact (congrArg (· % 2 ^ 8) mask).trans (Nat.mod_mod _ 256)

theorem toNat_utilGetMSB (value : UInt16) : (utilGetMSB value).toNat = value.toNat / 256 := by
  have small : value.toNat / 256 < 256 := by
    have := value.toNat_lt
    omega
  have high : (value.toNat &&& 0xff00) >>> 8 = value.toNat / 256 := by
    rw [Nat.shiftRight_and_distrib, Nat.shiftRight_eq_div_pow]
    exact (Nat.and_two_pow_sub_one_eq_mod _ 8).trans (Nat.mod_eq_of_lt small)
  rw [utilGetMSB, UInt16.toNat_toUInt8, UInt16.toNat_shiftRight, UInt16.toNat_and]
  exact (congrArg (· % 2 ^ 8) high).trans (Nat.mod_eq_of_lt small)

theorem status_and (counter : Counter) : counter.status &&& 0x3f = counter.control &&& 0x3f := by
  have apart : (0xc0 : UInt8) &&& 0x3f = 0 := by decide
  have same : (0x3f : UInt8) &&& 0x3f = 0x3f := by decide
  rw [Counter.status, or_and_byte, UInt8.and_assoc, UInt8.and_assoc, apart, same, UInt8.and_zero, UInt8.zero_or]

theorem and_config {st config mask : UInt8} (shows : st &&& 0x3f = config) (still : 0x3f &&& mask = mask) :
    st &&& mask = config &&& mask := by
  rw [← shows, UInt8.and_assoc, still]

theorem prints_timerDisplayConf {st : UInt8} {setting : Setting} (shows : st &&& 0x3f = setting.config)
    (field : TimerStatusField) : setting.Prints field (timerDisplayConf st field) := by
  cases field with
  | all => exact ⟨st, rfl, shows⟩
  | initial =>
      have same := @and_config _ _ timerLsbMsb shows (by decide)
      rw [timerDisplayConf, same]
      rfl
  | mode =>
      have same := @and_config _ _ 0x0f shows (by decide)
      rw [timerDisplayConf, same]
      rfl
  | base =>
      have none : timerBin &&& st = 0 := UInt8.zero_and
      rw [timerDisplayConf, none]
      rfl

theorem Counter.Holds.drifts {counter : Counter} {setting : Setting} {low latched : Option UInt8}
    (holds : counter.Holds setting low latched) (moving : UInt8) :
    Counter.Holds { counter with moving } setting low latched :=
  ⟨holds.control, holds.count, holds.low, holds.latched⟩

namespace I8254

variable {chip later : I8254} {settings : Settings} {timer : Fin 3} {setting : Setting} {low latched : Option UInt8}

/-- A chip on which one timer is at work. -/
structure Busy (chip : I8254) (settings : Settings) (timer : Fin 3) (setting : Setting)
    (low latched : Option UInt8) : Prop where
  counter : (chip timer).Holds setting low latched
  others : ∀ other, other ≠ timer → (chip other).Holds (settings other) none none

theorem Shows.busy (shows : chip.Shows settings) (timer : Fin 3) :
    chip.Busy settings timer (settings timer) none none :=
  ⟨shows timer, fun other _ => shows other⟩

theorem Busy.shows (busy : chip.Busy settings timer setting none none) :
    chip.Shows (Function.update settings timer setting) := by
  intro other
  rw [Function.update_apply]
  split
  · next same =>
      rw [same]
      exact busy.counter
  · next other => exact busy.others _ other

theorem Busy.drifts (busy : chip.Busy settings timer setting low latched) (drifts : chip.Drifts later) :
    later.Busy settings timer setting low latched := by
  constructor
  · obtain ⟨moving, moved⟩ := drifts timer
    rw [moved]
    exact busy.counter.drifts moving
  · intro other differs
    obtain ⟨moving, moved⟩ := drifts other
    rw [moved]
    exact (busy.others other differs).drifts moving

/-- An access that changes one counter. -/
theorem Busy.change {next : Setting} {nextLow nextLatched : Option UInt8}
    (busy : chip.Busy settings timer setting low latched) (change : Counter → Counter)
    (changes : ∀ other, later other = if other = timer then change (chip other) else chip other)
    (holds : ∀ counter : Counter, counter.Holds setting low latched →
      (change counter).Holds next nextLow nextLatched) :
    later.Busy settings timer next nextLow nextLatched := by
  constructor
  · rw [changes timer, if_pos rfl]
    exact holds _ busy.counter
  · intro other differs
    rw [changes other, if_neg differs]
    exact busy.others other differs

theorem Busy.latch (busy : chip.Busy settings timer setting none none) :
    ∃ st, st &&& 0x3f = setting.config ∧
      Busy (bus.out chip timerCtrl (timerRbCmd ||| timerRbCount ||| timerRbSel timer)) settings timer setting none
        (some st) := by
  have command : ∀ timer : Fin 3, (timerRbCmd ||| timerRbCount ||| timerRbSel timer) &&& timerRbCmd = timerRbCmd := by
    decide
  have selects : ∀ timer other : Fin 3, ((timerRbCmd ||| timerRbCount ||| timerRbSel timer) &&& timerRbSel other ≠ 0 ∧
      (timerRbCmd ||| timerRbCount ||| timerRbSel timer) &&& bit 4 = 0) ↔ other = timer := by
    decide
  refine ⟨(chip timer).status, (status_and _).trans busy.counter.control, ?_⟩
  refine ⟨?_, fun other differs => ?_⟩
  · simp only [bus, if_true, command, selects, Counter.latchStatus, busy.counter.latched]
    exact ⟨busy.counter.control, busy.counter.count, busy.counter.low, rfl⟩
  · simp only [bus, if_true, command, selects, if_neg differs]
    exact busy.others other differs

theorem find_timerPort (timer : Fin 3) :
    ((List.finRange 3).find? fun other => decide (timerPort timer = timerPort other)) = some timer := by
  revert timer
  decide

theorem Busy.unlatch {st : UInt8} (busy : chip.Busy settings timer setting low (some st)) (choice : UInt8) :
    (bus.inp chip (timerPort timer) choice).1 = st ∧
    Busy (bus.inp chip (timerPort timer) choice).2 settings timer setting low none := by
  simp only [bus, find_timerPort]
  refine ⟨?_, busy.change ({ · with latched := none }) (fun other => ?_) fun counter holds => ?_⟩
  · rw [busy.counter.latched]
    rfl
  · rw [Function.update_apply]
    split
    · next same => rw [same]
    · rfl
  · exact ⟨holds.control, holds.count, holds.low, rfl⟩

theorem wp_timerGetConf {post : UInt8 → I8254 → Prop} (busy : chip.Busy settings timer setting none none)
    (holds : ∀ st after, st &&& 0x3f = setting.config → after.Busy settings timer setting none none → post st after) :
    (timerGetConf timer).wp bus Drifts post chip := by
  rw [timerGetConf, wp_bind, wp_sysOutb]
  intro asked first
  obtain ⟨st, config, latched⟩ := (busy.drifts first).latch
  rw [wp_sysInb]
  intro ready choice second
  obtain ⟨read, after⟩ := (latched.drifts second).unlatch choice
  rw [read]
  exact holds st _ config after

theorem Busy.configure {word : UInt8} (busy : chip.Busy settings timer setting low latched)
    (selects : word &&& timerRbCmd = timerSel timer) :
    Busy (bus.out chip timerCtrl word) settings timer { setting with config := word &&& 0x3f } none latched := by
  have command : ∀ timer : Fin 3, timerSel timer ≠ timerRbCmd := by decide
  have injective : ∀ timer other : Fin 3, timerSel timer = timerSel other ↔ other = timer := by decide
  have twice : (0x3f : UInt8) &&& 0x3f = 0x3f := by decide
  refine busy.change (·.writeControl word) (fun other => ?_) fun counter holds => ?_
  · simp only [bus, if_true, selects, if_neg (command timer), injective]
  · refine ⟨?_, holds.count, rfl, holds.latched⟩
    rw [Counter.writeControl, UInt8.and_assoc, twice]

theorem bus_out_timerPort (chip : I8254) (timer other : Fin 3) (byte : UInt8) :
    bus.out chip (timerPort timer) byte other =
      if other = timer then (chip other).writeCount byte else chip other := by
  have port : ∀ timer : Fin 3, timerPort timer ≠ timerCtrl := by decide
  have injective : ∀ timer other : Fin 3, timerPort timer = timerPort other ↔ other = timer := by decide
  simp only [bus, if_neg (port timer), injective]

theorem control_both {counter : Counter} (holds : counter.Holds setting low latched)
    (both : setting.config &&& timerLsbMsb = timerLsbMsb) : counter.control &&& timerLsbMsb = timerLsbMsb := by
  rw [and_config holds.control (by decide)]
  exact both

theorem Busy.writeLow (busy : chip.Busy settings timer setting none latched)
    (both : setting.config &&& timerLsbMsb = timerLsbMsb) (byte : UInt8) :
    Busy (bus.out chip (timerPort timer) byte) settings timer setting (some byte) latched := by
  refine busy.change (·.writeCount byte) (bus_out_timerPort chip timer · byte) fun counter holds => ?_
  rw [Counter.writeCount, if_pos (control_both holds both), holds.low]
  exact ⟨holds.control, holds.count, rfl, holds.latched⟩

theorem Busy.writeHigh {first : UInt8} (busy : chip.Busy settings timer setting (some first) latched)
    (both : setting.config &&& timerLsbMsb = timerLsbMsb) (byte : UInt8) :
    Busy (bus.out chip (timerPort timer) byte) settings timer
      { setting with count := first.toNat + 256 * byte.toNat } none latched := by
  refine busy.change (·.writeCount byte) (bus_out_timerPort chip timer · byte) fun counter holds => ?_
  rw [Counter.writeCount, if_pos (control_both holds both), holds.low]
  exact ⟨holds.control, rfl, rfl, holds.latched⟩

/-- The two bytes are the whole divisor. -/
theorem count_divisor {freq : UInt32} (settable : Settable freq) :
    (utilGetLSB (UInt16.ofNat (timerFreq / freq.toNat))).toNat +
      256 * (utilGetMSB (UInt16.ofNat (timerFreq / freq.toNat))).toNat = timerFreq / freq.toNat := by
  have small : timerFreq / freq.toNat < 2 ^ 16 :=
    Nat.lt_of_le_of_lt (Nat.div_le_div_left settable.1 (by decide)) (by decide)
  rw [toNat_utilGetLSB, toNat_utilGetMSB, UInt16.toNat_ofNat_of_lt' small]
  exact Nat.mod_add_div _ 256

theorem controlWord_bits {st : UInt8} (config : st &&& 0x3f = setting.config) (timer : Fin 3) :
    (timerSel timer ||| timerLsbMsb ||| (st &&& 0x0f)) &&& timerRbCmd = timerSel timer ∧
    (timerSel timer ||| timerLsbMsb ||| (st &&& 0x0f)) &&& 0x3f = timerLsbMsb ||| (setting.config &&& 0x0f) := by
  have high : ∀ timer : Fin 3, (timerSel timer ||| timerLsbMsb) &&& timerRbCmd = timerSel timer := by decide
  have low : ∀ timer : Fin 3, (timerSel timer ||| timerLsbMsb) &&& 0x3f = timerLsbMsb := by decide
  have apart : (0x0f : UInt8) &&& timerRbCmd = 0 := by decide
  have within : (0x0f : UInt8) &&& 0x3f = 0x0f := by decide
  constructor
  · rw [or_and_byte, high, UInt8.and_assoc, apart, UInt8.and_zero, UInt8.or_zero]
  · rw [or_and_byte, low, UInt8.and_assoc, within, and_config config (by decide)]

theorem wp_timerSetFrequency {freq : UInt32} {post : Nat → I8254 → Prop} (shows : chip.Shows settings)
    (holds : ∀ after : I8254, after.Shows (settings.setFrequency timer freq) →
      post (if Settable freq then 0 else 1) after) :
    (timerSetFrequency timer freq).wp bus Drifts post chip := by
  rw [timerSetFrequency]
  by_cases settable : Settable freq
  · rw [Settings.setFrequency, if_pos settable, if_pos settable] at holds
    rw [if_neg (by rintro (low | high); exacts [Nat.not_lt.mpr settable.1 low, Nat.not_lt.mpr settable.2 high]), wp_bind]
    refine wp_timerGetConf (shows.busy timer) fun st asked config busy => ?_
    obtain ⟨selects, kept⟩ := controlWord_bits config timer
    have both : (timerLsbMsb ||| ((settings timer).config &&& 0x0f)) &&& timerLsbMsb = timerLsbMsb := by
      have itself : timerLsbMsb &&& timerLsbMsb = timerLsbMsb := by decide
      have apart : (0x0f : UInt8) &&& timerLsbMsb = 0 := by decide
      rw [or_and_byte, UInt8.and_assoc, itself, apart, UInt8.and_zero, UInt8.or_zero]
    simp only [wp_bind, wp_sysOutb, wp_pure]
    intro first driftsFirst second driftsSecond third driftsThird
    have configured := (busy.drifts driftsFirst).configure selects
    rw [kept] at configured
    have lowWritten := (configured.drifts driftsSecond).writeLow both (utilGetLSB (UInt16.ofNat (timerFreq / freq.toNat)))
    have written := (lowWritten.drifts driftsThird).writeHigh both (utilGetMSB (UInt16.ofNat (timerFreq / freq.toNat)))
    dsimp only at written
    rw [count_divisor settable] at written
    exact holds _ written.shows
  · rw [Settings.setFrequency, if_neg settable, if_neg settable] at holds
    rw [if_pos (by rw [Settable] at settable; omega)]
    exact holds chip shows

theorem wp_perform {post : TimerAnswer → I8254 → Prop} (shows : chip.Shows settings) (call : TimerCall)
    (holds : ∀ answer after, settings.Answers call answer → after.Shows (settings.step call) → post answer after) :
    call.perform.wp bus Drifts post chip := by
  cases call with
  | timeBase timer freq =>
      rw [TimerCall.perform, wp_bind, timerTestTimeBase]
      simp only [Settings.Answers, Settings.step] at holds
      cases found : timerOf timer with
      | none =>
          rw [found] at holds
          exact holds _ chip rfl shows
      | some timer =>
          rw [found] at holds
          refine wp_timerSetFrequency shows fun after set => ?_
          refine holds _ after ?_ set
          simp
  | readConfig timer field =>
      rw [TimerCall.perform, wp_bind, timerTestReadConfig]
      simp only [Settings.Answers, Settings.step] at holds
      cases found : timerOf timer with
      | none =>
          rw [found] at holds
          exact holds _ chip rfl shows
      | some timer =>
          rw [found] at holds
          simp only [wp_bind]
          refine wp_timerGetConf (shows.busy timer) fun st after config busy => ?_
          refine holds _ after ⟨_, rfl, prints_timerDisplayConf config field⟩ ?_
          rw [← Function.update_eq_self timer settings]
          exact busy.shows

/-- Any calls, beside a chip that counts. Each of them answers by the settings it
finds, and sets nothing but the count and the way of loading of a timer that
exists, to a frequency that can be set. -/
theorem timers_as_set (chip : I8254) (settings : Settings) (shows : chip.Shows settings) (calls : List TimerCall) :
    (performAll calls).wp bus Drifts
      (fun answers after => settings.Answered calls answers ∧ after.Shows (run Settings.step settings calls)) chip := by
  induction calls generalizing chip settings with
  | nil => exact ⟨.nil settings, shows⟩
  | cons call rest ih =>
      rw [performAll, wp_bind]
      refine wp_perform shows call fun answer between answered set => ?_
      rw [wp_bind]
      refine wp_mono (ih between (settings.step call) set) fun answers after both => ?_
      exact ⟨.cons answered both.1, both.2⟩

def squareWaves : Settings := fun _ => { config := 0x36, count := 0 }

def counting : I8254 := fun _ => { control := 0x36, moving := 0x80, count := 0, low := none, latched := none }

/-- Timer 0 is set to 100 Hz; the other frequency and the other timer do not
exist. -/
def hundredHertz : List TimerCall := [.timeBase 0 100, .timeBase 1 18, .timeBase 3 100, .readConfig 0 .mode]

theorem timers_as_set_hundred :
    (performAll hundredHertz).wp bus Drifts
      (fun answers after => squareWaves.Answered hundredHertz answers ∧
        after.Shows (run Settings.step squareWaves hundredHertz)) counting ∧
    run Settings.step squareWaves hundredHertz 0 = { config := 0x36, count := 11931 } ∧
    run Settings.step squareWaves hundredHertz 1 = squareWaves 1 := by
  have config : (0x36 : UInt8) &&& 0x3f = 0x36 := by decide
  have shows : counting.Shows squareWaves := fun _ => ⟨config, rfl, rfl, rfl⟩
  exact ⟨timers_as_set counting squareWaves shows hundredHertz, by decide +kernel, by decide +kernel⟩

end I8254

end SimonVs.Labs
