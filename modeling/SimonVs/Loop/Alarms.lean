import SimonVs.Loop.Run

namespace SimonVs

open Data Devices

namespace Notification

def IsAlarm (notification : Notification) : Prop :=
  notification.hasRtc = true ∧ rtcHandler notification.registerC = .alarm

instance (notification : Notification) : Decidable notification.IsAlarm := inferInstanceAs (Decidable (_ ∧ _))

/-- The flags, but for the key press, say what the notification says. -/
structure Describes (notification : Notification) (flags : Flags) : Prop where
  rtc : flags.rtcInterrupt = true ↔ notification.IsAlarm
  mouse : flags.gotMousePacket = true ↔ notification.hasMouse = true ∧ notification.mousePacket.isSome = true
  timer : flags.timerInterrupt = true ↔ notification.hasTimer = true
  uart : flags.uartInterrupt = true ↔ notification.hasUart = true

end Notification

namespace Loop

variable {σ : Type} {loop : Loop σ} {notification : Notification}

/-- An RTC interrupt that is no alarm arrives while the flag of an alarm is
still set. -/
def KeepsAlarm (loop : Loop σ) (notification : Notification) : Prop :=
  loop.flags.rtcInterrupt = true ∧ notification.hasRtc = true ∧ rtcHandler notification.registerC ≠ .alarm

instance (loop : Loop σ) (notification : Notification) : Decidable (loop.KeepsAlarm notification) :=
  inferInstanceAs (Decidable (_ ∧ _ ∧ _))

theorem takeKeyboard_flags (loop : Loop σ) (notification : Notification) :
    ∃ got key, (loop.takeKeyboard notification).flags =
      { loop.flags with gotKeyPress := got, keyboardPacket := key } := by
  unfold takeKeyboard
  split <;> exact ⟨_, _, rfl⟩

theorem takeMouse_flags (loop : Loop σ) (notification : Notification) :
    ∃ packet, (loop.takeMouse notification).flags =
      { loop.flags with
        gotMousePacket := notification.hasMouse && notification.mousePacket.isSome, mousePacket := packet } := by
  unfold takeMouse
  cases notification.hasMouse with
  | false => exact ⟨_, rfl⟩
  | true => cases notification.mousePacket <;> exact ⟨_, rfl⟩

theorem takeUart_flags (loop : Loop σ) (notification : Notification) :
    ∃ type data, (loop.takeUart notification).flags =
      { loop.flags with
        uartInterrupt := notification.hasUart, uartTypeInterrupt := type, dataPacket := data } := by
  unfold takeUart
  cases notification.hasUart <;> exact ⟨_, _, rfl⟩

theorem takeRtc_flags (loop : Loop σ) (notification : Notification) :
    ∃ alarm, (loop.takeRtc notification).flags = { loop.flags with rtcInterrupt := alarm } ∧
      (alarm = true ↔ notification.IsAlarm ∨ loop.KeepsAlarm notification) := by
  unfold takeRtc
  by_cases rtc : notification.hasRtc = true
  · rw [if_pos rtc]
    by_cases alarm : rtcHandler notification.registerC = .alarm
    · rw [if_pos alarm]
      exact ⟨true, rfl, iff_of_true rfl (.inl ⟨rtc, alarm⟩)⟩
    · rw [if_neg alarm]
      refine ⟨loop.flags.rtcInterrupt, rfl, fun flag => .inr ⟨flag, rtc, alarm⟩, ?_⟩
      rintro (isAlarm | keeps)
      · exact absurd isAlarm.2 alarm
      · exact keeps.1
  · rw [if_neg rtc]
    refine ⟨false, rfl, iff_of_false Bool.false_ne_true ?_⟩
    rintro (isAlarm | keeps)
    · exact rtc isAlarm.1
    · exact rtc keeps.2.1

theorem take_flags (loop : Loop σ) (notification : Notification) :
    ((loop.take notification).flags.rtcInterrupt = true ↔
      notification.IsAlarm ∨ loop.KeepsAlarm notification) ∧
    ((loop.take notification).flags.gotMousePacket = true ↔
      notification.hasMouse = true ∧ notification.mousePacket.isSome = true) ∧
    ((loop.take notification).flags.timerInterrupt = true ↔ notification.hasTimer = true) ∧
    ((loop.take notification).flags.uartInterrupt = true ↔ notification.hasUart = true) := by
  obtain ⟨got, key, keyboard⟩ := takeKeyboard_flags loop notification
  obtain ⟨packet, mouse⟩ := takeMouse_flags (loop.takeKeyboard notification) notification
  obtain ⟨type, data, uart⟩ := takeUart_flags
    ((((loop.takeKeyboard notification).takeMouse notification).takeTimer notification).takeRtc notification)
    notification
  have timer : (((loop.takeKeyboard notification).takeMouse notification).takeTimer notification).flags =
      { ((loop.takeKeyboard notification).takeMouse notification).flags with
        timerInterrupt := notification.hasTimer } := rfl
  obtain ⟨alarm, rtc, found⟩ := takeRtc_flags
    (((loop.takeKeyboard notification).takeMouse notification).takeTimer notification) notification
  have same : (((loop.takeKeyboard notification).takeMouse notification).takeTimer notification).KeepsAlarm
      notification ↔ loop.KeepsAlarm notification := by
    unfold KeepsAlarm
    rw [timer, mouse, keyboard]
  rw [same] at found
  rw [take, uart, rtc, timer, mouse, keyboard]
  exact ⟨found, by simp, Iff.rfl, Iff.rfl⟩

variable (eventHandler : σ → Flags → σ × Bool)

theorem describes_iff : notification.Describes (loop.take notification).flags ↔ ¬ loop.KeepsAlarm notification := by
  obtain ⟨rtc, mouse, timer, uart⟩ := take_flags loop notification
  constructor
  · intro describes keeps
    have alarm := describes.rtc.mp (rtc.mpr (.inr keeps))
    exact keeps.2.2 alarm.2
  · intro fresh
    exact { rtc := rtc.trans (or_iff_left fresh), mouse := mouse, timer := timer, uart := uart }

theorem callsFor_describe_iff (loop : Loop σ) (notifications : List Notification) :
    (∀ call ∈ loop.callsFor eventHandler notifications, call.1.Describes call.2) ↔
    Along (step eventHandler) (fun loop notification => ¬ loop.KeepsAlarm notification) loop notifications := by
  induction notifications generalizing loop with
  | nil => simp [callsFor, Along]
  | cons notification rest ih => simp only [callsFor, List.forall_mem_cons, describes_iff, ih, Along]

/-- How often `event_handler` runs the RTC handler of a screen. -/
def ticks (calls : List (Notification × Flags)) : Nat := calls.countP fun call => call.2.rtcInterrupt

def alarms (notifications : List Notification) : Nat := notifications.countP fun notification => notification.IsAlarm

theorem ticks_callsFor (loop : Loop σ) (notifications : List Notification) :
    alarms notifications ≤ ticks (loop.callsFor eventHandler notifications) ∧
    (ticks (loop.callsFor eventHandler notifications) ≤ alarms notifications ↔
      Along (step eventHandler) (fun loop notification => ¬ loop.KeepsAlarm notification) loop notifications) := by
  induction notifications generalizing loop with
  | nil => simp [callsFor, ticks, alarms, Along]
  | cons notification rest ih =>
      obtain ⟨least, exact⟩ := ih (loop.step eventHandler notification)
      have rtc := (take_flags loop notification).1
      simp only [ticks, alarms] at least exact
      simp only [ticks, alarms, callsFor, List.countP_cons, Along, ← exact, decide_eq_true_eq, rtc]
      by_cases alarm : notification.IsAlarm
      · have fresh : ¬ loop.KeepsAlarm notification := fun keeps => keeps.2.2 alarm.2
        simp only [alarm, true_or, if_true, fresh, not_false_eq_true, true_and]
        omega
      · by_cases keeps : loop.KeepsAlarm notification
        · simp only [alarm, keeps, or_true, if_true, if_false, not_true_eq_false, false_and, iff_false]
          omega
        · simp only [alarm, keeps, or_false, if_false, not_false_eq_true, true_and]
          omega

/-- Every call of `event_handler` sees the flags of its own notification,
precisely when no RTC interrupt other than an alarm follows directly on one
whose flag is still set; and just then there is at most one tick for every
alarm. -/
theorem flags_current_iff (screens : σ) (notifications : List Notification) :
    ((∀ call ∈ (start screens).calls eventHandler notifications, call.1.Describes call.2) ↔
      Along (step eventHandler) (fun loop notification => ¬ loop.KeepsAlarm notification) (start screens)
        ((start screens).received eventHandler notifications)) ∧
    (ticks ((start screens).calls eventHandler notifications) ≤
        alarms ((start screens).received eventHandler notifications) ↔
      Along (step eventHandler) (fun loop notification => ¬ loop.KeepsAlarm notification) (start screens)
        ((start screens).received eventHandler notifications)) :=
  ⟨callsFor_describe_iff eventHandler _ _, (ticks_callsFor eventHandler _ _).2⟩

def rtcNotification (registerC : UInt8) : Notification :=
  { interrupts := Notification.irq 8, kbc := { statReg := 0, outBuf := 0 }, uninitialisedKey := 0, mousePacket := none
    registerC, uartType := .modStat, uartByte := 0 }

/-- The program in a game, where the next button is never a VS round. -/
def playing (game : Game) (flags : Flags) : Game × Bool :=
  (game.eventHandler { flags, clickRand := 1, tickRand := 1 }, false)

/-- A game in which player 2 has four seconds for the next button. -/
def oneButton : Game := (Game.confirm (.boot 0 fun _ => none) 3 1).handle (.click .redB 1)

/-- An alarm and then an update-ended interrupt: one second passes, and two are
counted. -/
theorem alarm_counted_twice :
    oneButton.timeLeftForClick = 4 ∧
    alarms ((start oneButton).received playing [rtcNotification 0x20, rtcNotification 0x10]) = 1 ∧
    ((start oneButton).run playing [rtcNotification 0x20, rtcNotification 0x10]).screens.timeLeftForClick = 2 ∧
    ¬ ∀ call ∈ (start oneButton).calls playing [rtcNotification 0x20, rtcNotification 0x10],
      call.1.Describes call.2 := by
  refine ⟨by decide, by decide +kernel, by decide +kernel, ?_⟩
  rw [calls, callsFor_describe_iff]
  decide +kernel

end Loop

end SimonVs
