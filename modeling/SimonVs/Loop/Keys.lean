import SimonVs.Loop.Run

namespace SimonVs

open Data Devices

/-- A scancode as the keyboard sends it. The second byte of a two-byte scancode
may be any. -/
inductive Scancode where
  | one (byte : UInt8) (plain : byte ≠ twoByteScancodePrefix)
  | two (second : UInt8)

namespace Scancode

def bytes : Scancode → List UInt8
  | one byte _ => [byte]
  | two second => [twoByteScancodePrefix, second]

def OneByte : Scancode → Prop
  | one _ _ => True
  | two _ => False

/-- The key press that a scancode stands for. -/
def decode (uninitialised : Nat) : Scancode → KeyPress
  | one byte _ => keyPressOf { first := byte, second := 0 } uninitialised
  | two second => keyPressOf { first := twoByteScancodePrefix, second } uninitialised

theorem length_le (scancodes : List Scancode) : scancodes.length ≤ (scancodes.flatMap bytes).length := by
  induction scancodes with
  | nil => exact Nat.le_refl _
  | cons scancode rest ih =>
      rw [List.flatMap_cons, List.length_append, List.length_cons, Nat.add_comm]
      cases scancode with
      | one byte plain => exact Nat.add_le_add_left ih 1
      | two second => exact Nat.add_le_add (Nat.le_succ 1) ih

theorem oneByte_of_length {scancodes : List Scancode}
    (same : (scancodes.flatMap bytes).length = scancodes.length) : ∀ scancode ∈ scancodes, scancode.OneByte := by
  induction scancodes with
  | nil => intro scancode member; cases member
  | cons scancode rest ih =>
      have least := length_le rest
      rw [List.flatMap_cons, List.length_append, List.length_cons] at same
      cases scancode with
      | one byte plain =>
          simp only [bytes, List.length_singleton] at same
          exact List.forall_mem_cons.mpr ⟨trivial, ih (by omega)⟩
      | two second =>
          simp only [bytes, List.length_cons, List.length_nil] at same
          omega

end Scancode

theorem keyPressOf_one {byte : UInt8} (plain : byte ≠ twoByteScancodePrefix) (second second' : UInt8)
    (uninitialised uninitialised' : Nat) :
    keyPressOf { first := byte, second } uninitialised =
      keyPressOf { first := byte, second := second' } uninitialised' := by
  simp [keyPressOf, scancodeGetSize, plain, assembleKeyPress, ScancodeBytes.last]

/-- An error-free byte of the keyboard. -/
def Notification.CarriesKey (notification : Notification) : Prop :=
  notification.hasKeyboard = true ∧ notification.kbc.Good

instance (notification : Notification) : Decidable notification.CarriesKey := inferInstanceAs (Decidable (_ ∧ _))

/-- The key presses handed to the screens. -/
def delivered (calls : List (Notification × Flags)) : List KeyPress :=
  (calls.filter fun call => call.2.gotKeyPress).map fun call => call.2.keyboardPacket

namespace Loop

variable {σ : Type} {loop : Loop σ} {notification : Notification}

theorem take_keyboard (loop : Loop σ) (notification : Notification) :
    (loop.take notification).keyboard = (loop.takeKeyboard notification).keyboard ∧
    (loop.take notification).flags.gotKeyPress = (loop.takeKeyboard notification).flags.gotKeyPress ∧
    (loop.take notification).flags.keyboardPacket = (loop.takeKeyboard notification).flags.keyboardPacket := by
  have mouse (loop : Loop σ) : (loop.takeMouse notification).keyboard = loop.keyboard ∧
      (loop.takeMouse notification).flags.gotKeyPress = loop.flags.gotKeyPress ∧
      (loop.takeMouse notification).flags.keyboardPacket = loop.flags.keyboardPacket := by
    unfold takeMouse
    split
    · split <;> exact ⟨rfl, rfl, rfl⟩
    · exact ⟨rfl, rfl, rfl⟩
  have rtc (loop : Loop σ) : (loop.takeRtc notification).keyboard = loop.keyboard ∧
      (loop.takeRtc notification).flags.gotKeyPress = loop.flags.gotKeyPress ∧
      (loop.takeRtc notification).flags.keyboardPacket = loop.flags.keyboardPacket := by
    unfold takeRtc
    split
    · split <;> exact ⟨rfl, rfl, rfl⟩
    · exact ⟨rfl, rfl, rfl⟩
  have uart (loop : Loop σ) : (loop.takeUart notification).keyboard = loop.keyboard ∧
      (loop.takeUart notification).flags.gotKeyPress = loop.flags.gotKeyPress ∧
      (loop.takeUart notification).flags.keyboardPacket = loop.flags.keyboardPacket := by
    unfold takeUart
    split <;> exact ⟨rfl, rfl, rfl⟩
  unfold take
  refine ⟨?_, ?_, ?_⟩
  · rw [(uart _).1, (rtc _).1]
    exact (mouse _).1
  · rw [(uart _).2.1, (rtc _).2.1]
    exact (mouse _).2.1
  · rw [(uart _).2.2, (rtc _).2.2]
    exact (mouse _).2.2

theorem take_carries (carries : notification.CarriesKey) :
    (loop.take notification).flags.gotKeyPress = true := by
  rw [(take_keyboard loop notification).2.1]
  simp only [takeKeyboard, carries.1, if_true, keyboardHandler_good carries.2]

/-- A one-byte scancode after a complete one is decoded at once. -/
theorem take_oneByte (carries : notification.CarriesKey) (complete : loop.keyboard.assembliedWord = true)
    (plain : notification.kbc.outBuf ≠ twoByteScancodePrefix) (uninitialised : Nat) :
    (loop.take notification).keyboard.assembliedWord = true ∧
    (loop.take notification).flags.keyboardPacket =
      (Scancode.one notification.kbc.outBuf plain).decode uninitialised := by
  have scan : keyboardGetScancode loop.keyboard.bytes notification.kbc.outBuf loop.keyboard.assembliedWord =
      ({ loop.keyboard.bytes with first := notification.kbc.outBuf }, true) := by
    simp [keyboardGetScancode, complete, plain]
  obtain ⟨keyboard, _, packet⟩ := take_keyboard loop notification
  rw [keyboard, packet]
  simp only [takeKeyboard, carries.1, if_true, keyboardHandler_good carries.2, scan]
  exact ⟨trivial, keyPressOf_one plain _ _ _ _⟩

variable (eventHandler : σ → Flags → σ × Bool)

theorem length_delivered {notifications : List Notification}
    (carries : ∀ notification ∈ notifications, notification.CarriesKey) (loop : Loop σ) :
    (delivered (loop.callsFor eventHandler notifications)).length = notifications.length := by
  induction notifications generalizing loop with
  | nil => rfl
  | cons notification rest ih =>
      obtain ⟨first, others⟩ := List.forall_mem_cons.mp carries
      have later := ih others (loop.step eventHandler notification)
      simp only [delivered, callsFor, List.filter_cons, take_carries first, if_true, List.map_cons,
        List.length_cons] at later ⊢
      rw [later]

theorem delivered_oneByte {scancodes : List Scancode} {notifications : List Notification} {loop : Loop σ}
    (uninitialised : Nat) (carries : ∀ notification ∈ notifications, notification.CarriesKey)
    (stream : notifications.map (fun notification => notification.kbc.outBuf) = scancodes.flatMap Scancode.bytes)
    (oneByte : ∀ scancode ∈ scancodes, scancode.OneByte) (complete : loop.keyboard.assembliedWord = true) :
    delivered (loop.callsFor eventHandler notifications) = scancodes.map (Scancode.decode uninitialised) := by
  induction scancodes generalizing notifications loop with
  | nil =>
      rw [List.flatMap_nil, List.map_eq_nil_iff] at stream
      rw [stream]
      rfl
  | cons scancode rest ih =>
      obtain ⟨first, others⟩ := List.forall_mem_cons.mp oneByte
      cases scancode with
      | two second => cases first
      | one byte plain =>
          cases notifications with
          | nil => cases stream
          | cons notification later =>
              obtain ⟨rfl, tail⟩ := List.cons.inj stream
              obtain ⟨carriesFirst, carriesRest⟩ := List.forall_mem_cons.mp carries
              obtain ⟨completeAfter, packet⟩ := take_oneByte carriesFirst complete plain uninitialised
              have completeNext : (loop.step eventHandler notification).keyboard.assembliedWord = true :=
                completeAfter
              have following := ih carriesRest tail others completeNext
              simp only [delivered, callsFor, List.filter_cons, take_carries carriesFirst, if_true,
                List.map_cons, packet] at following ⊢
              rw [following]

/-- For an error-free stream of scancodes, all of it received, the screens get
one key press for every scancode precisely when none has two bytes. -/
theorem keys_delivered_iff {scancodes : List Scancode} {notifications : List Notification} {loop : Loop σ}
    (complete : loop.keyboard.assembliedWord = true)
    (carries : ∀ notification ∈ notifications, notification.CarriesKey)
    (stream : notifications.map (fun notification => notification.kbc.outBuf) = scancodes.flatMap Scancode.bytes)
    (received : loop.received eventHandler notifications = notifications) (uninitialised : Nat) :
    delivered (loop.calls eventHandler notifications) = scancodes.map (Scancode.decode uninitialised) ↔
      ∀ scancode ∈ scancodes, scancode.OneByte := by
  rw [calls, received]
  refine ⟨fun same => ?_, fun oneByte => delivered_oneByte eventHandler uninitialised carries stream oneByte complete⟩
  apply Scancode.oneByte_of_length
  calc (scancodes.flatMap Scancode.bytes).length
      = notifications.length := by rw [← stream, List.length_map]
    _ = (delivered (loop.callsFor eventHandler notifications)).length :=
        (length_delivered eventHandler carries loop).symm
    _ = scancodes.length := by rw [same, List.length_map]

def keyNotification (byte : UInt8) : Notification :=
  { interrupts := Notification.irq 1, kbc := { statReg := 1, outBuf := byte }, uninitialisedKey := 0
    mousePacket := none, registerC := 0, uartType := .modStat, uartByte := 0 }

def watching (_ : Unit) (_ : Flags) : Unit × Bool := ((), false)

def typedA : Loop Unit := (start ()).step watching (keyNotification 0x9e)

/-- The letter "b" after it arrives once when pressed and once when released. -/
theorem keys_delivered_letter :
    delivered (typedA.calls watching [keyNotification 0x30, keyNotification 0xb0]) =
      [{ key := 0, down := true }, { key := 'b'.toNat, down := false }] := by
  have both := (@keys_delivered_iff Unit watching [.one 0x30 (by decide), .one 0xb0 (by decide)]
    [keyNotification 0x30, keyNotification 0xb0] typedA (by decide) (by decide) (by decide) (by decide) 0).mpr
    (by simp [Scancode.OneByte])
  rw [both]
  decide

/-- The arrow "up" after it delivers the letter once more. -/
theorem prefix_redelivers :
    delivered (typedA.calls watching [keyNotification 0xE0, keyNotification 0xC8]) =
      [{ key := 'a'.toNat, down := false }, { key := 19, down := false }] ∧
    delivered (typedA.calls watching [keyNotification 0xE0, keyNotification 0xC8]) ≠
      [Scancode.two 0xC8].map (Scancode.decode 0) := by
  decide +kernel

end Loop

end SimonVs
