import SimonVs.Data.Transducer
import SimonVs.Loop.Keys

namespace SimonVs

open Data Devices

/-- What an interrupt of the keyboard finds: the ports, `*key` and the stack. -/
structure KeyboardCall where
  read : KbcRead
  key : KeyPress
  uninitialised : Nat

namespace Devices

/-- `bytes[0..scancode_get_size(bytes[0]))` -/
def ScancodeBytes.scancode (bytes : ScancodeBytes) : List UInt8 :=
  [bytes.first, bytes.second].take (scancodeGetSize bytes.first)

/-- `keyboard_handler`, with the scancode that is there when
`keyboard_get_scancode` returns "true". -/
def Keyboard.segment (keyboard : Keyboard) (call : KeyboardCall) : Keyboard × Option (List UInt8) :=
  let after := (keyboardHandler keyboard call.key call.read call.uninitialised).1
  (after, if after.assembliedWord then some after.bytes.scancode else none)

/-- The same for a byte without an error. -/
def Keyboard.segmentByte (keyboard : Keyboard) (byte : UInt8) : Keyboard × Option (List UInt8) :=
  let scan := keyboardGetScancode keyboard.bytes byte keyboard.assembliedWord
  ({ kbcIhErr := false, kbcIhObf := true, kbcIhOutput := byte, assembliedWord := scan.2, bytes := scan.1 },
   if scan.2 then some scan.1.scancode else none)

theorem Keyboard.segment_good {call : KeyboardCall} (good : call.read.Good) (keyboard : Keyboard) :
    keyboard.segment call = keyboard.segmentByte call.read.outBuf := by
  unfold segment segmentByte
  rw [keyboardHandler_good good]

end Devices

namespace Scancode

/-- The answers that a scancode should get: the scancode with its last byte and
none before. -/
def segments : Scancode → List (Option (List UInt8))
  | one byte _ => [some [byte]]
  | two second => [none, some [twoByteScancodePrefix, second]]

variable {keyboard : Keyboard}

/-- A one-byte scancode is recognised unless a prefix has come before it. -/
theorem segment_oneByte (noPrefix : keyboard.assembliedWord = true ∨ keyboard.bytes.first ≠ twoByteScancodePrefix)
    {byte : UInt8} (plain : byte ≠ twoByteScancodePrefix) :
    (keyboard.segmentByte byte).1.assembliedWord = true ∧ (keyboard.segmentByte byte).2 = some [byte] := by
  have scan : keyboardGetScancode keyboard.bytes byte keyboard.assembliedWord =
      ({ keyboard.bytes with first := byte }, true) := by
    unfold keyboardGetScancode
    rw [if_neg, if_neg]
    · exact fun begins => plain begins.2
    · rintro ⟨begun, isPrefix⟩
      rcases noPrefix with complete | other
      · rw [complete] at begun
        cases begun
      · exact other isPrefix
  simp only [Keyboard.segmentByte, scan, if_true, ScancodeBytes.scancode, scancodeGetSize, plain, if_false,
    List.take_succ_cons, List.take_zero, and_self]

theorem segment_block (complete : keyboard.assembliedWord = true) (scancode : Scancode) :
    (reach Keyboard.segmentByte keyboard scancode.bytes).assembliedWord = true ∧
    answers Keyboard.segmentByte keyboard scancode.bytes = scancode.segments := by
  cases scancode with
  | one byte plain =>
      obtain ⟨still, answered⟩ := segment_oneByte (.inl complete) plain
      rw [bytes, segments, reach_cons, answers_cons, answered]
      exact ⟨still, rfl⟩
  | two second =>
      have scan : keyboardGetScancode keyboard.bytes twoByteScancodePrefix keyboard.assembliedWord =
          ({ keyboard.bytes with first := twoByteScancodePrefix }, false) := by
        simp [keyboardGetScancode, complete]
      simp only [bytes, segments, reach_cons, reach_nil, answers_cons, answers_nil, Keyboard.segmentByte, scan]
      exact ⟨rfl, rfl⟩

theorem segmented (complete : keyboard.assembliedWord = true) (scancodes : List Scancode) :
    answers Keyboard.segmentByte keyboard (scancodes.flatMap bytes) = scancodes.flatMap segments :=
  answers_blocks (fun keyboard => keyboard.assembliedWord = true)
    (fun _ scancode complete => segment_block complete scancode) complete scancodes

/-- From the start of the program the scancodes are recognised precisely when
the first one has one byte: a prefix passes for a whole scancode there. -/
theorem segmented_iff {scancodes : List Scancode} {calls : List KeyboardCall}
    (good : ∀ call ∈ calls, call.read.Good)
    (stream : calls.map (fun call => call.read.outBuf) = scancodes.flatMap bytes) :
    answers Keyboard.segment .boot calls = scancodes.flatMap segments ↔
      ∀ first ∈ scancodes.head?, first.OneByte := by
  rw [answers_map fun call member keyboard => Keyboard.segment_good (good call member) keyboard, stream]
  cases scancodes with
  | nil => exact iff_of_true rfl (fun _ member => nomatch member)
  | cons first rest =>
      rw [List.head?_cons]
      simp only [Option.mem_some_iff, forall_eq']
      cases first with
      | one byte plain =>
          obtain ⟨complete, answered⟩ := @segment_oneByte Keyboard.boot (.inr (by decide)) byte plain
          have later := segmented complete rest
          refine iff_of_true ?_ trivial
          rw [List.flatMap_cons, List.flatMap_cons, bytes, segments, List.singleton_append, List.singleton_append,
            answers_cons, answered, later]
      | two second =>
          refine iff_of_false (fun same => ?_) id
          rw [List.flatMap_cons, List.flatMap_cons, bytes, segments, List.cons_append, List.cons_append,
            answers_cons] at same
          exact absurd (List.cons.inj same).1 (by decide)

def keyboardCall (byte : UInt8) : KeyboardCall :=
  { read := { statReg := 1, outBuf := byte }, key := { key := 0, down := false }, uninitialised := 0 }

/-- The letter "a", then a scancode whose second byte looks like a prefix, then
the arrow "up". -/
theorem segmented_letter_first :
    answers Keyboard.segment .boot ([0x1e, 0xE0, 0xE0, 0xE0, 0x48].map keyboardCall) =
      [some [0x1e], none, some [0xE0, 0xE0], none, some [0xE0, 0x48]] :=
  (@segmented_iff [.one 0x1e (by decide), .two 0xE0, .two 0x48] ([0x1e, 0xE0, 0xE0, 0xE0, 0x48].map keyboardCall)
    (by decide) (by decide)).mpr (by simp [OneByte])

/-- The arrow "up" as the first key of all. -/
theorem arrow_first :
    (∀ call ∈ [0xE0, 0x48].map keyboardCall, call.read.Good) ∧
    ([0xE0, 0x48].map keyboardCall).map (fun call => call.read.outBuf) = [two 0x48].flatMap bytes ∧
    answers Keyboard.segment .boot ([0xE0, 0x48].map keyboardCall) = [some [0xE0, 0], some [0x48]] ∧
    answers Keyboard.segment .boot ([0xE0, 0x48].map keyboardCall) ≠ [two 0x48].flatMap segments := by
  decide +kernel

end Scancode

end SimonVs
