import Mathlib.Tactic.SplitIfs
import SimonVs.Data.Run
import SimonVs.Devices.Mouse

namespace SimonVs.Labs

open Data Devices

/-! The gesture detector of `lab4/mouse.c`: from packets to events, and from
events to a drag with the left button followed by one with the right. -/

/-- What is used of `struct packet`. -/
structure LabPacket where
  bytes : PacketBytes
  deltaX : Int16
  deltaY : Int16
deriving DecidableEq, Repr

/-- `pp->bytes[i]` -/
def LabPacket.byte (pp : LabPacket) (i : Fin 3) : UInt8 := pp.bytes.get i

def mouseParsePacket (bytes : PacketBytes) : LabPacket :=
  let dx := Int16.ofInt (bytes.get 1).toNat
  let dy := Int16.ofInt (bytes.get 2).toNat
  { bytes
    deltaX := if bytes.get 0 &&& packetXMsb != 0 then dx - 256 else dx
    deltaY := if bytes.get 0 &&& packetYMsb != 0 then dy - 256 else dy }

inductive MouseEvType where
  | lbPressed
  | lbReleased
  | rbPressed
  | rbReleased
  | buttonEv
  | mouseMov
deriving DecidableEq, Repr

structure MouseEv where
  type : MouseEvType
  deltaX : Int16
  deltaY : Int16
deriving DecidableEq, Repr

/-- The static variables of `mouse_get_event`. -/
structure EventReader where
  oldpk : LabPacket
  event : MouseEv
  first : Bool
deriving DecidableEq, Repr

namespace EventReader

/-- Static storage is zeroed; the first packet overwrites the type. -/
def boot : EventReader :=
  { oldpk := ⟨.replicate 3 0, 0, 0⟩, event := ⟨.lbPressed, 0, 0⟩, first := true }

def pressed (button temp old : UInt8) : Bool := temp &&& button == button && old &&& button == 0

def released (button temp old : UInt8) : Bool := temp &&& button == 0 && old &&& button == button

def mouseGetEvent (reader : EventReader) (pp : LabPacket) : EventReader :=
  let temp := pp.byte 0
  let old := reader.oldpk.byte 0
  let event :=
    if reader.first then { reader.event with type := .buttonEv }
    else if pressed packetLb temp old then { reader.event with type := .lbPressed }
    else if pressed packetRb temp old then { reader.event with type := .rbPressed }
    else if pressed packetMb temp old then { reader.event with type := .buttonEv }
    else if released packetLb temp old then { reader.event with type := .lbReleased }
    else if released packetRb temp old then { reader.event with type := .rbReleased }
    else if released packetMb temp old then { reader.event with type := .buttonEv }
    else if pp.byte 1 ≠ 0 ∨ pp.byte 2 ≠ 0 then ⟨.mouseMov, pp.deltaX, pp.deltaY⟩
    else reader.event
  { oldpk := pp, event, first := false }

end EventReader

inductive GestureState where
  | init
  | drag1
  | wait
  | drag2
deriving DecidableEq, Repr

/-- The static variables of `mouse_detect_gesture`, and `gesture`. -/
structure Detector where
  st : GestureState
  acceptedLine : Bool
  sumX : Int16
  gesture : Bool
deriving DecidableEq, Repr

def Detector.boot : Detector := { st := .init, acceptedLine := false, sumX := 0, gesture := false }

/-- `abs(evt->delta_x) > tolerance || abs(evt->delta_y) > tolerance` -/
def MouseEv.exceeds (evt : MouseEv) (tolerance : UInt8) : Bool :=
  evt.deltaX.toInt.natAbs > tolerance.toNat || evt.deltaY.toInt.natAbs > tolerance.toNat

/-- The statement at the start of `drag1`. -/
def MouseEv.adjusted (evt : MouseEv) : MouseEv :=
  if evt.deltaY = 0 ∨ evt.deltaX = 0 then { evt with deltaY := evt.deltaY + 1, deltaX := evt.deltaX + 1 } else evt

/-- `delta_y / delta_x` in `int`; `none` is a division by zero. -/
def MouseEv.slope (evt : MouseEv) : Option Int :=
  if evt.deltaX = 0 then none else some (Int.tdiv evt.deltaY.toInt evt.deltaX.toInt)

namespace Detector

def accumulate (detector : Detector) (evt : MouseEv) (xLen : UInt8) : Detector :=
  let sumX := detector.sumX + evt.deltaX
  { detector with
    sumX
    acceptedLine := if sumX.toInt.natAbs ≥ xLen.toNat then true else detector.acceptedLine }

/-- Together with the event as it is left behind. -/
def mouseDetectGesture (detector : Detector) (evt : MouseEv) (xLen tolerance : UInt8) :
    Option (Detector × MouseEv) :=
  match detector.st with
  | .init => some (if evt.type = .lbPressed then { detector with st := .drag1 } else detector, evt)
  | .drag1 =>
      if evt.type = .mouseMov then
        let evt := evt.adjusted
        evt.slope.map fun slope =>
          (if slope ≤ 1 ∧ evt.exceeds tolerance then { detector with st := .init }
           else detector.accumulate evt xLen, evt)
      else if evt.type = .lbReleased ∧ detector.acceptedLine then
        some ({ detector with sumX := 0, acceptedLine := false, st := .wait }, evt)
      else some ({ detector with st := .init }, evt)
  | .wait =>
      some (match evt.type with
        | .mouseMov => if evt.exceeds tolerance then { detector with st := .init } else detector
        | .rbPressed => { detector with st := .drag2 }
        | .lbPressed => { detector with st := .drag1 }
        | _ => { detector with st := .init }, evt)
  | .drag2 =>
      if evt.type = .mouseMov then
        evt.slope.map fun slope =>
          (if slope ≥ -1 ∧ evt.exceeds tolerance then { detector with st := .init }
           else detector.accumulate evt xLen, evt)
      else if evt.type = .rbReleased ∧ detector.acceptedLine then
        some ({ detector with sumX := 0, acceptedLine := false, gesture := true }, evt)
      else some ({ detector with st := .init }, evt)

end Detector

variable {detector next : Detector} {evt left : MouseEv} {xLen tolerance : UInt8}

/-- The event behind a call. -/
def Detector.leaves (detector : Detector) (evt : MouseEv) : MouseEv :=
  if detector.st = .drag1 ∧ evt.type = .mouseMov then evt.adjusted else evt

/-- What a call that returns has done: the state and the event behind it. -/
inductive Detector.Detects (detector : Detector) (evt : MouseEv) (xLen : UInt8) : Detector → MouseEv → Prop where
  | idle (state : detector.st = .init) : Detects detector evt xLen detector evt
  | press1 (state : detector.st = .init ∨ detector.st = .wait) (type : evt.type = .lbPressed) :
      Detects detector evt xLen { detector with st := .drag1 } evt
  | move1 (state : detector.st = .drag1) (type : evt.type = .mouseMov) (divisor : evt.adjusted.deltaX ≠ 0) :
      Detects detector evt xLen (detector.accumulate evt.adjusted xLen) evt.adjusted
  | release1 (state : detector.st = .drag1) (type : evt.type = .lbReleased) (accepted : detector.acceptedLine = true) :
      Detects detector evt xLen { detector with sumX := 0, acceptedLine := false, st := .wait } evt
  | hold (state : detector.st = .wait) (type : evt.type = .mouseMov) : Detects detector evt xLen detector evt
  | press2 (state : detector.st = .wait) (type : evt.type = .rbPressed) :
      Detects detector evt xLen { detector with st := .drag2 } evt
  | move2 (state : detector.st = .drag2) (type : evt.type = .mouseMov) (divisor : evt.deltaX ≠ 0) :
      Detects detector evt xLen (detector.accumulate evt xLen) evt
  | release2 (state : detector.st = .drag2) (type : evt.type = .rbReleased) (accepted : detector.acceptedLine = true) :
      Detects detector evt xLen { detector with sumX := 0, acceptedLine := false, gesture := true } evt
  | abandon : Detects detector evt xLen { detector with st := .init } (detector.leaves evt)

theorem MouseEv.slope_map {α : Type} {result : Int → α} {value : α} (divided : evt.slope.map result = some value) :
    evt.deltaX ≠ 0 ∧ ∃ slope, result slope = value := by
  simp only [MouseEv.slope] at divided
  split at divided
  · cases divided
  · next divisor => exact ⟨divisor, _, Option.some.inj divided⟩

theorem Detector.detects_of_some (returns : detector.mouseDetectGesture evt xLen tolerance = some (next, left)) :
    detector.Detects evt xLen next left := by
  have givenUp : detector.Detects evt xLen { detector with st := .init } (detector.leaves evt) := .abandon
  simp only [mouseDetectGesture] at returns
  split at returns
  · next state =>
      cases returns
      split
      · next type => exact .press1 (.inl state) type
      · exact .idle state
  · next state =>
      split at returns
      · next type =>
          simp only [leaves, state, type, and_self, if_true] at givenUp
          obtain ⟨divisor, slope, moved⟩ := MouseEv.slope_map returns
          cases moved
          split
          · exact givenUp
          · exact .move1 state type divisor
      · next type =>
          simp only [leaves, type, and_false, if_false] at givenUp
          split at returns
          · next release =>
              cases returns
              exact .release1 state release.1 release.2
          · cases returns
            exact givenUp
  · next state =>
      simp only [leaves, state, reduceCtorEq, false_and, if_false] at givenUp
      cases returns
      split
      · next type =>
          split
          · exact givenUp
          · exact .hold state type
      · next type => exact .press2 state type
      · next type => exact .press1 (.inr state) type
      · exact givenUp
  · next state =>
      simp only [leaves, state, reduceCtorEq, false_and, if_false] at givenUp
      split at returns
      · next type =>
          obtain ⟨divisor, slope, moved⟩ := MouseEv.slope_map returns
          cases moved
          split
          · exact givenUp
          · exact .move2 state type divisor
      · split at returns
        · next release =>
            cases returns
            exact .release2 state release.1 release.2
        · cases returns
          exact givenUp

theorem Detector.Detects.left_eq (detects : detector.Detects evt xLen next left) : left = detector.leaves evt := by
  cases detects with
  | press1 state type => rcases state with state | state <;> simp [leaves, state]
  | idle state | hold state type | press2 state type => simp [leaves, state]
  | move1 state type divisor | release1 state type accepted => simp [leaves, state, type]
  | move2 state type divisor | release2 state type accepted => simp [leaves, state]
  | abandon => rfl

theorem Detector.Detects.quiet (detects : detector.Detects evt xLen next left) (quiet : next.gesture = false) :
    detector.gesture = false := by
  cases detects with
  | release2 state type accepted => simp at quiet
  | _ => exact quiet

/-- The events at which a state divides by zero. -/
def Detector.Divides (detector : Detector) (evt : MouseEv) : Prop :=
  evt.type = .mouseMov ∧
    (detector.st = .drag1 ∧ evt.deltaX = -1 ∧ evt.deltaY = 0 ∨ detector.st = .drag2 ∧ evt.deltaX = 0)

@[simp] theorem MouseEv.adjusted_type : evt.adjusted.type = evt.type := by
  simp only [MouseEv.adjusted]
  split <;> rfl

theorem eq_sub_one {a b : Int16} (same : a + 1 = b) : a = b - 1 := by
  rw [← same, Int16.add_sub_cancel]

theorem MouseEv.adjusted_deltaX_eq_zero : evt.adjusted.deltaX = 0 ↔ evt.deltaX = -1 ∧ evt.deltaY = 0 := by
  simp only [MouseEv.adjusted]
  split
  · next oneAxis =>
      have shifted : evt.deltaX + 1 = 0 ↔ evt.deltaX = -1 := by
        constructor
        · exact eq_sub_one
        · intro same
          rw [same]
          rfl
      simp only [shifted]
      constructor
      · intro minusOne
        refine ⟨minusOne, oneAxis.resolve_right ?_⟩
        rw [minusOne]
        decide
      · exact And.left
  · next bothAxes =>
      simp only [not_or] at bothAxes
      simp [bothAxes.1, bothAxes.2]

theorem MouseEv.adjusted_settled : ¬ (evt.adjusted.deltaX = -1 ∧ evt.adjusted.deltaY = 0) := by
  simp only [MouseEv.adjusted]
  split
  · next oneAxis =>
      rintro ⟨minusOne, zero⟩
      rw [eq_sub_one minusOne, eq_sub_one zero] at oneAxis
      revert oneAxis
      decide
  · next bothAxes =>
      rintro ⟨_, zero⟩
      exact bothAxes (.inl zero)

theorem Detector.mouseDetectGesture_eq_none :
    detector.mouseDetectGesture evt xLen tolerance = none ↔ detector.Divides evt := by
  simp only [mouseDetectGesture, Divides]
  split
  · next state => simp [state]
  · next state =>
      by_cases moves : evt.type = .mouseMov
      · simp [moves, state, MouseEv.slope, MouseEv.adjusted_deltaX_eq_zero]
      · simp only [moves, if_false, false_and, iff_false]
        split <;> simp
  · next state => simp [state]
  · next state =>
      by_cases moves : evt.type = .mouseMov
      · simp [moves, state, MouseEv.slope]
      · simp only [moves, if_false, false_and, iff_false]
        split <;> simp

structure GestureTest where
  reader : EventReader
  detector : Detector
deriving DecidableEq, Repr

namespace GestureTest

def boot : GestureTest := { reader := .boot, detector := .boot }

/-- The detector changes the static event of the reader in place. -/
def packet (test : GestureTest) (pp : LabPacket) (xLen tolerance : UInt8) : Option GestureTest :=
  let reader := test.reader.mouseGetEvent pp
  (test.detector.mouseDetectGesture reader.event xLen tolerance).map fun (detector, event) =>
    { reader := { reader with event }, detector }

/-- A program that has divided by zero is gone. -/
def step (xLen tolerance : UInt8) (test : Option GestureTest) (pp : LabPacket) : Option GestureTest :=
  test.bind fun test => test.packet pp xLen tolerance

end GestureTest

/-- A packet with the buttons as before and some movement. -/
structure EventReader.Moves (reader : EventReader) (pp : LabPacket) : Prop where
  notFirst : reader.first = false
  buttons : ∀ button ∈ [packetLb, packetRb, packetMb],
    pressed button (pp.byte 0) (reader.oldpk.byte 0) = false ∧
      released button (pp.byte 0) (reader.oldpk.byte 0) = false
  distance : pp.byte 1 ≠ 0 ∨ pp.byte 2 ≠ 0

/-- The event is the movement of this packet, or the one before, or of a button. -/
theorem EventReader.mouseGetEvent_cases (reader : EventReader) (pp : LabPacket) :
    (reader.Moves pp ∧ (reader.mouseGetEvent pp).event = ⟨.mouseMov, pp.deltaX, pp.deltaY⟩) ∨
    ¬ reader.Moves pp ∧
      ((reader.mouseGetEvent pp).event = reader.event ∨ (reader.mouseGetEvent pp).event.type ≠ .mouseMov) := by
  by_cases moves : reader.Moves pp
  · left
    refine ⟨moves, ?_⟩
    have lb := moves.buttons packetLb (by simp)
    have rb := moves.buttons packetRb (by simp)
    have mb := moves.buttons packetMb (by simp)
    simp [mouseGetEvent, moves.notFirst, lb, rb, mb, moves.distance]
  · right
    refine ⟨moves, ?_⟩
    simp only [mouseGetEvent]
    split_ifs with first lb rb mb lbUp rbUp mbUp distance
    iterate 7 exact .inr (by simp)
    · refine absurd ⟨by simpa using first, ?_, distance⟩ moves
      simp [lb, rb, mb, lbUp, rbUp, mbUp]
    · exact .inl rfl

variable {test after : GestureTest} {pp : LabPacket} {packets : List LabPacket}

/-- A stale event of a drag has been divided by already. -/
structure GestureTest.Settled (test : GestureTest) : Prop where
  drag1 : test.detector.st = .drag1 → test.reader.event.type = .mouseMov →
    ¬ (test.reader.event.deltaX = -1 ∧ test.reader.event.deltaY = 0)
  drag2 : test.detector.st = .drag2 → test.reader.event.type = .mouseMov → test.reader.event.deltaX ≠ 0

/-- The packets that divide by zero. -/
def GestureTest.Divides (test : GestureTest) (pp : LabPacket) : Prop :=
  test.reader.Moves pp ∧
    (test.detector.st = .drag1 ∧ pp.deltaX = -1 ∧ pp.deltaY = 0 ∨ test.detector.st = .drag2 ∧ pp.deltaX = 0)

theorem GestureTest.packet_eq_none (settled : test.Settled) :
    test.packet pp xLen tolerance = none ↔ test.Divides pp := by
  simp only [packet, Option.map_eq_none_iff, Detector.mouseDetectGesture_eq_none, Detector.Divides, Divides]
  rcases test.reader.mouseGetEvent_cases pp with ⟨moves, event⟩ | ⟨still, stale | button⟩
  · simp [moves, event]
  · simp only [stale, still, false_and, iff_false]
    rintro ⟨movement, ⟨state, divides⟩ | ⟨state, divides⟩⟩
    · exact settled.drag1 state movement divides
    · exact settled.drag2 state movement divides
  · simp [still, button]

/-- What a call of the detector leaves behind in a drag. -/
theorem Detector.mouseDetectGesture_settled
    (detects : detector.mouseDetectGesture evt xLen tolerance = some (next, left)) :
    (next.st = .drag1 → left.type = .mouseMov → ¬ (left.deltaX = -1 ∧ left.deltaY = 0)) ∧
    (next.st = .drag2 → left.type = .mouseMov → left.deltaX ≠ 0) := by
  cases Detector.detects_of_some detects with
  | idle state => exact ⟨fun drag => by simp [state] at drag, fun drag => by simp [state] at drag⟩
  | press1 state type => exact ⟨fun _ moves => by simp [type] at moves, fun drag => by simp at drag⟩
  | move1 state type divisor =>
      exact ⟨fun _ _ => MouseEv.adjusted_settled, fun _ _ => divisor⟩
  | release1 state type accepted => exact ⟨fun drag => by simp at drag, fun drag => by simp at drag⟩
  | hold state type => exact ⟨fun drag => by simp [state] at drag, fun drag => by simp [state] at drag⟩
  | press2 state type => exact ⟨fun drag => by simp at drag, fun _ moves => by simp [type] at moves⟩
  | move2 state type divisor =>
      exact ⟨fun drag => by simp [Detector.accumulate, state] at drag, fun _ _ => divisor⟩
  | release2 state type accepted =>
      exact ⟨fun drag => by simp [state] at drag, fun _ moves => by simp [type] at moves⟩
  | abandon => exact ⟨fun drag => by simp at drag, fun drag => by simp at drag⟩

theorem GestureTest.packet_settled (ran : test.packet pp xLen tolerance = some after) : after.Settled := by
  simp only [packet, Option.map_eq_some_iff] at ran
  obtain ⟨⟨detector, event⟩, detects, rfl⟩ := ran
  obtain ⟨drag1, drag2⟩ := Detector.mouseDetectGesture_settled detects
  exact ⟨drag1, drag2⟩

/-- A run divides by zero precisely at a movement of (-1, 0) in `drag1` or one
without a horizontal part in `drag2`. -/
theorem GestureTest.no_division_iff :
    (∀ done, done <+: packets → (run (step xLen tolerance) (some boot) done).isSome) ↔
      Along (step xLen tolerance) (fun test pp => ∀ alive, test = some alive → ¬ alive.Divides pp)
        (some boot) packets := by
  refine prefixes_safe_iff_along (fun test => ∀ alive, test = some alive → alive.Settled)
    (fun test => test.isSome = true) ?_ ?_ ?_ rfl
  · intro test pp settled _ alive ran
    obtain ⟨before, rfl, ran⟩ := Option.bind_eq_some_iff.mp ran
    exact packet_settled ran
  · intro test pp settled isSome
    obtain ⟨alive, rfl⟩ := Option.isSome_iff_exists.mp isSome
    have none_iff : alive.packet pp xLen tolerance = none ↔ alive.Divides pp := packet_eq_none (settled alive rfl)
    simp only [step, Option.bind_some, Option.some.injEq, forall_eq', ← none_iff]
    exact Option.isSome_iff_ne_none
  · rintro alive ⟨rfl⟩
    exact ⟨fun drag => by simp [boot, Detector.boot] at drag, fun drag => by simp [boot, Detector.boot] at drag⟩

/-- Left button down, then one step to the left. -/
theorem GestureTest.step_to_the_left_divides :
    run (step 10 10) (some boot)
      [mouseParsePacket #v[0x08, 0, 0], mouseParsePacket #v[0x09, 0, 0], mouseParsePacket #v[0x19, 0xff, 0]] =
      none := by
  decide

end SimonVs.Labs
