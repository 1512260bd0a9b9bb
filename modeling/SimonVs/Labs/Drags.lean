import Mathlib.Algebra.BigOperators.Group.List.Basic
import Mathlib.Algebra.Ring.Int.Defs
import Mathlib.Data.List.Infix
import SimonVs.Labs.Gesture

namespace SimonVs.Labs

open Data

inductive DragButton where
  | lb
  | rb
deriving DecidableEq, Repr

/-- The drags in a list of events. -/
structure Drags where
  /-- horizontal movements since the press, while a button is held -/
  lb : Option (List Int)
  rb : Option (List Int)
  /-- the drags that are over, last one first -/
  finished : List (DragButton × List Int)
deriving DecidableEq, Repr

namespace Drags

def empty : Drags := { lb := none, rb := none, finished := [] }

def see (drags : Drags) (evt : MouseEv) : Drags :=
  match evt.type with
  | .lbPressed => { drags with lb := some [] }
  | .lbReleased => { drags with lb := none, finished := (drags.lb.map fun moves => (.lb, moves)).toList ++ drags.finished }
  | .rbPressed => { drags with rb := some [] }
  | .rbReleased => { drags with rb := none, finished := (drags.rb.map fun moves => (.rb, moves)).toList ++ drags.finished }
  | .buttonEv => drags
  | .mouseMov =>
      { drags with
        lb := drags.lb.map (· ++ [evt.deltaX.toInt])
        rb := drags.rb.map (· ++ [evt.deltaX.toInt]) }

def of (events : List MouseEv) : Drags := events.foldl see empty

@[simp] theorem of_append {events : List MouseEv} {evt : MouseEv} :
    of (events ++ [evt]) = (of events).see evt := by
  simp [of]

end Drags

/-- At some point the movements have added up to the length. -/
def Reaches (xLen : UInt8) (moves : List Int) : Prop := ∃ done ∈ moves.inits, xLen.toNat ≤ done.sum.natAbs

instance (xLen : UInt8) (moves : List Int) : Decidable (Reaches xLen moves) :=
  inferInstanceAs (Decidable (∃ done ∈ moves.inits, xLen.toNat ≤ done.sum.natAbs))

/-- The last two drags are one with the left and one with the right button,
both long enough. -/
def Drags.Drawn (drags : Drags) (xLen : UInt8) : Prop :=
  ∃ first second earlier, drags.finished = (.rb, second) :: (.lb, first) :: earlier ∧
    Reaches xLen first ∧ Reaches xLen second

variable {xLen tolerance : UInt8} {detector next : Detector} {evt left : MouseEv} {moves : List Int} {drags : Drags}

theorem Reaches.append {later : List Int} (reaches : Reaches xLen moves) : Reaches xLen (moves ++ later) := by
  obtain ⟨done, member, enough⟩ := reaches
  refine ⟨done, ?_, enough⟩
  rw [List.mem_inits] at member ⊢
  exact member.trans (List.prefix_append moves later)

/-- `sum_x` and `accepted_line` are about these movements. -/
structure Accumulates (xLen : UInt8) (detector : Detector) (moves : List Int) : Prop where
  accepted : detector.acceptedLine = true → Reaches xLen moves
  below : detector.acceptedLine = false → detector.sumX.toInt = moves.sum ∧ moves.sum.natAbs < xLen.toNat

/-- A sum of two `int16_t` is off by a multiple of 65536. -/
theorem toInt_add_eq (a b : Int16) : ∃ turns : Int, (a + b).toInt = a.toInt + b.toInt + 65536 * turns := by
  refine ⟨-(a.toInt + b.toInt).bdiv (2 ^ 16), ?_⟩
  rw [Int16.toInt_add, Int.bmod_eq_self_sub_mul_bdiv]
  omega

/-- Below `x_len` the sum has not wrapped, and where it reaches `x_len` the sum
of the movements does so too. -/
theorem accumulates_accumulate (accumulates : Accumulates xLen detector moves) :
    Accumulates xLen (detector.accumulate evt xLen) (moves ++ [evt.deltaX.toInt]) := by
  have length := xLen.toNat_lt
  have whole : moves ++ [evt.deltaX.toInt] ∈ (moves ++ [evt.deltaX.toInt]).inits :=
    (List.mem_inits _ _).mpr (List.prefix_refl _)
  cases before : detector.acceptedLine with
  | true =>
      refine ⟨fun _ => (accumulates.accepted before).append, fun after => ?_⟩
      simp [Detector.accumulate, before] at after
  | false =>
      obtain ⟨same, small⟩ := accumulates.below before
      obtain ⟨turns, sum⟩ := toInt_add_eq detector.sumX evt.deltaX
      have low := (detector.sumX + evt.deltaX).le_toInt
      have high := (detector.sumX + evt.deltaX).toInt_lt
      have lowDelta := evt.deltaX.le_toInt
      have highDelta := evt.deltaX.toInt_lt
      have now : (detector.accumulate evt xLen).acceptedLine = true ↔
          xLen.toNat ≤ (detector.sumX + evt.deltaX).toInt.natAbs := by
        simp [Detector.accumulate, before]
      have total : (moves ++ [evt.deltaX.toInt]).sum = moves.sum + evt.deltaX.toInt := by simp
      constructor
      · intro enough
        have reached := now.mp enough
        refine ⟨_, whole, ?_⟩
        omega
      · intro short
        have unreached : ¬ xLen.toNat ≤ (detector.sumX + evt.deltaX).toInt.natAbs :=
          fun enough => by simp [now.mpr enough] at short
        have sumX : (detector.accumulate evt xLen).sumX = detector.sumX + evt.deltaX := rfl
        rw [sumX, total]
        omega

/-- The last drag was one with the left button, and long enough. -/
def Drags.LeftDone (drags : Drags) (xLen : UInt8) : Prop :=
  ∃ first earlier, drags.finished = (.lb, first) :: earlier ∧ Reaches xLen first

/-- What the state of the detector says about the drags seen so far. -/
structure Phase (xLen : UInt8) (detector : Detector) (drags : Drags) : Prop where
  drag1 : detector.st = .drag1 → ∃ moves, drags.lb = some moves ∧ Accumulates xLen detector moves
  wait : detector.st = .wait → drags.LeftDone xLen ∧ Accumulates xLen detector []
  drag2 : detector.st = .drag2 → drags.LeftDone xLen ∧ ∃ moves, drags.rb = some moves ∧ Accumulates xLen detector moves

/-- A press that starts a drag finds the accumulators at zero. -/
def Detector.CleanStart (detector : Detector) (evt : MouseEv) : Prop :=
  detector.st = .init → evt.type = .lbPressed → detector.sumX = 0 ∧ detector.acceptedLine = false

instance (detector : Detector) (evt : MouseEv) : Decidable (detector.CleanStart evt) :=
  inferInstanceAs (Decidable (_ → _ → _ ∧ _))

theorem accumulates_nil (positive : 0 < xLen.toNat) (sumX : detector.sumX = 0) (unaccepted : detector.acceptedLine = false) :
    Accumulates xLen detector [] := by
  refine ⟨fun accepted => by simp [unaccepted] at accepted, fun _ => ?_⟩
  rw [sumX]
  exact ⟨rfl, positive⟩

theorem Phase.detects (positive : 0 < xLen.toNat) (phase : Phase xLen detector drags)
    (clean : detector.CleanStart evt) (detects : detector.Detects evt xLen next left)
    (quiet : next.gesture = false) : Phase xLen next (drags.see left) := by
  cases detects with
  | idle state => exact ⟨by simp [state], by simp [state], by simp [state]⟩
  | press1 state type =>
      refine ⟨fun _ => ⟨[], by simp [Drags.see, type], ?_⟩, by simp, by simp⟩
      rcases state with state | state
      · obtain ⟨sumX, unaccepted⟩ := clean state type
        exact accumulates_nil positive sumX unaccepted
      · obtain ⟨_, accumulates⟩ := phase.wait state
        exact ⟨accumulates.accepted, accumulates.below⟩
  | move1 state type divisor =>
      obtain ⟨moves, held, accumulates⟩ := phase.drag1 state
      refine ⟨fun _ => ⟨_, ?_, accumulates_accumulate accumulates⟩, ?_, ?_⟩
      · simp [Drags.see, type, held]
      · simp [Detector.accumulate, state]
      · simp [Detector.accumulate, state]
  | release1 state type accepted =>
      obtain ⟨moves, held, accumulates⟩ := phase.drag1 state
      refine ⟨by simp, fun _ => ⟨?_, accumulates_nil positive rfl rfl⟩, by simp⟩
      exact ⟨moves, drags.finished, by simp [Drags.see, type, held], accumulates.accepted accepted⟩
  | hold state type =>
      obtain ⟨⟨first, earlier, finished, reaches⟩, accumulates⟩ := phase.wait state
      refine ⟨by simp [state], fun _ => ⟨?_, accumulates⟩, by simp [state]⟩
      exact ⟨first, earlier, by simp [Drags.see, type, finished], reaches⟩
  | press2 state type =>
      obtain ⟨⟨first, earlier, finished, reaches⟩, accumulates⟩ := phase.wait state
      refine ⟨by simp, by simp, fun _ => ⟨?_, [], by simp [Drags.see, type], ?_⟩⟩
      · exact ⟨first, earlier, by simp [Drags.see, type, finished], reaches⟩
      · exact ⟨accumulates.accepted, accumulates.below⟩
  | move2 state type divisor =>
      obtain ⟨⟨first, earlier, finished, reaches⟩, moves, held, accumulates⟩ := phase.drag2 state
      refine ⟨?_, ?_, fun _ => ⟨?_, _, ?_, accumulates_accumulate accumulates⟩⟩
      · simp [Detector.accumulate, state]
      · simp [Detector.accumulate, state]
      · exact ⟨first, earlier, by simp [Drags.see, type, finished], reaches⟩
      · simp [Drags.see, type, held]
  | release2 state type accepted => simp at quiet
  | abandon => exact ⟨by simp, by simp, by simp⟩

theorem Phase.drawn (phase : Phase xLen detector drags) (detects : detector.Detects evt xLen next left)
    (quiet : detector.gesture = false) (gesture : next.gesture = true) : (drags.see left).Drawn xLen := by
  cases detects with
  | release2 state type accepted =>
      obtain ⟨⟨first, earlier, finished, reaches⟩, moves, held, accumulates⟩ := phase.drag2 state
      refine ⟨first, moves, earlier, ?_, reaches, accumulates.accepted accepted⟩
      simp [Drags.see, type, held, finished]
  | _ => simp [Detector.accumulate, quiet] at gesture

/-- A detector and the events it has had, as it left them. -/
structure Watched where
  detector : Detector
  seen : List MouseEv
deriving DecidableEq, Repr

namespace Watched

def boot : Watched := { detector := .boot, seen := [] }

def step (xLen tolerance : UInt8) (watched : Option Watched) (evt : MouseEv) : Option Watched :=
  watched.bind fun watched =>
    (watched.detector.mouseDetectGesture evt xLen tolerance).map fun (detector, left) =>
      { detector, seen := watched.seen ++ [left] }

variable {watched after : Watched} {events : List MouseEv}

theorem step_some (ran : step xLen tolerance (some watched) evt = some after) :
    ∃ left, watched.detector.Detects evt xLen after.detector left ∧ after.seen = watched.seen ++ [left] := by
  obtain ⟨⟨detector, left⟩, returns, rfl⟩ := Option.map_eq_some_iff.mp ran
  exact ⟨left, Detector.detects_of_some returns, rfl⟩

/-- What the detector reports is then about the last drags only. -/
def CleanStart (watched : Option Watched) (evt : MouseEv) : Prop :=
  ∀ alive, watched = some alive → alive.detector.CleanStart evt

instance : (watched : Option Watched) → (evt : MouseEv) → Decidable (CleanStart watched evt)
  | none, _ => isTrue fun _ impossible => nomatch impossible
  | some alive, evt => decidable_of_iff (alive.detector.CleanStart evt) (by simp [CleanStart])

/-- No movement along one axis in `drag1`, where the detector would change it. -/
def OffAxis (watched : Option Watched) (evt : MouseEv) : Prop :=
  ∀ alive, watched = some alive → alive.detector.st = .drag1 → evt.type = .mouseMov →
    evt.deltaX ≠ 0 ∧ evt.deltaY ≠ 0

theorem run_phase (positive : 0 < xLen.toNat)
    (clean : Along (step xLen tolerance) CleanStart (some boot) events)
    (ran : run (step xLen tolerance) (some boot) events = some after) (quiet : after.detector.gesture = false) :
    Phase xLen after.detector (Drags.of after.seen) := by
  refine run_invariant (fun watched => ∀ alive, watched = some alive → alive.detector.gesture = false →
    Phase xLen alive.detector (Drags.of alive.seen)) ?_ ?_ clean after ran quiet
  · intro watched evt phase clean alive ran quiet
    obtain ⟨before, rfl, _⟩ := Option.bind_eq_some_iff.mp ran
    obtain ⟨left, detects, seen⟩ := step_some ran
    rw [seen, Drags.of_append]
    exact (phase before rfl (detects.quiet quiet)).detects positive (clean before rfl) detects quiet
  · rintro alive ⟨rfl⟩ _
    exact ⟨by simp [boot, Detector.boot], by simp [boot, Detector.boot], by simp [boot, Detector.boot]⟩

theorem run_none : run (step xLen tolerance) none events = none := by
  induction events with
  | nil => rfl
  | cons evt rest ih => exact ih

theorem run_seen (offAxis : Along (step xLen tolerance) OffAxis (some watched) events)
    (ran : run (step xLen tolerance) (some watched) events = some after) : after.seen = watched.seen ++ events := by
  induction events generalizing watched with
  | nil =>
      cases ran
      simp
  | cons evt rest ih =>
      rw [run_cons] at ran
      cases first : step xLen tolerance (some watched) evt with
      | none =>
          rw [first, run_none] at ran
          cases ran
      | some mid =>
          obtain ⟨here, later⟩ := offAxis
          rw [first] at ran later
          obtain ⟨left, detects, seen⟩ := step_some first
          have unchanged : watched.detector.leaves evt = evt := by
            simp only [Detector.leaves]
            split
            · next drag =>
                obtain ⟨deltaX, deltaY⟩ := here watched rfl drag.1 drag.2
                simp [MouseEv.adjusted, deltaX, deltaY]
            · rfl
          rw [ih later ran, seen, detects.left_eq, unchanged, List.append_assoc, List.singleton_append]

/-- A gesture is two drags that are long enough by themselves, provided that
every first drag starts with the accumulators at zero. The lengths are those of
the events as the detector leaves them; they are those of the events it is given
where it changes none. -/
theorem gesture_drawn {last : MouseEv} (positive : 0 < xLen.toNat)
    (clean : Along (step xLen tolerance) CleanStart (some boot) (events ++ [last]))
    (ranBefore : run (step xLen tolerance) (some boot) events = some watched)
    (quiet : watched.detector.gesture = false)
    (ran : run (step xLen tolerance) (some boot) (events ++ [last]) = some after)
    (gesture : after.detector.gesture = true) :
    (Drags.of after.seen).Drawn xLen ∧
    (Along (step xLen tolerance) OffAxis (some boot) (events ++ [last]) →
      (Drags.of (events ++ [last])).Drawn xLen) := by
  have phase := run_phase positive (along_append.mp clean).1 ranBefore quiet
  have stepped : step xLen tolerance (some watched) last = some after := by
    rw [run_append, ranBefore] at ran
    exact ran
  obtain ⟨left, detects, seen⟩ := step_some stepped
  have drawn : (Drags.of after.seen).Drawn xLen := by
    rw [seen, Drags.of_append]
    exact phase.drawn detects quiet gesture
  refine ⟨drawn, fun offAxis => ?_⟩
  have same : after.seen = events ++ [last] := run_seen offAxis ran
  rwa [same] at drawn

def press (type : MouseEvType) : MouseEv := ⟨type, 0, 0⟩

def move (deltaX deltaY : Int16) : MouseEv := ⟨.mouseMov, deltaX, deltaY⟩

/-- Up and down again, ten to the right each time. -/
theorem gesture_drawn_peak :
    (Drags.of [press .lbPressed, move 10 10, press .lbReleased, press .rbPressed, move 10 (-10),
      press .rbReleased]).Drawn 10 := by
  obtain ⟨drawn, _⟩ := @gesture_drawn 10 20 _ _
    [press .lbPressed, move 10 10, press .lbReleased, press .rbPressed, move 10 (-10)] (press .rbReleased)
    (by decide) (by decide) rfl rfl rfl rfl
  exact drawn

/-- A first try that is long enough and is given up by pressing the other
button; the second one has no movement with the left button. -/
def secondTry : List MouseEv :=
  [press .lbPressed, move 10 10, press .rbPressed, press .lbPressed, press .lbReleased, press .rbPressed,
    move 10 (-10), press .rbReleased]

theorem second_try_gesture :
    (run (step 10 20) (some boot) secondTry.dropLast).map (·.detector.gesture) = some false ∧
    (run (step 10 20) (some boot) secondTry).map (·.detector.gesture) = some true ∧
    ¬ (Drags.of secondTry).Drawn 10 := by
  refine ⟨by decide, by decide, ?_⟩
  rintro ⟨first, second, earlier, finished, reaches, _⟩
  have last : (Drags.of secondTry).finished = [(.rb, [10]), (.lb, [])] := by decide
  rw [last] at finished
  cases finished
  revert reaches
  decide

end Watched

end SimonVs.Labs
