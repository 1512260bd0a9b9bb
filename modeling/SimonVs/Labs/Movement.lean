import SimonVs.Data.Run
import SimonVs.Labs.ScanAssembly

namespace SimonVs.Labs

open Data

/-! A sprite on its way (`video_test_move` in `lab5/mel/lab5.c`). The keyboard and
the timer interrupt in any order. -/

/-- The arguments, with the number of timer interrupts to a frame. -/
structure Movement where
  xi : UInt16
  yi : UInt16
  xf : UInt16
  yf : UInt16
  speed : Int16
  timePerFrame : Nat
  framed : 0 < timePerFrame

/-- A notification of the hardware, with the byte of the keyboard. -/
structure Interrupts where
  scByte : Option UInt8
  timer : Bool
deriving DecidableEq, Repr

/-- The variables of the loop. -/
structure Sprite where
  xi : Int
  yi : Int
  distanceToEnd : Int
  frPassed : Int
  counter : Nat
  escFlag : Bool
  -- where it has been drawn, last one first
  drawn : List (Int × Int)
deriving DecidableEq, Repr

/-- A coordinate after one step towards its target, in 16 bits. -/
def stepTo (position target step : Int) : Int :=
  (if target > position then position + step else position - step) % 65536

namespace Movement

variable (movement : Movement)

def startX : Int := movement.xi.toNat
def startY : Int := movement.yi.toNat
def endX : Int := movement.xf.toNat
def endY : Int := movement.yf.toNat

def distance : Nat :=
  if movement.yi = movement.yf then (movement.endX - movement.startX).natAbs
  else (movement.endY - movement.startY).natAbs

/-- Before the loop; the counter of the timer is not reset. -/
def start (counter : Nat) : Sprite :=
  { xi := movement.startX, yi := movement.startY, distanceToEnd := movement.distance, frPassed := 0, counter
    escFlag := false, drawn := [(movement.startX, movement.startY)] }

end Movement

namespace Sprite

def draw (sprite : Sprite) : Sprite := { sprite with drawn := (sprite.xi, sprite.yi) :: sprite.drawn }

variable (movement : Movement)

/-- A timer interrupt that ends a frame. -/
def newFrame (sprite : Sprite) : Sprite :=
  if sprite.xi = movement.endX ∧ sprite.yi = movement.endY then sprite
  else
    let distanceToEnd := sprite.distanceToEnd - movement.speed.toInt
    if sprite.xi = movement.endX then
      let yi := if distanceToEnd < 0 then movement.endY else stepTo sprite.yi movement.endY movement.speed.toInt
      draw { sprite with yi, distanceToEnd }
    else
      let xi := if distanceToEnd < 0 then movement.endX else stepTo sprite.xi movement.endX movement.speed.toInt
      draw { sprite with xi, distanceToEnd }

def nudge (sprite : Sprite) : Sprite :=
  if sprite.yi = movement.endY ∧ sprite.xi = movement.endX then sprite
  else
    let sprite := if sprite.yi ≠ movement.endY then { sprite with yi := stepTo sprite.yi movement.endY 1 }
      else { sprite with xi := stepTo sprite.xi movement.endX 1 }
    draw { sprite with distanceToEnd := sprite.distanceToEnd - 1 }

/-- The `else` that was meant for negative speeds belongs to the timer interrupt,
so that this happens at interrupts of the keyboard alone. -/
def withoutTimer (sprite : Sprite) : Sprite :=
  let sprite := if sprite.counter % movement.timePerFrame = 0 then { sprite with frPassed := sprite.frPassed + 1 }
    else sprite
  if (movement.speed.toInt.natAbs : Int) = sprite.frPassed ∧ sprite.distanceToEnd > 0 then
    nudge movement { sprite with frPassed := 0 }
  else sprite

/-- The body of the loop, which is left after the break code of ESC. -/
def interrupted (sprite : Sprite) (interrupts : Interrupts) : Sprite :=
  if sprite.escFlag then sprite
  else
    let sprite := if interrupts.scByte = some escBreakcode then { sprite with escFlag := true } else sprite
    if interrupts.timer then
      let sprite := { sprite with counter := sprite.counter + 1 }
      if sprite.counter % movement.timePerFrame = 0 then sprite.newFrame movement else sprite
    else sprite.withoutTimer movement

end Sprite

/-- A coordinate after some pixels of its way. -/
def toward (start target : Int) (progress : Nat) : Int := if target > start then start + progress else start - progress

section Toward

variable {start target : Int} {progress further : Nat}

theorem toward_end (short : progress ≤ (target - start).natAbs) :
    toward start target progress = target ↔ progress = (target - start).natAbs := by
  rw [toward]
  split <;> omega

theorem toward_zero : toward start target 0 = start := by
  rw [toward]
  split <;> omega

theorem stepTo_toward (low : 0 ≤ start ∧ 0 ≤ target) (high : start < 65536 ∧ target < 65536) (more : 0 < further)
    (short : progress + further ≤ (target - start).natAbs) :
    stepTo (toward start target progress) target further = toward start target (progress + further) := by
  rw [stepTo, toward, toward]
  split <;> split <;> omega

/-- A step that may pass the target and then ends there. -/
theorem advance_toward (low : 0 ≤ start ∧ 0 ≤ target) (high : start < 65536 ∧ target < 65536) (more : 0 < further) :
    (if ((target - start).natAbs : Int) - progress - further < 0 then target
      else stepTo (toward start target progress) target further) =
      toward start target (min (target - start).natAbs (progress + further)) := by
  split
  · rw [Nat.min_eq_left (by omega)]
    exact ((toward_end (Nat.le_refl _)).mpr rfl).symm
  · rw [Nat.min_eq_right (by omega)]
    exact stepTo_toward low high more (by omega)

end Toward

namespace Movement

variable {movement : Movement}

/-- The movement is along one of the axes, and forward. -/
structure Straight (movement : Movement) : Prop where
  axis : movement.xi = movement.xf ∨ movement.yi = movement.yf
  forward : 0 < movement.speed.toInt

def placeAt (movement : Movement) (progress : Nat) : Int × Int :=
  if movement.xi = movement.xf then (movement.startX, toward movement.startY movement.endY progress)
  else (toward movement.startX movement.endX progress, movement.startY)

theorem startX_eq_endX : movement.startX = movement.endX ↔ movement.xi = movement.xf := by
  rw [startX, endX, Int.natCast_inj, UInt16.toNat_inj]

theorem startY_eq_endY : movement.startY = movement.endY ↔ movement.yi = movement.yf := by
  rw [startY, endY, Int.natCast_inj, UInt16.toNat_inj]

theorem inWord (movement : Movement) :
    (0 ≤ movement.startX ∧ 0 ≤ movement.endX) ∧ (movement.startX < 65536 ∧ movement.endX < 65536) ∧
    (0 ≤ movement.startY ∧ 0 ≤ movement.endY) ∧ (movement.startY < 65536 ∧ movement.endY < 65536) := by
  have := movement.xi.toNat_lt
  have := movement.yi.toNat_lt
  have := movement.xf.toNat_lt
  have := movement.yf.toNat_lt
  rw [startX, endX, startY, endY]
  omega

theorem placeAt_zero : movement.placeAt 0 = (movement.startX, movement.startY) := by
  rw [placeAt, toward_zero, toward_zero, ite_self]

theorem distance_vertical (upright : movement.xi = movement.xf) :
    movement.distance = (movement.endY - movement.startY).natAbs := by
  rw [distance]
  split
  · next level =>
      have sameX := startX_eq_endX.mpr upright
      have sameY := startY_eq_endY.mpr level
      omega
  · rfl

theorem distance_horizontal (level : movement.yi = movement.yf) :
    movement.distance = (movement.endX - movement.startX).natAbs := if_pos level

end Movement

namespace Sprite

open Movement

variable {movement : Movement} {sprite : Sprite} {progress : Nat}

/-- The sprite is somewhere on its way and has been drawn nowhere else. -/
structure OnWay (movement : Movement) (sprite : Sprite) (progress : Nat) : Prop where
  place : (sprite.xi, sprite.yi) = movement.placeAt progress
  short : progress ≤ movement.distance
  left : sprite.distanceToEnd = movement.distance - progress ∨
    progress = movement.distance ∧ sprite.distanceToEnd < 0
  drawn : ∀ place ∈ sprite.drawn, ∃ earlier ≤ movement.distance, place = movement.placeAt earlier

theorem onWay_start (movement : Movement) (counter : Nat) : (movement.start counter).OnWay movement 0 where
  place := placeAt_zero.symm
  short := Nat.zero_le _
  left := .inl (Int.sub_zero _).symm
  drawn := by
    intro place member
    exact ⟨0, Nat.zero_le _, (List.mem_singleton.mp member).trans placeAt_zero.symm⟩

/-- A drawn sprite that has gone some pixels further. -/
theorem OnWay.go (onWay : sprite.OnWay movement progress) {after : Sprite} {later : Nat}
    (place : (after.xi, after.yi) = movement.placeAt later) (short : later ≤ movement.distance)
    (left : after.distanceToEnd = movement.distance - later ∨ later = movement.distance ∧ after.distanceToEnd < 0)
    (drawn : after.drawn = sprite.drawn) : after.draw.OnWay movement later where
  place := place
  short := short
  left := left
  drawn := by
    intro drawnAt member
    rcases List.mem_cons.mp member with rfl | old
    · exact ⟨later, short, place⟩
    · rw [drawn] at old
      exact onWay.drawn drawnAt old

theorem OnWay.vertical (onWay : sprite.OnWay movement progress) (upright : movement.xi = movement.xf) :
    sprite.xi = movement.endX ∧ sprite.yi = toward movement.startY movement.endY progress := by
  have place := onWay.place
  rw [placeAt, if_pos upright] at place
  obtain ⟨column, row⟩ := Prod.mk.inj place
  exact ⟨column.trans (startX_eq_endX.mpr upright), row⟩

theorem OnWay.horizontal (onWay : sprite.OnWay movement progress) (straight : movement.Straight)
    (across : movement.xi ≠ movement.xf) :
    sprite.xi = toward movement.startX movement.endX progress ∧ sprite.yi = movement.endY := by
  have place := onWay.place
  rw [placeAt, if_neg across] at place
  obtain ⟨column, row⟩ := Prod.mk.inj place
  exact ⟨column, row.trans (startY_eq_endY.mpr (straight.axis.resolve_left across))⟩

theorem OnWay.atEnd (onWay : sprite.OnWay movement progress) (straight : movement.Straight) :
    (sprite.xi = movement.endX ∧ sprite.yi = movement.endY) ↔ progress = movement.distance := by
  have short := onWay.short
  by_cases upright : movement.xi = movement.xf
  · obtain ⟨column, row⟩ := onWay.vertical upright
    rw [distance_vertical upright] at short ⊢
    rw [row, and_iff_right column, toward_end short]
  · obtain ⟨column, row⟩ := onWay.horizontal straight upright
    have level := straight.axis.resolve_left upright
    rw [distance_horizontal level] at short ⊢
    rw [column, and_iff_left row, toward_end short]

theorem OnWay.newFrame (onWay : sprite.OnWay movement progress) (straight : movement.Straight) {speed : Nat}
    (moves : movement.speed.toInt = speed) :
    (sprite.newFrame movement).OnWay movement (min movement.distance (progress + speed)) := by
  obtain ⟨lowX, highX, lowY, highY⟩ := movement.inWord
  have short := onWay.short
  have forward : 0 < speed := Int.natCast_pos.mp (moves ▸ straight.forward)
  rw [Sprite.newFrame, moves]
  by_cases arrived : progress = movement.distance
  · rw [if_pos ((onWay.atEnd straight).mpr arrived), Nat.min_eq_left (by omega), ← arrived]
    exact onWay
  have left : sprite.distanceToEnd = movement.distance - progress := onWay.left.resolve_right fun past => arrived past.1
  rw [if_neg fun both => arrived ((onWay.atEnd straight).mp both), left]
  by_cases upright : movement.xi = movement.xf
  · obtain ⟨column, row⟩ := onWay.vertical upright
    have advance := @advance_toward _ _ progress _ lowY highY forward
    rw [← distance_vertical upright] at advance
    dsimp only
    rw [if_pos column, row, advance]
    refine onWay.go ?_ (Nat.min_le_left _ _) (by dsimp only; omega) rfl
    rw [placeAt, if_pos upright, column, startX_eq_endX.mpr upright]
  · obtain ⟨column, row⟩ := onWay.horizontal straight upright
    have level := straight.axis.resolve_left upright
    have elsewhere : sprite.xi ≠ movement.endX := fun there => arrived ((onWay.atEnd straight).mp ⟨there, row⟩)
    have advance := @advance_toward _ _ progress _ lowX highX forward
    rw [← distance_horizontal level] at advance
    dsimp only
    rw [if_neg elsewhere, column, advance]
    refine onWay.go ?_ (Nat.min_le_left _ _) (by dsimp only; omega) rfl
    rw [placeAt, if_neg upright, row, startY_eq_endY.mpr level]

theorem OnWay.nudge (onWay : sprite.OnWay movement progress) (straight : movement.Straight)
    (more : 0 < sprite.distanceToEnd) : (sprite.nudge movement).OnWay movement (progress + 1) := by
  obtain ⟨lowX, highX, lowY, highY⟩ := movement.inWord
  have short := onWay.short
  have left : sprite.distanceToEnd = movement.distance - progress := by
    rcases onWay.left with left | ⟨_, past⟩
    · exact left
    · omega
  have elsewhere : ¬ (sprite.xi = movement.endX ∧ sprite.yi = movement.endY) := by
    rw [onWay.atEnd straight]
    omega
  rw [Sprite.nudge, if_neg fun both => elsewhere ⟨both.2, both.1⟩]
  by_cases upright : movement.xi = movement.xf
  · obtain ⟨column, row⟩ := onWay.vertical upright
    have length := distance_vertical upright
    have step := @stepTo_toward _ _ progress 1 lowY highY Nat.one_pos (by omega)
    rw [if_pos fun there => elsewhere ⟨column, there⟩, row]
    refine onWay.go ?_ (by omega) (.inl (by dsimp only; omega)) rfl
    rw [placeAt, if_pos upright, column, startX_eq_endX.mpr upright]
    exact congrArg (Prod.mk movement.endX) step
  · obtain ⟨column, row⟩ := onWay.horizontal straight upright
    have level := straight.axis.resolve_left upright
    have length := distance_horizontal level
    have step := @stepTo_toward _ _ progress 1 lowX highX Nat.one_pos (by omega)
    rw [if_neg (Decidable.not_not.mpr row), column]
    refine onWay.go ?_ (by omega) (.inl (by dsimp only; omega)) rfl
    rw [placeAt, if_neg upright, row, startY_eq_endY.mpr level]
    exact congrArg (Prod.mk · movement.endY) step

theorem OnWay.view (onWay : sprite.OnWay movement progress) (frPassed : Int) (counter : Nat) (escFlag : Bool) :
    OnWay movement { sprite with frPassed, counter, escFlag } progress :=
  ⟨onWay.place, onWay.short, onWay.left, onWay.drawn⟩

theorem OnWay.withoutTimer (onWay : sprite.OnWay movement progress) (straight : movement.Straight) :
    (sprite.withoutTimer movement).OnWay movement progress ∨
    (sprite.withoutTimer movement).OnWay movement (progress + 1) := by
  have either (frPassed : Int) :
      OnWay movement (if (movement.speed.toInt.natAbs : Int) = frPassed ∧ sprite.distanceToEnd > 0 then
        Sprite.nudge movement { sprite with frPassed := 0 } else { sprite with frPassed }) progress ∨
      OnWay movement (if (movement.speed.toInt.natAbs : Int) = frPassed ∧ sprite.distanceToEnd > 0 then
        Sprite.nudge movement { sprite with frPassed := 0 } else { sprite with frPassed }) (progress + 1) := by
    split
    · next due => exact .inr ((onWay.view 0 _ _).nudge straight due.2)
    · exact .inl (onWay.view frPassed _ _)
  rw [Sprite.withoutTimer]
  split
  · exact either (sprite.frPassed + 1)
  · exact either sprite.frPassed

theorem counter_newFrame (sprite : Sprite) : (sprite.newFrame movement).counter = sprite.counter := by
  simp only [newFrame]
  repeat' split
  all_goals rfl

theorem counter_withoutTimer (sprite : Sprite) : (sprite.withoutTimer movement).counter = sprite.counter := by
  simp only [withoutTimer, nudge]
  repeat' split
  all_goals rfl

/-- One notification: the frames that it ends, and how far the sprite has come. -/
theorem OnWay.interrupted (onWay : sprite.OnWay movement progress) (straight : movement.Straight) {speed : Nat}
    (moves : movement.speed.toInt = speed) (interrupts : Interrupts) :
    ∃ frames later, (sprite.interrupted movement interrupts).counter / movement.timePerFrame =
        sprite.counter / movement.timePerFrame + frames ∧
      (sprite.interrupted movement interrupts).OnWay movement later ∧
      min movement.distance (progress + speed * frames) ≤ later ∧
      later ≤ progress + speed * frames + if interrupts.timer then 0 else 1 := by
  have short := onWay.short
  rw [Sprite.interrupted]
  split
  · exact ⟨0, progress, rfl, onWay, by omega, by omega⟩
  -- the break code of ESC only ends the loop
  generalize escape : (if interrupts.scByte = some escBreakcode then { sprite with escFlag := true } else sprite) =
    escaped
  have counter : escaped.counter = sprite.counter := by
    rw [← escape]
    split <;> rfl
  have still : escaped.OnWay movement progress := by
    rw [← escape]
    split
    · exact onWay.view _ _ true
    · exact onWay
  dsimp only
  split
  · split
    · next ends =>
        refine ⟨1, _, ?_, (still.view _ (escaped.counter + 1) _).newFrame straight moves, ?_, ?_⟩
        · rw [counter_newFrame, ← counter]
          exact Nat.succ_div_of_mod_eq_zero ends
        · exact Nat.le_of_eq (by rw [Nat.mul_one])
        · rw [Nat.mul_one]
          exact Nat.min_le_right _ _
    · next goesOn =>
        refine ⟨0, progress, ?_, still.view _ (escaped.counter + 1) _, by omega, by omega⟩
        rw [← counter]
        exact Nat.succ_div_of_mod_ne_zero goesOn
  · rw [counter_withoutTimer, counter]
    rcases still.withoutTimer straight with stays | goes
    · exact ⟨0, progress, rfl, stays, by omega, by omega⟩
    · exact ⟨0, progress + 1, rfl, goes, by omega, by omega⟩

theorem onWay_run (onWay : sprite.OnWay movement progress) (straight : movement.Straight) {speed : Nat}
    (moves : movement.speed.toInt = speed) (interrupts : List Interrupts) :
    ∃ frames later, (run (Sprite.interrupted movement) sprite interrupts).counter / movement.timePerFrame =
        sprite.counter / movement.timePerFrame + frames ∧
      (run (Sprite.interrupted movement) sprite interrupts).OnWay movement later ∧
      min movement.distance (progress + speed * frames) ≤ later ∧
      later ≤ progress + speed * frames + interrupts.countP (!·.timer) := by
  induction interrupts generalizing sprite progress with
  | nil =>
      have short := onWay.short
      exact ⟨0, progress, rfl, onWay, by omega, by omega⟩
  | cons first rest ih =>
      obtain ⟨early, between, counted, still, atLeast, atMost⟩ := onWay.interrupted straight moves first
      obtain ⟨late, after, countedRest, arrived, atLeastRest, atMostRest⟩ := ih still
      have frames : speed * (early + late) = speed * early + speed * late := Nat.mul_add _ _ _
      refine ⟨early + late, after, ?_, arrived, ?_, ?_⟩
      · rw [run_cons, countedRest, counted, Nat.add_assoc]
      · omega
      · rw [List.countP_cons]
        cases timer : first.timer with
        | true =>
            rw [timer] at atMost
            simp only [if_true, Bool.not_true, Bool.false_eq_true, if_false] at atMost ⊢
            omega
        | false =>
            rw [timer] at atMost
            simp only [Bool.not_false, Bool.false_eq_true, if_true, if_false] at atMost ⊢
            omega

/-- However the interrupts interleave, a sprite with a positive speed stays on the
straight way to its end, also where it is drawn. It goes at most its speed for
each frame and one pixel more for each interrupt of the keyboard alone, and it has
arrived when its speed for each frame covers the way. -/
theorem sprite_arrives (movement : Movement) (straight : movement.Straight) (counter : Nat)
    (interrupts : List Interrupts) :
    ∃ frames progress,
      (run (Sprite.interrupted movement) (movement.start counter) interrupts).counter / movement.timePerFrame =
        counter / movement.timePerFrame + frames ∧
      (run (Sprite.interrupted movement) (movement.start counter) interrupts).OnWay movement progress ∧
      progress ≤ movement.speed.toInt.toNat * frames + interrupts.countP (!·.timer) ∧
      (movement.distance ≤ movement.speed.toInt.toNat * frames →
        (run (Sprite.interrupted movement) (movement.start counter) interrupts).xi = movement.endX ∧
        (run (Sprite.interrupted movement) (movement.start counter) interrupts).yi = movement.endY) := by
  have moves : movement.speed.toInt = movement.speed.toInt.toNat :=
    (Int.toNat_of_nonneg (Int.le_of_lt straight.forward)).symm
  obtain ⟨frames, progress, counted, onWay, atLeast, atMost⟩ :=
    onWay_run (onWay_start movement counter) straight moves interrupts
  have short := onWay.short
  rw [Nat.zero_add] at atLeast atMost
  exact ⟨frames, progress, counted, onWay, atMost, fun enough => (onWay.atEnd straight).mpr (by omega)⟩

/-- Ten pixels to the right at four pixels a frame, with a key in between. -/
def toTheRight : Movement :=
  { xi := 5, yi := 7, xf := 15, yf := 7, speed := 4, timePerFrame := 2, framed := by decide }

def framesWithKey : List Interrupts :=
  [⟨none, true⟩, ⟨none, true⟩, ⟨some 0x1e, false⟩, ⟨none, true⟩, ⟨some 0x9e, true⟩, ⟨none, true⟩, ⟨none, true⟩]

theorem sprite_arrives_right :
    (∃ frames progress,
      (run (Sprite.interrupted toTheRight) (toTheRight.start 0) framesWithKey).counter / 2 = 0 / 2 + frames ∧
      (run (Sprite.interrupted toTheRight) (toTheRight.start 0) framesWithKey).OnWay toTheRight progress ∧
      progress ≤ 4 * frames + framesWithKey.countP (!·.timer) ∧
      (10 ≤ 4 * frames →
        (run (Sprite.interrupted toTheRight) (toTheRight.start 0) framesWithKey).xi = 15 ∧
        (run (Sprite.interrupted toTheRight) (toTheRight.start 0) framesWithKey).yi = 7)) ∧
    (run (Sprite.interrupted toTheRight) (toTheRight.start 0) framesWithKey).drawn = [(15, 7), (13, 7), (9, 7), (5, 7)] :=
  ⟨sprite_arrives toTheRight ⟨.inr rfl, by decide⟩ 0 framesWithKey, by decide⟩

end Sprite

end SimonVs.Labs
