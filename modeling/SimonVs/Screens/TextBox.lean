import Mathlib.Algebra.GroupWithZero.Nat
import SimonVs.Data.Run

namespace SimonVs

open Data

/-! Text boxes (`vc.c`) and the images of their characters
(`num_and_letters.c`). A centred box grows to both sides: of a new image, half
of the width goes to the right end and the other half, rounded up, to the left
one. -/

/-- An element of the array `letters` or of the array `numbers`. -/
inductive XpmImage where
  | letter (index : Nat)
  | number (index : Nat)
deriving DecidableEq, Repr

def ascii (symbol : Char) : UInt8 := UInt8.ofNat symbol.toNat

def isNumerical (byte : UInt8) : Bool := ascii '0' ≤ byte ∧ byte ≤ ascii '9'

def isAlphaNumberical (byte : UInt8) : Bool :=
  if ascii 'a' ≤ byte ∧ byte ≤ ascii 'z' then true
  else if isNumerical byte then true
  else if byte = ascii ' ' then true
  else false

def getPropFromChar (byte : UInt8) : XpmImage :=
  if ascii 'a' ≤ byte ∧ byte ≤ ascii 'z' then .letter (byte - ascii 'a').toNat
  else if byte = ascii ' ' then .letter 26
  else if ascii '0' ≤ byte ∧ byte ≤ ascii '9' then .number (byte - ascii '0').toNat
  -- behind the end of the array
  else if byte = ascii '/' then .letter 28
  else .letter 26

def XpmImage.shown : XpmImage → UInt8
  | letter index => if index < 26 then ascii 'a' + UInt8.ofNat index else ascii ' '
  | number index => ascii '0' + UInt8.ofNat index

theorem shown_getPropFromChar {byte : UInt8} (typed : isAlphaNumberical byte = true) :
    (getPropFromChar byte).shown = byte := by
  have all : ∀ value : Fin 256, isAlphaNumberical (UInt8.ofFin value) = true →
      (getPropFromChar (UInt8.ofFin value)).shown = UInt8.ofFin value := by
    decide +kernel
  exact all byte.toFin typed

structure TextBox where
  charProp : Vector XpmImage 20
  xi : UInt16
  yi : UInt16
  maxX : UInt16
  minX : UInt16
  cursorX : UInt16
  charSize : Int
  charMaxSize : Int
deriving DecidableEq, Repr

namespace TextBox

/-- `create_writeable_text_box`; the array is not initialised. -/
def createWriteableTextBox (cursorX cursorY minX maxX : UInt16) (maxSize : Int)
    (uninitialised : Vector XpmImage 20) : TextBox :=
  { charProp := uninitialised, cursorX, xi := cursorX, yi := cursorY, maxX, minX
    charMaxSize := maxSize, charSize := 0 }

variable (width : XpmImage → UInt16)

/-- The sums and differences are those of `int`; only the assignments cut them
to 16 bits. -/
def addToCenteredTextBox (byte : UInt8) (box : TextBox) : TextBox × Bool :=
  if box.charSize = box.charMaxSize then (box, false)
  else
    let img := getPropFromChar byte
    let imgWidth := (width img).toNat
    if (box.cursorX.toNat : Int) + (imgWidth / 2 : Nat) > box.maxX.toNat then (box, false)
    else if (box.xi.toNat : Int) - (imgWidth + 1 / 2 : Nat) < box.minX.toNat then (box, false)
    else
      ({ box with
         charProp := box.charProp.setIfInBounds box.charSize.toNat img
         charSize := box.charSize + 1
         cursorX := box.cursorX + UInt16.ofNat (imgWidth / 2)
         xi := box.xi - UInt16.ofNat ((imgWidth + 1) / 2) }, true)

def removeFromCenteredTextBox (box : TextBox) : TextBox :=
  if box.charSize = 0 then box
  else
    let img := box.charProp.toList.getD (box.charSize - 1).toNat (.letter 26)
    let imgWidth := (width img).toNat
    { box with
      charSize := box.charSize - 1
      cursorX := box.cursorX - UInt16.ofNat (imgWidth / 2)
      xi := box.xi + UInt16.ofNat ((imgWidth + 1) / 2) }

/-- The images in the box, from left to right. -/
def held (box : TextBox) : List XpmImage := box.charProp.toList.take box.charSize.toNat

structure Sized (box : TextBox) : Prop where
  low : 0 ≤ box.charSize
  high : box.charSize ≤ box.charMaxSize
  room : box.charMaxSize ≤ 20

variable {width} {box after : TextBox} {byte : UInt8}

theorem Sized.length_held (sized : box.Sized) : (box.held.length : Int) = box.charSize := by
  have := sized.low
  have := sized.high
  have := sized.room
  simp only [held, List.length_take, Vector.length_toList]
  omega

theorem sized_create {maxSize : Int} (low : 0 ≤ maxSize) (high : maxSize ≤ 20) (cursorX cursorY minX maxX : UInt16)
    (uninitialised : Vector XpmImage 20) :
    (createWriteableTextBox cursorX cursorY minX maxX maxSize uninitialised).Sized :=
  ⟨Int.le_refl 0, low, high⟩

theorem held_eq_nil (empty : box.charSize = 0) : box.held = [] := by
  rw [held, empty]
  rfl

/-- The part of an image that goes to the left of the middle and to the right of
it. -/
def leftHalf (width : XpmImage → UInt16) (img : XpmImage) : Nat := ((width img).toNat + 1) / 2
def rightHalf (width : XpmImage → UInt16) (img : XpmImage) : Nat := (width img).toNat / 2

/-- What a successful `add_to_centered_text_box` does. -/
structure Added (width : XpmImage → UInt16) (img : XpmImage) (box after : TextBox) : Prop where
  held : after.held = box.held ++ [img]
  charSize : after.charSize = box.charSize + 1
  free : box.charSize ≠ box.charMaxSize
  cursorX : after.cursorX = box.cursorX + UInt16.ofNat (rightHalf width img)
  xi : after.xi = box.xi - UInt16.ofNat (leftHalf width img)
  right : box.cursorX.toNat + rightHalf width img ≤ box.maxX.toNat
  left : box.minX.toNat + (width img).toNat ≤ box.xi.toNat
  limits : after.minX = box.minX ∧ after.maxX = box.maxX ∧ after.charMaxSize = box.charMaxSize

theorem add_cases (sized : box.Sized) (byte : UInt8) :
    addToCenteredTextBox width byte box = (box, false) ∨
    (addToCenteredTextBox width byte box).2 = true ∧
      Added width (getPropFromChar byte) box (addToCenteredTextBox width byte box).1 := by
  unfold addToCenteredTextBox
  dsimp only
  split
  · exact .inl rfl
  · rename_i free
    split
    · exact .inl rfl
    · rename_i right
      split
      · exact .inl rfl
      · rename_i left
        have := sized.low
        have := sized.high
        have := sized.room
        refine .inr ⟨rfl, ?_, rfl, free, rfl, rfl, ?_, ?_, rfl, rfl, rfl⟩
        · have inside : box.charSize.toNat < box.charProp.toList.length := by
            rw [Vector.length_toList]
            omega
          have next : (box.charSize + 1).toNat = box.charSize.toNat + 1 := by omega
          simp only [TextBox.held, next, Vector.toList_setIfInBounds]
          rw [List.take_succ_eq_append_getElem (by rwa [List.length_set]), List.getElem_set_self,
            List.take_set_of_le (Nat.le_refl _)]
        · unfold rightHalf
          omega
        · omega

/-- What `remove_from_centered_text_box` does with a box that is not empty. -/
structure Removed (width : XpmImage → UInt16) (img : XpmImage) (box after : TextBox) : Prop where
  held : box.held = after.held ++ [img]
  charSize : after.charSize = box.charSize - 1
  cursorX : after.cursorX = box.cursorX - UInt16.ofNat (rightHalf width img)
  xi : after.xi = box.xi + UInt16.ofNat (leftHalf width img)
  limits : after.minX = box.minX ∧ after.maxX = box.maxX ∧ after.charMaxSize = box.charMaxSize

theorem remove_cases (width : XpmImage → UInt16) (sized : box.Sized) :
    box.charSize = 0 ∧ removeFromCenteredTextBox width box = box ∨
    0 < box.charSize ∧ ∃ img, Removed width img box (removeFromCenteredTextBox width box) := by
  unfold removeFromCenteredTextBox
  dsimp only
  split
  · rename_i empty
    exact .inl ⟨empty, rfl⟩
  · rename_i filled
    have := sized.low
    have := sized.high
    have := sized.room
    have inside : (box.charSize - 1).toNat < box.charProp.toList.length := by
      rw [Vector.length_toList]
      omega
    have last : box.charSize.toNat = (box.charSize - 1).toNat + 1 := by omega
    refine .inr ⟨by omega, box.charProp.toList.getD (box.charSize - 1).toNat (.letter 26), ?_, rfl, rfl, rfl,
      rfl, rfl, rfl⟩
    rw [TextBox.held, last, List.take_succ_eq_append_getElem inside, List.getD_eq_getElem?_getD,
      List.getElem?_eq_getElem inside]
    rfl

theorem leftHalf_add_rightHalf (width : XpmImage → UInt16) (img : XpmImage) :
    leftHalf width img + rightHalf width img = (width img).toNat := by
  unfold leftHalf rightHalf
  omega

theorem sum_halves (width : XpmImage → UInt16) (images : List XpmImage) :
    (images.map (leftHalf width)).sum + (images.map (rightHalf width)).sum =
      (images.map fun img => (width img).toNat).sum := by
  induction images with
  | nil => rfl
  | cons img rest ih =>
      have halves := leftHalf_add_rightHalf width img
      simp only [List.map_cons, List.sum_cons]
      omega

theorem sum_map_concat (part : XpmImage → Nat) (images : List XpmImage) (img : XpmImage) :
    ((images ++ [img]).map part).sum = (images.map part).sum + part img := by
  rw [List.map_append, List.sum_append, List.map_singleton, List.sum_singleton]

theorem toNat_sub_ofNat {coordinate : UInt16} {amount : Nat} (fits : amount ≤ coordinate.toNat) :
    (coordinate - UInt16.ofNat amount).toNat = coordinate.toNat - amount := by
  have limit := coordinate.toNat_lt
  have small : (UInt16.ofNat amount).toNat = amount := by
    rw [UInt16.toNat_ofNat']
    omega
  have smaller : UInt16.ofNat amount ≤ coordinate := by
    rw [UInt16.le_iff_toNat_le, small]
    exact fits
  rw [UInt16.toNat_sub_of_le _ _ smaller, small]

theorem Added.toNat_cursorX {img : XpmImage} (added : Added width img box after) :
    after.cursorX.toNat = box.cursorX.toNat + rightHalf width img := by
  have right := added.right
  have limit := box.maxX.toNat_lt
  rw [added.cursorX, UInt16.toNat_add, UInt16.toNat_ofNat']
  omega

theorem Added.toNat_xi {img : XpmImage} (added : Added width img box after) :
    box.xi.toNat = after.xi.toNat + leftHalf width img := by
  have left := added.left
  have halves := leftHalf_add_rightHalf width img
  have fits : leftHalf width img ≤ box.xi.toNat := by omega
  rw [added.xi, toNat_sub_ofNat fits, Nat.sub_add_cancel fits]

/-- `centre` is where the cursor was when the box was empty. -/
structure Centred (width : XpmImage → UInt16) (centre : Nat) (box : TextBox) : Prop where
  sized : box.Sized
  left : box.xi.toNat + (box.held.map (leftHalf width)).sum = centre
  right : box.cursorX.toNat = centre + (box.held.map (rightHalf width)).sum
  min : box.minX.toNat ≤ box.xi.toNat
  max : box.cursorX.toNat ≤ box.maxX.toNat

variable {centre : Nat} {img : XpmImage}

theorem Sized.added (sized : box.Sized) (added : Added width img box after) : after.Sized := by
  have := sized.low
  have := sized.high
  have := sized.room
  have := added.free
  obtain ⟨_, _, same⟩ := added.limits
  refine ⟨?_, ?_, ?_⟩
  · rw [added.charSize]
    omega
  · rw [added.charSize, same]
    omega
  · rw [same]
    exact sized.room

theorem Sized.removed (sized : box.Sized) (filled : 0 < box.charSize) (removed : Removed width img box after) :
    after.Sized := by
  have := sized.high
  obtain ⟨_, _, same⟩ := removed.limits
  refine ⟨?_, ?_, ?_⟩
  · rw [removed.charSize]
    omega
  · rw [removed.charSize, same]
    omega
  · rw [same]
    exact sized.room

theorem Centred.added (holds : box.Centred width centre) (added : Added width img box after) :
    after.Centred width centre := by
  have cursor := added.toNat_cursorX
  have start := added.toNat_xi
  have halves := leftHalf_add_rightHalf width img
  obtain ⟨min, max, _⟩ := added.limits
  refine ⟨holds.sized.added added, ?_, ?_, ?_, ?_⟩
  · have := holds.left
    rw [added.held, sum_map_concat]
    omega
  · have := holds.right
    rw [added.held, sum_map_concat]
    omega
  · have := added.left
    rw [min]
    omega
  · rw [max, cursor]
    exact added.right

theorem Centred.toNat_cursorX (holds : box.Centred width centre) (removed : Removed width img box after) :
    box.cursorX.toNat = after.cursorX.toNat + rightHalf width img := by
  have right := holds.right
  rw [removed.held, sum_map_concat] at right
  have fits : rightHalf width img ≤ box.cursorX.toNat := by omega
  rw [removed.cursorX, toNat_sub_ofNat fits, Nat.sub_add_cancel fits]

theorem Centred.toNat_xi (holds : box.Centred width centre) (removed : Removed width img box after) :
    after.xi.toNat = box.xi.toNat + leftHalf width img := by
  have limit := box.cursorX.toNat_lt
  have left := holds.left
  have right := holds.right
  rw [removed.held, sum_map_concat] at left
  rw [removed.xi, UInt16.toNat_add, UInt16.toNat_ofNat']
  omega

theorem Centred.removed (holds : box.Centred width centre) (filled : 0 < box.charSize)
    (removed : Removed width img box after) : after.Centred width centre := by
  have cursor := holds.toNat_cursorX removed
  have start := holds.toNat_xi removed
  have left := holds.left
  have right := holds.right
  rw [removed.held, sum_map_concat] at left right
  obtain ⟨min, max, _⟩ := removed.limits
  refine ⟨holds.sized.removed filled removed, ?_, ?_, ?_, ?_⟩
  · omega
  · omega
  · have := holds.min
    rw [min]
    omega
  · have := holds.max
    rw [max]
    omega

abbrev AlphaNumberical := { byte : UInt8 // isAlphaNumberical byte = true }

inductive Call where
  | add (byte : AlphaNumberical)
  | remove

def call (width : XpmImage → UInt16) (box : TextBox) : Call → TextBox
  | .add byte => (addToCenteredTextBox width byte box).1
  | .remove => removeFromCenteredTextBox width box

theorem Centred.call (holds : box.Centred width centre) (call : Call) : (box.call width call).Centred width centre := by
  cases call with
  | add byte =>
      rcases add_cases holds.sized byte.val with refused | ⟨_, added⟩
      · rw [TextBox.call, refused]
        exact holds
      · exact holds.added added
  | remove =>
      rcases remove_cases width holds.sized with ⟨_, same⟩ | ⟨filled, img, removed⟩
      · rw [TextBox.call, same]
        exact holds
      · exact holds.removed filled removed

theorem Added.undone (sized : box.Sized) (added : Added width img box after) :
    (removeFromCenteredTextBox width after).charSize = box.charSize ∧
    (removeFromCenteredTextBox width after).xi = box.xi ∧
    (removeFromCenteredTextBox width after).cursorX = box.cursorX ∧
    (removeFromCenteredTextBox width after).held = box.held := by
  have low := sized.low
  have size := added.charSize
  rcases remove_cases width (sized.added added) with ⟨empty, _⟩ | ⟨_, last, removed⟩
  · omega
  · have same : box.held ++ [img] = (removeFromCenteredTextBox width after).held ++ [last] :=
      added.held.symm.trans removed.held
    obtain ⟨others, only⟩ := List.append_inj' same rfl
    obtain rfl := List.singleton_inj.mp only
    refine ⟨?_, ?_, ?_, others.symm⟩
    · rw [removed.charSize, size, Int.add_sub_cancel]
    · rw [removed.xi, added.xi, UInt16.sub_add_cancel]
    · rw [removed.cursorX, added.cursorX, UInt16.add_sub_cancel]

/-- Where a call moves the two ends of the text, in unbounded integers. -/
def moved (width : XpmImage → UInt16) (box : TextBox) : Call → Int × Int
  | .add byte =>
      let img := getPropFromChar byte
      if (addToCenteredTextBox width byte box).2 then
        (box.xi.toNat - leftHalf width img, box.cursorX.toNat + rightHalf width img)
      else (box.xi.toNat, box.cursorX.toNat)
  | .remove =>
      match box.held.getLast? with
      | some img => (box.xi.toNat + leftHalf width img, box.cursorX.toNat - rightHalf width img)
      | none => (box.xi.toNat, box.cursorX.toNat)

theorem Centred.moved (holds : box.Centred width centre) (call : Call) :
    (((box.call width call).xi.toNat : Int), ((box.call width call).cursorX.toNat : Int)) = box.moved width call := by
  cases call with
  | add byte =>
      rw [TextBox.call, TextBox.moved]
      rcases add_cases holds.sized byte.val with refused | ⟨success, added⟩
      · rw [refused]
        rfl
      · have cursor := added.toNat_cursorX
        have start := added.toNat_xi
        rw [if_pos success, Prod.mk.injEq]
        omega
  | remove =>
      rw [TextBox.call, TextBox.moved]
      rcases remove_cases width holds.sized with ⟨empty, same⟩ | ⟨filled, img, removed⟩
      · rw [same, held_eq_nil empty]
        rfl
      · have cursor := holds.toNat_cursorX removed
        have start := holds.toNat_xi removed
        rw [removed.held, List.getLast?_concat]
        rw [Prod.mk.injEq]
        omega

theorem call_limits (sized : box.Sized) (call : Call) :
    (box.call width call).minX = box.minX ∧ (box.call width call).maxX = box.maxX ∧
    (box.call width call).charMaxSize = box.charMaxSize := by
  cases call with
  | add byte =>
      rcases add_cases sized byte.val with refused | ⟨_, added⟩
      · rw [TextBox.call, refused]
        exact ⟨rfl, rfl, rfl⟩
      · exact added.limits
  | remove =>
      rcases remove_cases width sized with ⟨_, same⟩ | ⟨_, img, removed⟩
      · rw [TextBox.call, same]
        exact ⟨rfl, rfl, rfl⟩
      · exact removed.limits

/-- The text stays centred between its limits, and an addition is undone by a
removal. -/
theorem geometry {cursorX minX maxX : UInt16} {maxSize : Int} (low : minX ≤ cursorX) (high : cursorX ≤ maxX)
    (sizeLow : 0 ≤ maxSize) (sizeHigh : maxSize ≤ 20) (width : XpmImage → UInt16) (cursorY : UInt16)
    (uninitialised : Vector XpmImage 20) (calls : List Call) :
    let box := run (call width) (createWriteableTextBox cursorX cursorY minX maxX maxSize uninitialised) calls
    (box.minX = minX ∧ box.maxX = maxX ∧ box.charMaxSize = maxSize) ∧
    (0 ≤ box.charSize ∧ box.charSize ≤ box.charMaxSize) ∧
    (box.minX ≤ box.xi ∧ box.xi ≤ box.cursorX ∧ box.cursorX ≤ box.maxX) ∧
    ((box.held.length : Int) = box.charSize ∧
      (box.cursorX.toNat : Int) - box.xi.toNat = (box.held.map fun img => (width img).toNat).sum) ∧
    (∀ call, (((box.call width call).xi.toNat : Int), ((box.call width call).cursorX.toNat : Int)) =
      box.moved width call) ∧
    ∀ byte : AlphaNumberical,
      ((addToCenteredTextBox width byte box).2 = true →
        let after := removeFromCenteredTextBox width (addToCenteredTextBox width byte box).1
        after.charSize = box.charSize ∧ after.xi = box.xi ∧ after.cursorX = box.cursorX ∧ after.held = box.held) ∧
      ((addToCenteredTextBox width byte box).2 = false → (addToCenteredTextBox width byte box).1 = box) := by
  intro box
  have start : (createWriteableTextBox cursorX cursorY minX maxX maxSize uninitialised).Centred width cursorX.toNat :=
    ⟨sized_create sizeLow sizeHigh _ _ _ _ _, rfl, rfl, low, high⟩
  obtain ⟨holds, limits⟩ : box.Centred width cursorX.toNat ∧
      (box.minX = minX ∧ box.maxX = maxX ∧ box.charMaxSize = maxSize) := by
    refine @run_invariant _ _ _ _ _ (fun _ _ => True)
      (fun (box : TextBox) =>
        box.Centred width cursorX.toNat ∧ box.minX = minX ∧ box.maxX = maxX ∧ box.charMaxSize = maxSize)
      ?_ ⟨start, rfl, rfl, rfl⟩ along_true
    rintro box call ⟨holds, rfl, rfl, rfl⟩ _
    exact ⟨holds.call call, call_limits holds.sized call⟩
  have left := holds.left
  have right := holds.right
  have sum := sum_halves width box.held
  refine ⟨limits, ⟨holds.sized.low, holds.sized.high⟩, ⟨holds.min, ?_, holds.max⟩,
    ⟨holds.sized.length_held, by omega⟩, holds.moved, fun byte => ?_⟩
  · rw [UInt16.le_iff_toNat_le]
    omega
  · rcases add_cases holds.sized byte.val with refused | ⟨success, added⟩
    · rw [refused]
      exact ⟨fun success => (nomatch success), fun _ => rfl⟩
    · rw [success]
      exact ⟨fun _ => added.undone holds.sized, fun refused => nomatch refused⟩

/-- A box 100 pixels wide and letters of odd widths: the second "a" does not fit,
and "b" is taken back. -/
def exampleWidth (img : XpmImage) : UInt16 := if img = .letter 0 then 33 else 7

def exampleCalls : List Call :=
  [.add ⟨ascii 'a', by decide⟩, .add ⟨ascii 'b', by decide⟩, .add ⟨ascii 'a', by decide⟩, .remove]

def exampleBox : TextBox :=
  run (call exampleWidth) (createWriteableTextBox 50 0 0 100 20 (.replicate 20 (.letter 26))) exampleCalls

theorem geometry_exampleBox :
    (exampleBox.xi = 33 ∧ exampleBox.cursorX = 66 ∧ exampleBox.held = [.letter 0]) ∧
    (exampleBox.cursorX.toNat : Int) - exampleBox.xi.toNat =
      (exampleBox.held.map fun img => (exampleWidth img).toNat).sum :=
  ⟨by decide +kernel,
   (@geometry 50 0 100 20 (by decide) (by decide) (by decide) (by decide) exampleWidth 0
     (.replicate 20 (.letter 26)) exampleCalls).2.2.2.1.2⟩

end TextBox

end SimonVs
