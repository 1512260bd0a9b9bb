import Mathlib.Data.Nat.Digits.Lemmas
import SimonVs.Data.Scan
import SimonVs.Game
import SimonVs.MpGame
import SimonVs.Screens.NumberOfRounds

namespace SimonVs

open Data

namespace TextBox

variable (width : XpmImage → UInt16)

def addToTextBox (byte : UInt8) (box : TextBox) : TextBox × Bool :=
  if box.charSize = box.charMaxSize then (box, false)
  else
    let img := getPropFromChar byte
    if box.cursorX.toNat + (width img).toNat > box.maxX.toNat then (box, false)
    else
      ({ box with
         charProp := box.charProp.setIfInBounds box.charSize.toNat img
         charSize := box.charSize + 1
         cursorX := box.cursorX + width img }, true)

def createStaticTextBox (x y : UInt16) (charProps : List UInt8) (uninitialised : Vector XpmImage 20) : TextBox :=
  charProps.foldl (fun box byte => (addToTextBox width byte box).1)
    (createWriteableTextBox x y 0 (-1) charProps.length uninitialised)

/-- Images side by side, each with the column of its left edge. -/
def place (x : Nat) : List XpmImage → List (XpmImage × Nat)
  | [] => []
  | img :: rest => (img, x) :: place (x + (width img).toNat) rest

/-- The images that `draw_text_box` draws, all in the row `yi`. -/
def drawTextBox (box : TextBox) : List (XpmImage × Nat) := place width box.xi.toNat box.held

end TextBox

/-- The array `chars` with the number of digits in it, and the stores behind its
end. -/
structure Spelling where
  chars : Vector UInt8 3
  numbersSize : Nat
  overruns : Nat
deriving DecidableEq, Repr

namespace Spelling

/-- `char chars[3] = {'0', '0', '0'}` -/
def blank : Spelling := { chars := .replicate 3 (ascii '0'), numbersSize := 0, overruns := 0 }

def store (spelling : Spelling) (char : UInt8) : Spelling where
  chars := spelling.chars.setIfInBounds spelling.numbersSize char
  numbersSize := spelling.numbersSize + 1
  overruns := if spelling.numbersSize < 3 then spelling.overruns else spelling.overruns + 1

def swap (spelling : Spelling) (first second : Nat) : Spelling :=
  { spelling with chars := spelling.chars.swapIfInBounds first second }

/-- The loop that stores the digits from the last one on. -/
def storeDigits (round : Nat) (spelling : Spelling) : Spelling :=
  if 0 < round then storeDigits (round / 10) (spelling.store (digitByte (round % 10))) else spelling
termination_by round

def text (spelling : Spelling) : List UInt8 := spelling.chars.toList.take spelling.numbersSize

end Spelling

/-- The conversion in `draw_round`. -/
def spell (round : Nat) : Spelling :=
  let spelling := Spelling.storeDigits round .blank
  if spelling.numbersSize = 0 then { spelling with numbersSize := 1 }
  else if spelling.numbersSize = 2 then spelling.swap 0 1
  else if spelling.numbersSize = 3 then spelling.swap 0 2
  else spelling

/-- What the drawing functions of a game read of it. -/
structure Scene where
  gameEnd : Bool
  ws : Winners
  ps : PlayScreens
  isPlayer1 : Bool
  timeLeftForClick : Int
  buttonsSize : Nat
  mouse : Nat × Nat
deriving DecidableEq, Repr

def Game.scene (game : Game) : Scene where
  gameEnd := game.gameEnd
  ws := game.ws
  ps := game.ps
  isPlayer1 := game.isPlayer1
  timeLeftForClick := game.timeLeftForClick
  buttonsSize := game.buttonsSize
  mouse := (game.mouse.xPos, game.mouse.yPos)

def MpGame.scene (game : MpGame) : Scene where
  gameEnd := game.gameEnd
  ws := game.ws
  ps := game.ps
  isPlayer1 := game.isPlayer1
  timeLeftForClick := game.timeLeftForClick
  buttonsSize := game.buttonsSize
  mouse := (game.mpMouse.xPos, game.mpMouse.yPos)

/-- A frame: the number of the picture in the background and what is drawn over
it. -/
inductive Frame where
  | playing (background : Nat) (player counter : XpmImage) (round : List (XpmImage × Nat)) (mouse : Nat × Nat)
  | result (background : Nat)
deriving DecidableEq, Repr

/-- The pictures of `draw_buttons`. -/
def PlayScreens.picture : PlayScreens → Nat
  | .default => 9
  | .green => 10
  | .yellow => 11
  | .purple => 12
  | .blue => 13
  | .red => 14
  | .vs => 8
  | .white => 15

/-- The pictures of `draw_winner_graphics`. -/
def Winners.picture : Winners → Nat
  | .winner1 => 6
  | .winner2 => 7
  | .tie => 18

/-- The image of the player whose turn it is. -/
def Scene.player (scene : Scene) : XpmImage :=
  if scene.isPlayer1 then getPropFromChar (ascii '1') else getPropFromChar (ascii '2')

def Scene.timeLeft (scene : Scene) : Nat := if scene.timeLeftForClick > 0 then scene.timeLeftForClick.toNat else 0

/-- The static variables of `draw_round` and `draw_counter`. -/
structure Display where
  round : Int
  roundText : TextBox
  previousTime : Int
  number : XpmImage
deriving DecidableEq, Repr

namespace Display

def boot (images : Vector XpmImage 20) : Display where
  round := -1
  roundText := .createWriteableTextBox 0 0 0 0 0 images
  previousTime := -1
  number := .letter 26

def drawCounter (display : Display) (scene : Scene) : Display × XpmImage :=
  let display :=
    if display.previousTime ≠ scene.timeLeft then
      { display with
        number := getPropFromChar (ascii '0' + UInt8.ofNat scene.timeLeft), previousTime := scene.timeLeft }
    else display
  (display, display.number)

variable (width : XpmImage → UInt16)

def drawRound (display : Display) (scene : Scene) (uninitialised : Vector XpmImage 20) :
    Display × List (XpmImage × Nat) :=
  let display :=
    if display.round ≠ scene.buttonsSize then
      { display with
        round := scene.buttonsSize
        roundText := .createStaticTextBox width 0 50 (spell scene.buttonsSize).text uninitialised }
    else display
  (display, display.roundText.drawTextBox width)

/-- `draw_game_graphics` and `mp_draw_game_graphics` -/
def drawGameGraphics (display : Display) (scene : Scene) (uninitialised : Vector XpmImage 20) : Display × Frame :=
  if !scene.gameEnd then
    let (display, counter) := display.drawCounter scene
    let (display, round) := display.drawRound width scene uninitialised
    (display, .playing scene.ps.picture scene.player counter round scene.mouse)
  else (display, .result scene.ws.picture)

end Display

namespace Spelling

variable {round : Nat} {spelling : Spelling}

theorem storeDigits_zero : storeDigits 0 spelling = spelling := by
  rw [storeDigits, if_neg (Nat.lt_irrefl 0)]

theorem storeDigits_pos (positive : 0 < round) :
    storeDigits round spelling = storeDigits (round / 10) (spelling.store (digitByte (round % 10))) := by
  rw [storeDigits, if_pos positive]

theorem overruns_le : spelling.overruns ≤ (storeDigits round spelling).overruns := by
  induction round using Nat.strongRecOn generalizing spelling with
  | _ round ih =>
      rcases Nat.eq_zero_or_pos round with rfl | positive
      · rw [storeDigits_zero]
      · rw [storeDigits_pos positive]
        refine Nat.le_trans ?_ (ih (round / 10) (by omega))
        rw [store]
        split
        · exact Nat.le_refl _
        · exact Nat.le_succ _

end Spelling

theorem printNat_pos {value : Nat} (positive : 0 < value) :
    printNat value = (if value < 10 then [] else printNat (value / 10)) ++ [digitByte (value % 10)] := by
  rw [printNat, if_neg (by omega), Nat.digits_def' (by decide) positive]
  split
  · have none : value / 10 = 0 := by omega
    rw [none]
    rfl
  · rw [printNat, if_neg (by omega), List.reverse_cons, List.map_append, List.map_singleton]

/-- Up to three digits are spelled as `%d` would, within the array. -/
theorem spell_small {round : Nat} (small : round < 1000) :
    (spell round).text = printNat round ∧ (spell round).overruns = 0 := by
  rcases Nat.eq_zero_or_pos round with rfl | positive
  · rw [spell, Spelling.storeDigits_zero]
    decide
  rcases Nat.lt_or_ge round 10 with one | more
  · have printed : printNat round = [digitByte (round % 10)] := by
      rw [printNat_pos positive, if_pos one]
      rfl
    have none : round / 10 = 0 := by omega
    rw [printed, spell, Spelling.storeDigits_pos positive, none, Spelling.storeDigits_zero]
    exact ⟨rfl, rfl⟩
  rcases Nat.lt_or_ge round 100 with two | three
  · have printed : printNat round = [digitByte (round / 10 % 10), digitByte (round % 10)] := by
      rw [printNat_pos positive, if_neg (by omega), printNat_pos (by omega), if_pos (by omega)]
      rfl
    have none : round / 10 / 10 = 0 := by omega
    rw [printed, spell, Spelling.storeDigits_pos positive, Spelling.storeDigits_pos (by omega), none,
      Spelling.storeDigits_zero]
    exact ⟨rfl, rfl⟩
  · have printed : printNat round =
        [digitByte (round / 10 / 10 % 10), digitByte (round / 10 % 10), digitByte (round % 10)] := by
      rw [printNat_pos positive, if_neg (by omega), printNat_pos (by omega), if_neg (by omega), printNat_pos (by omega),
        if_pos (by omega)]
      rfl
    have none : round / 10 / 10 / 10 = 0 := by omega
    rw [printed, spell, Spelling.storeDigits_pos positive, Spelling.storeDigits_pos (by omega),
      Spelling.storeDigits_pos (by omega), none, Spelling.storeDigits_zero]
    exact ⟨rfl, rfl⟩

/-- The array has room for no other numbers. -/
theorem spell_within_iff (round : Nat) : (spell round).overruns = 0 ↔ round < 1000 := by
  refine ⟨fun within => ?_, fun small => (spell_small small).2⟩
  by_contra large
  have outside := @Spelling.overruns_le (round / 10 / 10 / 10 / 10)
    ((((Spelling.blank.store (digitByte (round % 10))).store (digitByte (round / 10 % 10))).store
      (digitByte (round / 10 / 10 % 10))).store (digitByte (round / 10 / 10 / 10 % 10)))
  rw [← Spelling.storeDigits_pos (by omega), ← Spelling.storeDigits_pos (by omega),
    ← Spelling.storeDigits_pos (by omega), ← Spelling.storeDigits_pos (by omega)] at outside
  have outside : 1 ≤ (Spelling.storeDigits round .blank).overruns := outside
  have kept : (spell round).overruns = (Spelling.storeDigits round .blank).overruns := by
    rw [spell]
    repeat' split
    all_goals rfl
  omega

namespace TextBox

variable {width : XpmImage → UInt16} {box : TextBox}

/-- Three digits fit on the screen. -/
def NarrowDigits (width : XpmImage → UInt16) : Prop := ∀ img, isNumerical img.shown = true → (width img).toNat ≤ 200

/-- A character for which there is room. -/
theorem held_addToTextBox (sized : box.Sized) {byte : UInt8} (free : box.charSize < box.charMaxSize)
    (fits : box.cursorX.toNat + (width (getPropFromChar byte)).toNat ≤ box.maxX.toNat) :
    (addToTextBox width byte box).1.held = box.held ++ [getPropFromChar byte] ∧
    (addToTextBox width byte box).1 =
      { box with
        charProp := box.charProp.setIfInBounds box.charSize.toNat (getPropFromChar byte)
        charSize := box.charSize + 1
        cursorX := box.cursorX + width (getPropFromChar byte) } := by
  have low := sized.low
  have room := sized.room
  have inside : box.charSize.toNat < box.charProp.toList.length := by
    rw [Vector.length_toList]
    omega
  have next : (box.charSize + 1).toNat = box.charSize.toNat + 1 := by omega
  rw [addToTextBox, if_neg (by omega)]
  dsimp only
  rw [if_neg (by omega)]
  refine ⟨?_, rfl⟩
  simp only [held, next, Vector.toList_setIfInBounds]
  rw [List.take_succ_eq_append_getElem (by rwa [List.length_set]), List.getElem_set_self,
    List.take_set_of_le (Nat.le_refl _)]

theorem held_addAll (narrow : NarrowDigits width) {bytes : List UInt8}
    (digits : ∀ byte ∈ bytes, isNumerical byte = true) (sized : box.Sized)
    (free : box.charSize + bytes.length ≤ box.charMaxSize)
    (fits : box.cursorX.toNat + 200 * bytes.length ≤ box.maxX.toNat) :
    (bytes.foldl (fun box byte => (addToTextBox width byte box).1) box).held = box.held ++ bytes.map getPropFromChar ∧
    (bytes.foldl (fun box byte => (addToTextBox width byte box).1) box).xi = box.xi := by
  induction bytes generalizing box with
  | nil => exact ⟨(List.append_nil _).symm, rfl⟩
  | cons byte rest ih =>
      obtain ⟨digit, others⟩ := List.forall_mem_cons.mp digits
      rw [List.length_cons] at free fits
      have small : (width (getPropFromChar byte)).toNat ≤ 200 := by
        refine narrow _ ?_
        have alpha : isAlphaNumberical byte = true := by simp [isAlphaNumberical, digit]
        rw [shown_getPropFromChar alpha]
        exact digit
      obtain ⟨held, added⟩ := @held_addToTextBox width box sized byte (by omega) (by omega)
      have low := sized.low
      have top := box.maxX.toNat_lt
      have cursor : (box.cursorX + width (getPropFromChar byte)).toNat =
          box.cursorX.toNat + (width (getPropFromChar byte)).toNat := by
        rw [UInt16.toNat_add, Nat.mod_eq_of_lt (by omega)]
      rw [List.foldl_cons]
      have stillSized : (addToTextBox width byte box).1.Sized := by
        rw [added]
        exact ⟨by simp only; omega, by simp only; omega, sized.room⟩
      have stillFree : (addToTextBox width byte box).1.charSize + rest.length ≤
          (addToTextBox width byte box).1.charMaxSize := by
        rw [added]
        simp only
        omega
      have stillFits : (addToTextBox width byte box).1.cursorX.toNat + 200 * rest.length ≤
          (addToTextBox width byte box).1.maxX.toNat := by
        rw [added]
        simp only
        omega
      obtain ⟨all, xi⟩ := ih others stillSized stillFree stillFits
      rw [all, xi, held, List.map_cons, List.append_assoc, added]
      exact ⟨rfl, rfl⟩

/-- A box for up to twenty digits from the left edge of the screen on. -/
theorem drawTextBox_static (narrow : NarrowDigits width) {bytes : List UInt8}
    (digits : ∀ byte ∈ bytes, isNumerical byte = true) (short : bytes.length ≤ 20) (y : UInt16)
    (uninitialised : Vector XpmImage 20) :
    (createStaticTextBox width 0 y bytes uninitialised).drawTextBox width =
      place width 0 (bytes.map getPropFromChar) := by
  have sized : (createWriteableTextBox 0 y 0 (-1) bytes.length uninitialised).Sized :=
    sized_create (Int.natCast_nonneg _) (by omega) _ _ _ _ _
  have limits : (0 : UInt16).toNat = 0 ∧ (-1 : UInt16).toNat = 65535 := by decide
  obtain ⟨held, xi⟩ := @held_addAll width _ narrow bytes digits sized
    (by rw [createWriteableTextBox]; simp only; omega) (by rw [createWriteableTextBox]; simp only; omega)
  rw [drawTextBox, createStaticTextBox, held, xi]
  rfl

end TextBox

/-- The frame of a scene that is drawn from nothing. -/
def Scene.frame (width : XpmImage → UInt16) (scene : Scene) : Frame :=
  if !scene.gameEnd then
    .playing scene.ps.picture scene.player (.number scene.timeLeft)
      (TextBox.place width 0 ((printNat scene.buttonsSize).map getPropFromChar)) scene.mouse
  else .result scene.ws.picture

namespace Display

variable {width : XpmImage → UInt16} {display : Display} {scene : Scene}

/-- What is kept belongs to the numbers it is kept for. -/
structure Current (width : XpmImage → UInt16) (display : Display) : Prop where
  round : display.round = -1 ∨ ∃ round : Nat, display.round = round ∧
    display.roundText.drawTextBox width = TextBox.place width 0 ((printNat round).map getPropFromChar)
  time : display.previousTime = -1 ∨ ∃ time : Nat, display.previousTime = time ∧
    display.number = getPropFromChar (digitByte time)

theorem current_boot (images : Vector XpmImage 20) : (boot images).Current width := ⟨.inl rfl, .inl rfl⟩

theorem Current.drawCounter (current : display.Current width) (scene : Scene) :
    (display.drawCounter scene).1.Current width ∧
    (display.drawCounter scene).2 = getPropFromChar (digitByte scene.timeLeft) := by
  have byte : ascii '0' + UInt8.ofNat scene.timeLeft = digitByte scene.timeLeft := (UInt8.ofNat_add _ _).symm
  rw [Display.drawCounter]
  dsimp only
  split
  · exact ⟨⟨current.round, .inr ⟨scene.timeLeft, rfl, by rw [byte]⟩⟩, by rw [byte]⟩
  · next same =>
      have same : display.previousTime = scene.timeLeft := not_not.mp same
      rcases current.time with never | ⟨time, kept, number⟩
      · omega
      · have equal : time = scene.timeLeft := by omega
        exact ⟨current, by rw [number, equal]⟩

theorem Current.drawRound (narrow : TextBox.NarrowDigits width) (current : display.Current width)
    (small : scene.buttonsSize < 1000) (uninitialised : Vector XpmImage 20) :
    (display.drawRound width scene uninitialised).1.Current width ∧
    (display.drawRound width scene uninitialised).2 =
      TextBox.place width 0 ((printNat scene.buttonsSize).map getPropFromChar) := by
  have drawn : (TextBox.createStaticTextBox width 0 50 (spell scene.buttonsSize).text uninitialised).drawTextBox width =
      TextBox.place width 0 ((printNat scene.buttonsSize).map getPropFromChar) := by
    have short : (spell scene.buttonsSize).text.length ≤ 20 := by
      rw [Spelling.text, List.length_take, Vector.length_toList]
      omega
    rw [(spell_small small).1] at short ⊢
    refine TextBox.drawTextBox_static narrow (fun byte member => ?_) short 50 uninitialised
    rw [NumberOfRounds.isNumerical_eq]
    exact isDigit_printNat _ byte member
  rw [Display.drawRound]
  dsimp only
  split
  · exact ⟨⟨.inr ⟨scene.buttonsSize, rfl, drawn⟩, current.time⟩, drawn⟩
  · next same =>
      have same : display.round = scene.buttonsSize := not_not.mp same
      rcases current.round with never | ⟨round, kept, text⟩
      · omega
      · have equal : round = scene.buttonsSize := by omega
        exact ⟨current, by rw [text, equal]⟩

/-- A frame that uses what is kept is the one drawn from nothing. -/
theorem Current.frame (narrow : TextBox.NarrowDigits width) (current : display.Current width)
    (soon : scene.gameEnd = false → scene.timeLeftForClick < 10)
    (small : scene.gameEnd = false → scene.buttonsSize < 1000) (uninitialised : Vector XpmImage 20) :
    (display.drawGameGraphics width scene uninitialised).1.Current width ∧
    (display.drawGameGraphics width scene uninitialised).2 = scene.frame width := by
  rw [drawGameGraphics, Scene.frame]
  split
  · next running =>
      have running : scene.gameEnd = false := by simpa using running
      have digit : getPropFromChar (digitByte scene.timeLeft) = .number scene.timeLeft := by
        have all : ∀ time < 10, getPropFromChar (digitByte time) = .number time := by decide
        have soon := soon running
        refine all scene.timeLeft ?_
        rw [Scene.timeLeft]
        split
        · omega
        · decide
      obtain ⟨first, counter⟩ := current.drawCounter scene
      obtain ⟨second, round⟩ := first.drawRound narrow (small running) uninitialised
      refine ⟨second, ?_⟩
      dsimp only
      rw [counter, round, digit]
  · exact ⟨current, rfl⟩

end Display

end SimonVs
