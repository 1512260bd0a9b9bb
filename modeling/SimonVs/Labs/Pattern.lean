import SimonVs.Data.BitFields

namespace SimonVs.Labs

open Data

/-! The colours of the rectangles of `video_test_pattern` in lab5, which has two
versions of it (`lab5/graphics.c` and `lab5/mel/lab5.c`). Words are natural
numbers, reduced where the code stores them. -/

/-- A mask size and a field position of `vbe_mode_info_t`. -/
structure ColourField where
  size : Nat
  position : Nat
deriving DecidableEq, Repr

/-- What is used of `vbe_mode_info_t`. -/
structure ModeInfo where
  memoryModel : Nat
  bitsPerPixel : Nat
  red : ColourField
  green : ColourField
  blue : ColourField
deriving DecidableEq, Repr

/-- In `lab5/graphics.c`. The sum binds tighter than the `&`. -/
def getRectanglesColor (info : ModeInfo) (mode : Nat) (first : UInt32) (noRectangles step row col : UInt8) : Nat :=
  if mode = 0x105 then
    (first.toNat + (row.toNat * noRectangles.toNat + col.toNat) * step.toNat) % 2 ^ 32 % 2 ^ info.bitsPerPixel
  else
    let red := (first.toNat >>> info.red.position &&& (2 ^ info.red.size - 1 + col.toNat * step.toNat)) %
      2 ^ info.red.size % 256
    let green := (first.toNat >>> info.green.position &&& (2 ^ info.green.size - 1 + row.toNat * step.toNat)) %
      2 ^ info.green.size % 256
    let blue := (first.toNat >>> info.blue.position &&&
        (2 ^ info.blue.size - 1 + (col.toNat + row.toNat) * step.toNat)) % 2 ^ info.blue.size % 256
    (red ||| green <<< info.green.position ||| blue <<< info.blue.position) % 2 ^ 32

/-- In `lab5/mel/lab5.c`, the body of the loops up to the drawing; `color` is
the one of the rectangle before. -/
def patternColor (info : ModeInfo) (color : Nat) (first : UInt32) (noRectangles step row col : UInt8) : Nat :=
  let color :=
    if info.memoryModel = 0x04 then
      (first.toNat + (row.toNat * noRectangles.toNat + col.toNat) * step.toNat) % 2 ^ 32 % 2 ^ info.bitsPerPixel
    else color
  if info.memoryModel = 0x06 then
    let redMask := 2 ^ info.red.size - 1
    let red := ((first.toNat >>> info.red.position &&& redMask) + col.toNat * step.toNat) % 2 ^ 32 % 2 ^ info.red.size
    let greenMask := 2 ^ info.green.size - 1
    let green := ((first.toNat >>> info.green.position &&& greenMask) + row.toNat * step.toNat) % 2 ^ 32 %
      2 ^ info.green.size
    let blueMask := 2 ^ info.blue.size - 1
    let blue := ((first.toNat <<< info.blue.position % 2 ^ 32 &&& blueMask) +
        (col.toNat + row.toNat) * step.toNat) % 2 ^ 32 % 2 ^ info.blue.size
    red <<< info.red.position % 2 ^ 32 ||| green <<< info.green.position % 2 ^ 32 ||| blue
  else color

namespace ColourField

/-- The field of `first`. -/
def of (channel : ColourField) (first : UInt32) : Nat := field first.toNat channel.position channel.size

/-- The field of a rectangle, `k` further on. -/
def expected (channel : ColourField) (first : UInt32) (k : Nat) : Nat := (channel.of first + k) % 2 ^ channel.size

/-- What the version with the wrong precedence has instead. -/
def masked (channel : ColourField) (first : UInt32) (k : Nat) : Nat :=
  channel.of first &&& (2 ^ channel.size - 1 + k) % 2 ^ channel.size

/-- The field of `first` and `k - 1` have all bits of the field between them. -/
def Covers (channel : ColourField) (first : UInt32) (k : Nat) : Prop :=
  channel.of first ||| (2 ^ channel.size - 1 + k) % 2 ^ channel.size = 2 ^ channel.size - 1

instance (channel : ColourField) (first : UInt32) (k : Nat) : Decidable (channel.Covers first k) :=
  inferInstanceAs (Decidable (_ = _))

/-- A field of at most eight bits of a word of 32. -/
structure InWord (channel : ColourField) : Prop where
  size : channel.size ≤ 8
  position : channel.position < 32
  fits : channel.position + channel.size ≤ 32

def Apart (channel other : ColourField) : Prop :=
  Data.Apart channel.position channel.size other.position other.size

variable {channel : ColourField} {first : UInt32} {k : Nat}

theorem of_lt : channel.of first < 2 ^ channel.size := field_lt

theorem expected_lt : channel.expected first k < 2 ^ channel.size := Nat.mod_lt _ (Nat.two_pow_pos _)

theorem masked_lt : channel.masked first k < 2 ^ channel.size := Nat.lt_of_le_of_lt Nat.and_le_left of_lt

theorem masked_eq_expected_iff : channel.masked first k = channel.expected first k ↔ channel.Covers first k :=
  and_eq_add_mod_iff of_lt

theorem masked_eq_zero (zero : channel.expected first k = 0) : channel.masked first k = 0 :=
  and_eq_zero_of_add_mod of_lt zero

end ColourField

namespace ModeInfo

/-- A direct colour mode. -/
structure Direct (info : ModeInfo) : Prop where
  memoryModel : info.memoryModel = 0x06
  red : info.red.InWord
  green : info.green.InWord
  blue : info.blue.InWord
  redGreen : info.red.Apart info.green
  redBlue : info.red.Apart info.blue
  greenBlue : info.green.Apart info.blue

/-- The colour with the three fields given. -/
def colour (info : ModeInfo) (red green blue : Nat) : Nat :=
  red <<< info.red.position ||| green <<< info.green.position ||| blue <<< info.blue.position

def expectedColor (info : ModeInfo) (first : UInt32) (step row col : UInt8) : Nat :=
  info.colour (info.red.expected first (col.toNat * step.toNat)) (info.green.expected first (row.toNat * step.toNat))
    (info.blue.expected first ((col.toNat + row.toNat) * step.toNat))

/-- What the other version leaves at the bottom of the word for blue. -/
def spill (info : ModeInfo) (first : UInt32) (k : Nat) : Nat :=
  (first.toNat * 2 ^ info.blue.position + k) % 2 ^ info.blue.size

variable {info : ModeInfo} {first : UInt32} {mode color : Nat} {noRectangles step row col : UInt8}

theorem masked_word {channel : ColourField} (inWord : channel.InWord) {k : Nat} :
    (first.toNat >>> channel.position &&& (2 ^ channel.size - 1 + k)) % 2 ^ channel.size % 256 =
      channel.masked first k := by
  have below : channel.masked first k < 256 :=
    Nat.lt_of_lt_of_le ColourField.masked_lt (Nat.pow_le_pow_right (by decide) inWord.size : _ ≤ 2 ^ 8)
  rw [Nat.and_mod_two_pow]
  exact Nat.mod_eq_of_lt below

theorem getRectanglesColor_eq (direct : info.Direct) (notIndexed : mode ≠ 0x105) :
    getRectanglesColor info mode first noRectangles step row col =
      info.red.masked first (col.toNat * step.toNat) |||
        info.green.masked first (row.toNat * step.toNat) <<< info.green.position |||
        info.blue.masked first ((col.toNat + row.toNat) * step.toNat) <<< info.blue.position := by
  simp only [getRectanglesColor, if_neg notIndexed, masked_word direct.red, masked_word direct.green,
    masked_word direct.blue]
  apply Nat.mod_eq_of_lt
  have red : info.red.masked first (col.toNat * step.toNat) < 2 ^ 32 :=
    Nat.lt_of_lt_of_le ColourField.masked_lt (Nat.pow_le_pow_right (by decide) (Nat.le_trans direct.red.size (by decide)))
  exact Nat.or_lt_two_pow (Nat.or_lt_two_pow red (shiftLeft_lt_of_fits ColourField.masked_lt direct.green.fits))
    (shiftLeft_lt_of_fits ColourField.masked_lt direct.blue.fits)

/-- A field is not changed by what a word of 32 bits loses above it. -/
theorem mod_word {channel : ColourField} (inWord : channel.InWord) (value : Nat) :
    value % 2 ^ 32 % 2 ^ channel.size = value % 2 ^ channel.size :=
  Nat.mod_mod_of_dvd value (Nat.pow_dvd_pow 2 (Nat.le_trans inWord.size (by decide)))

theorem expected_word {channel : ColourField} (inWord : channel.InWord) {k : Nat} :
    (((first.toNat >>> channel.position &&& 2 ^ channel.size - 1) + k) % 2 ^ 32 % 2 ^ channel.size) <<<
      channel.position % 2 ^ 32 = channel.expected first k <<< channel.position := by
  rw [mod_word inWord, Nat.and_two_pow_sub_one_eq_mod]
  exact Nat.mod_eq_of_lt (shiftLeft_lt_of_fits ColourField.expected_lt inWord.fits)

theorem patternColor_eq (direct : info.Direct) :
    patternColor info color first noRectangles step row col =
      info.red.expected first (col.toNat * step.toNat) <<< info.red.position |||
        info.green.expected first (row.toNat * step.toNat) <<< info.green.position |||
        info.spill first ((col.toNat + row.toNat) * step.toNat) := by
  have spill : ((first.toNat <<< info.blue.position % 2 ^ 32 &&& 2 ^ info.blue.size - 1) +
      (col.toNat + row.toNat) * step.toNat) % 2 ^ 32 % 2 ^ info.blue.size =
      info.spill first ((col.toNat + row.toNat) * step.toNat) := by
    rw [mod_word direct.blue, Nat.and_two_pow_sub_one_eq_mod, mod_word direct.blue, Nat.mod_add_mod, Nat.shiftLeft_eq]
    rfl
  simp only [patternColor, if_pos direct.memoryModel, expected_word direct.red, expected_word direct.green, spill]

/-- Red stays at the bottom of the word in the first version. If its place is
clear of the bottom it has to be zero; if the two overlap, what is masked has to
be the sum already moved to its place. -/
def RedInPlace (info : ModeInfo) (first : UInt32) (k : Nat) : Prop :=
  if info.red.position = 0 then info.red.Covers first k
  else if info.red.size ≤ info.red.position then info.red.expected first k = 0
  else info.red.of first &&& (2 ^ info.red.size - 1 + k) % 2 ^ info.red.size =
    info.red.expected first k * 2 ^ info.red.position

/-- Blue is shifted up and stays at the bottom in the other version. If its place
is clear of the bottom it has to be zero and only the step is left over, which
has to be in the colour anyway. -/
def BlueInPlace (info : ModeInfo) (first : UInt32) (k expectedColor : Nat) : Prop :=
  if info.blue.position = 0 then True
  else if info.blue.size ≤ info.blue.position then
    info.blue.expected first k = 0 ∧ k % 2 ^ info.blue.size ||| expectedColor = expectedColor
  else info.spill first k >>> info.blue.position = info.blue.expected first k ∧
    info.spill first k ||| expectedColor = expectedColor

/-- The condition on a rectangle. -/
structure InPlace (info : ModeInfo) (first : UInt32) (step row col : UInt8) : Prop where
  red : info.RedInPlace first (col.toNat * step.toNat)
  green : info.green.Covers first (row.toNat * step.toNat)
  blue : info.blue.Covers first ((col.toNat + row.toNat) * step.toNat)
  bottom : info.BlueInPlace first ((col.toNat + row.toNat) * step.toNat) (info.expectedColor first step row col)

instance (info : ModeInfo) (first : UInt32) (k : Nat) : Decidable (info.RedInPlace first k) :=
  inferInstanceAs (Decidable (ite _ _ _))

instance (info : ModeInfo) (first : UInt32) (k expectedColor : Nat) :
    Decidable (info.BlueInPlace first k expectedColor) :=
  inferInstanceAs (Decidable (ite _ _ _))

instance (info : ModeInfo) (first : UInt32) (step row col : UInt8) : Decidable (info.InPlace first step row col) :=
  decidable_of_iff (_ ∧ _ ∧ _ ∧ _)
    ⟨fun ⟨red, green, blue, bottom⟩ => ⟨red, green, blue, bottom⟩,
      fun ⟨red, green, blue, bottom⟩ => ⟨red, green, blue, bottom⟩⟩

/-- A value at the bottom of the word does not reach a field clear of it. -/
theorem field_bottom {channel : ColourField} {value : Nat} (below : value < 2 ^ channel.size)
    (clear : channel.size ≤ channel.position) : field value channel.position channel.size = 0 := by
  have apart : Data.Apart 0 channel.size channel.position channel.size := .inl (by omega)
  exact field_shiftLeft_apart apart below

theorem field_of_lt {channel : ColourField} {value : Nat} (below : value < 2 ^ channel.size) :
    field value channel.position channel.size = value >>> channel.position :=
  Nat.mod_eq_of_lt (Nat.lt_of_le_of_lt (Nat.shiftRight_le _ _) below)

/-- Where the field at red's place is red, all of the misplaced red is. -/
theorem redInPlace_iff (inWord : info.red.InWord) {k : Nat} :
    info.RedInPlace first k ↔
      field (info.red.masked first k) info.red.position info.red.size = info.red.expected first k := by
  rw [field_of_lt ColourField.masked_lt, RedInPlace]
  split
  · next bottom => rw [bottom, Nat.shiftRight_zero, ColourField.masked_eq_expected_iff]
  split
  · next clear =>
      rw [← field_of_lt ColourField.masked_lt, field_bottom ColourField.masked_lt clear, eq_comm]
  · next bottom clear =>
      constructor
      · intro moved
        rw [ColourField.masked, moved, ← Nat.shiftLeft_eq, Nat.shiftLeft_shiftRight]
      · intro same
        have small := inWord.size
        rw [← Nat.shiftLeft_eq]
        exact and_aligned small ColourField.of_lt (by omega) same

theorem masked_of_redInPlace {k : Nat} (red : info.RedInPlace first k) :
    info.red.masked first k = info.red.expected first k <<< info.red.position := by
  rw [RedInPlace] at red
  split at red
  · next bottom =>
      rw [bottom, Nat.shiftLeft_zero]
      exact ColourField.masked_eq_expected_iff.mpr red
  split at red
  · rw [red, ColourField.masked_eq_zero red, Nat.zero_shiftLeft]
  · rw [ColourField.masked, red, Nat.shiftLeft_eq]

theorem spill_lt {k : Nat} : info.spill first k < 2 ^ info.blue.size := Nat.mod_lt _ (Nat.two_pow_pos _)

theorem spill_of_bottom (bottom : info.blue.position = 0) (k : Nat) :
    info.spill first k = info.blue.expected first k := by
  simp only [spill, ColourField.expected, ColourField.of, field, bottom, Nat.pow_zero, Nat.mul_one,
    Nat.shiftRight_zero, Nat.mod_add_mod]

/-- Where blue is clear of the bottom, nothing of `first` is left of it. -/
theorem spill_of_clear (clear : info.blue.size ≤ info.blue.position) (k : Nat) :
    info.spill first k = k % 2 ^ info.blue.size := by
  obtain ⟨rest, multiple⟩ := Nat.pow_dvd_pow 2 clear
  rw [spill, multiple, Nat.mul_left_comm, Nat.mul_add_mod]

theorem blueInPlace_iff {k expectedColor : Nat}
    (expected : field expectedColor info.blue.position info.blue.size = info.blue.expected first k) :
    info.BlueInPlace first k expectedColor ↔
      field (info.spill first k) info.blue.position info.blue.size = info.blue.expected first k ∧
      info.spill first k ||| expectedColor = expectedColor := by
  rw [field_of_lt spill_lt, BlueInPlace]
  split
  · next bottom =>
      have part : field expectedColor 0 info.blue.size <<< 0 ||| expectedColor = expectedColor := field_shiftLeft_or
      rw [bottom] at expected
      rw [expected, Nat.shiftLeft_zero] at part
      rw [bottom, Nat.shiftRight_zero, spill_of_bottom bottom]
      exact iff_of_true trivial ⟨rfl, part⟩
  split
  · next clear =>
      rw [← field_of_lt spill_lt, field_bottom spill_lt clear, spill_of_clear clear, eq_comm]
  · exact Iff.rfl

/-- The fields of a colour put together are those it was put together from. -/
theorem field_colour (direct : info.Direct) {red green blue : Nat} (redBelow : red < 2 ^ info.red.size)
    (greenBelow : green < 2 ^ info.green.size) (blueBelow : blue < 2 ^ info.blue.size) :
    field (info.colour red green blue) info.red.position info.red.size = red ∧
    field (info.colour red green blue) info.green.position info.green.size = green ∧
    field (info.colour red green blue) info.blue.position info.blue.size = blue := by
  simp only [colour, field_or, field_shiftLeft redBelow, field_shiftLeft greenBelow, field_shiftLeft blueBelow]
  refine ⟨?_, ?_, ?_⟩
  · rw [field_shiftLeft_apart direct.redGreen.symm greenBelow, field_shiftLeft_apart direct.redBlue.symm blueBelow]
    simp
  · rw [field_shiftLeft_apart direct.redGreen redBelow, field_shiftLeft_apart direct.greenBlue.symm blueBelow]
    simp
  · rw [field_shiftLeft_apart direct.redBlue redBelow, field_shiftLeft_apart direct.greenBlue greenBelow]
    simp

theorem colour_injective (direct : info.Direct) {red green blue red' green' blue' : Nat}
    (redBelow : red < 2 ^ info.red.size) (greenBelow : green < 2 ^ info.green.size)
    (blueBelow : blue < 2 ^ info.blue.size) (redBelow' : red' < 2 ^ info.red.size)
    (greenBelow' : green' < 2 ^ info.green.size) (blueBelow' : blue' < 2 ^ info.blue.size)
    (same : info.colour red green blue = info.colour red' green' blue') :
    red = red' ∧ green = green' ∧ blue = blue' := by
  obtain ⟨redField, greenField, blueField⟩ := field_colour direct redBelow greenBelow blueBelow
  obtain ⟨redField', greenField', blueField'⟩ := field_colour direct redBelow' greenBelow' blueBelow'
  rw [same] at redField greenField blueField
  exact ⟨redField.symm.trans redField', greenField.symm.trans greenField', blueField.symm.trans blueField'⟩

theorem field_expectedColor (direct : info.Direct) :
    field (info.expectedColor first step row col) info.red.position info.red.size =
      info.red.expected first (col.toNat * step.toNat) ∧
    field (info.expectedColor first step row col) info.green.position info.green.size =
      info.green.expected first (row.toNat * step.toNat) ∧
    field (info.expectedColor first step row col) info.blue.position info.blue.size =
      info.blue.expected first ((col.toNat + row.toNat) * step.toNat) :=
  field_colour direct ColourField.expected_lt ColourField.expected_lt ColourField.expected_lt

theorem getRectanglesColor_iff (direct : info.Direct) (notIndexed : mode ≠ 0x105) :
    getRectanglesColor info mode first noRectangles step row col = info.expectedColor first step row col ↔
      info.RedInPlace first (col.toNat * step.toNat) ∧ info.green.Covers first (row.toNat * step.toNat) ∧
      info.blue.Covers first ((col.toNat + row.toNat) * step.toNat) := by
  rw [getRectanglesColor_eq direct notIndexed]
  constructor
  · intro same
    have fields := congrArg (field · info.red.position info.red.size) same
    simp only [(field_expectedColor direct).1, field_or,
      field_shiftLeft_apart direct.redGreen.symm ColourField.masked_lt,
      field_shiftLeft_apart direct.redBlue.symm ColourField.masked_lt, Nat.or_zero] at fields
    have red := (redInPlace_iff direct.red).mpr fields
    rw [masked_of_redInPlace red] at same
    obtain ⟨_, green, blue⟩ := colour_injective direct ColourField.expected_lt ColourField.masked_lt
      ColourField.masked_lt ColourField.expected_lt ColourField.expected_lt ColourField.expected_lt same
    exact ⟨red, ColourField.masked_eq_expected_iff.mp green, ColourField.masked_eq_expected_iff.mp blue⟩
  · rintro ⟨red, green, blue⟩
    rw [masked_of_redInPlace red, ColourField.masked_eq_expected_iff.mpr green,
      ColourField.masked_eq_expected_iff.mpr blue]
    rfl

theorem patternColor_iff (direct : info.Direct) :
    patternColor info color first noRectangles step row col = info.expectedColor first step row col ↔
      info.BlueInPlace first ((col.toNat + row.toNat) * step.toNat) (info.expectedColor first step row col) := by
  rw [patternColor_eq direct, blueInPlace_iff (field_expectedColor direct).2.2]
  constructor
  · intro same
    have fields := congrArg (field · info.blue.position info.blue.size) same
    simp only [(field_expectedColor direct).2.2, field_or,
      field_shiftLeft_apart direct.redBlue ColourField.expected_lt,
      field_shiftLeft_apart direct.greenBlue ColourField.expected_lt, Nat.zero_or] at fields
    refine ⟨fields, ?_⟩
    rw [← same, Nat.or_comm, Nat.or_assoc, Nat.or_self]
  · rintro ⟨fields, inside⟩
    have part := @field_shiftLeft_or (info.spill first ((col.toNat + row.toNat) * step.toNat)) info.blue.position
      info.blue.size
    rw [fields] at part
    calc _ = _ ||| (_ ||| _) := by rw [← part]
      _ = info.spill first ((col.toNat + row.toNat) * step.toNat) ||| info.expectedColor first step row col := by
        rw [expectedColor, colour]
        ac_rfl
      _ = info.expectedColor first step row col := inside

/-- Both versions show the colour meant precisely where the condition holds. -/
theorem pattern_colours (direct : info.Direct) (notIndexed : mode ≠ 0x105) :
    getRectanglesColor info mode first noRectangles step row col = info.expectedColor first step row col ∧
      patternColor info color first noRectangles step row col = info.expectedColor first step row col ↔
    info.InPlace first step row col := by
  rw [getRectanglesColor_iff direct notIndexed, patternColor_iff direct]
  constructor
  · rintro ⟨⟨red, green, blue⟩, bottom⟩
    exact ⟨red, green, blue, bottom⟩
  · rintro ⟨red, green, blue, bottom⟩
    exact ⟨⟨red, green, blue⟩, bottom⟩

/-- Mode 0x111, and mode 0x115. -/
def mode565 : ModeInfo :=
  { memoryModel := 0x06, bitsPerPixel := 16, red := ⟨5, 11⟩, green := ⟨6, 5⟩, blue := ⟨5, 0⟩ }

def mode888 : ModeInfo :=
  { memoryModel := 0x06, bitsPerPixel := 24, red := ⟨8, 16⟩, green := ⟨8, 8⟩, blue := ⟨8, 0⟩ }

/-- The first rectangle of a pattern that starts without red. -/
theorem pattern_colours_first :
    getRectanglesColor mode565 0x111 0x7ff 4 5 0 0 = 0x7ff ∧ patternColor mode565 0x7ff 0x7ff 4 5 0 0 = 0x7ff := by
  have direct : mode565.Direct :=
    ⟨rfl, ⟨by decide, by decide, by decide⟩, ⟨by decide, by decide, by decide⟩, ⟨by decide, by decide, by decide⟩,
      .inr (by decide), .inr (by decide), .inr (by decide)⟩
  exact (@pattern_colours mode565 0x7ff 0x111 0x7ff 4 5 0 0 direct (by decide)).mpr (by decide)

/-- The second rectangle of a pattern that starts with black. -/
theorem second_rectangle_black :
    getRectanglesColor mode888 0x115 0 4 1 0 1 = 0 ∧ patternColor mode888 0 0 4 1 0 1 = 0x010001 ∧
    mode888.expectedColor 0 1 0 1 = 0x010001 := by
  decide

end ModeInfo

end SimonVs.Labs
