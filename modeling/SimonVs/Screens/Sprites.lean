import Mathlib.Tactic.Ring
import SimonVs.Data.Stores

namespace SimonVs.Screens

open Data

/-! Drawing into the back buffer, `vc.c`. The procedures give the bytes they
store, at their offsets from the start of the buffer. -/

structure VideoMode where
  xRes : Nat
  yRes : Nat
  bppixel : Nat

/-- `ceil(bppixel / 8.0)` in an `uint8_t` -/
def VideoMode.bytesPerPixel (mode : VideoMode) : Nat := (mode.bppixel + 7) / 8 % 256

/-- Offsets are computed in `unsigned int` as far as `xRes` takes part in them. -/
def pixelOffset (mode : VideoMode) (x y : Nat) : Nat :=
  mode.bytesPerPixel * y * mode.xRes % 4294967296 + x * mode.bytesPerPixel

/-- The loop over the bytes of one pixel, lowest first. -/
def storeBytes : Nat → Nat → UInt32 → List (Store Nat UInt8)
  | 0, _, _ => []
  | count + 1, address, color => ⟨address, color.toUInt8⟩ :: storeBytes count (address + 1) (color >>> 8)

def drawPixel (mode : VideoMode) (x y : Nat) (color : UInt32) : Nat × List (Store Nat UInt8) :=
  if mode.yRes ≤ y ∨ mode.xRes ≤ x then
    (1, [])
  else if mode.bytesPerPixel = 1 then
    (0, [⟨pixelOffset mode x y, color.toUInt8⟩])
  else
    (0, storeBytes mode.bytesPerPixel (pixelOffset mode x y) color)

/-- An image with 16 bits a pixel. -/
structure Pixmap where
  width : Nat
  height : Nat
  pixels : List UInt16
  sized : pixels.length = width * height

def Pixmap.pixel (image : Pixmap) (index : Nat) : UInt16 := image.pixels.getD index 0

/-- The inner loop, with `count` columns left; `xpm_transparency_color(img.type)`
is `transparency`. The call of `draw_pixel` narrows both coordinates. -/
def drawRow (mode : VideoMode) (image : Pixmap) (transparency : UInt32) (i : Nat) :
    Nat → Nat → Nat → List (Store Nat UInt8) × Nat
  | 0, _, bcount => ([], bcount)
  | count + 1, j, bcount =>
      let drawn :=
        if (image.pixel bcount).toUInt32 ≠ transparency then
          (drawPixel mode (j % 65536) (i % 65536) (image.pixel bcount).toUInt32).2
        else []
      let rest := drawRow mode image transparency i count (j + 1) (bcount + 1)
      (drawn ++ rest.1, rest.2)

/-- The outer loop, with `count` rows left. -/
def drawRows (mode : VideoMode) (image : Pixmap) (transparency : UInt32) (x : Nat) :
    Nat → Nat → Nat → List (Store Nat UInt8)
  | 0, _, _ => []
  | count + 1, i, bcount =>
      let row := drawRow mode image transparency i (image.width + x - x) x bcount
      row.1 ++ drawRows mode image transparency x count (i + 1) row.2

def drawXpmXY (mode : VideoMode) (image : Pixmap) (transparency : UInt32) (x y : Nat) :
    List (Store Nat UInt8) :=
  drawRows mode image transparency x (image.height + y - y) y 0

variable {mode : VideoMode} {image : Pixmap} {transparency : UInt32} {store : Store Nat UInt8}
variable {i j count bcount x y : Nat}

def Pixmap.Opaque (image : Pixmap) (transparency : UInt32) (index : Nat) : Prop :=
  (image.pixel index).toUInt32 ≠ transparency

instance : Decidable (image.Opaque transparency bcount) :=
  inferInstanceAs (Decidable ((image.pixel bcount).toUInt32 ≠ transparency))

/-- The running counter has moved by the columns, clipped or not. -/
theorem drawRow_bcount : (drawRow mode image transparency i count j bcount).2 = bcount + count := by
  induction count generalizing j bcount with
  | zero => rfl
  | succ count ih =>
      simp only [drawRow, ih]
      omega

theorem mem_drawRow :
    store ∈ (drawRow mode image transparency i count j bcount).1 ↔
      ∃ column < count, image.Opaque transparency (bcount + column) ∧
        store ∈ (drawPixel mode ((j + column) % 65536) (i % 65536) (image.pixel (bcount + column)).toUInt32).2 := by
  induction count generalizing j bcount with
  | zero => simp [drawRow]
  | succ count ih =>
      simp only [drawRow, List.mem_append, ih]
      constructor
      · rintro (first | ⟨column, below, visible, stored⟩)
        · refine ⟨0, Nat.succ_pos count, ?_⟩
          split at first
          · next visible => exact ⟨visible, first⟩
          · cases first
        · refine ⟨column + 1, by omega, ?_⟩
          rw [show bcount + (column + 1) = bcount + 1 + column by omega,
            show j + (column + 1) = j + 1 + column by omega]
          exact ⟨visible, stored⟩
      · rintro ⟨column, below, visible, stored⟩
        cases column with
        | zero =>
            left
            exact (if_pos (show (image.pixel bcount).toUInt32 ≠ transparency from visible)).symm ▸ stored
        | succ column =>
            right
            refine ⟨column, by omega, ?_⟩
            rw [show bcount + 1 + column = bcount + (column + 1) by omega,
              show j + 1 + column = j + (column + 1) by omega]
            exact ⟨visible, stored⟩

theorem nextRow_index (row width : Nat) : bcount + (row + 1) * width = bcount + width + row * width := by
  ring

theorem mem_drawRows :
    store ∈ drawRows mode image transparency x count i bcount ↔
      ∃ row < count, ∃ column < image.width,
        image.Opaque transparency (bcount + row * image.width + column) ∧
        store ∈ (drawPixel mode ((x + column) % 65536) ((i + row) % 65536)
          (image.pixel (bcount + row * image.width + column)).toUInt32).2 := by
  induction count generalizing i bcount with
  | zero => simp [drawRows]
  | succ count ih =>
      simp only [drawRows, List.mem_append, mem_drawRow, drawRow_bcount, ih, Nat.add_sub_cancel]
      constructor
      · rintro (⟨column, below, first⟩ | ⟨row, belowRow, column, below, later⟩)
        · exact ⟨0, Nat.succ_pos count, column, below, by simpa using first⟩
        · refine ⟨row + 1, by omega, column, below, ?_⟩
          rw [nextRow_index, show i + (row + 1) = i + 1 + row by omega]
          exact later
      · rintro ⟨row, belowRow, column, below, stored⟩
        cases row with
        | zero => exact .inl ⟨column, below, by simpa using stored⟩
        | succ row =>
            refine .inr ⟨row, by omega, column, below, ?_⟩
            rw [nextRow_index, show i + (row + 1) = i + 1 + row by omega] at stored
            exact stored

/-- Where the pixel at a column and a row of the screen begins, two bytes each. -/
def VideoMode.address (mode : VideoMode) (column row : Nat) : Nat := (row * mode.xRes + column) * 2

/-- The modes the drawing is exact in. -/
structure VideoMode.HighColour (mode : VideoMode) : Prop where
  bppixel : mode.bppixel = 16
  xRes : mode.xRes ≤ 65535
  yRes : mode.yRes ≤ 65535
  size : mode.xRes * mode.yRes * 2 < 4294967296

theorem VideoMode.address_lt {column row : Nat} (insideColumn : column < mode.xRes)
    (insideRow : row < mode.yRes) : mode.address column row + 1 < mode.xRes * mode.yRes * 2 := by
  have whole : (row + 1) * mode.xRes ≤ mode.yRes * mode.xRes := Nat.mul_le_mul_right _ insideRow
  have split : (row + 1) * mode.xRes = row * mode.xRes + mode.xRes := by ring
  rw [VideoMode.address, Nat.mul_comm mode.xRes]
  omega

theorem VideoMode.address_injective {column row column' row' : Nat} (inside : column < mode.xRes)
    (inside' : column' < mode.xRes)
    (same : row * mode.xRes + column = row' * mode.xRes + column') : column = column' ∧ row = row' := by
  have columns : column = column' := by
    rw [← Nat.mul_add_mod_of_lt (a := row) inside, same, Nat.mul_add_mod_of_lt inside']
  have rows : row * mode.xRes = row' * mode.xRes := by omega
  exact ⟨columns, Nat.eq_of_mul_eq_mul_right (by omega) rows⟩

theorem VideoMode.HighColour.bytesPerPixel (highColour : mode.HighColour) : mode.bytesPerPixel = 2 := by
  simp [VideoMode.bytesPerPixel, highColour.bppixel]

/-- On the screen nothing is lost in `unsigned int`. -/
theorem VideoMode.HighColour.pixelOffset (highColour : mode.HighColour) (insideX : x < mode.xRes)
    (insideY : y < mode.yRes) : pixelOffset mode x y = mode.address x y := by
  have below := mode.address_lt insideX insideY
  have size := highColour.size
  simp only [Screens.pixelOffset, highColour.bytesPerPixel]
  simp only [VideoMode.address] at below ⊢
  have twice : 2 * y * mode.xRes = y * mode.xRes * 2 := by ring
  rw [twice, Nat.mod_eq_of_lt (by omega)]
  omega

def lowByte (pixel : UInt16) : UInt8 := pixel.toUInt8

def highByte (pixel : UInt16) : UInt8 := (pixel >>> 8).toUInt8

theorem shifted_toUInt8 (pixel : UInt16) : (pixel.toUInt32 >>> 8).toUInt8 = highByte pixel := by
  apply UInt8.toNat.inj
  have below := pixel.toNat_lt
  simp [highByte, UInt32.toNat_toUInt8, UInt16.toNat_toUInt8]

theorem mem_drawPixel (highColour : mode.HighColour) {pixel : UInt16} :
    store ∈ (drawPixel mode x y pixel.toUInt32).2 ↔
      x < mode.xRes ∧ y < mode.yRes ∧
        (store = ⟨mode.address x y, lowByte pixel⟩ ∨ store = ⟨mode.address x y + 1, highByte pixel⟩) := by
  simp only [drawPixel]
  split
  · next clipped =>
      simp only [List.not_mem_nil, false_iff]
      omega
  · next shown =>
      have insideX : x < mode.xRes := by omega
      have insideY : y < mode.yRes := by omega
      rw [if_neg (by rw [highColour.bytesPerPixel]; decide), highColour.bytesPerPixel,
        highColour.pixelOffset insideX insideY]
      simp [storeBytes, insideX, insideY, shifted_toUInt8, lowByte]

/-- The image pixels that reach the screen. -/
structure Visible (mode : VideoMode) (image : Pixmap) (transparency : UInt32) (x y column row : Nat) : Prop where
  width : column < image.width
  height : row < image.height
  xRes : x + column < mode.xRes
  yRes : y + row < mode.yRes
  shown : image.Opaque transparency (row * image.width + column)

theorem mem_drawXpmXY (highColour : mode.HighColour) (fitsX : x + image.width ≤ 65536)
    (fitsY : y + image.height ≤ 65536) :
    store ∈ drawXpmXY mode image transparency x y ↔
      ∃ column row, Visible mode image transparency x y column row ∧
        (store = ⟨mode.address (x + column) (y + row), lowByte (image.pixel (row * image.width + column))⟩ ∨
          store = ⟨mode.address (x + column) (y + row) + 1, highByte (image.pixel (row * image.width + column))⟩) := by
  simp only [drawXpmXY, Nat.add_sub_cancel, mem_drawRows, mem_drawPixel highColour, Nat.zero_add]
  constructor
  · rintro ⟨row, belowRow, column, belowColumn, shown, insideX, insideY, written⟩
    rw [Nat.mod_eq_of_lt (by omega)] at insideX insideY
    rw [Nat.mod_eq_of_lt (by omega), Nat.mod_eq_of_lt (by omega)] at written
    exact ⟨column, row, ⟨belowColumn, belowRow, insideX, insideY, shown⟩, written⟩
  · rintro ⟨column, row, visible, written⟩
    have insideX : (x + column) % 65536 = x + column :=
      Nat.mod_eq_of_lt (Nat.lt_of_lt_of_le (Nat.add_lt_add_left visible.width x) fitsX)
    have insideY : (y + row) % 65536 = y + row :=
      Nat.mod_eq_of_lt (Nat.lt_of_lt_of_le (Nat.add_lt_add_left visible.height y) fitsY)
    refine ⟨row, visible.height, column, visible.width, visible.shown, ?_⟩
    rw [insideX, insideY]
    exact ⟨visible.xRes, visible.yRes, written⟩

/-- Two stores at one address are of one image pixel and of the same byte of it. -/
theorem drawXpmXY_agreed (highColour : mode.HighColour) (fitsX : x + image.width ≤ 65536)
    (fitsY : y + image.height ≤ 65536) {other : Store Nat UInt8}
    (member : store ∈ drawXpmXY mode image transparency x y)
    (memberOther : other ∈ drawXpmXY mode image transparency x y) (same : other.address = store.address) :
    other.value = store.value := by
  obtain ⟨column, row, visible, written⟩ := (mem_drawXpmXY highColour fitsX fitsY).mp member
  obtain ⟨column', row', visible', written'⟩ := (mem_drawXpmXY highColour fitsX fitsY).mp memberOther
  have one : (y + row') * mode.xRes + (x + column') = (y + row) * mode.xRes + (x + column) := by
    rcases written with rfl | rfl <;> rcases written' with rfl | rfl <;>
      simp only [VideoMode.address] at same <;> omega
  obtain ⟨columns, rows⟩ := mode.address_injective visible'.xRes visible.xRes one
  obtain rfl : column' = column := by omega
  obtain rfl : row' = row := by omega
  rcases written with rfl | rfl <;> rcases written' with rfl | rfl
  · rfl
  · simp at same
  · simp at same
  · rfl

/-- Drawing an image stores its visible pixels and nothing else, inside the buffer. -/
theorem drawXpmXY_exact (highColour : mode.HighColour) (fitsX : x + image.width ≤ 65536)
    (fitsY : y + image.height ≤ 65536) (before : Nat → UInt8) :
    let stores := drawXpmXY mode image transparency x y
    let after := applyStores before stores
    (∀ column row, Visible mode image transparency x y column row →
      after (mode.address (x + column) (y + row)) = lowByte (image.pixel (row * image.width + column)) ∧
      after (mode.address (x + column) (y + row) + 1) = highByte (image.pixel (row * image.width + column))) ∧
    (∀ address, (∀ column row, Visible mode image transparency x y column row →
        address ≠ mode.address (x + column) (y + row) ∧ address ≠ mode.address (x + column) (y + row) + 1) →
      after address = before address) ∧
    ∀ store ∈ stores, store.address < mode.xRes * mode.yRes * 2 := by
  have members := fun store => @mem_drawXpmXY mode image transparency store x y highColour fitsX fitsY
  refine ⟨?_, ?_, ?_⟩
  · intro column row visible
    have low := (members _).mpr ⟨column, row, visible, .inl rfl⟩
    have high := (members _).mpr ⟨column, row, visible, .inr rfl⟩
    exact ⟨applyStores_agreed low fun other member => drawXpmXY_agreed highColour fitsX fitsY low member,
      applyStores_agreed high fun other member => drawXpmXY_agreed highColour fitsX fitsY high member⟩
  · intro address outside
    apply applyStores_untouched
    intro store member there
    obtain ⟨column, row, visible, written⟩ := (members store).mp member
    rcases written with rfl | rfl
    · exact (outside column row visible).1 there.symm
    · exact (outside column row visible).2 there.symm
  · intro store member
    obtain ⟨column, row, visible, written⟩ := (members store).mp member
    have below := mode.address_lt visible.xRes visible.yRes
    rcases written with rfl | rfl
    · exact Nat.lt_of_succ_lt below
    · exact below

/-- Two columns and two rows, the last pixel transparent; drawn at the lower
right corner of a screen of three columns and two rows. -/
def corner : Pixmap := ⟨2, 2, [0x1234, 0x5678, 0x9abc, 0x07e0], rfl⟩

theorem drawXpmXY_exact_corner :
    let after := applyStores (fun _ => 0) (drawXpmXY ⟨3, 2, 16⟩ corner 0x07e0 2 1)
    after 10 = 0x34 ∧ after 11 = 0x12 ∧ after 9 = 0 ∧ after 12 = 0 := by
  have highColour : VideoMode.HighColour ⟨3, 2, 16⟩ := ⟨rfl, by decide, by decide, by decide⟩
  have onlyFirst : ∀ column row, Visible ⟨3, 2, 16⟩ corner 0x07e0 2 1 column row → column = 0 ∧ row = 0 := by
    intro column row visible
    have columnInside : 2 + column < 3 := visible.xRes
    have rowInside : 1 + row < 2 := visible.yRes
    omega
  obtain ⟨drawn, kept, _⟩ :=
    @drawXpmXY_exact ⟨3, 2, 16⟩ corner 0x07e0 2 1 highColour (by decide) (by decide) (fun _ => 0)
  obtain ⟨low, high⟩ := drawn 0 0 ⟨by decide, by decide, by decide, by decide, by decide⟩
  refine ⟨low, high, kept 9 ?_, kept 12 ?_⟩
  · intro column row visible
    obtain ⟨rfl, rfl⟩ := onlyFirst column row visible
    decide
  · intro column row visible
    obtain ⟨rfl, rfl⟩ := onlyFirst column row visible
    decide

end SimonVs.Screens
