import SimonVs.Input

namespace SimonVs.Devices

/-! The keyboard half of the KBC (`keyboard.c`). -/

def bit (position : Nat) : UInt8 := UInt8.ofNat (1 <<< position)

/-- `KBC_STAT_REG_PAR`, `KBC_STAT_REG_TIMEOUT`, `KBC_STAT_REG_OBF` -/
def kbcStatRegPar : UInt8 := bit 7
def kbcStatRegTimeout : UInt8 := bit 6
def kbcStatRegObf : UInt8 := bit 0

def twoByteScancodePrefix : UInt8 := 0xE0
def escBreakCode : UInt8 := 0x81

/-- The static array `bytes[2]` of `keyboard_handler`. -/
structure ScancodeBytes where
  first : UInt8
  second : UInt8
deriving DecidableEq, Repr

/-- The static variables of `keyboard.c` and of `keyboard_handler`. -/
structure Keyboard where
  kbcIhErr : Bool
  kbcIhObf : Bool
  kbcIhOutput : UInt8
  assembliedWord : Bool
  bytes : ScancodeBytes
deriving DecidableEq, Repr

/-- What the two ports of the KBC hold when `kbc_ih` reads them. -/
structure KbcRead where
  statReg : UInt8
  outBuf : UInt8
deriving DecidableEq, Repr

/-- The byte can be read and has no parity or timeout error. -/
def KbcRead.Good (read : KbcRead) : Prop :=
  read.statReg &&& (kbcStatRegPar ||| kbcStatRegTimeout) = 0 ∧ read.statReg &&& kbcStatRegObf ≠ 0

instance (read : KbcRead) : Decidable read.Good := inferInstanceAs (Decidable (_ ∧ _))

namespace Keyboard

/-- Static variables are zero. -/
def boot : Keyboard :=
  { kbcIhErr := false, kbcIhObf := false, kbcIhOutput := 0, assembliedWord := false
    bytes := { first := 0, second := 0 } }

def kbcIh (keyboard : Keyboard) (read : KbcRead) : Keyboard :=
  let obf := read.statReg &&& kbcStatRegObf != 0
  { keyboard with
    kbcIhErr := read.statReg &&& (kbcStatRegPar ||| kbcStatRegTimeout) != 0
    kbcIhObf := obf
    kbcIhOutput := if obf then read.outBuf else 0 }

def scancodeIsEscBreak (keyboard : Keyboard) : Bool := keyboard.kbcIhOutput == escBreakCode

end Keyboard

/-- `keyboard_get_scancode` stores the byte and tells whether a scancode is
complete. -/
def keyboardGetScancode (bytes : ScancodeBytes) (thisByte : UInt8) (assembliedWord : Bool) :
    ScancodeBytes × Bool :=
  if !assembliedWord ∧ bytes.first = twoByteScancodePrefix then ({ bytes with second := thisByte }, true)
  else if assembliedWord ∧ thisByte = twoByteScancodePrefix then ({ bytes with first := thisByte }, false)
  -- if `assembliedWord` isn't true, then the previous word must have been interrupted
  else ({ bytes with first := thisByte }, true)

def scancodeGetSize (previousByte : UInt8) : Nat := if previousByte = twoByteScancodePrefix then 2 else 1

def scancodeIsMake (dataByte : UInt8) : Bool := dataByte &&& bit 7 == 0

/-- `bytes[size - 1]` -/
def ScancodeBytes.last (bytes : ScancodeBytes) (size : Nat) : UInt8 :=
  if size = 1 then bytes.first else bytes.second

/-- The break codes of one byte that `assemble_key_press` knows, with the
characters it turns them into. -/
def breakCodes : List (UInt8 × Nat) :=
  [(0x9e, 'a'.toNat), (0xb0, 'b'.toNat), (0xae, 'c'.toNat), (0xa0, 'd'.toNat), (0x92, 'e'.toNat),
   (0xa1, 'f'.toNat), (0xa2, 'g'.toNat), (0xa3, 'h'.toNat), (0x97, 'i'.toNat), (0xa4, 'j'.toNat),
   (0xa5, 'k'.toNat), (0xa6, 'l'.toNat), (0xb2, 'm'.toNat), (0xb1, 'n'.toNat), (0x98, 'o'.toNat),
   (0x99, 'p'.toNat), (0x90, 'q'.toNat), (0x93, 'r'.toNat), (0x9f, 's'.toNat), (0x94, 't'.toNat),
   (0x96, 'u'.toNat), (0xaf, 'v'.toNat), (0x91, 'w'.toNat), (0xad, 'x'.toNat), (0x95, 'y'.toNat),
   (0xac, 'z'.toNat), (0x82, '1'.toNat), (0x83, '2'.toNat), (0x84, '3'.toNat), (0x85, '4'.toNat),
   (0x86, '5'.toNat), (0x87, '6'.toNat), (0x88, '7'.toNat), (0x89, '8'.toNat), (0x8a, '9'.toNat),
   (0x8b, '0'.toNat), (0x81, 27), (0x9c, enter), (0x8e, 8)]

/-- The arrows, sent with a prefix. -/
def arrowCodes : List (UInt8 × Nat) := [(0xc8, 19), (0xd0, 20)]

/-- `assemble_key_press`. A two-byte scancode other than the arrows leaves
`key.key` as it was found on the stack. -/
def assembleKeyPress (isMake : Bool) (size : Nat) (bytes : ScancodeBytes) (uninitialised : Nat) : KeyPress :=
  { down := isMake
    key :=
      if size = 1 then (breakCodes.lookup (bytes.last size)).getD 0
      else if size = 2 then (arrowCodes.lookup (bytes.last size)).getD uninitialised
      else uninitialised }

def keyPressOf (bytes : ScancodeBytes) (uninitialised : Nat) : KeyPress :=
  let size := scancodeGetSize bytes.first
  let isMake := scancodeIsMake (bytes.last size)
  assembleKeyPress isMake size bytes uninitialised

/-- `keyboard_handler`: the result says whether to hand on `key`, which is
written only when a scancode is complete. -/
def keyboardHandler (keyboard : Keyboard) (key : KeyPress) (read : KbcRead) (uninitialised : Nat) :
    Keyboard × KeyPress × Bool :=
  let keyboard := keyboard.kbcIh read
  if keyboard.kbcIhErr ∨ !keyboard.kbcIhObf then (keyboard, key, false)
  else
    let (bytes, assembliedWord) :=
      keyboardGetScancode keyboard.bytes keyboard.kbcIhOutput keyboard.assembliedWord
    let keyboard := { keyboard with bytes, assembliedWord }
    if assembliedWord then (keyboard, keyPressOf bytes uninitialised, true)
    else (keyboard, key, true)

theorem kbcIh_good {keyboard : Keyboard} {read : KbcRead} (good : read.Good) :
    keyboard.kbcIh read =
      { keyboard with kbcIhErr := false, kbcIhObf := true, kbcIhOutput := read.outBuf } := by
  obtain ⟨noError, full⟩ := good
  simp [Keyboard.kbcIh, noError, full]

/-- Every byte that can be read is answered with "true". -/
theorem keyboardHandler_good {keyboard : Keyboard} {read : KbcRead} (good : read.Good) (key : KeyPress)
    (uninitialised : Nat) :
    let scan := keyboardGetScancode keyboard.bytes read.outBuf keyboard.assembliedWord
    keyboardHandler keyboard key read uninitialised =
      ({ kbcIhErr := false, kbcIhObf := true, kbcIhOutput := read.outBuf, assembliedWord := scan.2
         bytes := scan.1 },
       if scan.2 then keyPressOf scan.1 uninitialised else key, true) := by
  intro scan
  unfold keyboardHandler
  rw [kbcIh_good good]
  simp only [Bool.false_eq_true, Bool.not_true, or_self, if_false]
  split <;> rfl

end SimonVs.Devices
