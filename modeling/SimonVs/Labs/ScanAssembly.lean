import Mathlib.Logic.Function.Basic
import SimonVs.Data.Transducer
import SimonVs.Devices.Keyboard

namespace SimonVs.Labs

open Data Devices

/-! Scancodes in `lab3/lab3.c`, put together from their bytes by three loops. -/

/-- `FB_OF_TB` -/
def fbOfTb : UInt8 := 0xe0

/-- `ESC_BREAKCODE` -/
def escBreakcode : UInt8 := 0x81

/-- `size` and `bytes`, of which the program has two. -/
structure Assembly where
  size : UInt8
  bytes : Nat → UInt8

/-- A call of `kbd_print_scancode`. -/
structure Report where
  make : Bool
  size : UInt8
  bytes : Nat → UInt8

/-- What is done with one byte. -/
structure AssemblyStep where
  /-- the index of the write to `bytes` -/
  index : Nat
  report : Option Report

namespace Assembly

def assemble (state : Assembly) (scByte : UInt8) : Assembly × AssemblyStep :=
  if scByte = fbOfTb then
    ({ size := state.size + 1, bytes := Function.update state.bytes 0 scByte }, { index := 0, report := none })
  else
    let bytes := Function.update state.bytes state.size.toNat scByte
    let make := scByte &&& bit 7 != bit 7
    ({ size := 0, bytes },
     { index := state.size.toNat, report := some { make, size := state.size + 1, bytes } })

def escFlag (state : Assembly) : Bool := state.bytes 0 == escBreakcode

/-- The bytes that the loop gets to see, with what it does at each of them. -/
def assemblyLoop (state : Assembly) : List UInt8 → List (UInt8 × AssemblyStep)
  | [] => []
  | byte :: rest =>
      let (after, step) := state.assemble byte
      (byte, step) :: if after.escFlag then [] else assemblyLoop after rest

/-- `while (!ESC_flag)`, over the bytes left by `kbc_ih`. -/
def kbdTestScan (state : Assembly) (received : List UInt8) : List (UInt8 × AssemblyStep) :=
  state.assemblyLoop received

/-- `do` with the same condition behind it, over the bytes read. -/
def kbdTestPoll (state : Assembly) (received : List UInt8) : List (UInt8 × AssemblyStep) :=
  state.assemblyLoop received

/-- One notification: the byte left by `kbc_ih` if it is of the keyboard, and
whether it is of the timer. -/
structure Notification where
  byte : Option UInt8
  timer : Bool
deriving DecidableEq, Repr

def timedLoop (n : UInt8) (state : Assembly) (counter : Nat) : List Notification → List (UInt8 × AssemblyStep)
  | [] => []
  | notification :: rest =>
      if counter < n.toNat * 60 then
        match notification.byte with
        | none => timedLoop n state (if notification.timer then counter + 1 else counter) rest
        | some byte =>
            let (after, step) := state.assemble byte
            (byte, step) ::
              if after.escFlag then [] else timedLoop n after (if notification.timer then 1 else 0) rest
      else []

def kbdTestTimedScan (n : UInt8) (state : Assembly) (counter : Nat) (received : List Notification) :
    List (UInt8 × AssemblyStep) :=
  timedLoop n state counter received

end Assembly

/-- The write is inside `bytes`, and what is reported is a scancode. -/
structure AssemblyStep.Fits (step : AssemblyStep) : Prop where
  index : step.index < 2
  report : ∀ report, step.report = some report → report.size = 1 ∨ report.size = 2 ∧ report.bytes 0 = fbOfTb

/-- The number of prefixes at the end. -/
def trailing (bytes : List UInt8) : Nat := (bytes.reverse.takeWhile (· == fbOfTb)).length

/-- No scancode has more than one prefix, up to what an `uint8_t` can count. -/
def OnePrefix (bytes : List UInt8) : Prop :=
  ∀ before byte after, bytes = before ++ byte :: after → byte ≠ fbOfTb → trailing before % 256 ≤ 1

namespace Assembly

variable {state : Assembly} {done bytes received : List UInt8} {byte : UInt8}

@[simp] theorem trailing_append :
    trailing (done ++ [byte]) = if byte = fbOfTb then trailing done + 1 else 0 := by
  by_cases isPrefix : byte = fbOfTb <;> simp [trailing, isPrefix]

/-- The state after some bytes. -/
structure Tracks (state : Assembly) (done : List UInt8) : Prop where
  size : state.size.toNat = trailing done % 256
  first : 0 < trailing done → state.bytes 0 = fbOfTb

theorem Tracks.assemble (tracks : state.Tracks done) (byte : UInt8) : (state.assemble byte).1.Tracks (done ++ [byte]) := by
  by_cases isPrefix : byte = fbOfTb
  · constructor
    · simp only [Assembly.assemble, isPrefix, if_true, trailing_append, UInt8.toNat_add, tracks.size]
      simp
    · intro _
      simp [Assembly.assemble, isPrefix]
  · constructor
    · simp [Assembly.assemble, isPrefix]
    · intro positive
      simp [isPrefix] at positive

theorem Tracks.fits_iff (tracks : state.Tracks done) :
    (state.assemble byte).2.Fits ↔ (byte ≠ fbOfTb → trailing done % 256 ≤ 1) := by
  by_cases isPrefix : byte = fbOfTb
  · have assembled : (state.assemble byte).2 = { index := 0, report := none } := by simp [Assembly.assemble, isPrefix]
    rw [assembled]
    exact iff_of_true ⟨by decide, fun _ reported => nomatch reported⟩ (fun other => absurd isPrefix other)
  · have index : (state.assemble byte).2.index = trailing done % 256 := by
      simp [Assembly.assemble, isPrefix, tracks.size]
    constructor
    · intro fits _
      have inside := fits.index
      omega
    · intro short
      have short := short isPrefix
      refine ⟨by omega, fun report reported => ?_⟩
      simp only [Assembly.assemble, isPrefix, if_false, Option.some.injEq] at reported
      subst reported
      rcases Nat.le_one_iff_eq_zero_or_eq_one.mp short with none | one
      · have size : state.size = 0 := UInt8.toNat.inj (tracks.size.trans none)
        exact .inl (by rw [size]; rfl)
      · have size : state.size = 1 := UInt8.toNat.inj (tracks.size.trans one)
        have first := tracks.first (by omega)
        exact .inr ⟨by rw [size]; rfl, by simp [size, first]⟩

theorem answers_fit_iff (tracks : state.Tracks done) :
    (∀ step ∈ answers assemble state bytes, step.Fits) ↔
      ∀ before byte after, bytes = before ++ byte :: after → byte ≠ fbOfTb → trailing (done ++ before) % 256 ≤ 1 := by
  induction bytes generalizing state done with
  | nil => simp
  | cons first rest ih =>
      rw [answers_cons, List.forall_mem_cons, tracks.fits_iff, ih (tracks.assemble first)]
      constructor
      · rintro ⟨here, later⟩ before byte after split notPrefix
        cases before with
        | nil =>
            obtain ⟨rfl, rfl⟩ := List.cons.inj split
            simpa using here notPrefix
        | cons head before =>
            obtain ⟨rfl, tails⟩ := List.cons.inj split
            simpa using later before byte after tails notPrefix
      · intro all
        refine ⟨fun notPrefix => by simpa using all [] first rest rfl notPrefix, ?_⟩
        intro before byte after split notPrefix
        simpa using all (first :: before) byte after (by rw [split]; rfl) notPrefix

/-- A loop does with the bytes it gets to see what `assemble` does. -/
theorem assemblyLoop_answers :
    (state.assemblyLoop received).map Prod.snd = answers assemble state ((state.assemblyLoop received).map Prod.fst) := by
  induction received generalizing state with
  | nil => rfl
  | cons byte rest ih =>
      simp only [assemblyLoop, List.map_cons, answers_cons]
      split
      · rfl
      · rw [ih]

theorem timedLoop_answers {n : UInt8} {counter : Nat} {received : List Notification} :
    (timedLoop n state counter received).map Prod.snd =
      answers assemble state ((timedLoop n state counter received).map Prod.fst) := by
  induction received generalizing state counter with
  | nil => rfl
  | cons notification rest ih =>
      simp only [timedLoop]
      split
      · split
        · exact ih
        · simp only [List.map_cons, answers_cons]
          split
          · rfl
          · rw [ih]
      · rfl

/-- Whatever `bytes` holds at first. -/
theorem tracks_start (bytes : Nat → UInt8) : (⟨0, bytes⟩ : Assembly).Tracks [] :=
  ⟨rfl, fun positive => absurd positive (Nat.lt_irrefl 0)⟩

theorem fits_iff_onePrefix {trace : List (UInt8 × AssemblyStep)} {bytes : Nat → UInt8}
    (traced : trace.map Prod.snd = answers assemble ⟨0, bytes⟩ (trace.map Prod.fst)) :
    (∀ step ∈ trace, step.2.Fits) ↔ OnePrefix (trace.map Prod.fst) := by
  have steps : (∀ step ∈ trace, step.2.Fits) ↔ ∀ step ∈ trace.map Prod.snd, step.Fits := by
    simp only [List.forall_mem_map]
  rw [steps, traced, answers_fit_iff (tracks_start bytes)]
  exact Iff.rfl

/-- The three loops stay in their buffer precisely when no scancode among the
bytes they get has two prefixes. -/
theorem assembly_fits_iff (bytes : Nat → UInt8) :
    (∀ received, (∀ step ∈ kbdTestScan ⟨0, bytes⟩ received, step.2.Fits) ↔
      OnePrefix ((kbdTestScan ⟨0, bytes⟩ received).map Prod.fst)) ∧
    (∀ received, (∀ step ∈ kbdTestPoll ⟨0, bytes⟩ received, step.2.Fits) ↔
      OnePrefix ((kbdTestPoll ⟨0, bytes⟩ received).map Prod.fst)) ∧
    ∀ n counter received, (∀ step ∈ kbdTestTimedScan n ⟨0, bytes⟩ counter received, step.2.Fits) ↔
      OnePrefix ((kbdTestTimedScan n ⟨0, bytes⟩ counter received).map Prod.fst) :=
  ⟨fun _ => fits_iff_onePrefix assemblyLoop_answers, fun _ => fits_iff_onePrefix assemblyLoop_answers,
    fun _ _ _ => fits_iff_onePrefix timedLoop_answers⟩

/-- A prefix, the same prefix again, and the rest of the scancode of an arrow. -/
theorem two_prefixes_overrun :
    ¬ ∀ step ∈ kbdTestScan ⟨0, fun _ => 0⟩ [0xe0, 0xe0, 0x48], step.2.Fits := by
  intro fits
  have overrun := (fits (kbdTestScan ⟨0, fun _ => 0⟩ [0xe0, 0xe0, 0x48])[2] (List.getElem_mem _)).index
  revert overrun
  decide

end Assembly

end SimonVs.Labs
