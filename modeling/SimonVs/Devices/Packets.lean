import Mathlib.Data.List.Induction
import SimonVs.Data.Transducer
import SimonVs.Devices.Mouse

namespace SimonVs.Devices

open Data

/-- The first byte of a packet has its bit 3 set. -/
def IsHeader (byte : UInt8) : Prop := byte &&& bit 3 ≠ 0

instance (byte : UInt8) : Decidable (IsHeader byte) := inferInstanceAs (Decidable (_ ≠ _))

/-- The header is looked at when the second byte has come. -/
def assemble : List UInt8 → UInt8 → List UInt8 × Option MousePacket
  | [], byte => ([byte], none)
  | [first], byte => if IsHeader first then ([first, byte], none) else ([], none)
  | first :: second :: _, byte => ([], some (assemblyPacket #v[first, second, byte]))

def assembleRead (begun : List UInt8) (read : KbcRead) : List UInt8 × Option MousePacket :=
  if read.GoodMouse then assemble begun read.outBuf else ([], none)

/-- The bytes of the packet that has begun. -/
structure Mouse.Begun (mouse : Mouse) (begun : List UInt8) : Prop where
  held : mouse.bytes.toList.take mouse.byteCount = begun
  few : mouse.byteCount < 3

namespace Mouse

variable {mouse : Mouse} {begun : List UInt8}

theorem Begun.takeByte (holds : mouse.Begun begun) (byte : UInt8) :
    Begun (mouse.takeByte byte).1 (assemble begun byte).1 ∧
    (mouse.takeByte byte).2 = (assemble begun byte).2 := by
  obtain ⟨rfl, few⟩ := holds
  obtain ⟨error, full, aux, output, ⟨⟨list⟩, size⟩, count⟩ := mouse
  match list with
  | [x, y, z] =>
      match count with
      | 0 => exact ⟨⟨rfl, Nat.succ_lt_succ (Nat.zero_lt_succ 1)⟩, rfl⟩
      | 1 =>
          have first : assemble [x] byte = if IsHeader x then ([x, byte], none) else ([], none) := rfl
          by_cases header : IsHeader x
          · have synched : ¬ (1 = 1 ∧ x &&& bit 3 = 0) := fun noHeader => header noHeader.2
            have taken : Mouse.takeByte ⟨error, full, aux, output, ⟨⟨[x, y, z]⟩, size⟩, 1⟩ byte =
                (⟨false, true, true, byte, #v[x, byte, z], 2⟩, none) := if_neg synched
            rw [taken]
            refine ⟨⟨?_, Nat.lt_succ_self 2⟩, ?_⟩
            · exact (congrArg Prod.fst (first.trans (if_pos header))).symm
            · exact (congrArg Prod.snd (first.trans (if_pos header))).symm
          · have lost : 1 = 1 ∧ x &&& bit 3 = 0 := ⟨rfl, Decidable.not_not.mp header⟩
            have taken : Mouse.takeByte ⟨error, full, aux, output, ⟨⟨[x, y, z]⟩, size⟩, 1⟩ byte =
                (⟨false, true, true, byte, #v[x, byte, z], 0⟩, none) := if_pos lost
            rw [taken]
            refine ⟨⟨?_, Nat.zero_lt_succ 2⟩, ?_⟩
            · exact (congrArg Prod.fst (first.trans (if_neg header))).symm
            · exact (congrArg Prod.snd (first.trans (if_neg header))).symm
      | 2 => exact ⟨⟨rfl, Nat.zero_lt_succ 2⟩, rfl⟩

theorem Begun.mouseHandler (holds : mouse.Begun begun) (read : KbcRead) :
    Begun (mouseHandler mouse read).1 (assembleRead begun read).1 ∧
    (Devices.mouseHandler mouse read).2 = (assembleRead begun read).2 := by
  unfold assembleRead
  by_cases good : read.GoodMouse
  · rw [mouseHandler_good good, if_pos good]
    exact holds.takeByte read.outBuf
  · obtain ⟨silent, empty⟩ := @mouseHandler_bad mouse read good
    rw [if_neg good]
    refine ⟨⟨?_, ?_⟩, silent⟩
    · rw [empty]
      rfl
    · rw [empty]
      exact Nat.zero_lt_succ 2

theorem begun_start (start : mouse.byteCount = 0) : mouse.Begun [] := by
  refine ⟨?_, ?_⟩
  · rw [start]
    rfl
  · rw [start]
    exact Nat.zero_lt_succ 2

theorem answers_mouseHandler (start : mouse.byteCount = 0) (reads : List KbcRead) :
    answers Devices.mouseHandler mouse reads = answers assembleRead [] reads ∧
    Begun (reach Devices.mouseHandler mouse reads) (reach assembleRead [] reads) :=
  answers_related Begun (fun _ _ read holds => holds.mouseHandler read) (begun_start start)

end Mouse

theorem answers_assembleRead {reads : List KbcRead} (good : ∀ read ∈ reads, read.GoodMouse) (begun : List UInt8) :
    answers assembleRead begun reads = answers assemble begun (reads.map KbcRead.outBuf) :=
  answers_map fun read member _ => if_pos (good read member)

/-- Three bytes, the first of which is a header. -/
structure RawPacket where
  first : UInt8
  second : UInt8
  third : UInt8
  header : IsHeader first

namespace RawPacket

def bytes (packet : RawPacket) : List UInt8 := [packet.first, packet.second, packet.third]

def assembled (packet : RawPacket) : MousePacket := assemblyPacket #v[packet.first, packet.second, packet.third]

/-- A packet that begins where a packet is expected is assembled with its third
byte. -/
theorem answers_assemble (packets : List RawPacket) :
    answers assemble [] (packets.flatMap bytes) =
      packets.flatMap fun packet => [none, none, some packet.assembled] := by
  refine answers_blocks (· = []) ?_ rfl packets
  rintro _ packet rfl
  constructor
  · simp only [bytes, reach_cons, reach_nil, assemble, packet.header, if_true]
  · simp only [bytes, answers_cons, answers_nil, assemble, packet.header, if_true, assembled]

end RawPacket

/-- What the mouse reports: three buttons, two movements in nine bits and their
overflows. -/
structure Report where
  lb : Bool
  rb : Bool
  mb : Bool
  xOv : Bool
  yOv : Bool
  deltaX : Int
  deltaY : Int
  xRange : -256 ≤ deltaX ∧ deltaX ≤ 255
  yRange : -256 ≤ deltaY ∧ deltaY ≤ 255

def headerByte (lb rb mb xSign ySign xOv yOv : Bool) : UInt8 :=
  (if lb then bit 0 else 0) ||| (if rb then bit 1 else 0) ||| (if mb then bit 2 else 0) ||| bit 3 |||
  (if xSign then bit 4 else 0) ||| (if ySign then bit 5 else 0) ||| (if xOv then bit 6 else 0) |||
  (if yOv then bit 7 else 0)

theorem headerByte_bits : ∀ lb rb mb xSign ySign xOv yOv : Bool,
    IsHeader (headerByte lb rb mb xSign ySign xOv yOv) ∧
    (headerByte lb rb mb xSign ySign xOv yOv &&& packetLb != 0) = lb ∧
    (headerByte lb rb mb xSign ySign xOv yOv &&& packetRb != 0) = rb ∧
    (headerByte lb rb mb xSign ySign xOv yOv &&& packetMb != 0) = mb ∧
    (headerByte lb rb mb xSign ySign xOv yOv &&& packetXMsb != 0) = xSign ∧
    (headerByte lb rb mb xSign ySign xOv yOv &&& packetYMsb != 0) = ySign ∧
    (headerByte lb rb mb xSign ySign xOv yOv &&& packetXOvfl != 0) = xOv ∧
    (headerByte lb rb mb xSign ySign xOv yOv &&& packetYOvfl != 0) = yOv := by
  decide

def lowByte (delta : Int) : UInt8 := UInt8.ofNat (delta % 256).toNat

theorem cpl2_9To16_lowByte {delta : Int} (range : -256 ≤ delta ∧ delta ≤ 255) :
    cpl2_9To16 (lowByte delta) (decide (delta < 0)) = delta := by
  have small : (delta % 256).toNat < 256 := by omega
  have value : (lowByte delta).toNat = (delta % 256).toNat := UInt8.toNat_ofNat_of_lt' small
  unfold cpl2_9To16
  rw [value]
  by_cases negative : delta < 0
  · simp only [negative, decide_true, if_true]
    have shifted : ((1 <<< 8 : Nat) : Int) = 256 := rfl
    rw [shifted]
    omega
  · simp only [negative, decide_false, Bool.false_eq_true, if_false]
    omega

namespace Report

def raw (report : Report) : RawPacket where
  first := headerByte report.lb report.rb report.mb (decide (report.deltaX < 0)) (decide (report.deltaY < 0))
    report.xOv report.yOv
  second := lowByte report.deltaX
  third := lowByte report.deltaY
  header := (headerByte_bits _ _ _ _ _ _ _).1

def packet (report : Report) : MousePacket where
  bytes := #v[report.raw.first, report.raw.second, report.raw.third]
  rb := report.rb
  mb := report.mb
  lb := report.lb
  deltaX := report.deltaX
  deltaY := report.deltaY
  xOv := report.xOv
  yOv := report.yOv

theorem assembled_raw (report : Report) : report.raw.assembled = report.packet := by
  obtain ⟨_, lb, rb, mb, xSign, ySign, xOv, yOv⟩ := headerByte_bits report.lb report.rb report.mb
    (decide (report.deltaX < 0)) (decide (report.deltaY < 0)) report.xOv report.yOv
  have deltaX : cpl2_9To16 report.raw.second (report.raw.first &&& packetXMsb != 0) = report.deltaX := by
    have sign : (report.raw.first &&& packetXMsb != 0) = decide (report.deltaX < 0) := xSign
    rw [sign]
    exact cpl2_9To16_lowByte report.xRange
  have deltaY : cpl2_9To16 report.raw.third (report.raw.first &&& packetYMsb != 0) = report.deltaY := by
    have sign : (report.raw.first &&& packetYMsb != 0) = decide (report.deltaY < 0) := ySign
    rw [sign]
    exact cpl2_9To16_lowByte report.yRange
  exact MousePacket.mk.injEq _ _ _ _ _ _ _ _ _ _ _ _ _ _ _ _ ▸
    ⟨rfl, rb, mb, lb, deltaX, deltaY, xOv, yOv⟩

/-- The stream of a list of reports gives back the reports, each with the third
of its bytes. -/
theorem packets_decoded {mouse : Mouse} (start : mouse.byteCount = 0) {reports : List Report} {reads : List KbcRead}
    (good : ∀ read ∈ reads, read.GoodMouse)
    (stream : reads.map KbcRead.outBuf = reports.flatMap fun report => report.raw.bytes) :
    answers mouseHandler mouse reads = reports.flatMap fun report => [none, none, some report.packet] := by
  have raw : (reports.flatMap fun report => report.raw.bytes) = (reports.map raw).flatMap RawPacket.bytes := by
    rw [List.flatMap_map]
  rw [(Mouse.answers_mouseHandler start reads).1, answers_assembleRead good, stream, raw,
    RawPacket.answers_assemble, List.flatMap_map]
  simp only [assembled_raw]

/-- The left button, with the largest movement to the left and a movement down
whose byte looks like a header. -/
def clickReport : Report :=
  { lb := true, rb := false, mb := false, xOv := false, yOv := false, deltaX := -256, deltaY := 8
    xRange := by decide, yRange := by decide }

def goodRead (byte : UInt8) : KbcRead := { statReg := 0x21, outBuf := byte }

theorem packets_decoded_click :
    answers mouseHandler .boot ((clickReport.raw.bytes ++ clickReport.raw.bytes).map goodRead) =
      [none, none, some clickReport.packet, none, none, some clickReport.packet] :=
  @packets_decoded .boot rfl [clickReport, clickReport]
    ((clickReport.raw.bytes ++ clickReport.raw.bytes).map goodRead) (by decide) (by decide)

end Report

/-- The bytes begun are the last ones that were read, without an error among
them, and a second one is kept behind a header only. -/
structure Recent (before : List KbcRead) (begun : List UInt8) : Prop where
  last : ∃ earlier recent, before = earlier ++ recent ∧ recent.map KbcRead.outBuf = begun ∧
    ∀ read ∈ recent, read.GoodMouse
  header : ∀ first second, begun = [first, second] → IsHeader first
  few : begun.length < 3

variable {before : List KbcRead} {begun : List UInt8} {read : KbcRead} {packet : MousePacket}

theorem Recent.nothing (before : List KbcRead) : Recent before [] :=
  ⟨⟨before, [], by simp, rfl, by simp⟩, by simp, Nat.zero_lt_succ 2⟩

theorem Recent.extend (holds : Recent before begun) (good : read.GoodMouse)
    (header : ∀ first second, begun ++ [read.outBuf] = [first, second] → IsHeader first)
    (few : begun.length < 2) : Recent (before ++ [read]) (begun ++ [read.outBuf]) := by
  obtain ⟨earlier, recent, rfl, rfl, fine⟩ := holds.last
  refine ⟨⟨earlier, recent ++ [read], by simp, by simp, ?_⟩, header, ?_⟩
  · intro other member
    rcases List.mem_append.mp member with old | new
    · exact fine other old
    · rw [List.mem_singleton.mp new]
      exact good
  · rw [List.length_append, List.length_singleton]
    exact Nat.succ_lt_succ few

theorem Recent.assembleRead (holds : Recent before begun) (read : KbcRead) :
    Recent (before ++ [read]) (assembleRead begun read).1 := by
  unfold Devices.assembleRead
  by_cases good : read.GoodMouse
  · rw [if_pos good]
    match begun with
    | [] => exact holds.extend good (by simp) (Nat.zero_lt_succ 1)
    | [first] =>
        by_cases header : IsHeader first
        · rw [assemble, if_pos header]
          refine holds.extend good ?_ (Nat.lt_succ_self 1)
          intro other second same
          rw [← (List.cons.inj same).1]
          exact header
        · rw [assemble, if_neg header]
          exact .nothing _
    | first :: second :: _ => exact .nothing _
  · rw [if_neg good]
    exact .nothing _

theorem recent_reach (before : List KbcRead) : Recent before (reach assembleRead [] before) := by
  induction before using List.reverseRecOn with
  | nil => exact .nothing []
  | append_singleton before read ih =>
      rw [reach_append]
      exact ih.assembleRead read

/-- The packet consists of the byte of `read` and of the two before it, all
without an error. -/
def MadeOf (before : List KbcRead) (read : KbcRead) (packet : MousePacket) : Prop :=
  ∃ earlier first second, before = earlier ++ [first, second] ∧
    first.GoodMouse ∧ second.GoodMouse ∧ read.GoodMouse ∧ IsHeader first.outBuf ∧
    packet = assemblyPacket #v[first.outBuf, second.outBuf, read.outBuf]

theorem assembleRead_emits (few : begun.length < 3) (emits : (assembleRead begun read).2 = some packet) :
    read.GoodMouse ∧ (assembleRead begun read).1 = [] ∧
    ∃ first second, begun = [first, second] ∧ packet = assemblyPacket #v[first, second, read.outBuf] := by
  unfold assembleRead at emits ⊢
  by_cases good : read.GoodMouse
  · rw [if_pos good] at emits ⊢
    match begun with
    | [] => cases emits
    | [first] =>
        rw [assemble] at emits
        split at emits <;> cases emits
    | [first, second] => exact ⟨good, rfl, first, second, rfl, (Option.some.inj emits).symm⟩
    | first :: second :: third :: rest =>
        simp only [List.length_cons] at few
        omega
  · rw [if_neg good] at emits
    cases emits

theorem madeOf_emitted (emits : (assembleRead (reach assembleRead [] before) read).2 = some packet) :
    MadeOf before read packet ∧ reach assembleRead [] (before ++ [read]) = [] := by
  have holds := recent_reach before
  obtain ⟨good, empty, first, second, begun, made⟩ := assembleRead_emits holds.few emits
  refine ⟨?_, by rwa [reach_append]⟩
  obtain ⟨earlier, recent, split, bytes, fine⟩ := holds.last
  rw [begun] at bytes
  match recent with
  | [firstRead, secondRead] =>
      obtain ⟨rfl, rest⟩ := List.cons.inj bytes
      obtain ⟨rfl, _⟩ := List.cons.inj rest
      exact ⟨earlier, firstRead, secondRead, split, fine _ (by simp), fine _ (by simp), good,
        holds.header _ _ begun, made⟩

namespace Mouse

variable {mouse : Mouse}

/-- What `mouse_handler` returns for `read` after the interrupts `before`. -/
def emits (mouse : Mouse) (before : List KbcRead) (read : KbcRead) : Option MousePacket :=
  (mouseHandler (reach mouseHandler mouse before) read).2

theorem emits_eq (start : mouse.byteCount = 0) (before : List KbcRead) (read : KbcRead) :
    mouse.emits before read = (assembleRead (reach assembleRead [] before) read).2 :=
  ((answers_mouseHandler start before).2.mouseHandler read).2

/-- No packet is made up: it consists of three error-free bytes in a row that
begin with a header and come after every earlier packet, and the array of
bytes is not left. -/
theorem packets_genuine (start : mouse.byteCount = 0) (reads : List KbcRead) :
    (∀ before, before <+: reads → (reach mouseHandler mouse before).byteCount < 3) ∧
    (∀ before read after packet, reads = before ++ read :: after →
      mouse.emits before read = some packet → MadeOf before read packet) ∧
    (∀ before read between later after packet packet', reads = before ++ read :: (between ++ later :: after) →
      mouse.emits before read = some packet → mouse.emits (before ++ read :: between) later = some packet' →
      MadeOf between later packet') := by
  refine ⟨?_, ?_, ?_⟩
  · intro before _
    exact (answers_mouseHandler start before).2.few
  · intro before read after packet _ emits
    rw [emits_eq start] at emits
    exact (madeOf_emitted emits).1
  · intro before read between later after packet packet' _ first second
    rw [emits_eq start] at first second
    have cleared := (madeOf_emitted first).2
    have split : before ++ read :: between = (before ++ [read]) ++ between := by simp
    rw [split, reach_append, cleared] at second
    exact (madeOf_emitted second).1

/-- The packet of the click, with a byte lost to a parity error before it. -/
theorem packets_genuine_click :
    MadeOf [{ statReg := 0xa1, outBuf := 8 }, Report.goodRead 0x19, Report.goodRead 0] (Report.goodRead 8)
      Report.clickReport.packet :=
  (@packets_genuine .boot rfl ({ statReg := 0xa1, outBuf := 8 } :: Report.clickReport.raw.bytes.map Report.goodRead)).2.1
    [{ statReg := 0xa1, outBuf := 8 }, Report.goodRead 0x19, Report.goodRead 0] (Report.goodRead 8) []
    Report.clickReport.packet (by decide) (by decide)

end Mouse

def Mouse.emitted (mouse : Mouse) (reads : List KbcRead) : List MousePacket :=
  (answers mouseHandler mouse reads).filterMap id

theorem length_assemble (few : begun.length < 3) (byte : UInt8) :
    (assemble begun byte).1.length < 3 ∧
    3 * (assemble begun byte).2.toList.length + (assemble begun byte).1.length ≤ begun.length + 1 := by
  match begun with
  | [] => exact ⟨Nat.succ_lt_succ (Nat.zero_lt_succ 1), Nat.le_refl 1⟩
  | [first] =>
      rw [assemble]
      split
      · exact ⟨Nat.lt_succ_self 2, Nat.le_refl 2⟩
      · exact ⟨Nat.zero_lt_succ 2, Nat.zero_le 2⟩
  | [first, second] => exact ⟨Nat.zero_lt_succ 2, Nat.le_refl 3⟩

theorem length_emitted (few : begun.length < 3) (bytes : List UInt8) :
    3 * ((answers assemble begun bytes).filterMap id).length ≤ begun.length + bytes.length := by
  induction bytes generalizing begun with
  | nil => exact Nat.zero_le _
  | cons byte rest ih =>
      obtain ⟨fewNext, cost⟩ := length_assemble few byte
      have later := ih fewNext
      have split : ((answers assemble begun (byte :: rest)).filterMap id).length =
          (assemble begun byte).2.toList.length +
            ((answers assemble (assemble begun byte).1 rest).filterMap id).length := by
        rw [answers_cons]
        cases (assemble begun byte).2 with
        | none => exact (Nat.zero_add _).symm
        | some packet => exact Nat.add_comm _ 1
      rw [split, List.length_cons]
      omega

theorem RawPacket.length_bytes (packets : List RawPacket) : (packets.flatMap bytes).length = 3 * packets.length := by
  induction packets with
  | nil => rfl
  | cons packet rest ih =>
      rw [List.flatMap_cons, List.length_append, ih, List.length_cons, Nat.mul_succ, Nat.add_comm]
      rfl

/-- The packets behind a stray byte are given out precisely when there are none
of them: the header is tested one byte late, so the byte behind a stray one is
dropped with it. -/
theorem Mouse.resynchronised_iff {mouse : Mouse} (start : mouse.byteCount = 0) {stray : UInt8}
    (noHeader : ¬ IsHeader stray) {packets : List RawPacket} {reads : List KbcRead}
    (good : ∀ read ∈ reads, read.GoodMouse)
    (stream : reads.map KbcRead.outBuf = stray :: packets.flatMap RawPacket.bytes) :
    mouse.emitted reads = packets.map RawPacket.assembled ↔ packets = [] := by
  unfold emitted
  rw [(answers_mouseHandler start reads).1, answers_assembleRead good, stream]
  cases packets with
  | nil => exact ⟨fun _ => rfl, fun _ => rfl⟩
  | cons packet rest =>
      have lost : (answers assemble [] (stray :: (packet :: rest).flatMap RawPacket.bytes)).filterMap id =
          (answers assemble [] (packet.second :: packet.third :: rest.flatMap RawPacket.bytes)).filterMap id := by
        have dropped : assemble [stray] packet.first = ([], none) := if_neg noHeader
        rw [List.flatMap_cons, RawPacket.bytes, List.cons_append, answers_cons, answers_cons]
        rw [show assemble [] stray = ([stray], none) from rfl, dropped]
        rfl
      have bound := @length_emitted [] (Nat.zero_lt_succ 2)
        (packet.second :: packet.third :: rest.flatMap RawPacket.bytes)
      rw [List.length_cons, List.length_cons, RawPacket.length_bytes, List.length_nil] at bound
      refine iff_of_false (fun same => ?_) (List.cons_ne_nil _ _)
      rw [lost] at same
      rw [same, List.length_map, List.length_cons] at bound
      omega

/-- A byte with bit 3 clear, then a click. -/
def strayReads : List KbcRead := (0 :: Report.clickReport.raw.bytes).map Report.goodRead

theorem Mouse.resynchronised_alone :
    Mouse.boot.emitted [Report.goodRead 0] = [] ∧
    Mouse.boot.emitted strayReads ≠ [Report.clickReport.raw].map RawPacket.assembled :=
  ⟨(@resynchronised_iff .boot rfl 0 (by decide) [] [Report.goodRead 0] (by decide) rfl).mpr rfl,
    fun same => List.cons_ne_nil _ _
      ((@resynchronised_iff .boot rfl 0 (by decide) [Report.clickReport.raw] strayReads (by decide) rfl).mp same)⟩

/-- The click behind the stray byte is not seen. -/
theorem Mouse.click_lost :
    ¬ IsHeader 0 ∧ (∀ read ∈ strayReads, read.GoodMouse) ∧
    strayReads.map KbcRead.outBuf = 0 :: [Report.clickReport.raw].flatMap RawPacket.bytes ∧
    Mouse.boot.emitted strayReads = [] ∧
    Mouse.boot.emitted strayReads ≠ [Report.clickReport.raw].map RawPacket.assembled := by
  decide

/-- The loop of `mouse_test_packet` (lab4) on the bytes that come: a byte that
is no header is not taken as a first one. -/
def mouseTestPacket : List UInt8 → UInt8 → List UInt8 × Option PacketBytes
  | [], byte => if byte &&& bit 3 = 0 then ([], none) else ([byte], none)
  | [first], byte => ([first, byte], none)
  | first :: second :: _, byte => ([], some #v[first, second, byte])

/-- It loses nothing behind a stray byte. -/
theorem mouseTestPacket_resynchronises {stray : UInt8} (noHeader : ¬ IsHeader stray) (packets : List RawPacket) :
    (answers mouseTestPacket [] (stray :: packets.flatMap RawPacket.bytes)).filterMap id =
      packets.map fun packet => #v[packet.first, packet.second, packet.third] := by
  have dropped : mouseTestPacket [] stray = ([], none) := if_pos (Decidable.not_not.mp noHeader)
  have taken (packet : RawPacket) : mouseTestPacket [] packet.first = ([packet.first], none) := if_neg packet.header
  have block (packet : RawPacket) :
      reach mouseTestPacket [] packet.bytes = [] ∧
      answers mouseTestPacket [] packet.bytes = [none, none, some #v[packet.first, packet.second, packet.third]] := by
    rw [show packet.bytes = [packet.first, packet.second, packet.third] from rfl, reach_cons, answers_cons, taken]
    exact ⟨rfl, rfl⟩
  have blocks : answers mouseTestPacket [] (packets.flatMap RawPacket.bytes) =
      packets.flatMap fun packet => [none, none, some #v[packet.first, packet.second, packet.third]] := by
    refine answers_blocks (· = []) ?_ rfl packets
    rintro _ packet rfl
    exact block packet
  rw [answers_cons, dropped, blocks, List.map_eq_flatMap, List.filterMap_cons, List.filterMap_flatMap]
  rfl

end SimonVs.Devices
