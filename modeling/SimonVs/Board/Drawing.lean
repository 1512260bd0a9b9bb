import SimonVs.Board.File
import SimonVs.Data.CString
import SimonVs.Screens.NumberOfRounds

namespace SimonVs

open Data

/-- An element of the array `lilletters` or of the array `lilnumbers`. -/
inductive LilImage where
  | letter (index : Nat)
  | number (index : Nat)
deriving DecidableEq, Repr

def getLilpropFromChar (byte : UInt8) : LilImage :=
  if byte = ascii 'i' then .letter 8
  else if byte = ascii '3' then .number 3
  else if ascii 'a' ≤ byte ∧ byte ≤ ascii 'z' then .letter (byte - ascii 'a').toNat
  else if ascii '0' ≤ byte ∧ byte ≤ ascii '9' then .number (byte - ascii '0').toNat
  else if byte = ascii '/' then .letter 26
  else .letter 26

/-- A call of `draw_xpm_x_y`. -/
structure Drawn where
  img : LilImage
  x : Nat
  y : Nat
deriving DecidableEq, Repr

/-- The arrays of `draw_leaderboard_graphics`. -/
inductive LineBuffer where
  | name
  | date
  | round
deriving DecidableEq, Repr

def LineBuffer.size : LineBuffer → Nat
  | name => 11
  | date => 11
  | round => 4

/-- A loop over the characters of a string, each of them 22 columns behind the
one before it. -/
def drawString (x y : Nat) : List UInt8 → List Drawn
  | [] => []
  | byte :: rest => { img := getLilpropFromChar byte, x, y } :: drawString (x + 22) y rest

/-- `strlen` of a string also reads its zero. -/
def strlenReads (buffer : LineBuffer) (string : List UInt8) : List (Access LineBuffer) :=
  span buffer 0 (string.length + 1)

namespace Leaderboard

def rowOf : Fin 5 → Nat
  | 0 => 143
  | 1 => 215
  | 2 => 287
  | 3 => 358
  | 4 => 426

/-- The first date stands a little lower. -/
def dateRowOf : Fin 5 → Nat
  | 0 => 145
  | 1 => 215
  | 2 => 287
  | 3 => 358
  | 4 => 426

/-- The body of the loop over the entries, with the characters it touches. -/
def drawEntry (i : Fin 5) (entry : ContWinner) : List Drawn × List (Access LineBuffer) :=
  let round := printInt entry.intScore
  (drawString 98 (rowOf i) entry.name.text ++ drawString 357 (rowOf i) round ++
     drawString 550 (dateRowOf i) entry.date.text,
   span .name 0 11 ++ span .date 0 11 ++ span .round 0 (round.length + 1) ++
     strlenReads .name entry.name.text ++ strlenReads .round round ++ strlenReads .date entry.date.text)

def drawLeaderboardGraphics (board : Leaderboard) : List Drawn × List (Access LineBuffer) :=
  ((List.finRange 5).flatMap fun i => (drawEntry i (board.leaderboard i)).1,
   (List.finRange 5).flatMap fun i => (drawEntry i (board.leaderboard i)).2)

end Leaderboard

def LilImage.shown : LilImage → UInt8
  | letter index => if index < 26 then ascii 'a' + UInt8.ofNat index else ascii '/'
  | number index => ascii '0' + UInt8.ofNat index

/-- What stands in a row between two columns. -/
def readScreen (drawn : List Drawn) (left right y : Nat) : List UInt8 :=
  (drawn.filter fun image => image.y = y ∧ left ≤ image.x ∧ image.x < right).map (·.img.shown)

/-- A blank looks like a slash. -/
def barred (byte : UInt8) : UInt8 := if byte = ascii ' ' then ascii '/' else byte

theorem shown_getLilpropFromChar {byte : UInt8} (legible : isAlphaNumberical byte = true ∨ byte = ascii '/') :
    (getLilpropFromChar byte).shown = barred byte := by
  have all : ∀ value : Fin 256, isAlphaNumberical (UInt8.ofFin value) = true ∨ UInt8.ofFin value = ascii '/' →
      (getLilpropFromChar (UInt8.ofFin value)).shown = barred (UInt8.ofFin value) := by
    decide +kernel
  exact all byte.toFin legible

section Strings

variable {x y left right row : Nat} {string : List UInt8}

theorem mem_drawString {image : Drawn} (member : image ∈ drawString x y string) :
    image.y = y ∧ x ≤ image.x ∧ image.x + 22 ≤ x + 22 * string.length := by
  induction string generalizing x with
  | nil => cases member
  | cons byte rest ih =>
      rw [List.length_cons]
      rcases List.mem_cons.mp member with rfl | later
      · refine ⟨rfl, Nat.le_refl x, ?_⟩
        dsimp only
        omega
      · obtain ⟨inRow, above, below⟩ := ih later
        exact ⟨inRow, by omega, by omega⟩

theorem map_drawString : (drawString x y string).map (·.img) = string.map getLilpropFromChar := by
  induction string generalizing x with
  | nil => rfl
  | cons byte rest ih =>
      rw [drawString, List.map_cons, List.map_cons, ih]

theorem pairwise_drawString : (drawString x y string).Pairwise fun first second => first.x + 22 ≤ second.x := by
  induction string generalizing x with
  | nil => exact .nil
  | cons byte rest ih => exact .cons (fun image later => (mem_drawString later).2.1) ih

theorem readScreen_append (drawn more : List Drawn) :
    readScreen (drawn ++ more) left right row = readScreen drawn left right row ++ readScreen more left right row := by
  rw [readScreen, List.filter_append, List.map_append]
  rfl

theorem readScreen_within (starts : left ≤ x) (ends : x + 22 * string.length < right + 22) :
    readScreen (drawString x y string) left right row =
      if y = row then string.map fun byte => (getLilpropFromChar byte).shown else [] := by
  rw [readScreen]
  split
  · next here =>
      rw [List.filter_eq_self.mpr, ← Function.comp_def, ← List.map_map, map_drawString, List.map_map]
      · rfl
      · intro image member
        obtain ⟨inRow, above, below⟩ := mem_drawString member
        exact decide_eq_true ⟨inRow.trans here, by omega, by omega⟩
  · next elsewhere =>
      rw [List.filter_eq_nil_iff.mpr, List.map_nil]
      intro image member kept
      exact elsewhere ((mem_drawString member).1.symm.trans (of_decide_eq_true kept).1)

theorem readScreen_outside (outside : right ≤ x ∨ x + 22 * string.length ≤ left) :
    readScreen (drawString x y string) left right row = [] := by
  rw [readScreen, List.filter_eq_nil_iff.mpr, List.map_nil]
  intro image member kept
  obtain ⟨_, above, below⟩ := mem_drawString member
  have inside := (of_decide_eq_true kept).2
  omega

end Strings

/-- A name that can be typed, a date of the RTC and a score of three digits. -/
structure ContWinner.Legible (entry : ContWinner) : Prop where
  name : entry.name.text.length < 11
  typed : ∀ byte ∈ entry.name.text, isAlphaNumberical byte = true
  date : entry.date.text.length < 11
  dated : ∀ byte ∈ entry.date.text, isNumerical byte = true ∨ byte = ascii '/'
  natural : 0 ≤ entry.intScore
  small : entry.intScore < 1000

namespace ContWinner.Legible

variable {entry : ContWinner}

theorem round (legible : entry.Legible) : printInt entry.intScore = printNat entry.intScore.toNat := by
  have same : entry.intScore.natAbs = entry.intScore.toNat := by
    have natural := legible.natural
    omega
  rw [printInt, if_neg (Int.not_lt.mpr legible.natural), same]

theorem length_round (legible : entry.Legible) : (printInt entry.intScore).length ≤ 3 := by
  have all : ∀ value < 1000, (printNat value).length ≤ 3 := by decide +kernel
  have natural := legible.natural
  have small := legible.small
  rw [legible.round]
  exact all entry.intScore.toNat (by omega)

theorem shown_name (legible : entry.Legible) :
    (entry.name.text.map fun byte => (getLilpropFromChar byte).shown) = entry.name.text.map barred :=
  List.map_congr_left fun byte member => shown_getLilpropFromChar (.inl (legible.typed byte member))

/-- Nothing but a blank looks different. -/
theorem shown_self {string : List UInt8} (plain : ∀ byte ∈ string, isNumerical byte = true ∨ byte = ascii '/') :
    (string.map fun byte => (getLilpropFromChar byte).shown) = string := by
  have all : ∀ value : Fin 256, isNumerical (UInt8.ofFin value) = true ∨ UInt8.ofFin value = ascii '/' →
      (getLilpropFromChar (UInt8.ofFin value)).shown = UInt8.ofFin value := by
    decide +kernel
  have same : ∀ byte ∈ string, (getLilpropFromChar byte).shown = byte := fun (byte : UInt8) member =>
    all byte.toFin (plain byte member)
  exact (List.map_congr_left same).trans (List.map_id string)

theorem shown_round (legible : entry.Legible) :
    ((printInt entry.intScore).map fun byte => (getLilpropFromChar byte).shown) = printInt entry.intScore := by
  refine shown_self fun byte member => .inl ?_
  rw [legible.round] at member
  exact (NumberOfRounds.isNumerical_eq byte).trans (isDigit_printNat _ byte member)

end ContWinner.Legible

namespace Leaderboard

variable {board : Leaderboard} {entry : ContWinner} {i j : Fin 5}

theorem rowOf_inj : rowOf j = rowOf i → j = i := by
  revert i j
  decide

theorem dateRowOf_inj : dateRowOf j = dateRowOf i → j = i := by
  revert i j
  decide

theorem inside_drawEntry (legible : entry.Legible) (i : Fin 5) : Inside LineBuffer.size (drawEntry i entry).2 := by
  have name := legible.name
  have date := legible.date
  have round := legible.length_round
  simp only [drawEntry, strlenReads, inside_append, inside_span, LineBuffer.size]
  omega

/-- The three strings of a row stand side by side, on a screen of 800 columns. -/
theorem pairwise_drawEntry (legible : entry.Legible) (i : Fin 5) :
    (drawEntry i entry).1.Pairwise (fun first second => first.x + 22 ≤ second.x) ∧
    ∀ image ∈ (drawEntry i entry).1, image.x + 22 ≤ 800 := by
  have name := legible.name
  have date := legible.date
  have round := legible.length_round
  rw [drawEntry]
  refine ⟨List.pairwise_append.mpr ⟨List.pairwise_append.mpr ⟨pairwise_drawString, pairwise_drawString, ?_⟩,
    pairwise_drawString, ?_⟩, ?_⟩
  · intro first inName second inRound
    have := mem_drawString inName
    have := mem_drawString inRound
    omega
  · intro first before second inDate
    have := mem_drawString inDate
    rcases List.mem_append.mp before with inName | inRound
    · have := mem_drawString inName
      omega
    · have := mem_drawString inRound
      omega
  · intro image member
    rcases List.mem_append.mp member with before | inDate
    · rcases List.mem_append.mp before with inName | inRound
      · have := mem_drawString inName
        omega
      · have := mem_drawString inRound
        omega
    · have := mem_drawString inDate
      omega

/-- What is read in the columns of a field, if the entry of one row alone is
seen there. -/
theorem readScreen_rows {left right row : Nat} {string : Fin 5 → List UInt8} (i : Fin 5)
    (entry : ∀ j, readScreen (drawEntry j (board.leaderboard j)).1 left right row = if j = i then string j else []) :
    readScreen board.drawLeaderboardGraphics.1 left right row = string i := by
  have rows (places : List (Fin 5)) :
      readScreen (places.flatMap fun j => (drawEntry j (board.leaderboard j)).1) left right row =
        places.flatMap fun j => if j = i then string j else [] := by
    induction places with
    | nil => rfl
    | cons j rest ih => rw [List.flatMap_cons, List.flatMap_cons, readScreen_append, ih, entry]
  rw [drawLeaderboardGraphics, rows]
  revert i
  simp [Fin.forall_fin_succ, List.finRange_succ]

theorem readScreen_name (legible : entry.Legible) (i j : Fin 5) :
    readScreen (drawEntry j entry).1 98 357 (rowOf i) = if j = i then entry.name.text.map barred else [] := by
  have name := legible.name
  rw [drawEntry, readScreen_append, readScreen_append, readScreen_within (Nat.le_refl 98) (by omega),
    readScreen_outside (.inl (Nat.le_refl 357)), readScreen_outside (.inl (by decide)), legible.shown_name,
    List.append_nil, List.append_nil]
  exact if_congr ⟨rowOf_inj, congrArg rowOf⟩ rfl rfl

theorem readScreen_round (legible : entry.Legible) (i j : Fin 5) :
    readScreen (drawEntry j entry).1 357 550 (rowOf i) = if j = i then printInt entry.intScore else [] := by
  have name := legible.name
  have round := legible.length_round
  rw [drawEntry, readScreen_append, readScreen_append, readScreen_outside (.inr (by omega)),
    readScreen_within (Nat.le_refl 357) (by omega), readScreen_outside (.inl (Nat.le_refl 550)), legible.shown_round,
    List.nil_append, List.append_nil]
  exact if_congr ⟨rowOf_inj, congrArg rowOf⟩ rfl rfl

theorem readScreen_date (legible : entry.Legible) (i j : Fin 5) :
    readScreen (drawEntry j entry).1 550 800 (dateRowOf i) = if j = i then entry.date.text else [] := by
  have name := legible.name
  have round := legible.length_round
  have date := legible.date
  rw [drawEntry, readScreen_append, readScreen_append, readScreen_outside (.inr (by omega)),
    readScreen_outside (.inr (by omega)), readScreen_within (Nat.le_refl 550) (by omega),
    ContWinner.Legible.shown_self legible.dated, List.nil_append, List.nil_append]
  exact if_congr ⟨dateRowOf_inj, congrArg dateRowOf⟩ rfl rfl

/-- A board of legible entries as it is seen. -/
structure Legible (board : Leaderboard) : Prop where
  inside : Inside LineBuffer.size board.drawLeaderboardGraphics.2
  apart : ∀ i, (drawEntry i (board.leaderboard i)).1.Pairwise fun first second => first.x + 22 ≤ second.x
  onScreen : ∀ image ∈ board.drawLeaderboardGraphics.1, image.x + 22 ≤ 800
  name : ∀ i, readScreen board.drawLeaderboardGraphics.1 98 357 (rowOf i) = (board.leaderboard i).name.text.map barred
  round : ∀ i, readScreen board.drawLeaderboardGraphics.1 357 550 (rowOf i) = printInt (board.leaderboard i).intScore
  date : ∀ i, readScreen board.drawLeaderboardGraphics.1 550 800 (dateRowOf i) = (board.leaderboard i).date.text

theorem legible_entries (legible : ∀ entry ∈ board.entries, entry.Legible) : board.Legible := by
  have each (j : Fin 5) : (board.leaderboard j).Legible := legible _ (List.mem_ofFn.mpr ⟨j, rfl⟩)
  refine ⟨?_, fun i => (pairwise_drawEntry (each i) i).1, ?_, fun i => ?_, fun i => ?_, fun i => ?_⟩
  · intro access member
    obtain ⟨i, _, touched⟩ := List.mem_flatMap.mp member
    exact inside_drawEntry (each i) i access touched
  · intro image member
    obtain ⟨i, _, drawn⟩ := List.mem_flatMap.mp member
    exact (pairwise_drawEntry (each i) i).2 image drawn
  · exact readScreen_rows i fun j => readScreen_name (each j) i j
  · exact readScreen_rows i fun j => readScreen_round (each j) i j
  · exact readScreen_rows i fun j => readScreen_date (each j) i j

end Leaderboard

end SimonVs
