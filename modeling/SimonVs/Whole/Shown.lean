import SimonVs.Board.Drawing
import SimonVs.Whole.Executions

namespace SimonVs

open Data

namespace Program

variable {width : XpmImage → UInt16} {program : Program} {event : Event}

/-- A character that is typed finds room in `player`, and a game that is left has
a score of three digits. -/
structure StaysSmall (program : Program) (event : Event) : Prop where
  room : program.mode = .highscore → event.1.gotKeyPress = true → event.1.keyboardPacket.down = false →
    isAlphaNumberical (UInt8.ofNat event.1.keyboardPacket.key) = true → program.highScore.strlen < 10
  score : ∀ result ∈ program.leftWith event, result.score < 1000

instance (program : Program) (event : Event) : Decidable (program.StaysSmall event) :=
  decidable_of_iff
    ((program.mode = .highscore → event.1.gotKeyPress = true → event.1.keyboardPacket.down = false →
        isAlphaNumberical (UInt8.ofNat event.1.keyboardPacket.key) = true → program.highScore.strlen < 10) ∧
      ∀ result ∈ program.leftWith event, result.score < 1000)
    ⟨fun ⟨room, score⟩ => ⟨room, score⟩, fun small => ⟨small.room, small.score⟩⟩

/-- What is on the leaderboard, and what may get there. -/
structure Readable (program : Program) : Prop where
  player : program.highScore.player.Written fun byte => isAlphaNumberical byte = true
  entries : ∀ entry ∈ program.board.entries, entry.Legible
  pending : program.mode = .highscore →
    0 ≤ program.board.newWinner.intScore ∧ program.board.newWinner.intScore < 1000

theorem legible_filed (readable : program.Readable) {winner : ContWinner}
    (filing : program.filed width event = some winner) : winner.Legible := by
  obtain ⟨visiting, _, score, name, date⟩ := filed_some filing
  obtain ⟨natural, small⟩ := readable.pending visiting
  refine ⟨?_, ?_, ?_, fun byte member => ?_, ?_, ?_⟩
  · rw [name]
    exact readable.player.fits
  · rw [name]
    exact readable.player.allows
  · rw [date, text_getDate]
    exact RtcDate.length_body _
  · rw [date, text_getDate] at member
    exact (RtcDate.mem_body member).imp_left (NumberOfRounds.isNumerical_eq byte).trans
  · rw [score]
    exact natural
  · rw [score]
    exact small

theorem Readable.step (readable : program.Readable) (small : program.StaysSmall event) :
    (program.step width event).Readable := by
  refine ⟨written_step readable.player fun visiting pressed released alpha => ?_, fun entry member => ?_,
    fun visiting => ?_⟩
  · exact ⟨alpha, small.room visiting pressed released alpha⟩
  · rcases mem_entries_step member with filing | old
    · exact legible_filed readable filing
    · exact readable.entries entry old
  · have outcome := @outcome_step width program event
    have score := small.score
    generalize program.leftWith event = left at outcome score
    generalize program.filed width event = filing at outcome
    cases outcome with
    | keeps entries same newScore =>
        rw [newScore]
        exact readable.pending (same.mp visiting)
    | leaves result playing entries screen newScore =>
        have below := score result rfl
        rw [newScore visiting]
        omega
    | files winner before shown =>
        rw [shown] at visiting
        cases visiting

/-- Over every run in which names find room and scores have three digits, the
screen of the leaderboard shows what it stands for. Its arrays are not overrun,
no two images of a row overlap, all of them are on the screen, and what is read
there is the name, the score and the date of each entry, but that a blank looks
like a slash. -/
theorem leaderboard_shown (board : Leaderboard) (legible : ∀ entry ∈ board.entries, entry.Legible) (uart : Serial.Uart)
    (uninitialised : Nat → Memory.Cell) (images : Vector XpmImage 20) (events : List Event)
    (small : Along (step width) StaysSmall (boot board uart uninitialised images) events) :
    (run (step width) (boot board uart uninitialised images) events).board.Legible := by
  have start : (boot board uart uninitialised images).Readable := by
    refine ⟨Chars.written_zeros _, legible, fun visiting => ?_⟩
    cases visiting
  exact Leaderboard.legible_entries
    (run_invariant Readable (fun _ _ readable small => readable.step small) start small).entries

def emptyBoard : Leaderboard where
  leaderboard _ := { name := .of "nobody", intScore := 0, date := .of "1/1/2020" }
  newWinner := Leaderboard.blank.newWinner

def emptyBooted : Program := boot emptyBoard (.idle true) (fun _ => none) HighScore.unusedImages

def packetCall (lb : Bool) : Event :=
  november (Call.ofMouse (some { lb, xOv := false, yOv := false, deltaX := 0, deltaY := 0 }) false).flags

/-- A game of two rounds in which one button is repeated and nobody clicks after
that, and a name with a blank in it. -/
def nameWithBlank : List Event :=
  [november quietFlags, releaseCall enter, releaseCall '2'.toNat, releaseCall enter,
    packetCall true, packetCall false, packetCall true, packetCall false, packetCall true, packetCall false] ++
  List.replicate 5 alarmCall ++ [releaseCall 'a'.toNat, releaseCall ' '.toNat, releaseCall 'b'.toNat, releaseCall enter]

/-- The winner is seen as "a/b". -/
theorem leaderboard_shown_blank :
    (run (step HighScore.fixedWidth) emptyBooted nameWithBlank).board.Legible ∧
    readScreen (run (step HighScore.fixedWidth) emptyBooted nameWithBlank).board.drawLeaderboardGraphics.1 98 357 143 =
      [ascii 'a', ascii '/', ascii 'b'] := by
  have legible : ∀ entry ∈ emptyBoard.entries, entry.Legible := by
    intro entry member
    obtain ⟨i, rfl⟩ := List.mem_ofFn.mp member
    have name : (Chars.of "nobody").text.length < 11 ∧
        ∀ byte ∈ (Chars.of "nobody").text, isAlphaNumberical byte = true := by
      decide +kernel
    have date : (Chars.of "1/1/2020").text.length < 11 ∧
        ∀ byte ∈ (Chars.of "1/1/2020").text, isNumerical byte = true ∨ byte = ascii '/' := by
      decide +kernel
    have score : (0 : Int) < 1000 := by decide
    exact ⟨name.1, name.2, date.1, date.2, Int.le_refl 0, score⟩
  have small : Along (step HighScore.fixedWidth) StaysSmall emptyBooted nameWithBlank := by decide +kernel
  exact ⟨leaderboard_shown emptyBoard legible _ _ _ nameWithBlank small, by decide +kernel⟩

end Program

end SimonVs
