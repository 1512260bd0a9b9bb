import Mathlib.Data.List.Induction
import SimonVs.Board.Leaderboard
import SimonVs.Data.Run
import SimonVs.Data.StableSort

namespace SimonVs

open Data

namespace Leaderboard

variable {board : Leaderboard}

theorem entries_eq (board : Leaderboard) :
    board.entries = [board.leaderboard 0, board.leaderboard 1, board.leaderboard 2, board.leaderboard 3,
      board.leaderboard 4] := rfl

/-- `updateData` moves the places from the new one on down by one. -/
theorem entries_updateData (board : Leaderboard) :
    board.updateData.entries =
      (board.entries.take board.getNewHiScorePos ++ board.newWinner ::
        board.entries.drop board.getNewHiScorePos).take 5 := by
  unfold updateData
  generalize board.getNewHiScorePos = place
  obtain ⟨place, below⟩ := place
  match place, below with
  | 0, _ => rfl
  | 1, _ => rfl
  | 2, _ => rfl
  | 3, _ => rfl
  | 4, _ => rfl

/-- The search of `getNewHiScorePos` finds the place in the ranking. -/
theorem updateData_insertRanked (admitted : board.newWinner.intScore > board.getLowestHiScore) :
    board.updateData.entries = (insertRanked ContWinner.intScore board.newWinner board.entries).take 5 := by
  rw [entries_updateData, entries_eq]
  simp only [insertRanked]
  unfold getNewHiScorePos
  by_cases first : board.newWinner.intScore > (board.leaderboard 0).intScore
  · rw [if_pos first, if_neg (not_le_of_gt first)]
    rfl
  rw [if_neg first, if_pos (le_of_not_gt first)]
  by_cases second : board.newWinner.intScore > (board.leaderboard 1).intScore
  · rw [if_pos second, if_neg (not_le_of_gt second)]
    rfl
  rw [if_neg second, if_pos (le_of_not_gt second)]
  by_cases third : board.newWinner.intScore > (board.leaderboard 2).intScore
  · rw [if_pos third, if_neg (not_le_of_gt third)]
    rfl
  rw [if_neg third, if_pos (le_of_not_gt third)]
  by_cases fourth : board.newWinner.intScore > (board.leaderboard 3).intScore
  · rw [if_pos fourth, if_neg (not_le_of_gt fourth)]
    rfl
  rw [if_neg fourth, if_pos (le_of_not_gt fourth)]
  have fifth : board.newWinner.intScore > (board.leaderboard 4).intScore := admitted
  rw [if_pos fifth, if_neg (not_le_of_gt fifth)]
  rfl

/-- In a ranked leaderboard nobody is below the last place. -/
theorem lowest_le (ranked : Ranked ContWinner.intScore board.entries) :
    ∀ entry ∈ board.entries, board.getLowestHiScore ≤ entry.intScore := by
  have split : board.entries = [board.leaderboard 0, board.leaderboard 1, board.leaderboard 2,
      board.leaderboard 3] ++ [board.leaderboard 4] := rfl
  rw [split] at ranked ⊢
  have before := (List.pairwise_append.mp ranked).2.2
  intro entry member
  rcases List.mem_append.mp member with earlier | last
  · exact before entry earlier _ List.mem_cons_self
  · rw [List.mem_singleton.mp last]
    exact le_refl _

theorem entries_enterResult (ranked : Ranked ContWinner.intScore board.entries) (result : ContWinner) :
    (board.enterResult result).entries = (insertRanked ContWinner.intScore result board.entries).take 5 := by
  unfold enterResult
  split
  · rename_i admitted
    exact updateData_insertRanked admitted
  · rename_i refused
    have smallest : ∀ entry ∈ board.entries, result.intScore ≤ entry.intScore := by
      intro entry member
      exact le_trans (le_of_not_gt refused) (lowest_le ranked entry member)
    have size : board.entries.length = 5 := rfl
    rw [insertRanked_last smallest, List.take_left' size]

/-- Whatever is played, the leaderboard holds the best five of the entries it
started with and of all results, an older one before a newer one of the same
score. -/
theorem best_five (board : Leaderboard) (ranked : Ranked ContWinner.intScore board.entries)
    (results : List ContWinner) :
    (Data.run enterResult board results).entries =
      (rank ContWinner.intScore (board.entries ++ results)).take 5 ∧
    Ranked ContWinner.intScore (Data.run enterResult board results).entries := by
  have best : (Data.run enterResult board results).entries =
      (rank ContWinner.intScore (board.entries ++ results)).take 5 := by
    induction results using List.reverseRecOn with
    | nil =>
        rw [List.append_nil, rank_of_ranked ranked]
        rfl
    | append_singleton results result ih =>
        have still : Ranked ContWinner.intScore (Data.run enterResult board results).entries := by
          rw [ih]
          exact (ranked_rank _).sublist (List.take_sublist _ _)
        rw [run_append, run_cons, run_nil, entries_enterResult still, ih, ← List.append_assoc,
          rank_append_singleton, ← take_insertRanked]
  refine ⟨best, ?_⟩
  rw [best]
  exact (ranked_rank _).sublist (List.take_sublist _ _)

/-- Two results of 130 points: the older entry of that score stays before them. -/
def twoResults : List ContWinner :=
  [{ name := .of "toad", intScore := 130, date := .of "1/1/2021" },
   { name := .of "yoshi", intScore := 130, date := .of "2/1/2021" }]

theorem best_five_shipped :
    (Data.run enterResult shipped twoResults).entries =
      (rank ContWinner.intScore (shipped.entries ++ twoResults)).take 5 ∧
    (Data.run enterResult shipped twoResults).entries.map ContWinner.name =
      [.of "daisy", .of "adao", .of "bowser", .of "toad", .of "yoshi"] := by
  have ranked : Ranked ContWinner.intScore shipped.entries := by
    unfold Ranked
    decide
  exact ⟨(best_five shipped ranked twoResults).1, rfl⟩

end Leaderboard

end SimonVs
