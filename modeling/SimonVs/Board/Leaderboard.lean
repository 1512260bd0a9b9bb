import Mathlib.Data.List.FinRange
import Mathlib.Logic.Function.Basic

namespace SimonVs

/-! The leaderboard in memory (`leaderboard.c`) and the part of `highscore.c` and
of `checkNewHiScore` (`game.c`) that enters a result. -/

abbrev Chars := Vector UInt8 11

/-- A text in such an array, with zeros behind it. -/
def Chars.of (text : String) : Chars :=
  Vector.ofFn fun i => ((text.toList.map fun char => UInt8.ofNat char.toNat)[i.val]?).getD 0

structure ContWinner where
  date : Chars
  name : Chars
  intScore : Int
deriving DecidableEq, Repr

structure Leaderboard where
  leaderboard : Fin 5 → ContWinner
  -- used as a swap buffer by `updateData`
  newWinner : ContWinner

namespace Leaderboard

def entries (board : Leaderboard) : List ContWinner := List.ofFn board.leaderboard

/-- The last place serves both the comparison with it and the end of the
function. -/
def getNewHiScorePos (board : Leaderboard) : Fin 5 :=
  if board.newWinner.intScore > (board.leaderboard 0).intScore then 0
  else if board.newWinner.intScore > (board.leaderboard 1).intScore then 1
  else if board.newWinner.intScore > (board.leaderboard 2).intScore then 2
  else if board.newWinner.intScore > (board.leaderboard 3).intScore then 3
  else if board.newWinner.intScore > (board.leaderboard 4).intScore then 4
  else 4

/-- The body of the loop of `updateData`; `temp` stands for `temp_name`,
`temp_date` and `score`. -/
def pass (state : Leaderboard × ContWinner) (i : Fin 5) : Leaderboard × ContWinner :=
  let (board, temp) := state
  let newWinner := board.leaderboard i
  let leaderboard := Function.update board.leaderboard i temp
  let temp := newWinner
  ({ leaderboard, newWinner }, temp)

def updateData (board : Leaderboard) : Leaderboard :=
  let i := board.getNewHiScorePos
  let temp := board.leaderboard i
  let board := { board with leaderboard := Function.update board.leaderboard i board.newWinner }
  (((List.finRange 5).filter (i < ·)).foldl pass (board, temp)).1

def getLowestHiScore (board : Leaderboard) : Int := (board.leaderboard 4).intScore

def resetHiscore (board : Leaderboard) (score : Int) : Leaderboard :=
  { board with newWinner := { board.newWinner with intScore := score } }

/-- `highscore_update_status` when ENTER confirms the name. -/
def confirmName (board : Leaderboard) (name date : Chars) : Leaderboard :=
  updateData { board with newWinner := { board.newWinner with name, date } }

/-- A game that ends with the score of `result`. `checkNewHiScore` opens the
highscore screen only for a score above the lowest one. -/
def enterResult (board : Leaderboard) (result : ContWinner) : Leaderboard :=
  if result.intScore > board.getLowestHiScore then
    (board.resetHiscore result.intScore).confirmName result.name result.date
  else board

/-- The leaderboard that comes with the program (`leaderboard.txt`). -/
def shipped : Leaderboard where
  leaderboard
    | 0 => { name := .of "daisy", intScore := 202, date := .of "17/12/2020" }
    | 1 => { name := .of "adao", intScore := 201, date := .of "17/12/2020" }
    | 2 => { name := .of "bowser", intScore := 130, date := .of "17/12/2020" }
    | 3 => { name := .of "melissa", intScore := 120, date := .of "12/12/2020" }
    | 4 => { name := .of "peach", intScore := 120, date := .of "17/12/2020" }
  newWinner := { name := .of "", intScore := 0, date := .of "" }

end Leaderboard

end SimonVs
