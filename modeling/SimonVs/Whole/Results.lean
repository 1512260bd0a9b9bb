import Mathlib.Data.List.ReduceOption
import SimonVs.Board.TopFive
import SimonVs.Data.Transducer
import SimonVs.Screens.Visits
import SimonVs.Solo.Reset
import SimonVs.Whole.Moves

namespace SimonVs

open Data Serial

/-- The score and the winner with which a game is left. -/
structure Result where
  score : Nat
  ws : Winners
deriving DecidableEq, Repr

/-- The screen after the game. -/
def Result.screen (result : Result) (lowestHiScore : Int) : GameModes :=
  Game.exitMode result.ws result.score lowestHiScore

namespace Game

theorem mode_clickButton (game : Game) (click : ButtonClick) (rand : Nat) :
    (game.clickButton click rand).mode = game.mode := by
  simp only [clickButton]
  repeat' split
  all_goals rfl

theorem mode_handleClick (game : Game) (click : ButtonClick) (rand : Nat) :
    (game.handleClick click rand).mode = game.mode := by
  obtain ⟨screen, lit⟩ := lightButton_screen (game.clickButton click rand) click
  rw [handleClick, lit]
  exact mode_clickButton game click rand

/-- A handler that changes the mode leaves the game. -/
theorem handle_exit (game : Game) (input : Input) :
    (game.handle input).mode = game.mode ∨
    (game.handle input).mode = exitMode (game.handle input).ws (game.handle input).playerScore game.lowestHiScore := by
  cases input with
  | click click rand =>
      left
      rw [handle]
      split
      · rfl
      · exact mode_handleClick game click rand
  | mouse packet rand =>
      left
      rw [handle, gameUpdateStatusMouse]
      split
      · rfl
      · exact mode_handleClick _ _ rand
  | key press =>
      rw [handle, gameUpdateStatusKey, leave_eq]
      split
      · split
        · exact .inr rfl
        · exact .inl rfl
      · exact .inl rfl
  | timer => exact .inl rfl
  | rtc rand =>
      obtain ⟨_, mode, lowest⟩ := @countDown_rest game rand
      rw [handle, gameUpdateStatusRtc, leaveIfEnded, leave_eq]
      split
      · right
        rw [← lowest]
      · exact .inl mode

/-- How the handler that was just called has left the game. -/
def result? (game : Game) : Option Result :=
  if game.mode = .game then none else some { score := game.playerScore, ws := game.ws }

end Game

namespace MpGame

variable {game : MpGame}

theorem leave_eq (game : MpGame) :
    game.leave = { game with mode := Game.exitMode game.ws game.playerScore game.lowestHiScore } := by
  simp only [leave, mpCheckNewHiScore, Game.exitMode]
  split
  · rfl
  · split <;> rfl

theorem LocalStep.exit {after : MpGame} (step : game.LocalStep after) :
    after.mode = game.mode ∨ after.mode = Game.exitMode after.ws after.playerScore game.lowestHiScore := by
  cases step with
  | idle => exact .inl rfl
  | click active mouse click => exact .inl (mode_mpButtonsHandler { game with mpMouse := mouse } click)
  | expire =>
      left
      simp only [mpGetWinner, mpSendWinner_eq, mpEndGame, sendOrQueue_eq]
  | pass =>
      left
      simp only [mpChangePlayer_eq, sendOrQueue_eq]
  | count => exact .inl rfl
  | leave ended alarm =>
      right
      rw [leave_eq]

theorem happen_exit (game : MpGame) (event : PcEvent) :
    (game.happen event).mode = game.mode ∨
    (game.happen event).mode =
      Game.exitMode (game.happen event).ws (game.happen event).playerScore game.lowestHiScore := by
  cases event with
  | input input => exact (localStep_handle game input).exit
  | uart data type => exact .inl (mode_mpGameUpdateStatusUart game data type)

def result? (game : MpGame) : Option Result :=
  if game.mode = .mpGame then none else some { score := game.playerScore, ws := game.ws }

end MpGame

namespace Program

variable {width : XpmImage → UInt16} {program after later : Program} {event : Event} {left leftLater : Option Result}

/-- What some handlers of a game have done to the rest of the program. -/
structure Leaves (program after : Program) (left : Option Result) : Prop where
  leaderboard : after.board.leaderboard = program.board.leaderboard
  player : after.highScore.player = program.highScore.player
  stays : left = none → after.mode = program.mode ∧ after.highScore = program.highScore
  goes : ∀ result, left = some result →
    after.mode = result.screen program.board.getLowestHiScore ∧
    (after.mode = .highscore → after.board.newWinner.intScore = result.score ∧
      ∃ uninitialised, after.highScore.newHiscore = .createWriteableTextBox 400 330 0 (-1) 10 uninitialised)

theorem Leaves.refl (program : Program) : program.Leaves program none :=
  ⟨rfl, rfl, fun _ => ⟨rfl, rfl⟩, fun _ gone => (nomatch gone)⟩

theorem Leaves.trans (first : program.Leaves after left) (second : after.Leaves later leftLater) :
    program.Leaves later (leftLater.or left) := by
  have lowest : after.board.getLowestHiScore = program.board.getLowestHiScore := by
    rw [Leaderboard.getLowestHiScore, first.leaderboard]
    rfl
  refine ⟨second.leaderboard.trans first.leaderboard, second.player.trans first.player, fun none => ?_,
    fun result gone => ?_⟩
  · obtain ⟨noneLater, none⟩ := Option.or_eq_none_iff.mp none
    obtain ⟨mode, highScore⟩ := first.stays none
    obtain ⟨modeLater, highScoreLater⟩ := second.stays noneLater
    exact ⟨modeLater.trans mode, highScoreLater.trans highScore⟩
  · cases found : leftLater with
    | none =>
        rw [found, Option.none_or] at gone
        obtain ⟨mode, highScore⟩ := second.stays found
        have boards : later.board = after.board := congrArg HighScore.board highScore
        rw [mode, boards, highScore]
        exact first.goes result gone
    | some last =>
        rw [found, Option.some_or] at gone
        obtain ⟨mode, score⟩ := second.goes last found
        rw [← Option.some.inj gone, ← lowest]
        exact ⟨mode, score⟩

theorem leaves_leaveTo (program : Program) (result : Result) (uninitialised : Vector XpmImage 20) :
    program.Leaves (program.leaveTo (result.screen program.board.getLowestHiScore) result.score uninitialised)
      (some result) := by
  rw [leaveTo]
  split
  · next opens =>
      refine ⟨rfl, rfl, fun none => (nomatch none), fun last gone => ?_⟩
      obtain rfl := Option.some.inj gone
      exact ⟨opens.symm, fun _ => ⟨rfl, uninitialised, rfl⟩⟩
  · next other =>
      refine ⟨rfl, rfl, fun none => (nomatch none), fun last gone => ?_⟩
      obtain rfl := Option.some.inj gone
      exact ⟨rfl, fun opens => absurd opens other⟩

theorem game_leaveTo (program : Program) (screen : GameModes) (score : Nat) (uninitialised : Vector XpmImage 20) :
    (program.leaveTo screen score uninitialised).game = program.game ∧
    (program.leaveTo screen score uninitialised).mpGame = program.mpGame := by
  rw [leaveTo]
  split <;> exact ⟨rfl, rfl⟩

theorem leaves_game (program : Program) (game : Game) (alarm : Alarm) :
    program.Leaves { program with game, alarm } none :=
  ⟨rfl, rfl, fun _ => ⟨rfl, rfl⟩, fun _ gone => (nomatch gone)⟩

theorem leaves_mpGame (program : Program) (mpGame : MpGame) (alarm : Alarm) :
    program.Leaves { program with mpGame, alarm } none :=
  ⟨rfl, rfl, fun _ => ⟨rfl, rfl⟩, fun _ gone => (nomatch gone)⟩

theorem leaves_gameStep (uninitialised : Vector XpmImage 20) (program : Program) (input : Game.Input) :
    program.Leaves (program.gameStep uninitialised input) (program.gameStep uninitialised input).game.result? := by
  have exit := Game.handle_exit program.gameView input
  simp only [gameStep, onGame]
  generalize program.gameView.handle input = game at exit
  have handled := leaves_game program game game.alarm
  split
  · next stays =>
      rw [Game.result?, if_pos stays]
      exact handled
  · next gone =>
      have left := leaves_leaveTo { program with game, alarm := game.alarm }
        { score := game.playerScore, ws := game.ws } uninitialised
      rw [(game_leaveTo _ _ _ _).1, Game.result?, if_neg gone, exit.resolve_left gone]
      exact handled.trans left

theorem leaves_mpGameStep (uninitialised : Vector XpmImage 20) (program : Program) (event : MpGame.PcEvent) :
    program.Leaves (program.mpGameStep uninitialised event)
      (program.mpGameStep uninitialised event).mpGame.result? := by
  have exit := MpGame.happen_exit program.mpGameView event
  simp only [mpGameStep, onMpGame]
  generalize program.mpGameView.happen event = mpGame at exit
  have handled := leaves_mpGame program mpGame mpGame.alarm
  split
  · next stays =>
      rw [MpGame.result?, if_pos stays]
      exact handled
  · next gone =>
      have left := leaves_leaveTo { program with mpGame, alarm := mpGame.alarm }
        { score := mpGame.playerScore, ws := mpGame.ws } uninitialised
      rw [(game_leaveTo _ _ _ _).2, MpGame.result?, if_neg gone, exit.resolve_left gone]
      exact handled.trans left

/-- How several handlers leave a game. If two of them do, the second one counts. -/
def leftIn {ι : Type} (step : Program → ι → Program) (result : Program → Option Result) :
    Program → List ι → Option Result
  | _, [] => none
  | program, input :: rest => (leftIn step result (step program input) rest).or (result (step program input))

theorem leaves_run {ι : Type} {step : Program → ι → Program} {result : Program → Option Result}
    (leaves : ∀ program input, Leaves program (step program input) (result (step program input)))
    (program : Program) (inputs : List ι) :
    program.Leaves (run step program inputs) (leftIn step result program inputs) := by
  induction inputs generalizing program with
  | nil => exact .refl program
  | cons input rest ih => exact (leaves program input).trans (ih (step program input))

theorem leaves_games (uninitialised : Vector XpmImage 20) (program : Program) (inputs : List Game.Input) :
    program.Leaves (run (gameStep uninitialised) program inputs)
      (leftIn (gameStep uninitialised) (·.game.result?) program inputs) :=
  leaves_run (leaves_gameStep uninitialised) program inputs

theorem leaves_mpGames (uninitialised : Vector XpmImage 20) (program : Program) (events : List MpGame.PcEvent) :
    program.Leaves (run (mpGameStep uninitialised) program events)
      (leftIn (mpGameStep uninitialised) (·.mpGame.result?) program events) :=
  leaves_run (leaves_mpGameStep uninitialised) program events

/-- How a call of `event_handler` leaves a game. -/
def leftWith (program : Program) (event : Event) : Option Result :=
  match program.mode with
  | .game => leftIn (gameStep event.2.hiscoreBox) (·.game.result?) (program.transmit event.2.transmitted)
      (gameInputs event.1 event.2)
  | .mpGame => leftIn (mpGameStep event.2.hiscoreBox) (·.mpGame.result?) (program.transmit event.2.transmitted)
      (pcEvents event.1)
  | _ => none

/-- What a call of `event_handler` enters into the leaderboard: the highscore
screen is left. -/
def filed (width : XpmImage → UInt16) (program : Program) (event : Event) : Option ContWinner :=
  if program.mode = .highscore ∧ (program.step width event).mode ≠ .highscore then
    some
      { intScore := program.board.newWinner.intScore, name := program.highScore.player
        date := (getDate event.2.date event.2.dateBlock).1 }
  else none

/-- Everything a call can do to the leaderboard. -/
inductive Outcome (program after : Program) : Option Result → Option ContWinner → Prop where
  | keeps (entries : after.board.entries = program.board.entries)
      (visiting : after.mode = .highscore ↔ program.mode = .highscore)
      (score : after.board.newWinner.intScore = program.board.newWinner.intScore) : Outcome program after none none
  | leaves (result : Result) (playing : program.mode ≠ .highscore)
      (entries : after.board.entries = program.board.entries)
      (screen : after.mode = result.screen program.board.getLowestHiScore)
      (score : after.mode = .highscore → after.board.newWinner.intScore = result.score) :
      Outcome program after (some result) none
  | files (winner : ContWinner) (visiting : program.mode = .highscore) (shown : after.mode = .leaderboard)
      (score : winner.intScore = program.board.newWinner.intScore)
      (entries : after.board.entries = ({ program.board with newWinner := winner } : Leaderboard).updateData.entries) :
      Outcome program after none (some winner)

theorem filed_outside (outside : program.mode ≠ .highscore) : program.filed width event = none :=
  if_neg fun both => outside both.1

theorem leftWith_outside (outside : ¬ program.Playing) : program.leftWith event = none := by
  rw [leftWith]
  split
  · next playing => exact absurd (.inl playing) outside
  · next playing => exact absurd (.inr playing) outside
  · rfl

theorem Leaves.outcome (leaves : program.Leaves after left) (playing : program.mode ≠ .highscore) :
    program.Outcome after left none := by
  have entries : after.board.entries = program.board.entries := by
    rw [Leaderboard.entries, leaves.leaderboard]
    rfl
  cases left with
  | none =>
      obtain ⟨mode, highScore⟩ := leaves.stays rfl
      have boards : after.board = program.board := congrArg HighScore.board highScore
      exact .keeps entries (by rw [mode]) (by rw [boards])
  | some result =>
      obtain ⟨screen, opened⟩ := leaves.goes result rfl
      exact .leaves result playing entries screen fun opens => (opened opens).1

/-- The highscore screen either stays or files the result. -/
theorem highscoreUpdateStatus_either (visiting : program.mode = .highscore) (key : KeyPress) (draws : Draws) :
    ((program.highscoreUpdateStatus width key draws).mode = .highscore ∧
      (program.highscoreUpdateStatus width key draws).board = program.board) ∨
    ((program.highscoreUpdateStatus width key draws).mode = .leaderboard ∧
      (program.highscoreUpdateStatus width key draws).board =
        program.board.confirmName program.highScore.player (getDate draws.date draws.dateBlock).1 ∧
      program.highScore.strlen ≠ 0) := by
  have typed := HighScore.highscoreUpdateStatus_cases width { program.highScore with mode := program.mode }
    { key, date := draws.date, uninitialised := draws.dateBlock }
  simp only [highscoreUpdateStatus, board]
  rcases typed with ⟨_, _, same⟩ | ⟨_, _, same⟩ | ⟨_, _, _, same⟩ | ⟨_, _, same⟩
  · rw [same]
    exact .inl ⟨visiting, rfl⟩
  · rw [same, HighScore.enterName]
    split
    · next named => exact .inr ⟨rfl, rfl, named⟩
    · exact .inl ⟨visiting, rfl⟩
  · rw [same, HighScore.typeChar]
    dsimp only
    split
    · exact .inl ⟨visiting, rfl⟩
    · exact .inl ⟨visiting, rfl⟩
  · rw [same]
    exact .inl ⟨visiting, rfl⟩

theorem step_names (visiting : program.mode = .highscore) (event : Event) :
    ((program.step width event).mode = .highscore ∧ (program.step width event).board = program.board) ∨
    ((program.step width event).mode = .leaderboard ∧
      (program.step width event).board =
        program.board.confirmName program.highScore.player (getDate event.2.date event.2.dateBlock).1 ∧
      program.highScore.strlen ≠ 0) := by
  have names := @highscoreUpdateStatus_either width (program.transmit event.2.transmitted)
    ((mode_transmit _ _).trans visiting) event.1.keyboardPacket event.2
  rw [board_transmit, highScore_transmit] at names
  rw [step_highscore visiting]
  split
  · exact names
  · rw [mode_transmit, board_transmit]
    exact .inl ⟨visiting, rfl⟩

theorem outcome_names (visiting : program.mode = .highscore) (event : Event) :
    program.Outcome (program.step width event) none (program.filed width event) := by
  rcases @step_names width program visiting event with ⟨stays, board⟩ | ⟨shown, board, _⟩
  · rw [filed, if_neg fun both => both.2 stays]
    exact .keeps (by rw [board]) (iff_of_true stays visiting) (by rw [board])
  · rw [filed, if_pos ⟨visiting, by rw [shown]; decide⟩]
    exact .files _ visiting shown rfl (by rw [board]; rfl)

theorem Outcome.of_transmit {transmitted : Bool} {filed : Option ContWinner}
    (outcome : (program.transmit transmitted).Outcome after left filed) : program.Outcome after left filed := by
  cases outcome with
  | keeps entries visiting score =>
      rw [mode_transmit] at visiting
      rw [board_transmit] at entries score
      exact .keeps entries visiting score
  | leaves result playing entries screen score =>
      rw [mode_transmit] at playing
      rw [board_transmit] at entries screen
      exact .leaves result playing entries screen score
  | files winner visiting shown score entries =>
      rw [mode_transmit] at visiting
      rw [board_transmit] at entries score
      exact .files winner visiting shown score entries

/-- Outside the games and the highscore screen the leaderboard is left alone. -/
theorem Moves.outcome {flags : Flags} {draws : Draws} (moves : Moves width flags draws program after)
    (outside : ¬ program.Playing) (elsewhere : program.mode ≠ .highscore) : program.Outcome after none none := by
  cases moves with
  | stay => exact .keeps rfl Iff.rfl rfl
  | types => exact .keeps rfl Iff.rfl rfl
  | choose menu screen screens =>
      refine .keeps rfl (iff_of_false ?_ elsewhere) rfl
      rcases screens with rfl | rfl | rfl | rfl <;> simp
  | askRounds | connect | back | starts | hosts => exact .keeps rfl (iff_of_false (by simp) elsewhere) rfl
  | plays playing => exact absurd (.inl playing) outside
  | playsMp playing => exact absurd (.inr playing) outside
  | names visiting => exact absurd visiting elsewhere

theorem outcome_step (program : Program) (event : Event) :
    program.Outcome (program.step width event) (program.leftWith event) (program.filed width event) := by
  by_cases visiting : program.mode = .highscore
  · rw [leftWith_outside (not_playing visiting (by decide) (by decide))]
    exact outcome_names visiting event
  have elsewhere : (program.transmit event.2.transmitted).mode ≠ .highscore := by rwa [mode_transmit]
  rw [filed_outside visiting]
  apply @Outcome.of_transmit program _ _ event.2.transmitted
  by_cases playing : program.mode = .game
  · rw [step_game playing, leftWith, playing]
    exact (leaves_games event.2.hiscoreBox _ _).outcome elsewhere
  by_cases playingMp : program.mode = .mpGame
  · rw [step_mpGame playingMp, leftWith, playingMp]
    exact (leaves_mpGames event.2.hiscoreBox _ _).outcome elsewhere
  have outside : ¬ program.Playing := not_or.mpr ⟨playing, playingMp⟩
  rw [leftWith_outside outside]
  refine (moves_step program event).outcome ?_ elsewhere
  rwa [Playing, mode_transmit]

/-- What the calls of a run report. -/
def reported {α : Type} (width : XpmImage → UInt16) (report : Program → Event → Option α) (program : Program)
    (events : List Event) : List α :=
  (answers (fun program event => (program.step width event, report program event)) program events).reduceOption

theorem reported_concat {α : Type} (report : Program → Event → Option α) (events : List Event) (event : Event) :
    reported width report program (events ++ [event]) =
      reported width report program events ++ (report (run (step width) program events) event).toList := by
  rw [reported, answers_append, List.reduceOption_append]
  rfl

/-- The scores of the games that were left without a tie. -/
def won (results : List Result) : List Int :=
  results.flatMap fun result => if result.ws = .tie then [] else [(result.score : Int)]

/-- The score whose name is being typed. -/
def pending (program : Program) : List Int :=
  if program.mode = .highscore then [program.board.newWinner.intScore] else []

/-- The leaderboard holds the best of what was won, but for the score whose name
is being typed. -/
structure Kept (start filed : List ContWinner) (won : List Int) (program : Program) : Prop where
  best : program.board.entries = (rank ContWinner.intScore (start ++ filed)).take 5
  scores : ∃ settled, won = settled ++ program.pending ∧ (filed.map ContWinner.intScore).Sublist settled ∧
    program.board.entries.map ContWinner.intScore = (rank id (start.map ContWinner.intScore ++ settled)).take 5
  admitted : program.mode = .highscore → program.board.newWinner.intScore > program.board.getLowestHiScore

variable {start entered : List ContWinner} {scores : List Int}

theorem pending_of (visiting : program.mode = .highscore) : program.pending = [program.board.newWinner.intScore] :=
  if_pos visiting

theorem pending_outside (outside : program.mode ≠ .highscore) : program.pending = [] := if_neg outside

theorem Kept.ranked (kept : Kept start entered scores program) :
    Ranked ContWinner.intScore program.board.entries := by
  rw [kept.best]
  exact (ranked_rank _).sublist (List.take_sublist _ _)

/-- One more score among those that are settled. -/
theorem settle {entries : List Int} {settled : List Int} {score : Int} {earlier : List Int}
    (best : entries = (rank id (earlier ++ settled)).take 5) :
    (rank id (earlier ++ (settled ++ [score]))).take 5 = (insertRanked id score entries).take 5 := by
  rw [← List.append_assoc, rank_append_singleton, take_insertRanked, ← best]

theorem lowest_of_entries (entries : after.board.entries = program.board.entries) :
    after.board.getLowestHiScore = program.board.getLowestHiScore := by
  have last := congrArg (fun entries => (entries.map ContWinner.intScore)[4]?) entries
  exact Option.some.inj last

theorem Kept.keeps (kept : Kept start entered scores program)
    (entries : after.board.entries = program.board.entries)
    (visiting : after.mode = .highscore ↔ program.mode = .highscore)
    (score : after.board.newWinner.intScore = program.board.newWinner.intScore) :
    Kept start entered scores after := by
  have lowest := lowest_of_entries entries
  have pendings : after.pending = program.pending := by
    simp only [pending, visiting, score]
  refine ⟨by rw [entries, kept.best], ?_, fun now => ?_⟩
  · rw [pendings, entries]
    exact kept.scores
  · rw [score, lowest]
    exact kept.admitted (visiting.mp now)

theorem Kept.leaves (kept : Kept start entered scores program) {result : Result} (playing : program.mode ≠ .highscore)
    (entries : after.board.entries = program.board.entries)
    (screen : after.mode = result.screen program.board.getLowestHiScore)
    (score : after.mode = .highscore → after.board.newWinner.intScore = result.score) :
    Kept start entered (scores ++ won [result]) after := by
  obtain ⟨settled, all, sub, best⟩ := kept.scores
  rw [pending_outside playing, List.append_nil] at all
  subst all
  have lowest := lowest_of_entries entries
  have table : after.board.entries = (rank ContWinner.intScore (start ++ entered)).take 5 := entries.trans kept.best
  rw [Result.screen, Game.exitMode] at screen
  by_cases tie : result.ws = .tie
  · rw [if_pos tie] at screen
    have outside : after.mode ≠ .highscore := by simp [screen]
    have none : won [result] = [] := by simp [won, tie]
    refine ⟨table, ⟨scores, ?_, sub, entries ▸ best⟩, fun now => absurd now outside⟩
    rw [none, pending_outside outside]
  rw [if_neg tie] at screen
  have one : won [result] = [(result.score : Int)] := by simp [won, tie]
  rw [one]
  by_cases admitted : (result.score : Int) > program.board.getLowestHiScore
  · rw [if_pos admitted] at screen
    refine ⟨table, ⟨scores, ?_, sub, entries ▸ best⟩, fun _ => ?_⟩
    · rw [pending_of screen, score screen]
    · rw [score screen, lowest]
      exact admitted
  · rw [if_neg admitted] at screen
    have outside : after.mode ≠ .highscore := by simp [screen]
    refine ⟨table, ⟨scores ++ [(result.score : Int)], ?_, sub.trans (List.sublist_append_left _ _), ?_⟩,
      fun now => absurd now outside⟩
    · rw [pending_outside outside, List.append_nil]
    · -- A score that is refused is behind all five.
      have smallest : ∀ other ∈ program.board.entries.map ContWinner.intScore, id (result.score : Int) ≤ id other := by
        intro other member
        obtain ⟨entry, present, rfl⟩ := List.mem_map.mp member
        exact le_trans (le_of_not_gt admitted) (Leaderboard.lowest_le kept.ranked entry present)
      have five : (program.board.entries.map ContWinner.intScore).length = 5 := rfl
      rw [settle best, insertRanked_last smallest, List.take_left' five, entries]

theorem Kept.files (kept : Kept start entered scores program) {winner : ContWinner} (visiting : program.mode = .highscore)
    (shown : after.mode = .leaderboard) (score : winner.intScore = program.board.newWinner.intScore)
    (entries : after.board.entries = ({ program.board with newWinner := winner } : Leaderboard).updateData.entries) :
    Kept start (entered ++ [winner]) scores after := by
  obtain ⟨settled, all, sub, best⟩ := kept.scores
  have outside : after.mode ≠ .highscore := by simp [shown]
  have admitted : winner.intScore > program.board.getLowestHiScore := by
    rw [score]
    exact kept.admitted visiting
  have inserted : after.board.entries = (insertRanked ContWinner.intScore winner program.board.entries).take 5 :=
    entries.trans (@Leaderboard.updateData_insertRanked { program.board with newWinner := winner } admitted)
  rw [pending_of visiting, ← score] at all
  refine ⟨?_, ⟨settled ++ [winner.intScore], ?_, ?_, ?_⟩, fun now => absurd now outside⟩
  · rw [inserted, kept.best, ← take_insertRanked, ← List.append_assoc, rank_append_singleton]
  · rw [all, pending_outside outside, List.append_nil]
  · rw [List.map_append]
    exact sub.append (List.Sublist.refl _)
  · rw [settle best, inserted, List.map_take, map_insertRanked]

theorem Kept.outcome (kept : Kept start entered scores program) {filing : Option ContWinner}
    (outcome : program.Outcome after left filing) :
    Kept start (entered ++ filing.toList) (scores ++ won left.toList) after := by
  cases outcome with
  | keeps entries visiting score =>
      rw [Option.toList_none, Option.toList_none, List.append_nil, won, List.flatMap_nil, List.append_nil]
      exact kept.keeps entries visiting score
  | leaves result playing entries screen score =>
      rw [Option.toList_none, List.append_nil]
      exact kept.leaves playing entries screen score
  | files winner visiting shown score entries =>
      rw [Option.toList_none, won, List.flatMap_nil, List.append_nil]
      exact kept.files visiting shown score entries

theorem kept_run (ranked : Ranked ContWinner.intScore program.board.entries) (outside : program.mode ≠ .highscore)
    (events : List Event) :
    Kept program.board.entries (reported width (filed width) program events)
      (won (reported width leftWith program events)) (run (step width) program events) := by
  induction events using List.reverseRecOn with
  | nil =>
      have five : program.board.entries.take 5 = program.board.entries := rfl
      have rankedScores : Ranked id (program.board.entries.map ContWinner.intScore) :=
        List.pairwise_map.mpr ranked
      refine ⟨?_, ⟨[], ?_, List.Sublist.refl _, ?_⟩, fun now => absurd now outside⟩
      · rw [reported, answers_nil, List.reduceOption_nil, List.append_nil, rank_of_ranked ranked]
        rfl
      · rw [run_nil, pending_outside outside]
        rfl
      · rw [List.append_nil, rank_of_ranked rankedScores]
        rfl
  | append_singleton events event ih =>
      have next := ih.outcome (@outcome_step width (run (step width) program events) event)
      have more (results : List Result) : won (results ++ (leftWith (run (step width) program events) event).toList) =
          won results ++ won (leftWith (run (step width) program events) event).toList := List.flatMap_append
      rw [reported_concat, reported_concat, more, run_append]
      exact next

/-- Over any run of the program, the leaderboard holds the best five of the
entries it started with and of the results that were entered; and its scores are
the best five of those it started with and of all games that were left without a
tie, but for the score whose name is being typed. -/
theorem best_results (program : Program) (ranked : Ranked ContWinner.intScore program.board.entries)
    (outside : program.mode ≠ .highscore) (events : List Event) :
    (run (step width) program events).board.entries =
      (rank ContWinner.intScore
        (program.board.entries ++ reported width (filed width) program events)).take 5 ∧
    ∃ settled, won (reported width leftWith program events) = settled ++ (run (step width) program events).pending ∧
      ((reported width (filed width) program events).map ContWinner.intScore).Sublist settled ∧
      (run (step width) program events).board.entries.map ContWinner.intScore =
        (rank id (program.board.entries.map ContWinner.intScore ++ settled)).take 5 := by
  have kept := @kept_run width program ranked outside events
  exact ⟨kept.best, kept.scores⟩

def quietFlags : Flags := (Call.ofMouse none false).flags

/-- Calls in which the memory that is not initialised holds zeros, on a day in
November. -/
def november (flags : Flags) : Event :=
  (flags,
   { resetRand := 1, clickRand := 1, tickRand := 1, transmitted := false
     date := (HighScore.released 0).date, dateBlock := .replicate 11 0
     roundsBox := HighScore.unusedImages, hiscoreBox := HighScore.unusedImages })

def alarmCall : Event := november { quietFlags with rtcInterrupt := true }

def releaseCall (keyChar : Nat) : Event :=
  november { quietFlags with gotKeyPress := true, keyboardPacket := { key := keyChar, down := false } }

def booted : Program := boot .shipped (.idle true) (fun _ => none) HighScore.unusedImages

/-- The screen shows the result of a game of 150 points. -/
def won150 : Program :=
  { booted with mode := .game, game := { booted.game with gameEnd := true, ws := .winner1, playerScore := 150 } }

def fileTheResult : List Event := [alarmCall, releaseCall 'a'.toNat, releaseCall enter]

/-- The third place goes to the new result. -/
theorem best_results_third :
    (run (step HighScore.fixedWidth) won150 fileTheResult).board.entries =
      (rank ContWinner.intScore (won150.board.entries ++
        reported HighScore.fixedWidth (filed HighScore.fixedWidth) won150 fileTheResult)).take 5 ∧
    won (reported HighScore.fixedWidth leftWith won150 fileTheResult) = [150] ∧
    (run (step HighScore.fixedWidth) won150 fileTheResult).board.entries.map ContWinner.intScore =
      [202, 201, 150, 130, 120] := by
  have ranked : Ranked ContWinner.intScore won150.board.entries := by
    unfold Ranked
    decide
  exact ⟨(@best_results HighScore.fixedWidth won150 ranked (by decide) fileTheResult).1, by decide +kernel,
    by decide +kernel⟩

end Program

end SimonVs
