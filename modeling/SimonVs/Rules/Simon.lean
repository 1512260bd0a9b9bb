import Mathlib.Data.List.Basic
import Mathlib.Data.List.Induction
import Mathlib.Data.List.Infix
import SimonVs.Data.Run
import SimonVs.Rules.OnePc

namespace SimonVs

open Data Memory Rules

/-- How a game of Simon ends. -/
inductive Simon.Result where
  | lost (isPlayer1 : Bool) (score : Nat)
  | tied (score : Nat)
deriving DecidableEq, Repr

inductive Simon.Event (β : Type) where
  | click (button : β)
  | tick
deriving DecidableEq, Repr

/-- Turn `t` starts with the `t` buttons appended in the turns before it; `reproduced` of
them have been clicked in this turn, and `idle` seconds have gone by since it started
or since the last correct click. -/
structure Simon (β : Type) where
  appended : List β
  reproduced : Nat
  idle : Nat
  result : Option Simon.Result
deriving DecidableEq, Repr

namespace Simon

variable {β : Type} [DecidableEq β]

def start : Simon β := { appended := [], reproduced := 0, idle := 0, result := none }

def turn (simon : Simon β) : Nat := simon.appended.length

/-- Player 1 plays the even turns. -/
def isPlayer1 (simon : Simon β) : Bool := simon.turn % 2 == 0

def Complete (simon : Simon β) : Prop := simon.reproduced = simon.turn

instance (simon : Simon β) : Decidable simon.Complete := inferInstanceAs (Decidable (_ = _))

/-- The current player has reproduced all turns but the present one. -/
def lose (simon : Simon β) : Simon β :=
  { simon with result := some (.lost simon.isPlayer1 (simon.turn - 1)) }

def step (rounds : Nat) (simon : Simon β) (event : Event β) : Simon β :=
  match event with
  | .click button =>
      if simon.Complete then
        if simon.turn = rounds then { simon with result := some (.tied rounds) }
        else { simon with appended := simon.appended ++ [button], reproduced := 0, idle := 0 }
      else if simon.appended[simon.reproduced]? = some button then
        { simon with reproduced := simon.reproduced + 1, idle := 0 }
      else simon.lose
  | .tick =>
      if simon.Complete then simon
      else if simon.idle + 1 = 5 then simon.lose
      else { simon with idle := simon.idle + 1 }

def run (rounds : Nat) (events : List (Event β)) : Simon β := Data.run (step rounds) start events

def clicks (events : List (Event β)) : List β :=
  events.filterMap fun event =>
    match event with
    | .click button => some button
    | .tick => none

/-- The clicks of a game that has come so far: turn `k` reproduces the first `k`
buttons and appends the next one. -/
def transcript (simon : Simon β) : List β :=
  (List.range simon.turn).flatMap (fun k => simon.appended.take (k + 1)) ++
    simon.appended.take simon.reproduced

omit [DecidableEq β] in
theorem transcript_append {simon : Simon β} (complete : simon.Complete) (button : β) :
    transcript { simon with appended := simon.appended ++ [button], reproduced := 0, idle := 0 } =
      simon.transcript ++ [button] := by
  have whole : simon.appended.take simon.reproduced = simon.appended :=
    List.take_of_length_le (Nat.le_of_eq complete.symm)
  have earlier : (List.range simon.turn).flatMap (fun k => (simon.appended ++ [button]).take (k + 1)) =
      (List.range simon.turn).flatMap (fun k => simon.appended.take (k + 1)) := by
    apply List.flatMap_congr
    intro k member
    have below : k < simon.turn := List.mem_range.mp member
    exact List.take_append_of_le_length below
  have last : (simon.appended ++ [button]).take (simon.turn + 1) = simon.appended ++ [button] :=
    List.take_of_length_le (by simp [turn])
  simp only [transcript, turn, List.length_append, List.length_singleton, List.range_succ,
    List.flatMap_append, List.flatMap_singleton, List.take_zero, List.append_nil] at earlier last whole ⊢
  rw [earlier, last, whole, List.append_assoc]

omit [DecidableEq β] in
theorem transcript_reproduce {simon : Simon β} {button : β}
    (next : simon.appended[simon.reproduced]? = some button) :
    transcript { simon with reproduced := simon.reproduced + 1, idle := 0 } =
      simon.transcript ++ [button] := by
  obtain ⟨below, same⟩ := List.getElem?_eq_some_iff.mp next
  simp only [transcript, turn, List.take_add_one, next, Option.toList_some, List.append_assoc]

theorem result_before {rounds : Nat} {simon : Simon β} {event : Event β}
    (running : (simon.step rounds event).result = none) : simon.result = none := by
  unfold step lose at running
  cases event with
  | click button =>
      dsimp only at running
      split at running
      · split at running
        · cases running
        · exact running
      · split at running
        · exact running
        · cases running
  | tick =>
      dsimp only at running
      split at running
      · exact running
      · split at running
        · cases running
        · exact running

/-- As long as nobody has lost and there is no tie, the clicks are those of
complete turns and of the beginning of one. -/
theorem clicks_eq_transcript (rounds : Nat) (events : List (Event β))
    (running : (run rounds events).result = none) : clicks events = (run rounds events).transcript := by
  induction events using List.reverseRecOn with
  | nil => rfl
  | append_singleton events event ih =>
      have stepped : run rounds (events ++ [event]) = (run rounds events).step rounds event := by
        simp [run]
      have before : (run rounds events).result = none := by
        rw [stepped] at running
        exact result_before running
      have soFar := ih before
      rw [stepped] at running ⊢
      cases event with
      | click button =>
          have clicked : clicks (events ++ [.click button]) = clicks events ++ [button] := by simp [clicks]
          rw [clicked, soFar]
          unfold step at running ⊢
          by_cases complete : (run rounds events).Complete
          · by_cases full : (run rounds events).turn = rounds
            · simp [complete, full] at running
            · simp only [complete, full, if_true, if_false]
              exact (transcript_append complete button).symm
          · by_cases next : (run rounds events).appended[(run rounds events).reproduced]? = some button
            · simp only [complete, next, if_true, if_false]
              exact (transcript_reproduce next).symm
            · simp [complete, next, lose] at running
      | tick =>
          have clicked : clicks (events ++ [.tick]) = clicks events := by simp [clicks]
          rw [clicked, soFar]
          unfold step at running ⊢
          by_cases complete : (run rounds events).Complete
          · simp only [complete, if_true]
          · by_cases expired : (run rounds events).idle + 1 = 5
            · simp [complete, expired, lose] at running
            · simp only [complete, expired, if_false]
              rfl

end Simon

namespace Rules.Play

variable {play : Play} {simon : Simon ButtonClick} {rounds : Nat} {button : ButtonClick}

/-- A running game in the state of the reference game. -/
structure Shows (play : Play) (rounds : Nat) (simon : Simon ButtonClick) : Prop where
  sequence : play.sequence = simon.appended.map some
  guessed : play.guessed = simon.reproduced
  within : simon.reproduced ≤ simon.turn
  maxSize : play.maxSize = rounds
  isPlayer1 : play.isPlayer1 = simon.isPlayer1
  score : play.score = simon.turn - 1
  closed : play.vsPressed = false
  timeLeft : play.timeLeft = if simon.Complete then -1 else interval - simon.idle
  idle : ¬ simon.Complete → simon.idle ≤ 4
  ended : play.ended = false

/-- What the game reports of the reference game: its state, or its result. -/
def Reports (play : Play) (rounds : Nat) (simon : Simon ButtonClick) : Prop :=
  match simon.result with
  | none => play.Shows rounds simon
  | some (.lost isPlayer1 score) =>
      play.ended = true ∧ play.winner = (if isPlayer1 then .winner2 else .winner1) ∧ play.score = score
  | some (.tied score) => play.ended = true ∧ play.winner = .tie ∧ play.score = score

theorem Shows.reports (shows : play.Shows rounds simon) (running : simon.result = none) :
    play.Reports rounds simon := by
  unfold Reports
  rw [running]
  exact shows

theorem Reports.shows (reports : play.Reports rounds simon) (running : simon.result = none) :
    play.Shows rounds simon := by
  unfold Reports at reports
  rw [running] at reports
  exact reports

theorem Shows.complete (shows : play.Shows rounds simon) : play.Complete ↔ simon.Complete := by
  simp [Complete, Simon.Complete, Simon.turn, shows.sequence, shows.guessed]

theorem Shows.lose (shows : play.Shows rounds simon) : play.lose.Reports rounds simon.lose := by
  refine ⟨rfl, ?_, shows.score⟩
  simp [Play.lose, shows.isPlayer1]

theorem Shows.length (shows : play.Shows rounds simon) : play.sequence.length = simon.turn := by
  simp [shows.sequence, Simon.turn]

theorem Shows.appended (shows : play.Shows rounds simon) (complete : simon.Complete)
    (found : play.verdict button = .appended) (vsRound : Bool) :
    (play.click button vsRound).Shows rounds
      { simon with appended := simon.appended ++ [button], reproduced := 0, idle := 0 } := by
  have playComplete : play.Complete := shows.complete.mpr complete
  have incomplete : ¬ Simon.Complete
      { simon with appended := simon.appended ++ [button], reproduced := 0, idle := 0 } := by
    simp [Simon.Complete, Simon.turn]
  simp only [Play.click, Play.press, found]
  refine
    { sequence := by simp [Play.newTurn, shows.sequence]
      guessed := rfl
      within := Nat.zero_le _
      maxSize := shows.maxSize
      isPlayer1 := ?_
      score := ?_
      closed := rfl
      timeLeft := by simp [Play.newTurn, incomplete]
      idle := fun _ => Nat.zero_le _
      ended := shows.ended }
  · simp only [Play.newTurn, Play.scored, shows.isPlayer1, Simon.isPlayer1, Simon.turn,
      List.length_append, List.length_singleton]
    rcases Nat.mod_two_eq_zero_or_one simon.appended.length with even | odd
    · simp [even, Nat.add_mod]
    · simp [odd, Nat.add_mod]
  · simp [Play.newTurn, Play.scored, playComplete, shows.length, Simon.turn]

theorem Shows.matched (shows : play.Shows rounds simon) (below : simon.reproduced < simon.turn)
    (found : play.verdict button = .matched) (vsRound : Bool) :
    (play.click button vsRound).Shows rounds { simon with reproduced := simon.reproduced + 1, idle := 0 } := by
  simp only [Play.click, Play.press, found]
  refine
    { sequence := shows.sequence
      guessed := by simp [Play.restartClock, shows.guessed]
      within := below
      maxSize := shows.maxSize
      isPlayer1 := shows.isPlayer1
      score := shows.score
      closed := shows.closed
      timeLeft := ?_
      idle := fun _ => Nat.zero_le _
      ended := shows.ended }
  simp only [Play.restartClock, Play.Complete, shows.length, shows.guessed, Simon.Complete, Simon.turn]
  by_cases last : simon.reproduced + 1 = simon.appended.length
  · simp [last]
  · simp [last]

theorem Shows.click (shows : play.Shows rounds simon) (running : simon.result = none)
    (unlucky : play.Complete → play.isVsRound = true → button ≠ .vsB) (vsRound : Bool) :
    (play.click button vsRound).Reports rounds (simon.step rounds (.click button)) := by
  by_cases complete : simon.Complete
  · have playComplete : play.Complete := shows.complete.mpr complete
    have reproduced : simon.reproduced = simon.turn := complete
    by_cases full : simon.turn = rounds
    · have found : play.verdict button = .tied := by
        rw [verdict_closed shows.closed unlucky, if_pos playComplete, if_pos]
        rw [shows.guessed, shows.maxSize, reproduced, full]
      have stepped : simon.step rounds (.click button) = { simon with result := some (.tied rounds) } := by
        simp [Simon.step, complete, full]
      rw [stepped]
      simp only [Play.click, Play.press, found]
      refine ⟨rfl, rfl, ?_⟩
      simp [Play.tie, Play.scored, playComplete, shows.length, full]
    · have found : play.verdict button = .appended := by
        rw [verdict_closed shows.closed unlucky, if_pos playComplete, if_neg]
        rw [shows.guessed, shows.maxSize, reproduced]
        exact full
      have stepped : simon.step rounds (.click button) =
          { simon with appended := simon.appended ++ [button], reproduced := 0, idle := 0 } := by
        simp [Simon.step, complete, full]
      rw [stepped]
      exact (shows.appended complete found vsRound).reports running
  · have playIncomplete : ¬ play.Complete := fun whole => complete (shows.complete.mp whole)
    have below : simon.reproduced < simon.turn := by
      have different : simon.reproduced ≠ simon.turn := complete
      have within := shows.within
      omega
    have next : play.sequence[play.guessed]? = some (some button) ↔
        simon.appended[simon.reproduced]? = some button := by
      rw [shows.sequence, shows.guessed]
      simp
    by_cases correct : simon.appended[simon.reproduced]? = some button
    · have found : play.verdict button = .matched := by
        rw [verdict_closed shows.closed unlucky, if_neg playIncomplete, if_pos (next.mpr correct)]
      have stepped : simon.step rounds (.click button) =
          { simon with reproduced := simon.reproduced + 1, idle := 0 } := by
        simp [Simon.step, complete, correct]
      rw [stepped]
      exact (shows.matched below found vsRound).reports running
    · have found : play.verdict button = .wrong := by
        rw [verdict_closed shows.closed unlucky, if_neg playIncomplete, if_neg]
        exact fun same => correct (next.mp same)
      have stepped : simon.step rounds (.click button) = simon.lose := by
        simp [Simon.step, complete, correct]
      rw [stepped]
      simp only [Play.click, found]
      exact shows.lose

theorem Shows.tick (shows : play.Shows rounds simon) (running : simon.result = none) (vsRound : Bool) :
    (play.tick vsRound).Reports rounds (simon.step rounds .tick) := by
  have closed := shows.closed
  have timeLeft := shows.timeLeft
  by_cases complete : simon.Complete
  · rw [if_pos complete] at timeLeft
    have same : play.tick vsRound = play := by simp [Play.tick, timeLeft]
    have stepped : simon.step rounds .tick = simon := by simp [Simon.step, complete]
    rw [same, stepped]
    exact shows.reports running
  · rw [if_neg complete] at timeLeft
    have idle := shows.idle complete
    have seconds : interval = 4 := rfl
    by_cases expired : simon.idle + 1 = 5
    · have stepped : simon.step rounds .tick = simon.lose := by simp [Simon.step, complete, expired]
      have zero : play.timeLeft = 0 := by omega
      have lost : play.tick vsRound = play.lose := by simp [Play.tick, zero, closed]
      rw [stepped, lost]
      exact shows.lose
    · have stepped : simon.step rounds .tick = { simon with idle := simon.idle + 1 } := by
        simp [Simon.step, complete, expired]
      have positive : play.timeLeft > 0 := by omega
      have nonzero : play.timeLeft ≠ 0 := by omega
      have counted : play.tick vsRound = { play with timeLeft := play.timeLeft - 1 } := by
        simp [Play.tick, positive, nonzero]
      have still : ¬ Simon.Complete { simon with idle := simon.idle + 1 } := complete
      rw [stepped, counted]
      refine Shows.reports ?_ running
      refine
        { sequence := shows.sequence
          guessed := shows.guessed
          within := shows.within
          maxSize := shows.maxSize
          isPlayer1 := shows.isPlayer1
          score := shows.score
          closed := closed
          timeLeft := ?_
          idle := fun _ => ?_
          ended := shows.ended }
      · rw [if_neg still]
        push_cast
        omega
      · dsimp only
        omega

theorem Reports.running (reports : play.Reports rounds simon) (alive : play.ended = false) :
    simon.result = none := by
  unfold Reports at reports
  split at reports
  · assumption
  · rw [reports.1] at alive
    cases alive
  · rw [reports.1] at alive
    cases alive

theorem start_shows (rounds : Nat) (vsRound : Bool) (winner : Winners) :
    (Play.start rounds vsRound winner).Shows rounds Simon.start where
  sequence := rfl
  guessed := rfl
  within := Nat.le_refl _
  maxSize := rfl
  isPlayer1 := rfl
  score := rfl
  closed := rfl
  timeLeft := rfl
  idle := fun _ => Nat.zero_le _
  ended := rfl

end Rules.Play

namespace Game

def clickOf (game : Game) : Input → ButtonClick
  | .click click _ => click
  | .mouse packet _ => (game.mouse.update packet).click
  | _ => .noButton

/-- What the reference game sees of an event. -/
def simonEvent (game : Game) (input : Input) : Option (Simon.Event ButtonClick) :=
  match input with
  | .rtc _ => some .tick
  | input => if game.clickOf input = .noButton then none else some (.click (game.clickOf input))

def OpensWindow (game : Game) (input : Input) : Prop :=
  game.clickOf input = .vsB ∧ game.isVsRound = true ∧ game.guessed = game.buttonsSize

instance (game : Game) (input : Input) : Decidable (game.OpensWindow input) :=
  inferInstanceAs (Decidable (_ ∧ _ ∧ _))

theorem reports_handle {game : Game} {simon : Simon ButtonClick} {rounds : Nat} (sound : game.Sound)
    (shows : game.play.Shows rounds simon) (result : simon.result = none) (input : Input)
    (closed : ¬ game.OpensWindow input) :
    (game.handle input).Sound ∧
    (game.handle input).play.Reports rounds
      (Data.run (Simon.step rounds) simon (game.simonEvent input).toList) := by
  have running : game.gameEnd = false := shows.ended
  have clicked (moved : Game) (rand : Nat) (same : moved.play = game.play) (movedSound : moved.Sound)
      (click : ButtonClick) (clicks : game.clickOf input = click) :
      (moved.handleClick click rand).Sound ∧
      (moved.handleClick click rand).play.Reports rounds
        (Data.run (Simon.step rounds) simon
          (if click = .noButton then none else some (Simon.Event.click click)).toList) := by
    obtain ⟨plays, afterSound⟩ := @play_handleClick moved click rand movedSound
    refine ⟨afterSound, ?_⟩
    rw [plays, same]
    by_cases real : click = .noButton
    · simp only [real, if_true, Option.toList_none, run_nil]
      exact shows.reports result
    · simp only [real, if_false, Option.toList_some, run_cons, run_nil]
      refine shows.click result ?_ _
      intro complete vsRound lucky
      apply closed
      refine ⟨clicks.trans lucky, vsRound, ?_⟩
      simpa [Play.Complete, play] using complete
  cases input with
  | click click rand =>
      simp only [handle, running, Bool.false_eq_true, if_false]
      exact clicked game rand rfl sound click rfl
  | mouse packet rand =>
      rw [handle, gameUpdateStatusMouse, if_neg (by simp [running])]
      exact clicked { game with mouse := game.mouse.update packet } rand rfl ⟨sound.within, sound.window⟩
        (game.mouse.update packet).click rfl
  | key press =>
      rw [handle, gameUpdateStatusKey, if_neg (by simp [running])]
      exact ⟨sound, shows.reports result⟩
  | timer => exact ⟨⟨sound.within, sound.window⟩, shows.reports result⟩
  | rtc rand =>
      obtain ⟨plays, afterSound⟩ := @play_gameUpdateStatusRtc game rand sound
      refine ⟨afterSound, ?_⟩
      simp only [handle, simonEvent, Option.toList_some, run_cons, run_nil, plays]
      exact shows.tick result _

structure Recorded where
  game : Game
  seen : List (Simon.Event ButtonClick)

def Recorded.step (recorded : Recorded) (input : Input) : Recorded :=
  { game := recorded.game.handle input
    seen := recorded.seen ++ (recorded.game.simonEvent input).toList }

def Recorded.start (game : Game) (rounds rand : Nat) : Recorded :=
  { game := game.resetGame rounds rand, seen := [] }

theorem reports_run (game : Game) (rounds rand : Nat) {inputs : List Input}
    (closed : Along Recorded.step (fun recorded input => ¬ recorded.game.OpensWindow input)
      (.start game rounds rand) inputs)
    (running : ∀ done, done <+: inputs → done ≠ inputs →
      (Data.run Recorded.step (.start game rounds rand) done).game.gameEnd = false) :
    (Data.run Recorded.step (.start game rounds rand) inputs).game.Sound ∧
    (Data.run Recorded.step (.start game rounds rand) inputs).game.play.Reports rounds
      (Simon.run rounds (Data.run Recorded.step (.start game rounds rand) inputs).seen) := by
  induction inputs using List.reverseRecOn with
  | nil =>
      obtain ⟨plays, sound⟩ := @play_resetGame rand game rounds
      refine ⟨sound, ?_⟩
      simp only [run_nil, Recorded.start, plays]
      exact (Play.start_shows rounds _ _).reports rfl
  | append_singleton inputs input ih =>
      obtain ⟨earlier, last⟩ := along_append.mp closed
      have before : ∀ done, done <+: inputs →
          (Data.run Recorded.step (.start game rounds rand) done).game.gameEnd = false := by
        intro done isPrefix
        refine running done (isPrefix.trans (List.prefix_append _ _)) ?_
        intro same
        have lengths := isPrefix.length_le
        rw [same, List.length_append, List.length_singleton] at lengths
        omega
      obtain ⟨sound, reports⟩ := ih earlier fun done isPrefix _ => before done isPrefix
      have alive := before inputs List.prefix_rfl
      have result := reports.running alive
      have next := reports_handle sound (reports.shows result) result input last.1
      simp only [run_append, run_cons, run_nil, Recorded.step, Simon.run] at next ⊢
      exact next

/-- Outside VS windows `game.c` is in the state of the reference game in every
state up to the end of the game, and the clicks are those of its turns. -/
theorem reference_game (game : Game) (rounds rand : Nat) {inputs : List Input}
    (closed : Along Recorded.step (fun recorded input => ¬ recorded.game.OpensWindow input)
      (.start game rounds rand) inputs)
    (running : ∀ done, done <+: inputs → done ≠ inputs →
      (Data.run Recorded.step (.start game rounds rand) done).game.gameEnd = false) :
    let final := Data.run Recorded.step (.start game rounds rand) inputs
    final.game.play.Reports rounds (Simon.run rounds final.seen) ∧
    (final.game.gameEnd = false →
      Simon.clicks final.seen = (Simon.run rounds final.seen).transcript) := by
  intro final
  have reports := (reports_run game rounds rand closed running).2
  refine ⟨reports, fun alive => ?_⟩
  exact Simon.clicks_eq_transcript rounds final.seen (reports.running alive)

/-- One button is appended and the other player lets five seconds pass. -/
def timeoutInputs : List Input := .click .redB 1 :: List.replicate 5 (.rtc 0)

theorem reference_game_timeout :
    (Data.run Recorded.step (.start (.boot 0 fun _ => none) 3 0) timeoutInputs).game.play.Reports 3
      (Simon.run 3 (Data.run Recorded.step (.start (.boot 0 fun _ => none) 3 0) timeoutInputs).seen) ∧
    (Simon.run 3 (Data.run Recorded.step (.start (.boot 0 fun _ => none) 3 0) timeoutInputs).seen).result =
      some (.lost false 0) := by
  have running : ∀ done ∈ timeoutInputs.inits, done ≠ timeoutInputs →
      (Data.run Recorded.step (.start (.boot 0 fun _ => none) 3 0) done).game.gameEnd = false := by decide
  refine ⟨(reference_game (.boot 0 fun _ => none) 3 0 ?_ ?_).1, rfl⟩
  · decide
  · intro done isPrefix
    exact running done ((List.mem_inits _ _).mpr isPrefix)

end Game

end SimonVs
