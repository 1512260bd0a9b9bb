import SimonVs.Rules.Clock
import SimonVs.Screens.Display
import SimonVs.Whole.Games

namespace SimonVs

open Data Serial

/-- The program with the static variables of the drawing functions of the two
games. -/
structure Shown where
  program : Program
  game : Display
  mpGame : Display

namespace Shown

variable (width : XpmImage → UInt16)

/-- The drawing at the beginning of `event_handler`, for the two games. -/
def draw (shown : Shown) (uninitialised : Vector XpmImage 20) : Shown × Option Frame :=
  match shown.program.mode with
  | .game =>
      let (game, frame) := shown.game.drawGameGraphics width shown.program.game.scene uninitialised
      ({ shown with game }, some frame)
  | .mpGame =>
      let (mpGame, frame) := shown.mpGame.drawGameGraphics width shown.program.mpGame.scene uninitialised
      ({ shown with mpGame }, some frame)
  | _ => (shown, none)

/-- A call of `event_handler`, with the memory that a new box finds. -/
def step (shown : Shown) (event : Program.Event × Vector XpmImage 20) : Shown × Option Frame :=
  let (shown, frame) := shown.draw width event.2
  ({ shown with program := shown.program.step width event.1 }, frame)

end Shown

namespace Program

variable {width : XpmImage → UInt16} {program : Program}

/-- The game on the screen. -/
def scene? (program : Program) : Option Scene :=
  match program.mode with
  | .game => some program.game.scene
  | .mpGame => some program.mpGame.scene
  | _ => none

/-- The program with frames that are drawn from nothing. -/
def framed (width : XpmImage → UInt16) (program : Program) (event : Event × Vector XpmImage 20) :
    Program × Option Frame :=
  (program.step width event.1, program.scene?.map (Scene.frame width))

/-- The round that is to be drawn has at most three digits. -/
def ThreeDigits (program : Program) : Prop :=
  ∀ scene ∈ program.scene?, scene.gameEnd = false → scene.buttonsSize < 1000

instance (program : Program) : Decidable program.ThreeDigits :=
  match scene : program.scene? with
  | none => .isTrue fun _ member => by rw [scene] at member; cases member
  | some shown =>
      decidable_of_iff (shown.gameEnd = false → shown.buttonsSize < 1000)
        ⟨fun holds _ member => by rw [scene] at member; cases member; exact holds,
          fun holds => holds shown scene⟩

theorem timely_happen {game : MpGame} (timely : game.Timely) (event : MpGame.PcEvent) : (game.happen event).Timely := by
  cases event with
  | input input => exact (MpGame.localStep_handle game input).timing.timely timely
  | uart data type => exact MpGame.timely_uart timely data type

theorem timely_moves {flags : Flags} {draws : Draws} {after : Program} (timely : program.mpGame.Timely)
    (moves : Moves width flags draws program after) : after.mpGame.Timely := by
  cases moves with
  | stay | choose | askRounds | back | types | starts => exact timely
  | connect => exact timely
  | hosts =>
      have unlimited : (-1 : Int) ≤ vsInterval := by decide
      exact unlimited
  | plays =>
      obtain ⟨_, mpGame, _⟩ := @run_gameStep program (fun _ => True) (fun _ _ _ _ => trivial) (fun _ _ => trivial) trivial
        draws.hiscoreBox (gameInputs flags draws)
      rw [mpGame]
      exact timely
  | playsMp =>
      exact (@run_mpGameStep program MpGame.Timely (fun timely _ _ _ => timely) timely_happen timely
        draws.hiscoreBox (pcEvents flags)).1
  | names visiting => exact timely

theorem timely_step (timely : program.mpGame.Timely) (event : Event) : (program.step width event).mpGame.Timely := by
  have transmitted : (program.transmit event.2.transmitted).mpGame.Timely := by
    obtain ⟨uart, same⟩ := transmit_eq program event.2.transmitted
    rw [same]
    exact timely
  exact timely_moves transmitted (moves_step program event)

/-- The time of the game on the screen has one digit, while it is drawn. -/
theorem Fair.soon (fair : program.Fair) (timely : program.mpGame.Timely) {scene : Scene} (shown : scene ∈ program.scene?)
    (running : scene.gameEnd = false) : scene.timeLeftForClick < 10 := by
  have digit : vsInterval < 10 := by decide
  rw [scene?] at shown
  split at shown
  · next playing =>
      cases shown
      exact Int.lt_of_le_of_lt ((fair.playing playing).2.accounted.running running).1.notAbove digit
  · cases shown
    exact Int.lt_of_le_of_lt timely digit
  · cases shown

theorem draw_current {shown : Shown} (narrow : TextBox.NarrowDigits width) (fair : shown.program.Fair)
    (timely : shown.program.mpGame.Timely) (small : shown.program.ThreeDigits) (game : shown.game.Current width)
    (mpGame : shown.mpGame.Current width) (uninitialised : Vector XpmImage 20) :
    (shown.draw width uninitialised).1.program = shown.program ∧
    (shown.draw width uninitialised).1.game.Current width ∧ (shown.draw width uninitialised).1.mpGame.Current width ∧
    (shown.draw width uninitialised).2 = shown.program.scene?.map (Scene.frame width) := by
  have soon (scene : Scene) (member : scene ∈ shown.program.scene?) (running : scene.gameEnd = false) :
      scene.timeLeftForClick < 10 := fair.soon timely member running
  rw [Shown.draw]
  split
  · next playing =>
      have scene : shown.program.scene? = some shown.program.game.scene := by rw [scene?, playing]
      obtain ⟨still, frame⟩ := game.frame narrow (soon _ scene) (small _ scene) uninitialised
      rw [scene]
      exact ⟨rfl, still, mpGame, congrArg some frame⟩
  · next playing =>
      have scene : shown.program.scene? = some shown.program.mpGame.scene := by rw [scene?, playing]
      obtain ⟨still, frame⟩ := mpGame.frame narrow (soon _ scene) (small _ scene) uninitialised
      rw [scene]
      exact ⟨rfl, game, still, congrArg some frame⟩
  · next notGame notMp =>
      have scene : shown.program.scene? = none := by
        rw [scene?]
        split
        · next playing => exact absurd playing notGame
        · next playing => exact absurd playing notMp
        · rfl
      rw [scene]
      exact ⟨rfl, game, mpGame, rfl⟩

/-- Over every run the frames of the games, drawn with what was kept from the
frames before, are those drawn from nothing: they show the number of buttons and
the seconds of the game that is being played. -/
theorem frames_current (narrow : TextBox.NarrowDigits width) (board : Leaderboard) (uart : Uart)
    (uninitialised : Nat → Memory.Cell) (images gameImages mpImages : Vector XpmImage 20)
    (events : List (Event × Vector XpmImage 20))
    (threeDigits : Along (fun program event => (program.framed width event).1) (fun program _ => program.ThreeDigits)
      (boot board uart uninitialised images) events) :
    answers (Shown.step width) ⟨boot board uart uninitialised images, .boot gameImages, .boot mpImages⟩ events =
      answers (framed width) (boot board uart uninitialised images) events := by
  refine answers_related_along
    (fun shown program => shown.program = program ∧ program.Fair ∧ program.mpGame.Timely ∧
      shown.game.Current width ∧ shown.mpGame.Current width) ?_ ?_ threeDigits
  · rintro shown _ event ⟨rfl, fair, timely, game, mpGame⟩ small
    obtain ⟨same, stillGame, stillMp, frame⟩ := draw_current narrow fair timely small game mpGame event.2
    refine ⟨⟨?_, fair.step event.1, timely_step timely event.1, stillGame, stillMp⟩, frame⟩
    exact congrArg (fun program => program.step width event.1) same
  · have start : (0 : Int) ≤ vsInterval := by decide
    exact ⟨rfl, fair_boot board uart uninitialised images, start, Display.current_boot gameImages,
      Display.current_boot mpImages⟩

/-- A game of twelve rounds begins: its first frame, and one in which nothing has
to be drawn anew. -/
def twelve : List (Event × Vector XpmImage 20) :=
  [november quietFlags, releaseCall enter, releaseCall '1'.toNat, releaseCall '2'.toNat, releaseCall enter,
    november quietFlags, november quietFlags].map fun event => (event, HighScore.unusedImages)

theorem frames_current_twelve :
    answers (Shown.step HighScore.fixedWidth)
        ⟨booted, .boot HighScore.unusedImages, .boot HighScore.unusedImages⟩ twelve =
      List.replicate 5 none ++ List.replicate 2 (some
        (.playing 9 (.number 1) (.number 0) [(.number 0, 0)] (400, 300))) := by
  have narrow : TextBox.NarrowDigits HighScore.fixedWidth := fun _ _ => by
    rw [HighScore.fixedWidth]
    decide
  have drawn := frames_current narrow .shipped (.idle true) (fun _ => none) HighScore.unusedImages
    HighScore.unusedImages HighScore.unusedImages twelve (by decide +kernel)
  refine drawn.trans ?_
  decide +kernel

end Program

end SimonVs
