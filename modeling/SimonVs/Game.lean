import SimonVs.Input
import SimonVs.Memory.Block

namespace SimonVs

open Memory

/-! The one-PC game (`game.c`). Every function takes and returns the file's
static variables; the functions that may reach `is_VS_round` also take the
value `rand()` returns there. -/

structure Game where
  ws : Winners
  buttons : Block
  ps : PlayScreens
  mouse : MouseState
  buttonsSize : Nat
  playerScore : Nat
  maxButtonsSize : Nat
  isPlayer1 : Bool
  guessed : Nat
  timeLeftForClick : Int
  gameEnd : Bool
  vsWasPressed : Bool
  isVsRound : Bool
  mode : GameModes
  alarm : Alarm
  lowestHiScore : Int
  -- what the memory returned by the next `malloc` holds
  uninitialised : Nat → Cell

namespace Game

/-- A freshly started program: static variables are zero. -/
def boot (lowestHiScore : Int) (uninitialised : Nat → Cell) : Game where
  ws := .winner1
  buttons := .null
  ps := .default
  mouse := { xPos := 0, yPos := 0, leftHold := false, leftClick := false }
  buttonsSize := 0
  playerScore := 0
  maxButtonsSize := 0
  isPlayer1 := false
  guessed := 0
  timeLeftForClick := 0
  gameEnd := false
  vsWasPressed := false
  isVsRound := false
  mode := .menu
  alarm := .everySecond
  lowestHiScore
  uninitialised

/-- `buttons[buttons_size] = click; buttons_size++;` -/
def append (game : Game) (click : ButtonClick) : Game :=
  { game with
    buttons := game.buttons.store game.buttonsSize click
    buttonsSize := game.buttonsSize + 1 }

/-- `is_VS_round()`, which draws a number. -/
def isVSRound (game : Game) (rand : Nat) : Game :=
  let random := rand % 10
  { game with vsWasPressed := false, isVsRound := random % 2 == 0 }

def getWinner (game : Game) : Game :=
  { game with ws := if game.isPlayer1 then .winner2 else .winner1 }

def endGame (game : Game) : Game :=
  { game with gameEnd := true, buttons := game.buttons.free, alarm := .timed 5 }

def checkNewHiScore (game : Game) : Game :=
  if (game.playerScore : Int) > game.lowestHiScore then { game with mode := .highscore }
  else { game with mode := .leaderboard }

def clickButton (game : Game) (click : ButtonClick) (rand : Nat) : Game :=
  if click = .noButton then
    { game with mouse := { game.mouse with leftClick := false } }
  else if game.guessed = game.buttonsSize ∨ game.vsWasPressed then
    let game := if game.guessed = game.buttonsSize then
      { game with playerScore := game.buttonsSize } else game
    if game.guessed = game.maxButtonsSize then
      endGame { game with ws := .tie }
    else if game.isVsRound then
      if click = .vsB ∧ !game.vsWasPressed then
        { append { game with vsWasPressed := true } click with timeLeftForClick := vsInterval }
      else
        let game := { game.append click with guessed := 0 }
        if !game.vsWasPressed then
          { isVSRound { game with isPlayer1 := !game.isPlayer1 } rand with timeLeftForClick := interval }
        else game
    else
      let game := { game.append click with guessed := 0 }
      if !game.vsWasPressed then
        isVSRound { game with isPlayer1 := !game.isPlayer1, timeLeftForClick := interval } rand
      else game
  else if game.buttons.cells game.guessed = some click then
    let game := { game with guessed := game.guessed + 1 }
    if game.guessed = game.buttonsSize then { game with timeLeftForClick := -1 }
    else { game with timeLeftForClick := interval }
  else
    game.getWinner.endGame

def lightButton (game : Game) (click : ButtonClick) : Game :=
  match click with
  | .greenB => { game with ps := .green }
  | .yellowB => { game with ps := .yellow }
  | .purpleB => { game with ps := .purple }
  | .blueB => { game with ps := .blue }
  | .redB => { game with ps := .red }
  | .vsB =>
      if game.vsWasPressed ∧ game.timeLeftForClick = vsInterval then { game with ps := .vs }
      else { game with ps := .white }
  | .noButton => { game with ps := .default }

/-- The end of `game_update_status_mouse`, once the click is known. -/
def handleClick (game : Game) (click : ButtonClick) (rand : Nat) : Game :=
  (game.clickButton click rand).lightButton click

def gameUpdateStatusMouse (game : Game) (packet : Packet) (rand : Nat) : Game :=
  if game.gameEnd then game
  else
    let game := { game with mouse := game.mouse.update packet }
    game.handleClick game.mouse.click rand

def leave (game : Game) : Game :=
  if game.ws = .tie then { game with mode := .leaderboard } else game.checkNewHiScore

def gameUpdateStatusKey (game : Game) (key : KeyPress) : Game :=
  if game.gameEnd then if key.key = enter then game.leave else game
  else game

def gameUpdateStatusTimer (game : Game) : Game :=
  { game with mouse := { game.mouse with leftClick := false } }

/-- The first block of `game_update_status_rtc`. -/
def countDown (game : Game) (rand : Nat) : Game :=
  if game.timeLeftForClick = 0 ∧ !game.vsWasPressed then
    game.getWinner.endGame
  else if game.timeLeftForClick = 0 ∧ game.isVsRound ∧ game.vsWasPressed then
    isVSRound { game with isPlayer1 := !game.isPlayer1, timeLeftForClick := interval } rand
  else if game.timeLeftForClick > 0 then
    { game with timeLeftForClick := game.timeLeftForClick - 1 }
  else game

/-- The last block of `game_update_status_rtc`. -/
def leaveIfEnded (game : Game) : Game :=
  if game.gameEnd then leave { game with alarm := .everySecond } else game

def gameUpdateStatusRtc (game : Game) (rand : Nat) : Game := (game.countDown rand).leaveIfEnded

def resetGame (game : Game) (numRounds rand : Nat) : Game :=
  { isVSRound
      { game with
        mouse := .centred
        maxButtonsSize := numRounds
        buttons := .malloc game.uninitialised numRounds
        buttonsSize := 0
        playerScore := 0
        guessed := 0
        isPlayer1 := true
        gameEnd := false
        ps := .default
        timeLeftForClick := -1 } rand with
    vsWasPressed := false }

/-- One event of the one-PC game. `click` is a mouse packet whose click is
already known, as `game_update_status_mouse` hands it on. -/
inductive Input where
  | click (click : ButtonClick) (rand : Nat)
  | mouse (packet : Packet) (rand : Nat)
  | key (key : KeyPress)
  | timer
  | rtc (rand : Nat)
deriving DecidableEq, Repr

def handle (game : Game) : Input → Game
  | .click click rand => if game.gameEnd then game else game.handleClick click rand
  | .mouse packet rand => game.gameUpdateStatusMouse packet rand
  | .key key => game.gameUpdateStatusKey key
  | .timer => game.gameUpdateStatusTimer
  | .rtc rand => game.gameUpdateStatusRtc rand

end Game

end SimonVs
