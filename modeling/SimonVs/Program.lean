import SimonVs.Loop.Run
import SimonVs.MpGame
import SimonVs.Screens.HighScore
import SimonVs.Screens.NumberOfRounds

namespace SimonVs

open Data Serial

/-! The whole program: `event_handler` (`simon.c`) for every screen, the screens
without a file of their own here (`menu.c`, `host.c`, `how_to_play.c` and the key
handler of `leaderboard.c`), and the globals they share. -/

/-- `Menu_Selection` -/
inductive MenuSelection where
  | selectOnepc
  | selectTwopc
  | selectHowToPlay
  | selectLeaderboard
  | selectExit
deriving DecidableEq, Repr

def MenuSelection.value : MenuSelection → Nat
  | .selectOnepc => 0
  | .selectTwopc => 1
  | .selectHowToPlay => 2
  | .selectLeaderboard => 3
  | .selectExit => 4

def MenuSelection.ofValue : Nat → MenuSelection
  | 0 => .selectOnepc
  | 1 => .selectTwopc
  | 2 => .selectHowToPlay
  | 3 => .selectLeaderboard
  | _ => .selectExit

/-- `Host_Selection` -/
inductive HostSelection where
  | hostSelectHost
  | hostSelectConnect
deriving DecidableEq, Repr

/-- The enumeration is unsigned. -/
def HostSelection.value : HostSelection → UInt32
  | .hostSelectHost => 0
  | .hostSelectConnect => 1

def HostSelection.ofValue (value : UInt32) : HostSelection := if value = 0 then .hostSelectHost else .hostSelectConnect

def upArrow : Nat := 19
def downArrow : Nat := 20

/-- What one call of `event_handler` finds besides the flags: the numbers that
`rand()` returns, the date of the RTC, memory that is not initialised, and whether
the transmitter has become empty. -/
structure Draws where
  resetRand : Nat
  clickRand : Nat
  tickRand : Nat
  date : RtcDate
  dateBlock : Chars
  roundsBox : Vector XpmImage 20
  hiscoreBox : Vector XpmImage 20
  transmitted : Bool

/-- The global and static variables of the program. `game.mode`, the RTC and the
leaderboard are kept once; the copies in the records of the two games are those of
the last time they were looked at. -/
structure Program where
  mode : GameModes
  alarm : Alarm
  -- calls of `event_handler` on the menu
  count : Nat
  position : MenuSelection
  hostPosition : HostSelection
  numberOfRounds : NumberOfRounds
  game : Game
  mpGame : MpGame
  highScore : HighScore

namespace Program

/-- A freshly started program, with a leaderboard that has been retrieved. The
boxes have never been used. -/
def boot (board : Leaderboard) (uart : Uart) (uninitialised : Nat → Memory.Cell) (images : Vector XpmImage 20) :
    Program where
  mode := .menu
  alarm := .everySecond
  count := 0
  position := .selectOnepc
  hostPosition := .hostSelectHost
  numberOfRounds :=
    { numRounds := .createWriteableTextBox 0 0 0 0 0 images, numRoundsValue := 0, isMp := false }
  game := .boot board.getLowestHiScore uninitialised
  mpGame := .boot uart board.getLowestHiScore uninitialised
  highScore :=
    { player := .replicate 11 0, newHiscore := .createWriteableTextBox 0 0 0 0 0 images, board, mode := .menu }

def board (program : Program) : Leaderboard := program.highScore.board

def menuUpdateStatus (program : Program) (key : KeyPress) (uninitialised : Vector XpmImage 20) : Program :=
  let keyChar := UInt8.ofNat key.key
  if key.down then program
  else if keyChar = UInt8.ofNat upArrow ∨ keyChar = ascii 'w' then
    { program with position := .ofValue ((program.position.value + 4) % 5) }
  else if keyChar = UInt8.ofNat downArrow ∨ keyChar = ascii 's' then
    { program with position := .ofValue ((program.position.value + 1) % 5) }
  else if keyChar = 10 then
    let program :=
      match program.position with
      | .selectOnepc =>
          { program with mode := .numRounds, numberOfRounds := .resetNumberOfRounds false uninitialised }
      | .selectTwopc => { program with mode := .host }
      | .selectHowToPlay => { program with mode := .howToPlay }
      | .selectLeaderboard => { program with mode := .leaderboard }
      | .selectExit => { program with mode := .exit }
    { program with position := .selectOnepc }
  else program

def hostUpdateStatus (program : Program) (key : KeyPress) (uninitialised : Vector XpmImage 20) : Program :=
  let keyChar := UInt8.ofNat key.key
  if key.down then program
  else if keyChar = UInt8.ofNat upArrow ∨ keyChar = ascii 'w' then
    { program with hostPosition := .ofValue ((program.hostPosition.value - 1) % 2) }
  else if keyChar = UInt8.ofNat downArrow ∨ keyChar = ascii 's' then
    { program with hostPosition := .ofValue ((program.hostPosition.value + 1) % 2) }
  else if keyChar = 10 then
    let program :=
      match program.hostPosition with
      | .hostSelectHost =>
          { program with mode := .numRounds, numberOfRounds := .resetNumberOfRounds true uninitialised }
      | .hostSelectConnect => { program with mode := .mpGame, mpGame := program.mpGame.connectMpGame }
    { program with hostPosition := .hostSelectHost }
  else program

/-- `how_to_play_update_status`, `leaderboard_update_status` -/
def backUpdateStatus (program : Program) (key : KeyPress) : Program :=
  if UInt8.ofNat key.key = UInt8.ofNat backspace then { program with mode := .menu } else program

variable (width : XpmImage → UInt16)

def numberOfRoundsUpdateStatus (program : Program) (key : KeyPress) (rand : Nat) : Program :=
  let (numberOfRounds, started) := program.numberOfRounds.numberOfRoundsUpdateStatus width key
  let program := { program with numberOfRounds }
  match started with
  | none => program
  | some (.resetGame numRounds) =>
      { program with mode := .game, game := program.game.resetGame numRounds.toNat rand }
  | some (.hostMpGame numRounds) =>
      { program with mode := .mpGame, mpGame := program.mpGame.hostMpGame numRounds.toNat }

def highscoreUpdateStatus (program : Program) (key : KeyPress) (draws : Draws) : Program :=
  let highScore := ({ program.highScore with mode := program.mode }.highscoreUpdateStatus width
    { key, date := draws.date, uninitialised := draws.dateBlock }).1
  { program with highScore, mode := highScore.mode }

/-- `checkNewHiScore` opens the highscore screen with `reset_hiscore`. -/
def leaveTo (program : Program) (screen : GameModes) (score : Nat) (uninitialised : Vector XpmImage 20) : Program :=
  if screen = .highscore then
    { program with mode := .highscore, highScore := program.highScore.resetHiscore score uninitialised }
  else { program with mode := screen }

/-- The variables of `game.c` with the shared ones up to date. Its handlers write
`game.mode` but never read it, so that the mode they are given shows whether they
have left the screen. -/
def gameView (program : Program) : Game :=
  { program.game with mode := .game, alarm := program.alarm, lowestHiScore := program.board.getLowestHiScore }

def onGame (program : Program) (handler : Game → Game) (uninitialised : Vector XpmImage 20) : Program :=
  let game := handler program.gameView
  let program := { program with game, alarm := game.alarm }
  if game.mode = .game then program else program.leaveTo game.mode game.playerScore uninitialised

def mpGameView (program : Program) : MpGame :=
  { program.mpGame with mode := .mpGame, alarm := program.alarm, lowestHiScore := program.board.getLowestHiScore }

def onMpGame (program : Program) (handler : MpGame → MpGame) (uninitialised : Vector XpmImage 20) : Program :=
  let mpGame := handler program.mpGameView
  let program := { program with mpGame, alarm := mpGame.alarm }
  if mpGame.mode = .mpGame then program else program.leaveTo mpGame.mode mpGame.playerScore uninitialised

/-- The `GAME` case of `event_handler`. -/
def playGame (program : Program) (flags : Flags) (draws : Draws) : Program :=
  let program := if flags.gotKeyPress then
    program.onGame (·.gameUpdateStatusKey flags.keyboardPacket) draws.hiscoreBox else program
  let program := if flags.gotMousePacket then
    program.onGame (·.gameUpdateStatusMouse flags.mousePacket draws.clickRand) draws.hiscoreBox else program
  let program := if flags.timerInterrupt then
    program.onGame (·.gameUpdateStatusTimer) draws.hiscoreBox else program
  if flags.rtcInterrupt then program.onGame (·.gameUpdateStatusRtc draws.tickRand) draws.hiscoreBox else program

/-- The `MP_GAME` case. -/
def playMpGame (program : Program) (flags : Flags) (draws : Draws) : Program :=
  let program := if flags.gotKeyPress then
    program.onMpGame (·.mpGameUpdateStatusKey flags.keyboardPacket) draws.hiscoreBox else program
  let program := if flags.gotMousePacket then
    program.onMpGame (·.mpGameUpdateStatusMouse flags.mousePacket) draws.hiscoreBox else program
  let program := if flags.timerInterrupt then
    program.onMpGame (·.mpGameUpdateStatusTimer) draws.hiscoreBox else program
  let program := if flags.rtcInterrupt then
    program.onMpGame (·.mpGameUpdateStatusRtc) draws.hiscoreBox else program
  if flags.uartInterrupt then
    program.onMpGame (·.mpGameUpdateStatusUart flags.dataPacket flags.uartTypeInterrupt) draws.hiscoreBox
  else program

/-- The transmitter may have sent its byte since the last call. -/
def transmit (program : Program) (transmitted : Bool) : Program :=
  if transmitted then { program with mpGame := { program.mpGame with uart := program.mpGame.uart.shiftOut } }
  else program

def eventHandler (program : Program) (flags : Flags) (draws : Draws) : Program × Bool :=
  let program := program.transmit draws.transmitted
  let program :=
    match program.mode with
    | .menu =>
        let program := if program.count ≠ 0 ∧ flags.gotKeyPress then
          program.menuUpdateStatus flags.keyboardPacket draws.roundsBox else program
        { program with count := program.count + 1 }
    | .host => if flags.gotKeyPress then program.hostUpdateStatus flags.keyboardPacket draws.roundsBox else program
    | .howToPlay | .leaderboard =>
        if flags.gotKeyPress then program.backUpdateStatus flags.keyboardPacket else program
    | .numRounds =>
        if flags.gotKeyPress then program.numberOfRoundsUpdateStatus width flags.keyboardPacket draws.resetRand
        else program
    | .game => program.playGame flags draws
    | .mpGame => program.playMpGame flags draws
    | .highscore =>
        if flags.gotKeyPress then program.highscoreUpdateStatus width flags.keyboardPacket draws else program
    | .exit => program
  (program, program.mode = .exit)

/-- A call of `event_handler` and what it finds. -/
abbrev Event := Flags × Draws

def step (program : Program) (event : Event) : Program := (program.eventHandler width event.1 event.2).1

end Program

/-- The program in the loop of `run`, with what its calls are going to find. -/
structure Running where
  program : Program
  draws : Nat → Draws

namespace Running

def eventHandler (width : XpmImage → UInt16) (running : Running) (flags : Flags) : Running × Bool :=
  let (program, exit) := running.program.eventHandler width flags (running.draws 0)
  ({ program, draws := fun call => running.draws (call + 1) }, exit)

end Running

end SimonVs
