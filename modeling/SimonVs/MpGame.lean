import SimonVs.Input
import SimonVs.Memory.Block
import SimonVs.Serial.Uart

namespace SimonVs

open Memory Serial

/-! The two-PC game (`mp_game.c`) on one of the PCs. The state holds the file's
static variables, the static variables of `start_game`, and the devices the
functions reach: the UART and the RTC alarm. -/

structure MpGame where
  ws : Winners
  buttons : Block
  ps : PlayScreens
  mpMouse : MouseState
  buttonsSize : Nat
  playerScore : Nat
  maxButtonsSize : Nat
  isPlayer1 : Bool
  isHost : Bool
  guessed : Nat
  timeLeftForClick : Int
  timeLeftForScreen : Nat
  gameEnd : Bool
  vsWasPressed : Bool
  vsScreen : Bool
  isVsRound : Bool
  gameStarted : Bool
  uartData : UInt8
  uartHasDataToSend : Bool
  receivedNoBytes : Nat
  numRoundSentBytes : Nat
  receivedByte : UInt8
  mode : GameModes
  uart : Uart
  alarm : Alarm
  lowestHiScore : Int
  -- what the memory returned by the next `malloc` holds
  uninitialised : Nat → Cell

namespace MpGame

/-- A freshly started program: static variables are zero and the menu is on the
screen. -/
def boot (uart : Uart) (lowestHiScore : Int) (uninitialised : Nat → Cell) : MpGame where
  ws := .winner1
  buttons := .null
  ps := .default
  mpMouse := { xPos := 0, yPos := 0, leftHold := false, leftClick := false }
  buttonsSize := 0
  playerScore := 0
  maxButtonsSize := 0
  isPlayer1 := false
  isHost := false
  guessed := 0
  timeLeftForClick := 0
  timeLeftForScreen := 0
  gameEnd := false
  vsWasPressed := false
  vsScreen := false
  isVsRound := false
  gameStarted := false
  uartData := 0
  uartHasDataToSend := false
  receivedNoBytes := 0
  numRoundSentBytes := 0
  receivedByte := 0
  mode := .menu
  uart
  alarm := .everySecond
  lowestHiScore
  uninitialised

def serialWriteByte (game : MpGame) (byte : UInt8) : MpGame :=
  { game with uart := game.uart.serialWriteByte byte }

def uartSetQueue (game : MpGame) (data : UInt8) : MpGame :=
  { game with uartHasDataToSend := true, uartData := data }

def uartReady (game : MpGame) : MpGame :=
  serialWriteByte { game with uartHasDataToSend := false } game.uartData

/-- The pattern of every sender: write when the THR is empty, else queue. -/
def sendOrQueue (game : MpGame) (data : UInt8) : MpGame :=
  if game.uart.checkThrEmtpy then game.serialWriteByte data else game.uartSetQueue data

theorem sendOrQueue_eq (game : MpGame) (data : UInt8) :
    game.sendOrQueue data =
      { game with
        uart := if game.uart.checkThrEmtpy then game.uart.serialWriteByte data else game.uart
        uartData := if game.uart.checkThrEmtpy then game.uartData else data
        uartHasDataToSend := if game.uart.checkThrEmtpy then game.uartHasDataToSend else true } := by
  unfold sendOrQueue serialWriteByte uartSetQueue
  split <;> rfl

def mpSendWinner (game : MpGame) : MpGame :=
  if game.ws = .tie then game.sendOrQueue Coms.tieRemote.toByte
  else game.sendOrQueue Coms.lose.toByte

theorem mpSendWinner_eq (game : MpGame) :
    game.mpSendWinner = game.sendOrQueue (if game.ws = .tie then Coms.tieRemote.toByte else Coms.lose.toByte) := by
  unfold mpSendWinner
  split <;> rfl

def mpSendButton (game : MpGame) (click : ButtonClick) : MpGame :=
  game.sendOrQueue (buttonByte click)

def mpAddButton (game : MpGame) (click : ButtonClick) : MpGame :=
  { game with
    buttons := game.buttons.store game.buttonsSize click
    buttonsSize := game.buttonsSize + 1 }

/-- `mp_is_VS_round()` returns before it draws a number. -/
def mpIsVSRound (game : MpGame) : MpGame :=
  { game with isVsRound := true, vsWasPressed := false }

def mpGetWinner (game : MpGame) : MpGame :=
  { game with ws := if game.isPlayer1 then .winner2 else .winner1 }

def mpEndGame (game : MpGame) : MpGame :=
  { game with gameEnd := true, buttons := game.buttons.free, alarm := .timed 5 }

def mpCheckNewHiScore (game : MpGame) : MpGame :=
  if (game.playerScore : Int) > game.lowestHiScore then { game with mode := .highscore }
  else { game with mode := .leaderboard }

def mpChangePlayer (game : MpGame) : MpGame :=
  let game := { game with isPlayer1 := !game.isPlayer1, guessed := 0 }
  if game.isHost then
    let game := game.mpIsVSRound
    if game.isVsRound then game.sendOrQueue Coms.isVs.toByte
    else game.sendOrQueue Coms.isNotVs.toByte
  else
    game.sendOrQueue Coms.ready.toByte

theorem mpChangePlayer_eq (game : MpGame) :
    game.mpChangePlayer =
      sendOrQueue
        { game with
          isPlayer1 := !game.isPlayer1, guessed := 0
          isVsRound := game.isHost || game.isVsRound, vsWasPressed := !game.isHost && game.vsWasPressed }
        (if game.isHost then Coms.isVs.toByte else Coms.ready.toByte) := by
  unfold mpChangePlayer mpIsVSRound
  cases hosting : game.isHost <;> simp

def mpClickButton (game : MpGame) (click : ButtonClick) : MpGame :=
  if click = .noButton then
    { game with mpMouse := { game.mpMouse with leftClick := false } }
  else if game.guessed = game.buttonsSize ∨ game.vsWasPressed then
    let game := if game.guessed = game.buttonsSize then
      { game with playerScore := game.buttonsSize } else game
    if game.guessed = game.maxButtonsSize then
      (mpEndGame { game with ws := .tie }).mpSendWinner
    else if game.isVsRound then
      if game.vsWasPressed then
        (game.mpAddButton click).mpSendButton click
      else if click = .vsB then
        { (mpAddButton { game with vsWasPressed := true, vsScreen := true } click).mpSendButton click with
          timeLeftForClick := vsInterval }
      else
        ((game.mpAddButton click).mpSendButton click).mpChangePlayer
    else
      ((game.mpAddButton click).mpSendButton click).mpChangePlayer
  else if game.buttons.cells game.guessed = some click then
    let game := { game.mpSendButton click with guessed := game.guessed + 1 }
    if game.guessed = game.buttonsSize then { game with timeLeftForClick := -1 }
    else { game with timeLeftForClick := interval }
  else
    game.mpGetWinner.mpSendWinner.mpEndGame

def mpRemoteClickButton (game : MpGame) (click : ButtonClick) : MpGame :=
  if game.guessed = game.buttonsSize ∨ game.vsWasPressed then
    let game := if game.guessed = game.buttonsSize then
      { game with playerScore := game.buttonsSize } else game
    if game.guessed = game.maxButtonsSize then
      mpEndGame { game with ws := .tie }
    else if game.isVsRound then
      if game.vsWasPressed then
        game.mpAddButton click
      else if click = .vsB then
        mpAddButton { game with vsWasPressed := true, vsScreen := true } click
      else
        game.mpAddButton click
    else
      game.mpAddButton click
  else if game.buttons.cells game.guessed = some click then
    { game with guessed := game.guessed + 1 }
  else
    game

def mpLightButton (game : MpGame) (click : ButtonClick) : MpGame :=
  match click with
  | .greenB => { game with ps := .green }
  | .yellowB => { game with ps := .yellow }
  | .purpleB => { game with ps := .purple }
  | .blueB => { game with ps := .blue }
  | .redB => { game with ps := .red }
  | .vsB =>
      if game.vsWasPressed ∧ game.vsScreen then { game with ps := .vs }
      else { game with ps := .white }
  | .noButton => { game with ps := .default }

def mpButtonsHandler (game : MpGame) (click : ButtonClick) : MpGame :=
  let game := if game.isHost = game.isPlayer1 then game.mpClickButton click
    else game.mpRemoteClickButton click
  if click ≠ .noButton then
    { game.mpLightButton click with timeLeftForScreen := timerButtonMp }
  else game

theorem mpLightButton_screen (game : MpGame) (click : ButtonClick) :
    ∃ screen, game.mpLightButton click = { game with ps := screen } := by
  unfold mpLightButton
  repeat' split
  all_goals exact ⟨_, rfl⟩

theorem mpButtonsHandler_mine {game : MpGame} (mine : game.isHost = game.isPlayer1) (click : ButtonClick) :
    ∃ screen seconds, game.mpButtonsHandler click =
      { game.mpClickButton click with ps := screen, timeLeftForScreen := seconds } := by
  rw [mpButtonsHandler, if_pos mine]
  split
  · obtain ⟨screen, lit⟩ := mpLightButton_screen (game.mpClickButton click) click
    rw [lit]
    exact ⟨screen, timerButtonMp, rfl⟩
  · exact ⟨_, _, rfl⟩

theorem mpButtonsHandler_remote {game : MpGame} (waiting : game.isHost ≠ game.isPlayer1)
    (click : ButtonClick) :
    ∃ screen seconds, game.mpButtonsHandler click =
      { game.mpRemoteClickButton click with ps := screen, timeLeftForScreen := seconds } := by
  rw [mpButtonsHandler, if_neg waiting]
  split
  · obtain ⟨screen, lit⟩ := mpLightButton_screen (game.mpRemoteClickButton click) click
    rw [lit]
    exact ⟨screen, timerButtonMp, rfl⟩
  · exact ⟨_, _, rfl⟩

/-- The end of `mp_game_update_status_mouse`: we can only click when it is our
turn. -/
def handleClick (game : MpGame) (click : ButtonClick) : MpGame :=
  if game.isHost = game.isPlayer1 then game.mpButtonsHandler click else game

def mpGameUpdateStatusMouse (game : MpGame) (packet : Packet) : MpGame :=
  if game.gameEnd then game
  else if game.gameStarted then
    let game := { game with mpMouse := game.mpMouse.update packet }
    game.handleClick game.mpMouse.click
  else game

def leave (game : MpGame) : MpGame :=
  if game.ws = .tie then { game with mode := .leaderboard } else game.mpCheckNewHiScore

theorem leave_mode (game : MpGame) : ∃ mode, game.leave = { game with mode := mode } := by
  unfold leave mpCheckNewHiScore
  split
  · exact ⟨_, rfl⟩
  · split <;> exact ⟨_, rfl⟩

theorem leave_mode_ne (game : MpGame) : game.leave.mode ≠ .mpGame := by
  unfold leave mpCheckNewHiScore
  split
  · simp
  · split
    · simp
    · simp

def mpGameUpdateStatusKey (game : MpGame) (key : KeyPress) : MpGame :=
  if game.gameEnd then if key.key = enter then game.leave else game
  else game

def mpGameUpdateStatusTimer (game : MpGame) : MpGame :=
  let game := { game with mpMouse := { game.mpMouse with leftClick := false } }
  if game.timeLeftForScreen = 0 then { game with ps := .default }
  else { game with timeLeftForScreen := game.timeLeftForScreen - 1 }

/-- The last block of `mp_game_update_status_rtc`. -/
def leaveIfEnded (game : MpGame) : MpGame :=
  if game.gameEnd then leave { game with alarm := .everySecond } else game

def mpGameUpdateStatusRtc (game : MpGame) : MpGame :=
  if game.isHost = game.isPlayer1 ∧ !game.gameEnd then
    if game.timeLeftForClick = 0 ∧ !game.vsWasPressed then
      -- Player that is playing loses; the handler returns here
      game.mpGetWinner.mpSendWinner.mpEndGame
    else if game.timeLeftForClick = 0 ∧ game.isVsRound ∧ game.vsWasPressed then
      game.mpChangePlayer.leaveIfEnded
    else if game.timeLeftForClick > 0 then
      leaveIfEnded { game with timeLeftForClick := game.timeLeftForClick - 1 }
    else game.leaveIfEnded
  else game.leaveIfEnded

def mpResetGame (game : MpGame) (numRounds : Nat) : MpGame :=
  { mpIsVSRound
      { game with
        mpMouse := .centred
        maxButtonsSize := numRounds
        buttons := .malloc game.uninitialised numRounds
        buttonsSize := 0
        playerScore := 0
        guessed := 0
        isPlayer1 := true
        gameEnd := false
        ps := .default
        timeLeftForClick := -1
        timeLeftForScreen := 0 } with
    vsWasPressed := false }

def hostMpGame (game : MpGame) (numRounds : Nat) : MpGame :=
  { game.mpResetGame numRounds with
    isHost := true, isPlayer1 := true, gameStarted := false, uartHasDataToSend := false }

def connectMpGame (game : MpGame) : MpGame :=
  { serialWriteByte { game with isPlayer1 := false, isHost := false } Coms.connected.toByte with
    uartHasDataToSend := false, gameStarted := false }

/-- `number_of_rounds_update_status` once the number of rounds is confirmed. -/
def hostConfirm (game : MpGame) (numRounds : Nat) : MpGame :=
  hostMpGame { game with mode := .mpGame } numRounds

/-- `host_update_status` once "connect" is chosen. -/
def connectConfirm (game : MpGame) : MpGame :=
  connectMpGame { game with mode := .mpGame }

/-- `((uint8_t)max_buttons_size) >> (8 * num_round_sent_bytes)` as the argument
of `serial_write_byte`: the cast comes before the shift. -/
def roundsByte (maxButtonsSize sentBytes : Nat) : UInt8 :=
  UInt8.ofNat ((UInt8.ofNat maxButtonsSize).toNat >>> (8 * sentBytes))

/-- The first byte carries the number of rounds modulo 256, the second one
nothing. -/
theorem roundsByte_zero (maxButtonsSize : Nat) : roundsByte maxButtonsSize 0 = UInt8.ofNat maxButtonsSize := by
  have whole : (UInt8.ofNat maxButtonsSize).toNat >>> (8 * 0) = (UInt8.ofNat maxButtonsSize).toNat := rfl
  rw [roundsByte, whole, UInt8.ofNat_toNat]

theorem roundsByte_one (maxButtonsSize : Nat) : roundsByte maxButtonsSize 1 = 0 := by
  have small : (UInt8.ofNat maxButtonsSize).toNat < 2 ^ 8 := UInt8.toNat_lt _
  have gone : (UInt8.ofNat maxButtonsSize).toNat >>> 8 = 0 := by
    rw [Nat.shiftRight_eq_div_pow, Nat.div_eq_of_lt small]
  rw [roundsByte, Nat.mul_one, gone]
  rfl

def startGame (game : MpGame) (data : UInt8) (emptyThr : Bool) : MpGame :=
  if game.isHost then
    let game :=
      if data = Coms.connected.toByte ∧ game.numRoundSentBytes < 2 then
        if game.uart.checkThrEmtpy then
          { game.serialWriteByte (roundsByte game.maxButtonsSize game.numRoundSentBytes) with
            numRoundSentBytes := game.numRoundSentBytes + 1 }
        else game
      else game
    if data = Coms.ack.toByte then { game with gameStarted := true } else game
  else if emptyThr then
    if game.receivedNoBytes = 2 then
      { game.serialWriteByte Coms.ack.toByte with gameStarted := true }
    else game
  else
    let game :=
      if game.receivedNoBytes = 0 then { game with receivedByte := data }
      else
        let numOfRounds := (data.toNat <<< 8) ||| game.receivedByte.toNat
        let game := game.mpResetGame numOfRounds
        if game.uart.checkThrEmtpy then
          { game.serialWriteByte Coms.ack.toByte with gameStarted := true }
        else game
    { game with receivedNoBytes := game.receivedNoBytes + 1 }

def playGame (game : MpGame) (data : UInt8) : MpGame :=
  if 3 ≤ data ∧ data ≤ 8 then
    game.mpButtonsHandler (byteButton data)
  else if data = Coms.isVs.toByte then
    { game with
      isVsRound := true, vsWasPressed := false, guessed := 0
      isPlayer1 := !game.isPlayer1, timeLeftForClick := interval }
  else if data = Coms.isNotVs.toByte then
    { game with
      isVsRound := false, vsWasPressed := false, guessed := 0
      isPlayer1 := !game.isPlayer1, timeLeftForClick := interval }
  else if data = Coms.ready.toByte then
    { game.mpIsVSRound with
      guessed := 0, isPlayer1 := !game.isPlayer1, timeLeftForClick := interval }
  else if data = Coms.lose.toByte then
    mpEndGame { game with ws := if game.isHost then .winner1 else .winner2 }
  -- compared with the enumerator of `Winners`, not with `TIE_REMOTE`
  else if data = UInt8.ofNat Winners.tie.value then
    mpEndGame { game with ws := .tie }
  else game

def mpGameUpdateStatusUart (game : MpGame) (data : UInt8) (type : IntOrigin) : MpGame :=
  match type with
  | .recData => if !game.gameStarted then game.startGame data false else game.playGame data
  | .transEmpty =>
      if !game.gameStarted then game.startGame Coms.connected.toByte true
      else if game.uartHasDataToSend then game.uartReady
      else game
  | _ => game

end MpGame

end SimonVs
