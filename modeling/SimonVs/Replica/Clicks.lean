import SimonVs.Rules.TwoPc

namespace SimonVs

open Memory Serial Rules

structure SerialPort where
  uart : Uart
  uartData : UInt8
  uartHasDataToSend : Bool

/-- `sendOrQueue` on the variables of the serial line. -/
def SerialPort.send (port : SerialPort) (data : UInt8) : SerialPort :=
  if port.uart.checkThrEmtpy then { port with uart := port.uart.serialWriteByte data }
  else { port with uartHasDataToSend := true, uartData := data }

namespace MpGame

variable {game : MpGame} {click : ButtonClick}

def port (game : MpGame) : SerialPort :=
  { uart := game.uart, uartData := game.uartData, uartHasDataToSend := game.uartHasDataToSend }

def withPort (game : MpGame) (port : SerialPort) : MpGame :=
  { game with uart := port.uart, uartData := port.uartData, uartHasDataToSend := port.uartHasDataToSend }

/-- The bytes are handed to the serial line in this order, in whatever state the
line is. -/
def Transmits (handler : MpGame → MpGame) (game : MpGame) (bytes : List UInt8) : Prop :=
  ∀ port, (handler (game.withPort port)).port = bytes.foldl SerialPort.send port

theorem sendOrQueue_withPort (game : MpGame) (port : SerialPort) (data : UInt8) :
    (game.withPort port).sendOrQueue data = game.withPort (port.send data) := by
  unfold sendOrQueue SerialPort.send
  have same : (game.withPort port).uart = port.uart := rfl
  rw [same]
  split <;> rfl

/-- What `mp_change_player` does apart from sending. -/
def passed (game : MpGame) : MpGame :=
  { game with
    isPlayer1 := !game.isPlayer1, guessed := 0
    isVsRound := game.isHost || game.isVsRound, vsWasPressed := !game.isHost && game.vsWasPressed }

theorem mpChangePlayer_withPort (game : MpGame) (port : SerialPort) :
    (game.withPort port).mpChangePlayer =
      game.passed.withPort (port.send (if game.isHost then Coms.isVs.toByte else Coms.ready.toByte)) := by
  rw [mpChangePlayer_eq]
  exact sendOrQueue_withPort game.passed port _

/-- What `mp_click_button` does apart from sending. -/
def clicked (game : MpGame) (click : ButtonClick) : MpGame :=
  match game.play.verdict click with
  | .matched =>
      { game with
        guessed := game.guessed + 1
        timeLeftForClick := if game.guessed + 1 = game.buttonsSize then -1 else interval }
  | .wrong => game.mpGetWinner.mpEndGame
  | .tied => mpEndGame { game.scored with ws := .tie }
  | .opened =>
      { mpAddButton { game.scored with vsWasPressed := true, vsScreen := true } click with
        timeLeftForClick := vsInterval }
  | .extended => game.scored.mpAddButton click
  | .appended => (game.scored.mpAddButton click).passed

def clickBytes (game : MpGame) (click : ButtonClick) : List UInt8 :=
  match game.play.verdict click with
  | .matched | .opened | .extended => [buttonByte click]
  | .wrong => [Coms.lose.toByte]
  | .tied => [Coms.tieRemote.toByte]
  | .appended => [buttonByte click, if game.isHost then Coms.isVs.toByte else Coms.ready.toByte]

theorem scored_withPort (port : SerialPort) : (game.withPort port).scored = game.scored.withPort port := by
  rw [scored_eq, scored_eq]
  rfl

theorem mpAddButton_withPort (port : SerialPort) :
    (game.withPort port).scored.mpAddButton click = (game.scored.mpAddButton click).withPort port := by
  rw [scored_withPort]
  rfl

theorem mpClickButton_withPort (sound : game.guessed ≤ game.buttonsSize) (real : click ≠ .noButton)
    (port : SerialPort) :
    (game.withPort port).mpClickButton click =
      (game.clicked click).withPort ((game.clickBytes click).foldl SerialPort.send port) := by
  have same : (game.withPort port).play = game.play := rfl
  have within : (game.withPort port).guessed ≤ (game.withPort port).buttonsSize := sound
  rw [mpClickButton_eq within real, same]
  unfold clicked clickBytes
  cases game.play.verdict click with
  | matched =>
      dsimp only [mpSendButton]
      rw [sendOrQueue_withPort]
      rfl
  | wrong =>
      have lost : (game.withPort port).mpGetWinner = game.mpGetWinner.withPort port := rfl
      have notTie : (game.mpGetWinner.withPort port).ws ≠ .tie := by
        simp only [mpGetWinner, withPort]
        split <;> simp
      dsimp only
      rw [lost, mpSendWinner_eq, if_neg notTie, sendOrQueue_withPort]
      rfl
  | tied =>
      have ended : mpEndGame { (game.withPort port).scored with ws := .tie } =
          (mpEndGame { game.scored with ws := .tie }).withPort port := by
        rw [scored_withPort]
        rfl
      have tie : ((mpEndGame { game.scored with ws := .tie }).withPort port).ws = .tie := rfl
      dsimp only
      rw [ended, mpSendWinner_eq, if_pos tie, sendOrQueue_withPort]
      rfl
  | opened =>
      have added : mpAddButton { (game.withPort port).scored with vsWasPressed := true, vsScreen := true } click =
          (mpAddButton { game.scored with vsWasPressed := true, vsScreen := true } click).withPort port := by
        rw [scored_withPort]
        rfl
      dsimp only [mpSendButton]
      rw [added, sendOrQueue_withPort]
      rfl
  | extended =>
      dsimp only [mpSendButton]
      rw [mpAddButton_withPort, sendOrQueue_withPort]
      rfl
  | appended =>
      dsimp only [mpSendButton]
      have role : (game.scored.mpAddButton click).isHost = game.isHost := by
        rw [scored_eq]
        rfl
      rw [mpAddButton_withPort, sendOrQueue_withPort, mpChangePlayer_withPort, role]
      rfl

theorem mpClickButton_clicked (sound : game.guessed ≤ game.buttonsSize) (real : click ≠ .noButton) :
    ∃ port, game.mpClickButton click = (game.clicked click).withPort port :=
  ⟨_, mpClickButton_withPort sound real game.port⟩

theorem transmits_clickBytes (sound : game.guessed ≤ game.buttonsSize) (real : click ≠ .noButton) :
    Transmits (fun game => game.mpClickButton click) game (game.clickBytes click) := by
  intro port
  dsimp only
  rw [mpClickButton_withPort sound real port]
  rfl

/-- The byte of a button: `GREEN_REMOTE` to `WHITE_REMOTE`. -/
def IsButtonByte (data : UInt8) : Prop := 3 ≤ data ∧ data ≤ 8

theorem isButtonByte_buttonByte (real : click ≠ .noButton) : IsButtonByte (buttonByte click) := by
  unfold IsButtonByte
  cases click <;> first | decide | exact absurd rfl real

theorem playGame_button (waiting : game.isHost ≠ game.isPlayer1) (real : click ≠ .noButton) :
    ∃ screen seconds, game.playGame (buttonByte click) =
      { game.mpRemoteClickButton click with ps := screen, timeLeftForScreen := seconds } := by
  have inRange : 3 ≤ buttonByte click ∧ buttonByte click ≤ 8 := isButtonByte_buttonByte real
  rw [playGame, if_pos inRange, byteButton_buttonByte]
  exact mpButtonsHandler_remote waiting click

theorem playGame_turn (game : MpGame) (isHost : Bool) :
    game.playGame (if isHost then Coms.isVs.toByte else Coms.ready.toByte) =
      { game with
        isVsRound := true, vsWasPressed := false, guessed := 0
        isPlayer1 := !game.isPlayer1, timeLeftForClick := interval } := by
  cases isHost <;> rfl

/-- A PC that may play and one that may not, with the same game. -/
structure Mirrors (sender receiver : MpGame) : Prop where
  mine : sender.isHost = sender.isPlayer1
  waiting : receiver.isHost ≠ receiver.isPlayer1
  running : sender.gameEnd = false ∧ receiver.gameEnd = false
  buttons : sender.buttons.firstCells sender.buttonsSize = receiver.buttons.firstCells receiver.buttonsSize
  buttonsSize : sender.buttonsSize = receiver.buttonsSize
  guessed : sender.guessed = receiver.guessed
  maxButtonsSize : sender.maxButtonsSize = receiver.maxButtonsSize
  isPlayer1 : sender.isPlayer1 = receiver.isPlayer1
  isVsRound : sender.isVsRound = receiver.isVsRound
  vsWasPressed : sender.vsWasPressed = receiver.vsWasPressed
  within : sender.guessed ≤ sender.buttonsSize
  window : sender.vsWasPressed = true → sender.isVsRound = true

/-- What the two PCs have in common after a click. -/
structure Matches (sender receiver : MpGame) : Prop where
  buttons : sender.buttons.firstCells sender.buttonsSize = receiver.buttons.firstCells receiver.buttonsSize
  buttonsSize : sender.buttonsSize = receiver.buttonsSize
  guessed : sender.guessed = receiver.guessed
  isPlayer1 : sender.isPlayer1 = receiver.isPlayer1
  vsWasPressed : sender.vsWasPressed = receiver.vsWasPressed

variable {sender receiver : MpGame}

theorem Mirrors.verdict (mirrors : sender.Mirrors receiver) (click : ButtonClick) :
    receiver.play.verdict click = sender.play.verdict click := by
  have decided : sender.play.verdict click =
      Play.verdict
        { receiver.play with
          score := sender.playerScore, isPlayer1 := sender.isPlayer1, timeLeft := sender.timeLeftForClick
          ended := sender.gameEnd, winner := sender.ws } click := by
    simp only [play, mirrors.buttons, mirrors.guessed, mirrors.maxButtonsSize, mirrors.isVsRound,
      mirrors.vsWasPressed]
  rw [decided]
  rfl

theorem Mirrors.appends (mirrors : sender.Mirrors receiver) (click : ButtonClick) :
    (sender.buttons.store sender.buttonsSize click).firstCells (sender.buttonsSize + 1) =
      (receiver.buttons.store receiver.buttonsSize click).firstCells (receiver.buttonsSize + 1) := by
  rw [Block.firstCells_store, Block.firstCells_store, mirrors.buttons]

theorem Mirrors.scores (mirrors : sender.Mirrors receiver) (same : sender.playerScore = receiver.playerScore) :
    sender.scored.playerScore = receiver.scored.playerScore := by
  rw [scored_eq, scored_eq]
  dsimp only
  rw [mirrors.guessed, mirrors.buttonsSize, same]

theorem Mirrors.follows (mirrors : sender.Mirrors receiver) (real : click ≠ .noButton)
    (continues : sender.play.verdict click ≠ .wrong ∧ sender.play.verdict click ≠ .tied) :
    Matches (sender.clicked click) ((sender.clickBytes click).foldl playGame receiver) ∧
    (sender.playerScore = receiver.playerScore →
      (sender.clicked click).playerScore = ((sender.clickBytes click).foldl playGame receiver).playerScore) := by
  have within : receiver.guessed ≤ receiver.buttonsSize := by
    rw [← mirrors.guessed, ← mirrors.buttonsSize]
    exact mirrors.within
  obtain ⟨screen, seconds, received⟩ := playGame_button mirrors.waiting real
  rw [mpRemoteClickButton_eq within, mirrors.verdict click] at received
  unfold clicked clickBytes
  generalize found : sender.play.verdict click = verdict at received continues ⊢
  cases verdict with
  | wrong => exact absurd rfl continues.1
  | tied => exact absurd rfl continues.2
  | matched =>
      dsimp only
      rw [List.foldl_cons, List.foldl_nil, received]
      refine ⟨⟨mirrors.buttons, mirrors.buttonsSize, ?_, mirrors.isPlayer1, mirrors.vsWasPressed⟩, id⟩
      exact congrArg (· + 1) mirrors.guessed
  | opened =>
      dsimp only
      rw [List.foldl_cons, List.foldl_nil, received]
      refine ⟨?_, mirrors.scores⟩
      rw [scored_eq, scored_eq]
      exact ⟨mirrors.appends click, congrArg (· + 1) mirrors.buttonsSize, mirrors.guessed, mirrors.isPlayer1, rfl⟩
  | extended =>
      dsimp only
      rw [List.foldl_cons, List.foldl_nil, received]
      refine ⟨?_, mirrors.scores⟩
      rw [scored_eq, scored_eq]
      exact ⟨mirrors.appends click, congrArg (· + 1) mirrors.buttonsSize, mirrors.guessed, mirrors.isPlayer1,
        mirrors.vsWasPressed⟩
  | appended =>
      dsimp only
      rw [List.foldl_cons, List.foldl_cons, List.foldl_nil, received, playGame_turn]
      refine ⟨?_, mirrors.scores⟩
      -- a VS window is open in VS rounds only, so none is open here
      have closed : sender.vsWasPressed = false := by
        obtain ⟨_, _, unlucky⟩ := situation mirrors.within found
        cases pressed : sender.vsWasPressed with
        | false => rfl
        | true =>
            obtain ⟨_, notPressed, _⟩ := unlucky (mirrors.window pressed)
            exact absurd pressed (by simp [notPressed])
      rw [scored_eq, scored_eq]
      refine ⟨mirrors.appends click, congrArg (· + 1) mirrors.buttonsSize, rfl, congrArg (!·) mirrors.isPlayer1, ?_⟩
      simp [passed, mpAddButton, closed]

theorem clickBytes_turn (game : MpGame) (click : ButtonClick)
    (continues : game.play.verdict click ≠ .wrong ∧ game.play.verdict click ≠ .tied) :
    game.clickBytes click = [buttonByte click] ∨
    ∃ turn, Turn turn ∧ game.clickBytes click = [buttonByte click, turn] := by
  unfold clickBytes
  cases found : game.play.verdict click with
  | matched | opened | extended => exact .inl rfl
  | wrong => exact absurd found continues.1
  | tied => exact absurd found continues.2
  | appended =>
      refine .inr ⟨_, ?_, rfl⟩
      cases game.isHost <;> decide

/-- A click either ends the game and sends no button, or it sends the button,
perhaps with the turn behind it, and the two PCs have the same game again. -/
theorem clicks_simulated (mirrors : sender.Mirrors receiver) (real : click ≠ .noButton) :
    ∃ bytes, Transmits (fun game => game.mpClickButton click) sender bytes ∧
      ((∀ byte ∈ bytes, ¬ IsButtonByte byte) ∧ (sender.mpClickButton click).gameEnd = true ∨
       (bytes = [buttonByte click] ∨ ∃ turn, Turn turn ∧ bytes = [buttonByte click, turn]) ∧
       Matches (sender.mpClickButton click) (bytes.foldl playGame receiver) ∧
       (sender.playerScore = receiver.playerScore →
         (sender.mpClickButton click).playerScore = (bytes.foldl playGame receiver).playerScore)) := by
  refine ⟨sender.clickBytes click, transmits_clickBytes mirrors.within real, ?_⟩
  obtain ⟨port, clicked⟩ := mpClickButton_clicked mirrors.within real
  by_cases continues : sender.play.verdict click ≠ .wrong ∧ sender.play.verdict click ≠ .tied
  · right
    obtain ⟨same, score⟩ := mirrors.follows real continues
    rw [clicked]
    exact ⟨clickBytes_turn sender click continues,
      ⟨same.buttons, same.buttonsSize, same.guessed, same.isPlayer1, same.vsWasPressed⟩, score⟩
  · left
    rw [clicked]
    unfold clickBytes MpGame.clicked
    cases found : sender.play.verdict click with
    | wrong => exact ⟨List.forall_mem_singleton.mpr (by unfold IsButtonByte; decide), rfl⟩
    | tied => exact ⟨List.forall_mem_singleton.mpr (by unfold IsButtonByte; decide), rfl⟩
    | matched | opened | extended | appended => simp [found] at continues

end MpGame

namespace TwoPc

/-- The host has opened a VS window and the client knows of it. -/
def windowOpened : TwoPc := run (handshaken 3) [(.host, .input (.click .vsB)), (.client, .receive)]

theorem clicks_simulated_window :
    ∃ bytes, MpGame.Transmits (fun game => game.mpClickButton .redB) (windowOpened .host) bytes ∧
      MpGame.Matches ((windowOpened .host).mpClickButton .redB) (bytes.foldl MpGame.playGame (windowOpened .client)) := by
  have mirrors : (windowOpened .host).Mirrors (windowOpened .client) := by
    constructor
    all_goals decide +kernel
  obtain ⟨bytes, sends, ⟨_, ended⟩ | ⟨_, same, _⟩⟩ := @MpGame.clicks_simulated .redB _ _ mirrors (by decide)
  · exact absurd ended (by decide +kernel)
  · exact ⟨bytes, sends, same⟩

end TwoPc

end SimonVs
