import SimonVs.Data.Link
import SimonVs.MpGame

namespace SimonVs

open Data Serial

/-! Two PCs joined by their serial ports. `event_handler` (`simon.c`) hands a
notification to `mp_game.c` only in `MP_GAME` mode; `uart_handler` takes the
byte or the interrupt from the UART in every mode. -/

namespace MpGame

/-- Local events of one PC. `click` is a mouse packet whose click is already
known, as `mp_game_update_status_mouse` hands it on. -/
inductive Input where
  | click (click : ButtonClick)
  | mouse (packet : Packet)
  | key (key : KeyPress)
  | timer
  | rtc
deriving DecidableEq, Repr

def localClick (game : MpGame) (click : ButtonClick) : MpGame :=
  if game.gameEnd then game
  else if game.gameStarted then game.handleClick click
  else game

def handle (game : MpGame) : Input → MpGame
  | .click click => game.localClick click
  | .mouse packet => game.mpGameUpdateStatusMouse packet
  | .key key => game.mpGameUpdateStatusKey key
  | .timer => game.mpGameUpdateStatusTimer
  | .rtc => game.mpGameUpdateStatusRtc

/-- The `MP_GAME` case of `event_handler` for a local event. -/
def eventHandler (game : MpGame) (input : Input) : MpGame :=
  if game.mode = .mpGame then game.handle input else game

/-- A UART notification after `uart_handler` has taken what caused it. -/
def uartNotification (game : MpGame) (data : UInt8) (type : IntOrigin) : MpGame :=
  if game.mode = .mpGame then game.mpGameUpdateStatusUart data type else game

/-- The click that a local event passes to `mp_buttons_handler`, if any. -/
def clickOf (game : MpGame) : Input → ButtonClick
  | .click click => click
  | .mouse packet => (game.mpMouse.update packet).click
  | _ => .noButton

def Active (game : MpGame) : Prop :=
  game.gameStarted = true ∧ game.gameEnd = false ∧ game.isHost = game.isPlayer1

instance (game : MpGame) : Decidable game.Active := inferInstanceAs (Decidable (_ ∧ _ ∧ _))

/-- Everything a local event can do to a PC. -/
inductive LocalStep (game : MpGame) : MpGame → Prop where
  | idle (mouse : MouseState) (screen : PlayScreens) (seconds : Nat) :
      LocalStep game { game with mpMouse := mouse, ps := screen, timeLeftForScreen := seconds }
  | click (active : game.Active) (mouse : MouseState) (click : ButtonClick) :
      LocalStep game (mpButtonsHandler { game with mpMouse := mouse } click)
  | expire (mine : game.isHost = game.isPlayer1) (running : game.gameEnd = false)
      (expired : game.timeLeftForClick = 0) (closed : game.vsWasPressed = false) :
      LocalStep game game.mpGetWinner.mpSendWinner.mpEndGame
  | pass (mine : game.isHost = game.isPlayer1) (running : game.gameEnd = false)
      (expired : game.timeLeftForClick = 0) (vsRound : game.isVsRound = true) (pressed : game.vsWasPressed = true) :
      LocalStep game game.mpChangePlayer
  | count (mine : game.isHost = game.isPlayer1) (running : game.gameEnd = false)
      (remaining : 0 < game.timeLeftForClick) :
      LocalStep game { game with timeLeftForClick := game.timeLeftForClick - 1 }
  | leave (ended : game.gameEnd = true) (alarm : Alarm) : LocalStep game (leave { game with alarm := alarm })

theorem LocalStep.unchanged (game : MpGame) : game.LocalStep game := .idle game.mpMouse game.ps game.timeLeftForScreen

theorem localStep_handleClick {game : MpGame} (started : game.gameStarted = true) (running : game.gameEnd = false)
    (mouse : MouseState) (click : ButtonClick) :
    game.LocalStep (handleClick { game with mpMouse := mouse } click) := by
  unfold handleClick
  split
  · rename_i mine
    exact .click ⟨started, running, mine⟩ mouse click
  · exact .idle mouse game.ps game.timeLeftForScreen

theorem leaveIfEnded_alive {game : MpGame} (alive : game.gameEnd = false) : game.leaveIfEnded = game := by
  simp [leaveIfEnded, alive]

theorem localStep_leaveIfEnded (game : MpGame) : game.LocalStep game.leaveIfEnded := by
  unfold leaveIfEnded
  split
  · rename_i ended
    exact .leave ended .everySecond
  · exact .unchanged game

theorem localStep_mpGameUpdateStatusRtc (game : MpGame) : game.LocalStep game.mpGameUpdateStatusRtc := by
  unfold mpGameUpdateStatusRtc
  split
  · rename_i turn
    have mine := turn.1
    have running : game.gameEnd = false := by simpa using turn.2
    split
    · rename_i expired
      exact .expire mine running expired.1 (by simpa using expired.2)
    · split
      · rename_i window
        have still : game.mpChangePlayer.gameEnd = false := by
          simpa only [mpChangePlayer_eq, sendOrQueue_eq] using running
        rw [leaveIfEnded_alive still]
        exact .pass mine running window.1 window.2.1 window.2.2
      · split
        · rename_i remaining
          have still : { game with timeLeftForClick := game.timeLeftForClick - 1 }.gameEnd = false := running
          rw [leaveIfEnded_alive still]
          exact .count mine running remaining
        · exact localStep_leaveIfEnded game
  · exact localStep_leaveIfEnded game

theorem localStep_handle (game : MpGame) (input : Input) : game.LocalStep (game.handle input) := by
  cases input with
  | click click =>
      rw [handle, localClick]
      split
      · exact .unchanged game
      · rename_i running
        split
        · rename_i started
          exact localStep_handleClick started (Bool.eq_false_iff.mpr running) game.mpMouse click
        · exact .unchanged game
  | mouse packet =>
      rw [handle, mpGameUpdateStatusMouse]
      split
      · exact .unchanged game
      · rename_i running
        split
        · rename_i started
          exact localStep_handleClick started (Bool.eq_false_iff.mpr running) _ _
        · exact .unchanged game
  | key press =>
      rw [handle, mpGameUpdateStatusKey]
      split
      · rename_i ended
        split
        · exact .leave ended game.alarm
        · exact .unchanged game
      · exact .unchanged game
  | timer =>
      rw [handle, mpGameUpdateStatusTimer]
      dsimp only
      split
      · exact .idle _ _ _
      · exact .idle _ _ _
  | rtc => exact localStep_mpGameUpdateStatusRtc game

theorem localStep_eventHandler (game : MpGame) (input : Input) : game.LocalStep (game.eventHandler input) := by
  unfold eventHandler
  split
  · exact localStep_handle game input
  · exact .unchanged game

end MpGame

/-- A local event, the notification of a received byte or of an empty transmitter, or
the transmitter sends what is in the THR. -/
inductive Event where
  | input (input : MpGame.Input)
  | receive
  | transEmpty
  | shiftOut
deriving DecidableEq, Repr

abbrev TwoPc := Side → MpGame

namespace TwoPc

def step (pcs : TwoPc) : Side × Event → TwoPc
  | (side, .input input) => Function.update pcs side ((pcs side).eventHandler input)
  | (side, .receive) =>
      match (pcs side.other).uart.line with
      | [] => pcs
      | byte :: rest =>
          let sender := { pcs side.other with uart := { (pcs side.other).uart with line := rest } }
          Function.update (Function.update pcs side.other sender) side
            ((pcs side).uartNotification byte .recData)
  | (side, .transEmpty) =>
      if (pcs side).uart.transEmpty then
        let game := { pcs side with uart := { (pcs side).uart with transEmpty := false } }
        Function.update pcs side (game.uartNotification 0 .transEmpty)
      else pcs
  | (side, .shiftOut) =>
      Function.update pcs side { pcs side with uart := (pcs side).uart.shiftOut }

/-- A property of one PC that no event breaks and that does not depend on the
UART survives whatever happens on either PC. -/
theorem step_keeps {keeps : MpGame → Prop}
    (input : ∀ {game}, keeps game → ∀ input, keeps (game.eventHandler input))
    (notified : ∀ {game}, keeps game → ∀ data type, keeps (game.uartNotification data type))
    (uart : ∀ {game}, keeps game → ∀ uart, keeps { game with uart := uart })
    {pcs : TwoPc} {place : Side} (holds : keeps (pcs place)) (event : Side × Event) :
    keeps (pcs.step event place) := by
  have updated {side : Side} {after : MpGame} {pcs : TwoPc} (others : keeps (pcs place))
      (changed : place = side → keeps after) : keeps (Function.update pcs side after place) := by
    by_cases here : place = side
    · subst here
      simpa using changed rfl
    · simpa [Function.update_of_ne here] using others
  obtain ⟨side, event⟩ := event
  cases event with
  | input happens =>
      refine updated holds ?_
      rintro rfl
      exact input holds happens
  | receive =>
      cases onLine : (pcs side.other).uart.line with
      | nil => simpa only [step, onLine] using holds
      | cons byte rest =>
          simp only [step, onLine]
          refine updated (updated holds ?_) ?_
          · rintro rfl
            exact uart holds _
          · rintro rfl
            exact notified holds _ _
  | transEmpty =>
      by_cases pending : (pcs side).uart.transEmpty = true
      · simp only [step, pending, if_true]
        refine updated holds ?_
        rintro rfl
        exact notified (uart holds _) _ _
      · simpa [step, pending] using holds
  | shiftOut =>
      refine updated holds ?_
      rintro rfl
      exact uart holds _

/-- The PC has just completed a handshake: nothing is clicked yet, player 1
starts, and its transmitter is always ready. -/
structure Begun (game : MpGame) (isHost : Bool) (rounds : Nat) : Prop where
  role : game.isHost = isHost
  started : game.gameStarted = true
  running : game.gameEnd = false
  listening : game.mode = .mpGame
  instant : game.uart.instant = true
  thrEmpty : game.uart.thr = none
  lineEmpty : game.uart.line = []
  noQueue : game.uartHasDataToSend = false
  maxSize : game.maxButtonsSize = rounds
  size : game.buttonsSize = 0
  guessed : game.guessed = 0
  score : game.playerScore = 0
  firstPlayer : game.isPlayer1 = true
  vsRound : game.isVsRound = true
  closed : game.vsWasPressed = false
  noClock : game.timeLeftForClick = -1

structure Handshaken (pcs : TwoPc) (rounds : Nat) : Prop where
  host : Begun (pcs .host) true rounds
  client : Begun (pcs .client) false rounds

abbrev run (pcs : TwoPc) (events : List (Side × Event)) : TwoPc := Data.run step pcs events

/-- The host confirms its number of rounds, then the client connects. -/
def entered (host client : MpGame) (rounds : Nat) : TwoPc
  | .host => host.hostConfirm rounds
  | .client => client.connectConfirm

def booted (instant : Bool) : MpGame := .boot (.idle instant) 0 fun _ => none

def handshakeEvents : List (Side × Event) :=
  [(.host, .receive), (.host, .transEmpty), (.client, .receive), (.client, .receive), (.host, .receive)]

def handshaken (rounds : Nat) : TwoPc :=
  run (entered (booted true) (booted true) rounds) handshakeEvents

theorem handshaken_three : (handshaken 3).Handshaken 3 := by
  constructor
  · constructor <;> rfl
  · constructor <;> rfl

end TwoPc

end SimonVs
