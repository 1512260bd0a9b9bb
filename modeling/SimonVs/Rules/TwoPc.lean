import SimonVs.Rules.Seat
import SimonVs.TwoPc

namespace SimonVs

open Data Memory Serial Rules

namespace MpGame

def play (game : MpGame) : Play :=
  { sequence := game.buttons.firstCells game.buttonsSize
    guessed := game.guessed
    maxSize := game.maxButtonsSize
    score := game.playerScore
    isPlayer1 := game.isPlayer1
    isVsRound := game.isVsRound
    vsPressed := game.vsWasPressed
    timeLeft := game.timeLeftForClick
    ended := game.gameEnd
    winner := game.ws }

def seat (game : MpGame) : Seat := { isHost := game.isHost, play := game.play }

/-- A started game whose bytes go straight to the line. -/
structure Online (game : MpGame) : Prop where
  started : game.gameStarted = true
  instant : game.uart.instant = true
  thrEmpty : game.uart.thr = none
  noQueue : game.uartHasDataToSend = false
  sound : game.guessed ≤ game.buttonsSize
  listening : game.gameEnd = false → game.mode = .mpGame

/-- `after` is what `result` says about `before`. -/
structure Follows (before after : MpGame) (result : Seat × List UInt8) : Prop where
  online : after.Online
  seat : after.seat = result.1
  line : after.uart.line = before.uart.line ++ result.2

variable {game : MpGame} {click : ButtonClick}

/-- What a click amounts to, in the variables of the code. -/
def verdict (game : MpGame) (click : ButtonClick) : Verdict :=
  Play.verdictOf game.guessed game.buttonsSize game.maxButtonsSize game.vsWasPressed game.isVsRound
    (game.buttons.cells game.guessed) click

theorem verdict_eq (within : game.guessed ≤ game.buttonsSize) (click : ButtonClick) :
    game.play.verdict click = game.verdict click := by
  have sound : game.play.Sound := by rwa [Play.Sound, play, Block.length_firstCells]
  exact @Play.verdict_eq_verdictOf game.play game.buttons game.buttonsSize rfl sound click

theorem situation_verdict {verdict : Verdict} (found : game.verdict click = verdict) :
    Play.Situation game.guessed game.buttonsSize game.maxButtonsSize game.vsWasPressed game.isVsRound
      (game.buttons.cells game.guessed) click verdict :=
  found ▸ Play.situation_verdictOf _ _ _ _ _ _ _

theorem situation (sound : game.guessed ≤ game.buttonsSize) {verdict : Verdict}
    (found : game.play.verdict click = verdict) :
    Play.Situation game.guessed game.buttonsSize game.maxButtonsSize game.vsWasPressed game.isVsRound
      (game.buttons.cells game.guessed) click verdict :=
  situation_verdict ((verdict_eq sound click).symm.trans found)

/-- `if (guessed == buttons_size) player_score = buttons_size;` -/
def scored (game : MpGame) : MpGame :=
  if game.guessed = game.buttonsSize then { game with playerScore := game.buttonsSize } else game

theorem mpClickButton_verdict (real : click ≠ .noButton) :
    game.mpClickButton click =
      match game.verdict click with
      | .matched =>
          { game.mpSendButton click with
            guessed := game.guessed + 1
            timeLeftForClick := if game.guessed + 1 = game.buttonsSize then -1 else interval }
      | .wrong => game.mpGetWinner.mpSendWinner.mpEndGame
      | .tied => (mpEndGame { game.scored with ws := .tie }).mpSendWinner
      | .opened =>
          { (mpAddButton { game.scored with vsWasPressed := true, vsScreen := true } click).mpSendButton click with
            timeLeftForClick := vsInterval }
      | .extended => (game.scored.mpAddButton click).mpSendButton click
      | .appended => ((game.scored.mpAddButton click).mpSendButton click).mpChangePlayer := by
  cases found : game.verdict click with
  | matched =>
      obtain ⟨incomplete, closed, next⟩ := situation_verdict found
      have size : (game.mpSendButton click).buttonsSize = game.buttonsSize := by
        unfold mpSendButton sendOrQueue; split <;> rfl
      simp only [mpClickButton, real, incomplete, closed, next, size, if_false, if_true,
        Bool.false_eq_true, or_self]
      split <;> rfl
  | wrong =>
      obtain ⟨incomplete, closed, different⟩ := situation_verdict found
      simp [mpClickButton, real, incomplete, closed, different]
  | tied =>
      obtain ⟨first, full⟩ := situation_verdict found
      simp only [mpClickButton, scored, real, first, if_false, if_true]
      split <;> simp [full]
  | opened =>
      obtain ⟨complete, closed, notFull, vsRound, lucky⟩ := situation_verdict found
      simp [mpClickButton, scored, complete, closed, vsRound, lucky, notFull]
  | extended =>
      obtain ⟨pressed, notFull, vsRound⟩ := situation_verdict found
      simp only [mpClickButton, scored, real, pressed, if_false, or_true, if_true]
      split <;> simp_all
  | appended =>
      obtain ⟨first, notFull, unlucky⟩ := situation_verdict found
      simp only [mpClickButton, scored, real, first, if_false, if_true]
      cases vsRound : game.isVsRound with
      | false => split <;> simp_all
      | true =>
          obtain ⟨complete, closed, notFull, unlucky⟩ := unlucky vsRound
          simp [complete, notFull, closed, unlucky]

theorem mpRemoteClickButton_verdict (game : MpGame) (click : ButtonClick) :
    game.mpRemoteClickButton click =
      match game.verdict click with
      | .matched => { game with guessed := game.guessed + 1 }
      | .wrong => game
      | .tied => mpEndGame { game.scored with ws := .tie }
      | .opened => mpAddButton { game.scored with vsWasPressed := true, vsScreen := true } click
      | .extended | .appended => game.scored.mpAddButton click := by
  cases found : game.verdict click with
  | matched =>
      obtain ⟨incomplete, closed, next⟩ := situation_verdict found
      simp [mpRemoteClickButton, incomplete, closed, next]
  | wrong =>
      obtain ⟨incomplete, closed, different⟩ := situation_verdict found
      simp [mpRemoteClickButton, incomplete, closed, different]
  | tied =>
      obtain ⟨first, full⟩ := situation_verdict found
      simp only [mpRemoteClickButton, scored, first, if_true]
      split <;> simp [full]
  | opened =>
      obtain ⟨complete, closed, notFull, vsRound, lucky⟩ := situation_verdict found
      simp [mpRemoteClickButton, scored, complete, closed, vsRound, lucky, notFull]
  | extended =>
      obtain ⟨pressed, notFull, vsRound⟩ := situation_verdict found
      simp only [mpRemoteClickButton, scored, pressed, or_true, if_true]
      split <;> simp_all
  | appended =>
      obtain ⟨first, notFull, unlucky⟩ := situation_verdict found
      simp only [mpRemoteClickButton, scored, first, if_true]
      cases vsRound : game.isVsRound with
      | false => split <;> simp_all
      | true =>
          obtain ⟨complete, closed, notFull, unlucky⟩ := unlucky vsRound
          simp [complete, notFull, closed, unlucky]

theorem mpClickButton_eq (sound : game.guessed ≤ game.buttonsSize) (real : click ≠ .noButton) :
    game.mpClickButton click =
      match game.play.verdict click with
      | .matched =>
          { game.mpSendButton click with
            guessed := game.guessed + 1
            timeLeftForClick := if game.guessed + 1 = game.buttonsSize then -1 else interval }
      | .wrong => game.mpGetWinner.mpSendWinner.mpEndGame
      | .tied => (mpEndGame { game.scored with ws := .tie }).mpSendWinner
      | .opened =>
          { (mpAddButton { game.scored with vsWasPressed := true, vsScreen := true } click).mpSendButton click with
            timeLeftForClick := vsInterval }
      | .extended => (game.scored.mpAddButton click).mpSendButton click
      | .appended => ((game.scored.mpAddButton click).mpSendButton click).mpChangePlayer := by
  rw [mpClickButton_verdict real, verdict_eq sound]

theorem mpRemoteClickButton_eq (sound : game.guessed ≤ game.buttonsSize) :
    game.mpRemoteClickButton click =
      match game.play.verdict click with
      | .matched => { game with guessed := game.guessed + 1 }
      | .wrong => game
      | .tied => mpEndGame { game.scored with ws := .tie }
      | .opened => mpAddButton { game.scored with vsWasPressed := true, vsScreen := true } click
      | .extended | .appended => game.scored.mpAddButton click := by
  rw [mpRemoteClickButton_verdict, verdict_eq sound]

theorem sendOrQueue_online (instant : game.uart.instant = true) (empty : game.uart.thr = none)
    (data : UInt8) :
    game.sendOrQueue data =
      { game with uart :=
        { game.uart with
          line := game.uart.line ++ [data], written := game.uart.written ++ [data], transEmpty := true } } := by
  simp [sendOrQueue, serialWriteByte, Uart.serialWriteByte, Uart.checkThrEmtpy, Uart.outb, instant, empty]

theorem Follows.refl (online : game.Online) : Follows game game (game.seat, []) :=
  ⟨online, rfl, by simp⟩

theorem Follows.send {before : MpGame} {result : Seat} {bytes : List UInt8}
    (follows : Follows before game (result, bytes)) (data : UInt8) :
    Follows before (game.sendOrQueue data) (result, bytes ++ [data]) := by
  obtain ⟨⟨started, instant, thrEmpty, noQueue, sound, listening⟩, seat, line⟩ := follows
  rw [sendOrQueue_online instant thrEmpty]
  exact ⟨⟨started, instant, thrEmpty, noQueue, sound, listening⟩, seat, by simp [line]⟩

/-- A change of variables that are not those of the serial line. -/
structure SameLine (before after : MpGame) : Prop where
  uart : after.uart = before.uart
  started : after.gameStarted = before.gameStarted
  noQueue : after.uartHasDataToSend = before.uartHasDataToSend
  listening : after.gameEnd = false → before.gameEnd = false ∧ after.mode = before.mode

theorem Follows.update {before after : MpGame} {result : Seat} {bytes : List UInt8}
    (follows : Follows before game (result, bytes)) (same : game.SameLine after)
    (sound : after.guessed ≤ after.buttonsSize) : Follows before after (after.seat, bytes) := by
  obtain ⟨online, _, line⟩ := follows
  refine ⟨⟨?_, ?_, ?_, ?_, sound, ?_⟩, rfl, ?_⟩
  · rw [same.started, online.started]
  · rw [same.uart, online.instant]
  · rw [same.uart, online.thrEmpty]
  · rw [same.noQueue, online.noQueue]
  · intro alive
    obtain ⟨aliveBefore, mode⟩ := same.listening alive
    rw [mode, online.listening aliveBefore]
  · rw [same.uart, line]

theorem Follows.cast {before after : MpGame} {result other : Seat × List UInt8}
    (follows : Follows before after result) (same : result = other) : Follows before after other :=
  same ▸ follows

theorem scored_eq :
    game.scored =
      { game with playerScore :=
        if game.guessed = game.buttonsSize then game.buttonsSize else game.playerScore } := by
  unfold scored
  split <;> rfl

theorem follows_mpChangePlayer {before : MpGame} {bytes : List UInt8}
    (follows : Follows before game (game.seat, bytes)) :
    Follows before game.mpChangePlayer (game.seat.passTurn.1, bytes ++ game.seat.passTurn.2) := by
  rw [mpChangePlayer_eq]
  refine ((follows.update ?_ (Nat.zero_le _)).send _).cast ?_
  · exact ⟨rfl, rfl, rfl, fun alive => ⟨alive, rfl⟩⟩
  cases hosting : game.isHost <;> simp [seat, play, hosting, Seat.passTurn]

theorem Follows.ends {before : MpGame} {result : Seat} {bytes : List UInt8}
    (follows : Follows before game (result, bytes)) :
    Follows before game.mpEndGame ({ result with play := { result.play with ended := true } }, bytes) := by
  have ended : Follows before game.mpEndGame (game.mpEndGame.seat, bytes) := by
    refine follows.update ⟨rfl, rfl, rfl, ?_⟩ follows.online.sound
    intro alive
    simp [mpEndGame] at alive
  refine ended.cast ?_
  rw [show result = game.seat from follows.seat.symm]
  rfl

theorem follows_loses (online : game.Online) :
    Follows game game.mpGetWinner.mpSendWinner.mpEndGame
      ({ game.seat with play := game.play.lose }, [Coms.lose.toByte]) := by
  have lost : game.mpGetWinner.ws ≠ .tie := by
    simp only [mpGetWinner]
    split <;> simp
  have start : Follows game game.mpGetWinner (game.mpGetWinner.seat, []) :=
    (Follows.refl online).update ⟨rfl, rfl, rfl, fun alive => ⟨alive, rfl⟩⟩ online.sound
  have sent := start.send Coms.lose.toByte
  rw [mpSendWinner, if_neg lost]
  exact sent.ends

theorem follows_ties (online : game.Online) :
    Follows game (mpEndGame { game.scored with ws := .tie })
      ({ game.seat with play := game.play.scored.tie }, []) := by
  have tied : Follows game { game.scored with ws := .tie } (seat { game.scored with ws := .tie }, []) := by
    rw [scored_eq]
    exact (Follows.refl online).update ⟨rfl, rfl, rfl, fun alive => ⟨alive, rfl⟩⟩ online.sound
  refine tied.ends.cast ?_
  simp [seat, Play.tie, scored_eq, play, Play.scored, Play.Complete]

theorem follows_adds (online : game.Online) (click : ButtonClick) :
    Follows game (game.scored.mpAddButton click) ((game.scored.mpAddButton click).seat, []) := by
  rw [scored_eq]
  exact (Follows.refl online).update ⟨rfl, rfl, rfl, fun alive => ⟨alive, rfl⟩⟩ (Nat.le_succ_of_le online.sound)

theorem follows_mpClickButton (online : game.Online) (real : click ≠ .noButton) :
    Follows game (game.mpClickButton click) (game.seat.click click) := by
  have start := Follows.refl online
  have sound := online.sound
  rw [mpClickButton_eq sound real]
  have seatPlay : game.seat.play = game.play := rfl
  cases found : game.play.verdict click with
  | matched =>
      obtain ⟨incomplete, _, _⟩ := situation sound found
      have sent := start.send (buttonByte click)
      simp only [mpSendButton, Seat.click, Play.press, seatPlay, found]
      rw [sendOrQueue_online online.instant online.thrEmpty] at sent ⊢
      refine (sent.update ?_ ?_).cast ?_
      · exact ⟨rfl, rfl, rfl, fun alive => ⟨alive, rfl⟩⟩
      · dsimp only
        omega
      · simp [seat, Play.restartClock, Play.Complete, play]
  | wrong =>
      refine (follows_loses online).cast ?_
      simp [Seat.click, seat, found]
  | tied =>
      simp only [Seat.click, Play.press, seatPlay, found]
      exact (follows_ties online).send _
  | opened =>
      simp only [Seat.click, Play.press, seatPlay, found, mpSendButton]
      have added : Follows game (mpAddButton { game.scored with vsWasPressed := true, vsScreen := true } click)
          (seat (mpAddButton { game.scored with vsWasPressed := true, vsScreen := true } click), []) := by
        rw [scored_eq]
        exact start.update ⟨rfl, rfl, rfl, fun alive => ⟨alive, rfl⟩⟩ (Nat.le_succ_of_le sound)
      have sent := added.send (buttonByte click)
      rw [sendOrQueue_online added.online.instant added.online.thrEmpty] at sent ⊢
      refine (sent.update ?_ ?_).cast ?_
      · exact ⟨rfl, rfl, rfl, fun alive => ⟨alive, rfl⟩⟩
      · exact sent.online.sound
      · simp [seat, scored_eq, mpAddButton, play, Play.scored, Play.Complete]
  | extended =>
      simp only [Seat.click, Play.press, seatPlay, found, mpSendButton]
      refine ((follows_adds online click).send _).cast ?_
      simp [seat, scored_eq, mpAddButton, play, Play.scored, Play.Complete]
  | appended =>
      simp only [Seat.click, Play.press, seatPlay, found, mpSendButton]
      have added := follows_adds online click
      have sent := added.send (buttonByte click)
      rw [sendOrQueue_online added.online.instant added.online.thrEmpty] at sent ⊢
      refine (follows_mpChangePlayer sent).cast ?_
      simp [seat, scored_eq, mpAddButton, play, Play.scored, Play.Complete]

theorem follows_mpGameUpdateStatusRtc (online : game.Online) (active : game.Active) :
    Follows game game.mpGameUpdateStatusRtc game.seat.tick := by
  obtain ⟨_, alive, mine⟩ := active
  have start := Follows.refl online
  have seatPlay : game.seat.play = game.play := rfl
  have timeLeft : game.play.timeLeft = game.timeLeftForClick := rfl
  have pressed : game.play.vsPressed = game.vsWasPressed := rfl
  have vsRound : game.play.isVsRound = game.isVsRound := rfl
  unfold mpGameUpdateStatusRtc Seat.tick
  rw [if_pos (by simp [mine, alive]), seatPlay, timeLeft, pressed, vsRound]
  split
  · exact follows_loses online
  · split
    · have passed := follows_mpChangePlayer start
      have aliveAfter : game.mpChangePlayer.gameEnd = false := by
        have ended := congrArg (fun seat => seat.play.ended) passed.seat
        simpa [seat, play, alive, Seat.passTurn_ended] using ended
      rw [leaveIfEnded_alive aliveAfter]
      exact passed
    · split
      · rw [leaveIfEnded_alive (by simpa using alive)]
        exact start.update ⟨rfl, rfl, rfl, fun alive => ⟨alive, rfl⟩⟩ online.sound
      · rw [leaveIfEnded_alive alive]
        exact start

/-- What a local event may change on a PC whose turn it is not. -/
def Idles (before after : MpGame) : Prop :=
  ∃ mouse screen seconds mode alarm, after =
    { before with
      mpMouse := mouse, ps := screen, timeLeftForScreen := seconds, mode := mode, alarm := alarm } ∧
    (before.gameEnd = false → mode = before.mode)

theorem Idles.refl (game : MpGame) : game.Idles game := ⟨_, _, _, _, _, rfl, fun _ => rfl⟩

theorem Idles.trans {middle after : MpGame} (first : game.Idles middle) (second : middle.Idles after) :
    game.Idles after := by
  obtain ⟨_, _, _, screen, _, rfl, kept⟩ := first
  obtain ⟨mouse, ps, seconds, mode, alarm, rfl, keptToo⟩ := second
  exact ⟨mouse, ps, seconds, mode, alarm, rfl, fun alive => (keptToo alive).trans (kept alive)⟩

theorem idles_leave (ended : game.gameEnd = true) (alarm : Alarm) :
    game.Idles (leave { game with alarm := alarm }) := by
  obtain ⟨mode, same⟩ := leave_mode { game with alarm := alarm }
  rw [same]
  exact ⟨_, _, _, mode, alarm, rfl, fun alive => by simp [ended] at alive⟩

theorem LocalStep.idles {after : MpGame} (step : game.LocalStep after) (started : game.gameStarted = true)
    (inactive : ¬ game.Active) : game.Idles after := by
  have notMine (mine : game.isHost = game.isPlayer1) (running : game.gameEnd = false) : False :=
    inactive ⟨started, running, mine⟩
  cases step with
  | idle mouse screen seconds => exact ⟨mouse, screen, seconds, _, _, rfl, fun _ => rfl⟩
  | click active => exact absurd active inactive
  | expire mine running => exact (notMine mine running).elim
  | pass mine running => exact (notMine mine running).elim
  | count mine running => exact (notMine mine running).elim
  | leave ended alarm => exact idles_leave ended alarm

theorem idles_handle (started : game.gameStarted = true) (inactive : ¬ game.Active) (input : Input) :
    game.Idles (game.handle input) :=
  (localStep_handle game input).idles started inactive

theorem idles_eventHandler (started : game.gameStarted = true) (inactive : ¬ game.Active) (input : Input) :
    game.Idles (game.eventHandler input) :=
  (localStep_eventHandler game input).idles started inactive

theorem Idles.follows {after : MpGame} (idles : game.Idles after) (online : game.Online) :
    Follows game after (game.seat, []) := by
  obtain ⟨mouse, screen, seconds, mode, alarm, rfl, listening⟩ := idles
  exact (Follows.refl online).update ⟨rfl, rfl, rfl, fun alive => ⟨alive, listening alive⟩⟩ online.sound

theorem Follows.screen {before : MpGame} {result : Seat × List UInt8}
    (follows : Follows before game result) (screen : PlayScreens) (seconds : Nat) :
    Follows before { game with ps := screen, timeLeftForScreen := seconds } result := by
  refine (follows.update ?_ ?_).cast ?_
  · exact ⟨rfl, rfl, rfl, fun alive => ⟨alive, rfl⟩⟩
  · exact follows.online.sound
  · exact Prod.ext follows.seat rfl

theorem follows_mpRemoteClickButton (online : game.Online) :
    Follows game (game.mpRemoteClickButton click) (game.seat.remoteClick click, []) := by
  have start := Follows.refl online
  have sound := online.sound
  have seatPlay : game.seat.play = game.play := rfl
  rw [mpRemoteClickButton_eq sound]
  cases found : game.play.verdict click with
  | matched =>
      obtain ⟨incomplete, _, _⟩ := situation sound found
      simp only [Seat.remoteClick, Play.press, seatPlay, found]
      refine (start.update ?_ ?_).cast ?_
      · exact ⟨rfl, rfl, rfl, fun alive => ⟨alive, rfl⟩⟩
      · dsimp only
        omega
      · simp [seat, play]
  | wrong =>
      simp only [Seat.remoteClick, Play.press, seatPlay, found]
      exact start
  | tied =>
      simp only [Seat.remoteClick, Play.press, seatPlay, found]
      exact follows_ties online
  | opened =>
      simp only [Seat.remoteClick, Play.press, seatPlay, found]
      rw [scored_eq]
      refine (start.update ?_ ?_).cast ?_
      · exact ⟨rfl, rfl, rfl, fun alive => ⟨alive, rfl⟩⟩
      · exact Nat.le_succ_of_le sound
      · simp [seat, mpAddButton, play, Play.scored, Play.Complete]
  | extended | appended =>
      simp only [Seat.remoteClick, Play.press, seatPlay, found]
      refine (follows_adds online click).cast ?_
      simp [seat, scored_eq, mpAddButton, play, Play.scored, Play.Complete]

theorem follows_ends (online : game.Online) (winner : Winners) :
    Follows game (mpEndGame { game with ws := winner })
      ({ game.seat with play := { game.play with winner := winner, ended := true } }, []) := by
  have judged : Follows game { game with ws := winner } (seat { game with ws := winner }, []) :=
    (Follows.refl online).update ⟨rfl, rfl, rfl, fun alive => ⟨alive, rfl⟩⟩ online.sound
  exact judged.ends

theorem follows_playGame (online : game.Online) (alive : game.gameEnd = false) (inactive : ¬ game.Active)
    (data : UInt8) : Follows game (game.playGame data) (game.seat.receive data, []) := by
  have start := Follows.refl online
  have waiting : game.isHost ≠ game.isPlayer1 := fun mine => inactive ⟨online.started, alive, mine⟩
  unfold playGame Seat.receive
  split
  · -- a button of the other PC
    obtain ⟨screen, seconds, handled⟩ := mpButtonsHandler_remote waiting (byteButton data)
    rw [handled]
    exact (follows_mpRemoteClickButton online).screen screen seconds
  · split
    · exact start.update ⟨rfl, rfl, rfl, fun alive => ⟨alive, rfl⟩⟩ (Nat.zero_le _)
    · split
      · exact start.update ⟨rfl, rfl, rfl, fun alive => ⟨alive, rfl⟩⟩ (Nat.zero_le _)
      · split
        · exact start.update ⟨rfl, rfl, rfl, fun alive => ⟨alive, rfl⟩⟩ (Nat.zero_le _)
        · split
          · exact (follows_ends online _)
          · split
            · exact (follows_ends online _)
            · exact start

def action (game : MpGame) : Input → Action
  | .click click => .click click
  | .mouse packet => .click (game.mpMouse.update packet).click
  | .key _ => .rest
  | .timer => .rest
  | .rtc => .tick

theorem seat_active (started : game.gameStarted = true) : game.seat.Active ↔ game.Active := by
  simp [Seat.Active, Active, seat, play, started]

theorem follows_handleClick (online : game.Online) (active : game.Active) (click : ButtonClick) :
    Follows game (game.handleClick click) (game.seat.act (.click click)) := by
  have seatActive := (seat_active online.started).mpr active
  obtain ⟨screen, seconds, handled⟩ := mpButtonsHandler_mine active.2.2 click
  rw [handleClick, if_pos active.2.2, handled, Seat.act]
  by_cases real : click = .noButton
  · rw [if_neg (by simp [real])]
    simp only [mpClickButton, real, if_true]
    exact (Follows.refl online).update ⟨rfl, rfl, rfl, fun alive => ⟨alive, rfl⟩⟩ online.sound
  · rw [if_pos ⟨seatActive, real⟩]
    exact (follows_mpClickButton online real).screen screen seconds

theorem follows_eventHandler (online : game.Online) (input : Input) :
    Follows game (game.eventHandler input) (game.seat.act (game.action input)) := by
  by_cases active : game.Active
  · have seatActive := (seat_active online.started).mpr active
    have alive := active.2.1
    rw [eventHandler, if_pos (online.listening alive)]
    cases input with
    | click button =>
        rw [handle, localClick, if_neg (by simp [alive]), if_pos online.started]
        exact follows_handleClick online active button
    | mouse packet =>
        rw [handle, mpGameUpdateStatusMouse, if_neg (by simp [alive]), if_pos online.started]
        have moved : Online { game with mpMouse := game.mpMouse.update packet } :=
          ⟨online.started, online.instant, online.thrEmpty, online.noQueue, online.sound, online.listening⟩
        have clicked := follows_handleClick moved active (game.mpMouse.update packet).click
        exact ⟨clicked.online, clicked.seat, clicked.line⟩
    | key press => simpa [handle, mpGameUpdateStatusKey, alive, action, Seat.act] using Follows.refl online
    | timer =>
        simp only [handle, mpGameUpdateStatusTimer, action, Seat.act]
        split
        · exact (Follows.refl online).update ⟨rfl, rfl, rfl, fun alive => ⟨alive, rfl⟩⟩ online.sound
        · exact (Follows.refl online).update ⟨rfl, rfl, rfl, fun alive => ⟨alive, rfl⟩⟩ online.sound
    | rtc =>
        simp only [handle, action, Seat.act, seatActive, if_true]
        exact follows_mpGameUpdateStatusRtc online active
  · have seatInactive : ¬ game.seat.Active := fun seated => active ((seat_active online.started).mp seated)
    have idle : game.seat.act (game.action input) = (game.seat, []) :=
      Seat.turnTaking.idle _ seatInactive
    rw [idle]
    exact (idles_eventHandler online.started active input).follows online

theorem Online.changeUart (online : game.Online) {uart : Uart} (instant : uart.instant = true)
    (thrEmpty : uart.thr = none) : Online { game with uart := uart } :=
  ⟨online.started, instant, thrEmpty, online.noQueue, online.sound, online.listening⟩

theorem follows_uartNotification (online : game.Online) (alive : game.gameEnd = false)
    (inactive : ¬ game.Active) (data : UInt8) :
    Follows game (game.uartNotification data .recData) (game.seat.receive data, []) := by
  rw [uartNotification, if_pos (online.listening alive)]
  simp only [mpGameUpdateStatusUart, online.started, Bool.not_true, Bool.false_eq_true, if_false]
  exact follows_playGame online alive inactive data

theorem uartNotification_transEmpty (online : game.Online) (data : UInt8) :
    game.uartNotification data .transEmpty = game := by
  simp [uartNotification, mpGameUpdateStatusUart, online.started, online.noQueue]

end MpGame

namespace TwoPc

variable {pcs : TwoPc} {side : Side}

def Online (pcs : TwoPc) : Prop := ∀ side, (pcs side).Online

/-- The seats of the two PCs and what is on the lines between them. -/
def link (pcs : TwoPc) : Link Seat UInt8 :=
  { peer := fun side => (pcs side).seat
    line := fun side => (pcs side).uart.line }

/-- What an event amounts to on the link. -/
def move (pcs : TwoPc) : Side × Event → Move Action
  | (side, .input input) => .act side ((pcs side).action input)
  | (side, .receive) => .deliver side
  | (side, .transEmpty) => .act side .rest
  | (side, .shiftOut) => .act side .rest

/-- A byte is read only by a PC that waits for its turn. -/
def ReadsInTurn (pcs : TwoPc) : Side × Event → Prop
  | (side, .receive) => (pcs side.other).uart.line = [] ∨
      (pcs side).gameEnd = false ∧ ¬ (pcs side).Active
  | _ => True

theorem Online.update {after : MpGame} (online : pcs.Online) (afterOnline : after.Online) :
    TwoPc.Online (Function.update pcs side after) := by
  intro place
  rcases place.eq_or_eq_other side with rfl | rfl
  · simpa using afterOnline
  · simpa using online _

theorem link_update (after : MpGame) :
    TwoPc.link (Function.update pcs side after) =
      { peer := Function.update pcs.link.peer side after.seat
        line := Function.update pcs.link.line side after.uart.line } := by
  have peers : (TwoPc.link (Function.update pcs side after)).peer =
      Function.update pcs.link.peer side after.seat := Function.comp_update MpGame.seat pcs side after
  have lines : (TwoPc.link (Function.update pcs side after)).line =
      Function.update pcs.link.line side after.uart.line :=
    Function.comp_update (fun game : MpGame => game.uart.line) pcs side after
  rw [← peers, ← lines]

theorem link_update_follows {after : MpGame} {result : Seat × List UInt8}
    (follows : (pcs side).Follows after result) :
    TwoPc.link (Function.update pcs side after) = pcs.link.send side result.1 result.2 := by
  rw [link_update, follows.seat, follows.line]
  rfl

theorem step_follows (online : pcs.Online) (event : Side × Event) (reads : pcs.ReadsInTurn event) :
    (pcs.step event).Online ∧ (pcs.step event).link = Seat.protocol.step pcs.link (pcs.move event) := by
  obtain ⟨side, event⟩ := event
  have keeps {after : MpGame} (action : Action) (follows : (pcs side).Follows after ((pcs side).seat.act action)) :
      TwoPc.Online (Function.update pcs side after) ∧
        TwoPc.link (Function.update pcs side after) = Seat.protocol.step pcs.link (.act side action) :=
    ⟨online.update follows.online, link_update_follows follows⟩
  cases event with
  | input input => exact keeps _ (MpGame.follows_eventHandler (online side) input)
  | transEmpty =>
      simp only [step, move]
      split
      · have cleared : MpGame.Online
            { pcs side with uart := { (pcs side).uart with transEmpty := false } } :=
          (online side).changeUart (online side).instant (online side).thrEmpty
        rw [MpGame.uartNotification_transEmpty cleared]
        exact keeps .rest ⟨cleared, rfl, by simp [Seat.act]⟩
      · have same := keeps .rest (MpGame.Follows.refl (online side))
        rwa [Function.update_eq_self] at same
  | shiftOut =>
      have same : (pcs side).uart.shiftOut = (pcs side).uart := by
        simp [Uart.shiftOut, (online side).thrEmpty]
      simp only [step, move, same]
      exact keeps .rest (MpGame.Follows.refl (online side))
  | receive =>
      simp only [step, move, Protocol.step]
      cases onLine : (pcs side.other).uart.line with
      | nil =>
          have silent : pcs.link.line side.other = [] := onLine
          simp only [silent]
          exact ⟨online, trivial⟩
      | cons byte rest =>
          have pending : pcs.link.line side.other = byte :: rest := onLine
          have reading : (pcs side).gameEnd = false ∧ ¬ (pcs side).Active := by
            rcases reads with silent | reading
            · simp [onLine] at silent
            · exact reading
          have follows := MpGame.follows_uartNotification (online side) reading.1 reading.2 byte
          have sender : MpGame.Online
              { pcs side.other with uart := { (pcs side.other).uart with line := rest } } :=
            (online side.other).changeUart (online side.other).instant (online side.other).thrEmpty
          refine ⟨(online.update sender).update follows.online, ?_⟩
          have senderSeat : Function.update pcs.link.peer side.other
              (MpGame.seat { pcs side.other with uart := { (pcs side.other).uart with line := rest } }) =
              pcs.link.peer := Function.update_eq_self side.other pcs.link.peer
          have ownLine : Function.update (Function.update pcs.link.line side.other rest) side
              (pcs side).uart.line = Function.update pcs.link.line side.other rest := by
            rw [Function.update_eq_self_iff]
            simp [link]
          simp only [pending, link_update, follows.seat, follows.line, List.append_nil, senderSeat, ownLine]
          rfl

end TwoPc

end SimonVs
