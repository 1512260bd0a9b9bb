import SimonVs.Loop.Dispatch
import SimonVs.Rules.Frame
import SimonVs.Rules.OnePc

namespace SimonVs

open Data Memory Serial Rules

/-- A click ends the game: the sequence has its full length, or the button is
the wrong one. -/
def Decisive (guessed size maxSize : Nat) (pressed : Bool) (next : Cell) (click : ButtonClick) : Prop :=
  click ≠ .noButton ∧ if guessed = size ∨ pressed = true then guessed = maxSize else next ≠ some click

instance (guessed size maxSize : Nat) (pressed : Bool) (next : Cell) (click : ButtonClick) :
    Decidable (Decisive guessed size maxSize pressed next click) := inferInstanceAs (Decidable (_ ∧ _))

theorem decisive_iff {guessed size maxSize : Nat} {pressed : Bool} {next : Cell} {click : ButtonClick}
    (real : click ≠ .noButton) (vsRound : Bool) :
    Decisive guessed size maxSize pressed next click ↔
      Play.verdictOf guessed size maxSize pressed vsRound next click = .wrong ∨
      Play.verdictOf guessed size maxSize pressed vsRound next click = .tied := by
  have situation := Play.situation_verdictOf guessed size maxSize pressed vsRound next click
  unfold Decisive
  generalize Play.verdictOf guessed size maxSize pressed vsRound next click = verdict at situation ⊢
  cases verdict with
  | matched =>
      obtain ⟨incomplete, closed, same⟩ := situation
      simp [incomplete, closed, same]
  | wrong =>
      obtain ⟨incomplete, closed, different⟩ := situation
      simp [real, incomplete, closed, different]
  | tied =>
      obtain ⟨first, full⟩ := situation
      rw [if_pos first]
      simp [real, full]
  | opened =>
      obtain ⟨complete, _, notFull, _⟩ := situation
      simp [complete, notFull]
  | extended =>
      obtain ⟨pressed, notFull, _⟩ := situation
      simp [pressed, notFull]
  | appended =>
      obtain ⟨first, notFull, _⟩ := situation
      rw [if_pos first]
      simp [notFull]

/-- The result of a game that ends in a call can be seen after it, and the
screen is left only later, by an ENTER or an alarm. -/
def ResultSeen (playing : GameModes) (modeBefore modeAfter : GameModes) (endBefore endAfter : Bool) (flags : Flags) :
    Prop :=
  modeBefore = playing →
    (endBefore = false → endAfter = true → modeAfter = playing) ∧
    (modeAfter ≠ playing → endBefore = true ∧
      (flags.gotKeyPress = true ∧ flags.keyboardPacket.key = enter ∨ flags.rtcInterrupt = true))

instance (playing modeBefore modeAfter : GameModes) (endBefore endAfter : Bool) (flags : Flags) :
    Decidable (ResultSeen playing modeBefore modeAfter endBefore endAfter flags) :=
  inferInstanceAs (Decidable (_ → (_ → _ → _) ∧ (_ → _ ∧ (_ ∧ _ ∨ _))))

/-- A running game must keep its screen, an ended one must have a reason to be
left. -/
theorem resultSeen_iff_not {playing modeBefore modeAfter : GameModes} {endBefore endAfter : Bool} {flags : Flags}
    {skips : Prop} (possible : skips → modeBefore = playing ∧ endBefore = false)
    (running : modeBefore = playing → endBefore = false → (modeAfter = playing ↔ ¬ skips))
    (ended : endBefore = true → ¬ (flags.gotKeyPress = true ∧ flags.keyboardPacket.key = enter) →
      ¬ flags.rtcInterrupt = true → modeAfter = modeBefore) :
    ResultSeen playing modeBefore modeAfter endBefore endAfter flags ↔ ¬ skips := by
  by_cases here : modeBefore = playing
  · cases before : endBefore with
    | false =>
        rw [← running here before]
        constructor
        · intro seen
          refine Decidable.byContradiction fun left => ?_
          exact Bool.false_ne_true ((seen here).2 left).1
        · intro stays _
          exact ⟨fun _ _ => stays, fun left => absurd stays left⟩
    | true =>
        refine iff_of_true (fun _ => ⟨fun alive => (nomatch alive), fun left => ⟨rfl, ?_⟩⟩) ?_
        · refine Decidable.byContradiction fun neither => ?_
          rw [not_or] at neither
          exact left ((ended before neither.1 neither.2).trans here)
        · intro skipped
          exact Bool.false_ne_true ((possible skipped).2.symm.trans before)
  · exact iff_of_true (fun now => absurd now here) fun skipped => here (possible skipped).1

namespace Game

variable {game : Game} {call : Call} {click : ButtonClick} {rand : Nat}

def clickIn (game : Game) (flags : Flags) : ButtonClick :=
  if flags.gotMousePacket then (game.mouse.update flags.mousePacket).click else .noButton

def Decisive (game : Game) (click : ButtonClick) : Prop :=
  SimonVs.Decisive game.guessed game.buttonsSize game.maxButtonsSize game.vsWasPressed
    (game.buttons.cells game.guessed) click

/-- The next alarm finds no time left. -/
def Expired (game : Game) : Prop := game.timeLeftForClick = 0 ∧ game.vsWasPressed = false

/-- The game ends in a call that also has the flag of an alarm. -/
structure Skips (game : Game) (call : Call) : Prop where
  playing : game.mode = .game
  running : game.gameEnd = false
  alarm : call.flags.rtcInterrupt = true
  decided : game.Decisive (game.clickIn call.flags) ∨ game.clickIn call.flags = .noButton ∧ game.Expired

instance (game : Game) (click : ButtonClick) : Decidable (game.Decisive click) :=
  inferInstanceAs (Decidable (SimonVs.Decisive _ _ _ _ _ _))

instance (game : Game) : Decidable game.Expired := inferInstanceAs (Decidable (_ ∧ _))

theorem goes_on (running : game.gameEnd = false) (clock : game.timeLeftForClick ≠ 0 ∨ game.vsWasPressed = true) :
    ¬ (game.gameEnd = true ∨ game.Expired) := by
  rintro (ended | ⟨zero, closed⟩)
  · exact Bool.false_ne_true (running.symm.trans ended)
  · rcases clock with some | pressed
    · exact some zero
    · exact Bool.false_ne_true (closed.symm.trans pressed)

/-- After a click the clock has just been set, or a VS window is open. -/
theorem clickButton_ends (running : game.gameEnd = false) (real : click ≠ .noButton) :
    (game.clickButton click rand).mode = game.mode ∧
    ((game.clickButton click rand).gameEnd = true ∨ (game.clickButton click rand).Expired ↔ game.Decisive click) := by
  have decisive : game.Decisive click ↔ game.verdict click = .wrong ∨ game.verdict click = .tied :=
    decisive_iff real game.isVsRound
  rw [decisive, clickButton_verdict real]
  cases found : game.verdict click with
  | matched =>
      have clock : (if game.guessed + 1 = game.buttonsSize then -1 else interval) ≠ 0 := by
        split <;> decide
      exact ⟨rfl, iff_of_false (goes_on running (.inl clock)) (by simp)⟩
  | wrong => exact ⟨rfl, iff_of_true (.inl rfl) (.inl rfl)⟩
  | tied => exact ⟨rfl, iff_of_true (.inl rfl) (.inr rfl)⟩
  | opened => exact ⟨rfl, iff_of_false (goes_on running (.inr rfl)) (by simp)⟩
  | extended =>
      obtain ⟨pressed, _, _⟩ := situation_verdict found
      exact ⟨rfl, iff_of_false (goes_on running (.inr pressed)) (by simp)⟩
  | appended =>
      dsimp only
      split
      · rename_i pressed
        exact ⟨rfl, iff_of_false (goes_on running (.inr pressed)) (by simp)⟩
      · have clock : interval ≠ 0 := by decide
        exact ⟨rfl, iff_of_false (goes_on running (.inl clock)) (by simp)⟩

def afterMouse (game : Game) (call : Call) : Game :=
  if call.flags.gotMousePacket then game.gameUpdateStatusMouse call.flags.mousePacket call.clickRand else game

theorem afterMouse_ends (running : game.gameEnd = false) (call : Call) :
    (game.afterMouse call).mode = game.mode ∧
    ((game.afterMouse call).gameEnd = true ∨ (game.afterMouse call).Expired ↔
      game.Decisive (game.clickIn call.flags) ∨ game.clickIn call.flags = .noButton ∧ game.Expired) := by
  have alive : ¬ game.gameEnd = true := by simp [running]
  have idle : ¬ game.Decisive .noButton := fun decisive => decisive.1 rfl
  unfold afterMouse clickIn
  by_cases packet : call.flags.gotMousePacket = true
  · rw [if_pos packet, if_pos packet, gameUpdateStatusMouse, if_neg alive]
    have moved : Decisive { game with mouse := game.mouse.update call.flags.mousePacket } = game.Decisive := rfl
    obtain ⟨screen, lit⟩ := lightButton_screen
      (clickButton { game with mouse := game.mouse.update call.flags.mousePacket }
        (game.mouse.update call.flags.mousePacket).click call.clickRand)
      (game.mouse.update call.flags.mousePacket).click
    dsimp only
    rw [handleClick, lit]
    by_cases real : (game.mouse.update call.flags.mousePacket).click = .noButton
    · simp only [clickButton, real, if_true, idle, true_and, false_or]
      exact or_iff_right alive
    · obtain ⟨mode, ends⟩ := @clickButton_ends { game with mouse := game.mouse.update call.flags.mousePacket }
        _ call.clickRand running real
      rw [moved] at ends
      refine ⟨mode, ?_⟩
      simp only [real, false_and, or_false]
      exact ends
  · rw [if_neg packet, if_neg packet]
    simp only [idle, true_and, false_or]
    exact or_iff_right alive

theorem countDown_ends (game : Game) (rand : Nat) :
    (game.countDown rand).mode = game.mode ∧
    ((game.countDown rand).gameEnd = true ↔ game.gameEnd = true ∨ game.Expired) := by
  unfold countDown Expired
  split
  · rename_i expired
    refine ⟨rfl, iff_of_true rfl (.inr ?_)⟩
    simpa using expired
  · rename_i notExpired
    have other : ¬ (game.timeLeftForClick = 0 ∧ game.vsWasPressed = false) := by simpa using notExpired
    rw [or_iff_left other]
    split
    · exact ⟨rfl, Iff.rfl⟩
    · split <;> exact ⟨rfl, Iff.rfl⟩

theorem leave_mode_ne (game : Game) : game.leave.mode ≠ .game := by
  unfold leave checkNewHiScore
  split
  · simp
  · split <;> simp

theorem leaveIfEnded_stays (playing : game.mode = .game) : game.leaveIfEnded.mode = .game ↔ ¬ game.gameEnd = true := by
  unfold leaveIfEnded
  split
  · rename_i ended
    exact iff_of_false (leave_mode_ne _) (not_not.mpr ended)
  · rename_i running
    exact iff_of_true playing running

theorem eventHandler_stays (playing : game.mode = .game) (running : game.gameEnd = false) (call : Call) :
    (game.eventHandler call).mode = .game ↔ ¬ game.Skips call := by
  have noKey : (if call.flags.gotKeyPress then game.gameUpdateStatusKey call.flags.keyboardPacket else game) = game := by
    simp [gameUpdateStatusKey, running]
  obtain ⟨mode, ends⟩ := afterMouse_ends running call
  have handled : game.eventHandler call =
      if call.flags.rtcInterrupt then
        (if call.flags.timerInterrupt then (game.afterMouse call).gameUpdateStatusTimer
          else game.afterMouse call).gameUpdateStatusRtc call.tickRand
      else if call.flags.timerInterrupt then (game.afterMouse call).gameUpdateStatusTimer
        else game.afterMouse call := by
    rw [eventHandler, if_pos playing, noKey]
    rfl
  have timer : ∃ mouse, (if call.flags.timerInterrupt then (game.afterMouse call).gameUpdateStatusTimer
      else game.afterMouse call) = { game.afterMouse call with mouse } := by
    split
    · exact ⟨_, rfl⟩
    · exact ⟨_, rfl⟩
  obtain ⟨mouse, timer⟩ := timer
  rw [handled, timer]
  by_cases alarm : call.flags.rtcInterrupt = true
  · rw [if_pos alarm, gameUpdateStatusRtc]
    obtain ⟨still, counted⟩ := countDown_ends { game.afterMouse call with mouse } call.tickRand
    rw [leaveIfEnded_stays (still.trans (mode.trans playing)), counted]
    refine not_congr (Iff.trans ends ?_)
    exact ⟨fun decided => ⟨playing, running, alarm, decided⟩, fun skips => skips.decided⟩
  · rw [if_neg alarm]
    exact iff_of_true (mode.trans playing) fun skips => alarm skips.alarm

theorem eventHandler_ended (ended : game.gameEnd = true) (call : Call)
    (noEnter : ¬ (call.flags.gotKeyPress = true ∧ call.flags.keyboardPacket.key = enter))
    (noAlarm : ¬ call.flags.rtcInterrupt = true) : (game.eventHandler call).mode = game.mode := by
  have noKey : (if call.flags.gotKeyPress then game.gameUpdateStatusKey call.flags.keyboardPacket else game) = game := by
    split
    · rename_i got
      rw [gameUpdateStatusKey, if_pos ended, if_neg fun isEnter => noEnter ⟨got, isEnter⟩]
    · rfl
  by_cases playing : game.mode = .game
  · rw [eventHandler, if_pos playing, noKey]
    dsimp only
    rw [if_neg noAlarm, gameUpdateStatusMouse, if_pos ended, ite_self]
    split <;> rfl
  · rw [eventHandler, if_neg playing]

/-- What the result of a call says about it. -/
def ResultSeen (game : Game) (call : Call) : Prop :=
  SimonVs.ResultSeen .game game.mode (game.eventHandler call).mode game.gameEnd (game.eventHandler call).gameEnd
    call.flags

instance (game : Game) (call : Call) : Decidable (game.ResultSeen call) :=
  inferInstanceAs (Decidable (SimonVs.ResultSeen _ _ _ _ _ _))

theorem resultSeen_iff (game : Game) (call : Call) : game.ResultSeen call ↔ ¬ game.Skips call :=
  resultSeen_iff_not (fun skips => ⟨skips.playing, skips.running⟩)
    (fun playing running => eventHandler_stays playing running call) (fun ended => eventHandler_ended ended call)

end Game

namespace MpGame

variable {game : MpGame} {flags : Flags} {click : ButtonClick}

def Decisive (game : MpGame) (click : ButtonClick) : Prop :=
  SimonVs.Decisive game.guessed game.buttonsSize game.maxButtonsSize game.vsWasPressed
    (game.buttons.cells game.guessed) click

instance (game : MpGame) (click : ButtonClick) : Decidable (game.Decisive click) :=
  inferInstanceAs (Decidable (SimonVs.Decisive _ _ _ _ _ _))

/-- The game ends by a click in a call that also has the flag of an alarm. A
game that runs out of time is not left at once here. -/
structure Skips (game : MpGame) (flags : Flags) : Prop where
  playing : game.mode = .mpGame
  active : game.Active
  alarm : flags.rtcInterrupt = true
  packet : flags.gotMousePacket = true
  decided : game.Decisive (game.mpMouse.update flags.mousePacket).click

theorem mpClickButton_ends (running : game.gameEnd = false) (click : ButtonClick) :
    (game.mpClickButton click).gameEnd = true ↔ game.Decisive click := by
  by_cases real : click = .noButton
  · rw [mpClickButton, if_pos real]
    exact iff_of_false (by simp [running]) fun decisive => decisive.1 real
  · have decisive : game.Decisive click ↔ game.verdict click = .wrong ∨ game.verdict click = .tied :=
      decisive_iff real game.isVsRound
    rw [decisive, mpClickButton_verdict real]
    cases game.verdict click with
    | wrong => simp [mpEndGame]
    | tied => simp [mpSendWinner_eq, sendOrQueue_eq, mpEndGame]
    | matched => simp [mpSendButton, sendOrQueue_eq, running]
    | opened | extended => simp [scored_eq, mpAddButton, mpSendButton, sendOrQueue_eq, running]
    | appended => simp [scored_eq, mpAddButton, mpSendButton, mpChangePlayer_eq, sendOrQueue_eq, running]

def afterMouse (game : MpGame) (flags : Flags) : MpGame :=
  if flags.gotMousePacket then game.mpGameUpdateStatusMouse flags.mousePacket else game

theorem afterMouse_ends (running : game.gameEnd = false) (flags : Flags) :
    (game.afterMouse flags).mode = game.mode ∧
    ((game.afterMouse flags).gameEnd = true ↔ flags.gotMousePacket = true ∧ game.Active ∧
      game.Decisive (game.mpMouse.update flags.mousePacket).click) := by
  have alive : ¬ game.gameEnd = true := by simp [running]
  unfold afterMouse
  by_cases packet : flags.gotMousePacket = true
  · rw [if_pos packet, mpGameUpdateStatusMouse, if_neg alive]
    by_cases started : game.gameStarted = true
    · rw [if_pos started]
      dsimp only [handleClick]
      by_cases mine : game.isHost = game.isPlayer1
      · rw [if_pos mine]
        obtain ⟨screen, seconds, handled⟩ := @mpButtonsHandler_mine
          { game with mpMouse := game.mpMouse.update flags.mousePacket } mine
          (game.mpMouse.update flags.mousePacket).click
        have ends := @mpClickButton_ends { game with mpMouse := game.mpMouse.update flags.mousePacket } running
          (game.mpMouse.update flags.mousePacket).click
        rw [handled]
        refine ⟨mode_mpClickButton _ _, ends.trans ?_⟩
        exact ⟨fun decisive => ⟨packet, ⟨started, running, mine⟩, decisive⟩, fun all => all.2.2⟩
      · rw [if_neg mine]
        exact ⟨rfl, iff_of_false alive fun all => mine all.2.1.2.2⟩
    · rw [if_neg started]
      exact ⟨rfl, iff_of_false alive fun all => started all.2.1.1⟩
  · rw [if_neg packet]
    exact ⟨rfl, iff_of_false alive fun all => packet all.1⟩

theorem mode_rtc_running (running : game.gameEnd = false) : game.mpGameUpdateStatusRtc.mode = game.mode := by
  unfold mpGameUpdateStatusRtc
  split
  · split
    · simp only [mpEndGame, mpSendWinner_eq, sendOrQueue_eq, mpGetWinner]
    · split
      · have still : game.mpChangePlayer.gameEnd = false := by
          simpa only [mpChangePlayer_eq, sendOrQueue_eq] using running
        rw [leaveIfEnded_alive still, mpChangePlayer_eq, sendOrQueue_eq]
      · split
        · have still : { game with timeLeftForClick := game.timeLeftForClick - 1 }.gameEnd = false := running
          rw [leaveIfEnded_alive still]
        · rw [leaveIfEnded_alive running]
  · rw [leaveIfEnded_alive running]

theorem rtc_stays (playing : game.mode = .mpGame) :
    game.mpGameUpdateStatusRtc.mode = .mpGame ↔ ¬ game.gameEnd = true := by
  by_cases ended : game.gameEnd = true
  · have finished : ¬ (game.isHost = game.isPlayer1 ∧ (!game.gameEnd) = true) := by simp [ended]
    rw [mpGameUpdateStatusRtc, if_neg finished, leaveIfEnded, if_pos ended]
    exact iff_of_false (leave_mode_ne _) (not_not.mpr ended)
  · exact iff_of_true ((mode_rtc_running (Bool.eq_false_iff.mpr ended)).trans playing) ended

theorem mode_afterUart (game : MpGame) (flags : Flags) :
    (if flags.uartInterrupt then game.mpGameUpdateStatusUart flags.dataPacket flags.uartTypeInterrupt
      else game).mode = game.mode := by
  split
  · exact mode_mpGameUpdateStatusUart game flags.dataPacket flags.uartTypeInterrupt
  · rfl

theorem timer_idles (game : MpGame) (flags : Flags) :
    ∃ mouse screen seconds, (if flags.timerInterrupt then game.mpGameUpdateStatusTimer else game) =
      { game with mpMouse := mouse, ps := screen, timeLeftForScreen := seconds } := by
  split
  · unfold mpGameUpdateStatusTimer
    dsimp only
    split <;> exact ⟨_, _, _, rfl⟩
  · exact ⟨_, _, _, rfl⟩

theorem eventHandlerCall_stays (playing : game.mode = .mpGame) (running : game.gameEnd = false) (flags : Flags) :
    (game.eventHandlerCall flags).mode = .mpGame ↔ ¬ game.Skips flags := by
  have noKey : (if flags.gotKeyPress then game.mpGameUpdateStatusKey flags.keyboardPacket else game) = game := by
    simp [mpGameUpdateStatusKey, running]
  obtain ⟨mode, ends⟩ := afterMouse_ends running flags
  obtain ⟨mouse, screen, seconds, timer⟩ := timer_idles (game.afterMouse flags) flags
  rw [eventHandlerCall, if_pos playing, noKey]
  dsimp only
  rw [mode_afterUart]
  change (if flags.rtcInterrupt then
    (if flags.timerInterrupt then (game.afterMouse flags).mpGameUpdateStatusTimer
      else game.afterMouse flags).mpGameUpdateStatusRtc
    else if flags.timerInterrupt then (game.afterMouse flags).mpGameUpdateStatusTimer
      else game.afterMouse flags).mode = _ ↔ _
  rw [timer]
  by_cases alarm : flags.rtcInterrupt = true
  · have still : { game.afterMouse flags with mpMouse := mouse, ps := screen, timeLeftForScreen := seconds }.mode =
        .mpGame := mode.trans playing
    rw [if_pos alarm, rtc_stays still]
    refine not_congr (Iff.trans ends ?_)
    exact ⟨fun all => ⟨playing, all.2.1, alarm, all.1, all.2.2⟩,
      fun skips => ⟨skips.packet, skips.active, skips.decided⟩⟩
  · rw [if_neg alarm]
    exact iff_of_true (mode.trans playing) fun skips => alarm skips.alarm

theorem eventHandlerCall_ended (ended : game.gameEnd = true) (flags : Flags)
    (noEnter : ¬ (flags.gotKeyPress = true ∧ flags.keyboardPacket.key = enter))
    (noAlarm : ¬ flags.rtcInterrupt = true) : (game.eventHandlerCall flags).mode = game.mode := by
  have noKey : (if flags.gotKeyPress then game.mpGameUpdateStatusKey flags.keyboardPacket else game) = game := by
    split
    · rename_i got
      rw [mpGameUpdateStatusKey, if_pos ended, if_neg fun isEnter => noEnter ⟨got, isEnter⟩]
    · rfl
  by_cases playing : game.mode = .mpGame
  · rw [eventHandlerCall, if_pos playing, noKey]
    dsimp only
    obtain ⟨mouse, screen, seconds, timer⟩ := timer_idles game flags
    rw [mode_afterUart, if_neg noAlarm, mpGameUpdateStatusMouse, if_pos ended, ite_self, timer]
  · rw [eventHandlerCall, if_neg playing]

def ResultSeen (game : MpGame) (flags : Flags) : Prop :=
  SimonVs.ResultSeen .mpGame game.mode (game.eventHandlerCall flags).mode game.gameEnd
    (game.eventHandlerCall flags).gameEnd flags

instance (game : MpGame) (flags : Flags) : Decidable (game.ResultSeen flags) :=
  inferInstanceAs (Decidable (SimonVs.ResultSeen _ _ _ _ _ _))

theorem resultSeen_iff (game : MpGame) (flags : Flags) : game.ResultSeen flags ↔ ¬ game.Skips flags :=
  resultSeen_iff_not (fun skips => ⟨skips.playing, skips.active.2.1⟩)
    (fun playing running => eventHandlerCall_stays playing running flags)
    (fun ended => eventHandlerCall_ended ended flags)

end MpGame

/-- In every run of `event_handler` the result of a game is seen, in either kind
of game, precisely when no game ends in a call that has the flag of an alarm:
by a click, or on one PC by the alarm itself. -/
theorem results_seen_iff (game : Game) (calls : List Call) (mpGame : MpGame) (notifications : List Flags) :
    (Along Game.eventHandler Game.ResultSeen game calls ↔
      Along Game.eventHandler (fun game call => ¬ game.Skips call) game calls) ∧
    (Along MpGame.eventHandlerCall MpGame.ResultSeen mpGame notifications ↔
      Along MpGame.eventHandlerCall (fun game flags => ¬ game.Skips flags) mpGame notifications) := by
  constructor
  · exact along_congr (fun _ => True) (fun _ _ _ => trivial) (fun game call _ => game.resultSeen_iff call) trivial
  · exact along_congr (fun _ => True) (fun _ _ _ => trivial) (fun game flags _ => game.resultSeen_iff flags) trivial

/-- Player 1 clicks red and player 2 does nothing until the time is up. -/
def timesOut : List Call :=
  Call.ofMouse (some { lb := true, xOv := false, yOv := false, deltaX := 0, deltaY := 208 }) false ::
    List.replicate 5 (Call.ofMouse none true)

/-- A wrong click that comes together with an alarm. -/
def wrongClick : Flags :=
  (Call.ofMouse (some { lb := true, xOv := false, yOv := false, deltaX := -107, deltaY := -113 }) true).flags

/-- The client is to repeat the red button of the host. -/
def repeating : MpGame :=
  TwoPc.run (TwoPc.handshaken 3) [(.host, .input (.click .redB)), (.client, .receive), (.client, .receive)] .client

/-- The alarm that ends the game also leaves it, and so does an alarm together
with the click that ends it. -/
theorem results_skipped :
    ((Data.run Game.eventHandler (.confirm (.boot 0 fun _ => none) 3 1) timesOut).gameEnd = true ∧
      ¬ Along Game.eventHandler Game.ResultSeen (.confirm (.boot 0 fun _ => none) 3 1) timesOut) ∧
    (repeating.eventHandlerCall wrongClick).gameEnd = true ∧ ¬ repeating.ResultSeen wrongClick := by
  decide +kernel

end SimonVs
