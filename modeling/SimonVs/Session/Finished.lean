import SimonVs.Loop.Dispatch
import SimonVs.Memory.Capacity

namespace SimonVs

open Data Memory Serial

namespace MpGame

variable {game : MpGame} {click : ButtonClick}

/-- What the end of a game leaves behind: its result, the sequence, and what was
sent or freed. -/
structure Outcome where
  ws : Winners
  sequence : List Cell
  buttonsSize : Nat
  guessed : Nat
  playerScore : Nat
  isPlayer1 : Bool
  written : List UInt8
  waiting : Option UInt8
  frees : Nat
deriving DecidableEq, Repr

def outcome (game : MpGame) : Outcome where
  ws := game.ws
  sequence := game.buttons.firstCells game.buttonsSize
  buttonsSize := game.buttonsSize
  guessed := game.guessed
  playerScore := game.playerScore
  isPlayer1 := game.isPlayer1
  written := game.uart.written
  waiting := if game.uartHasDataToSend then some game.uartData else none
  frees := game.buttons.frees

/-- A notification for an ended game. If it is one of the UART, then for a received
byte. -/
structure Late extends Flags where
  received : uartInterrupt = true → uartTypeInterrupt = .recData

/-- A whole call of `event_handler`, which looks at the mode only once. On another screen
the notification does not reach the game, unless it sets up the next one. -/
def handleLate (game : MpGame) (late : Late) : MpGame := game.eventHandlerCall late.toFlags

/-- A button of the other player that is neither the next one of the sequence
nor appended to it. -/
def IgnoresButton (game : MpGame) (click : ButtonClick) : Prop :=
  game.isHost ≠ game.isPlayer1 ∧ game.guessed ≠ game.buttonsSize ∧ game.vsWasPressed = false ∧
    game.buttons.cells game.guessed ≠ some click

instance (game : MpGame) (click : ButtonClick) : Decidable (game.IgnoresButton click) :=
  inferInstanceAs (Decidable (_ ∧ _ ∧ _ ∧ _))

/-- The byte means something to `play_game`, which does not ask for `game_end` as the
handlers of the mouse and of the RTC do: a button, a turn, a loss or the value of
`TIE`. -/
def TakesByte (game : MpGame) (data : UInt8) : Prop :=
  (2 ≤ data ∧ data ≤ 12) ∧ ¬ ((3 ≤ data ∧ data ≤ 8) ∧ game.IgnoresButton (byteButton data))

instance (game : MpGame) (data : UInt8) : Decidable (game.TakesByte data) := inferInstanceAs (Decidable (_ ∧ _))

/-- The call brings a byte that changes the result of the game. An alarm or a key
that comes with it may leave the screen, but `event_handler` goes on. -/
def Disturbs (game : MpGame) (late : Late) : Prop :=
  game.mode = .mpGame ∧ late.uartInterrupt = true ∧ game.TakesByte late.dataPacket

instance (game : MpGame) (late : Late) : Decidable (game.Disturbs late) :=
  inferInstanceAs (Decidable (_ ∧ _ ∧ _))

/-- A click ends the game again, adds a button or counts as a correct one. -/
theorem mpClickButton_marks (real : click ≠ .noButton) :
    (game.mpClickButton click).buttons.frees = game.buttons.frees + 1 ∨
    (game.mpClickButton click).buttonsSize = game.buttonsSize + 1 ∨
    (game.mpClickButton click).guessed = game.guessed + 1 := by
  have score := @scored_eq game
  unfold scored at score
  unfold mpClickButton
  rw [if_neg real]
  split
  · simp only [score]
    split
    · refine .inl ?_
      simp only [mpSendWinner_eq, mpEndGame, sendOrQueue_eq]
      rfl
    · refine .inr (.inl ?_)
      split
      · split
        · simp only [mpAddButton, mpSendButton, sendOrQueue_eq]
        · split
          · simp only [mpAddButton, mpSendButton, sendOrQueue_eq]
          · simp only [mpAddButton, mpSendButton, mpChangePlayer_eq, sendOrQueue_eq]
      · simp only [mpAddButton, mpSendButton, mpChangePlayer_eq, sendOrQueue_eq]
  · split
    · refine .inr (.inr ?_)
      simp only
      split <;> rfl
    · refine .inl ?_
      simp only [mpGetWinner, mpSendWinner_eq, mpEndGame, sendOrQueue_eq]
      rfl

theorem mpRemoteClickButton_marks (notIgnored : ¬ (game.guessed ≠ game.buttonsSize ∧ game.vsWasPressed = false ∧
      game.buttons.cells game.guessed ≠ some click)) :
    (game.mpRemoteClickButton click).buttons.frees = game.buttons.frees + 1 ∨
    (game.mpRemoteClickButton click).buttonsSize = game.buttonsSize + 1 ∨
    (game.mpRemoteClickButton click).guessed = game.guessed + 1 := by
  have score := @scored_eq game
  unfold scored at score
  unfold mpRemoteClickButton
  split
  · simp only [score]
    split
    · exact .inl rfl
    · refine .inr (.inl ?_)
      split
      · split
        · rfl
        · split <;> rfl
      · rfl
  · rename_i incomplete
    split
    · exact .inr (.inr rfl)
    · rename_i different
      simp only [not_or, Bool.not_eq_true] at incomplete
      exact absurd ⟨incomplete.1, incomplete.2, different⟩ notIgnored

theorem mpRemoteClickButton_ignores (ignores : game.IgnoresButton click) :
    game.mpRemoteClickButton click = game := by
  obtain ⟨_, incomplete, closed, different⟩ := ignores
  simp [mpRemoteClickButton, incomplete, closed, different]

theorem outcome_ne_of_marks {after : MpGame}
    (marks : after.buttons.frees = game.buttons.frees + 1 ∨ after.buttonsSize = game.buttonsSize + 1 ∨
      after.guessed = game.guessed + 1) :
    after.outcome ≠ game.outcome := by
  intro same
  obtain freed | added | matched := marks
  · have frees : after.buttons.frees = game.buttons.frees := congrArg Outcome.frees same
    omega
  · have size : after.buttonsSize = game.buttonsSize := congrArg Outcome.buttonsSize same
    omega
  · have guessed : after.guessed = game.guessed := congrArg Outcome.guessed same
    omega

theorem outcome_mpButtonsHandler_iff (real : click ≠ .noButton) :
    (game.mpButtonsHandler click).outcome = game.outcome ↔ game.IgnoresButton click := by
  by_cases mine : game.isHost = game.isPlayer1
  · obtain ⟨screen, seconds, handled⟩ := mpButtonsHandler_mine mine click
    rw [handled]
    exact iff_of_false (outcome_ne_of_marks (mpClickButton_marks real)) fun ignores => ignores.1 mine
  · obtain ⟨screen, seconds, handled⟩ := mpButtonsHandler_remote mine click
    rw [handled]
    by_cases ignores : game.IgnoresButton click
    · rw [mpRemoteClickButton_ignores ignores]
      exact iff_of_true rfl ignores
    · refine iff_of_false (outcome_ne_of_marks (mpRemoteClickButton_marks ?_)) ignores
      exact fun rest => ignores ⟨mine, rest⟩

theorem outcome_ne_of_turn {after : MpGame} (turned : after.isPlayer1 = !game.isPlayer1) :
    after.outcome ≠ game.outcome := by
  intro same
  have turn : after.isPlayer1 = game.isPlayer1 := congrArg Outcome.isPlayer1 same
  rw [turned] at turn
  exact (Bool.not_eq_self _).mp turn

theorem known_byte {data : UInt8} (low : 2 ≤ data) (high : data ≤ 12) :
    (3 ≤ data ∧ data ≤ 8) ∨ data = 9 ∨ data = 10 ∨ data = 11 ∨ data = 12 ∨ data = 2 := by
  have lowNat : 2 ≤ data.toNat := low
  have highNat : data.toNat ≤ 12 := high
  simp only [← UInt8.toNat_inj, UInt8.le_iff_toNat_le]
  simp only [UInt8.toNat_ofNat]
  omega

theorem known_of_button {data : UInt8} (button : 3 ≤ data ∧ data ≤ 8) : 2 ≤ data ∧ data ≤ 12 :=
  ⟨UInt8.le_trans (by decide) button.1, UInt8.le_trans button.2 (by decide)⟩

theorem outcome_playGame_iff (data : UInt8) :
    (game.playGame data).outcome = game.outcome ↔ ¬ game.TakesByte data := by
  unfold playGame TakesByte
  by_cases button : 3 ≤ data ∧ data ≤ 8
  · rw [if_pos button, outcome_mpButtonsHandler_iff (byteButton_real button.1 button.2)]
    simp [button, known_of_button button]
  · have unused : ¬ ((3 ≤ data ∧ data ≤ 8) ∧ game.IgnoresButton (byteButton data)) := fun used => button used.1
    rw [if_neg button, and_iff_left unused]
    split
    · rename_i same
      exact iff_of_false (outcome_ne_of_turn rfl) (not_not_intro (by rw [same]; decide))
    · split
      · rename_i same
        exact iff_of_false (outcome_ne_of_turn rfl) (not_not_intro (by rw [same]; decide))
      · split
        · rename_i same
          exact iff_of_false (outcome_ne_of_turn rfl) (not_not_intro (by rw [same]; decide))
        · split
          · rename_i same
            exact iff_of_false (outcome_ne_of_marks (.inl rfl)) (not_not_intro (by rw [same]; decide))
          · split
            · rename_i same
              exact iff_of_false (outcome_ne_of_marks (.inl rfl)) (not_not_intro (by rw [same]; decide))
            · rename_i isVs isNotVs ready lose tie
              refine iff_of_true rfl fun range => ?_
              obtain isButton | rfl | rfl | rfl | rfl | rfl := known_byte range.1 range.2
              · exact button isButton
              · exact isVs rfl
              · exact isNotVs rfl
              · exact ready rfl
              · exact lose rfl
              · exact tie rfl

/-- Ended, and not prepared for another game. -/
structure Over (game : MpGame) : Prop where
  started : game.gameStarted = true
  ended : game.gameEnd = true

theorem Over.idles (isOver : game.Over) (input : Input) : game.Idles (game.handle input) := by
  refine idles_handle isOver.started ?_ input
  intro active
  exact Bool.false_ne_true (active.2.1.symm.trans isOver.ended)

theorem outcome_idles {after : MpGame} (idles : game.Idles after) : after.outcome = game.outcome := by
  obtain ⟨mouse, screen, seconds, mode, alarm, rfl, _⟩ := idles
  rfl

theorem Over.of_idles {after : MpGame} (isOver : game.Over) (idles : game.Idles after) :
    after.Over := by
  obtain ⟨mouse, screen, seconds, mode, alarm, rfl, _⟩ := idles
  exact ⟨isOver.started, isOver.ended⟩

theorem takesByte_idles {after : MpGame} (idles : game.Idles after) (data : UInt8) :
    after.TakesByte data ↔ game.TakesByte data := by
  obtain ⟨mouse, screen, seconds, mode, alarm, rfl, _⟩ := idles
  exact Iff.rfl

/-- The local handlers of a call see the end of the game. -/
theorem Over.idles_run (isOver : game.Over) (inputs : List Input) : game.Idles (Data.run handle game inputs) := by
  refine run_invariant game.Idles ?_ (Idles.refl game) along_true
  intro later input idles _
  exact idles.trans ((isOver.of_idles idles).idles input)

/-- What is left of a call is its byte. -/
theorem Over.handleLate_eq (isOver : game.Over) (playing : game.mode = .mpGame) (late : Late) :
    ∃ after, game.Idles after ∧
      game.handleLate late = if late.uartInterrupt then after.playGame late.dataPacket else after := by
  have idles := isOver.idles_run (MpGame.inputs late.toFlags)
  refine ⟨_, idles, ?_⟩
  rw [handleLate, eventHandlerCall_eq playing]
  split
  · rename_i interrupt
    have started := (isOver.of_idles idles).started
    simp [mpGameUpdateStatusUart, late.received interrupt, started]
  · rfl

theorem handleLate_elsewhere (elsewhere : game.mode ≠ .mpGame) (late : Late) : game.handleLate late = game := by
  rw [handleLate, eventHandlerCall, if_neg elsewhere]

theorem Over.outcome_handleLate_iff (isOver : game.Over) (late : Late) :
    (game.handleLate late).outcome = game.outcome ↔ ¬ game.Disturbs late := by
  by_cases playing : game.mode = .mpGame
  · obtain ⟨after, idles, handled⟩ := isOver.handleLate_eq playing late
    rw [handled, Disturbs, and_iff_right playing, ← outcome_idles idles]
    by_cases interrupt : late.uartInterrupt = true
    · rw [if_pos interrupt, outcome_playGame_iff, takesByte_idles idles, and_iff_right interrupt]
    · rw [if_neg interrupt]
      exact iff_of_true rfl fun disturbs => interrupt disturbs.1
  · rw [handleLate_elsewhere playing]
    exact iff_of_true rfl fun disturbs => playing disturbs.1

theorem Over.playGame (isOver : game.Over) {data : UInt8} (harmless : ¬ game.TakesByte data) :
    (game.playGame data).Over := by
  unfold MpGame.playGame
  by_cases button : 3 ≤ data ∧ data ≤ 8
  · have ignores : game.IgnoresButton (byteButton data) := by
      by_contra answers
      exact harmless ⟨known_of_button button, fun ignored => answers ignored.2⟩
    obtain ⟨screen, seconds, handled⟩ := mpButtonsHandler_remote ignores.1 (byteButton data)
    rw [if_pos button, handled, mpRemoteClickButton_ignores ignores]
    exact ⟨isOver.started, isOver.ended⟩
  · rw [if_neg button]
    repeat' split
    all_goals first
      | exact ⟨isOver.started, isOver.ended⟩
      | exact ⟨isOver.started, rfl⟩

theorem Over.handleLate (isOver : game.Over) {late : Late} (harmless : ¬ game.Disturbs late) :
    (game.handleLate late).Over := by
  by_cases playing : game.mode = .mpGame
  · obtain ⟨after, idles, handled⟩ := isOver.handleLate_eq playing late
    rw [handled]
    split
    · rename_i interrupt
      refine (isOver.of_idles idles).playGame fun takes => harmless ⟨playing, interrupt, ?_⟩
      exact (takesByte_idles idles late.dataPacket).mp takes
    · exact isOver.of_idles idles
  · rw [handleLate_elsewhere playing]
    exact isOver

/-- An ended game keeps its result in every state of a run, precisely when no
notification brings a byte to its screen that means something to `play_game`. -/
theorem frozen_iff (started : game.gameStarted = true) (ended : game.gameEnd = true) (notifications : List Late) :
    (∀ done, done <+: notifications → (Data.run MpGame.handleLate game done).outcome = game.outcome) ↔
    Along MpGame.handleLate (fun game late => ¬ game.Disturbs late) game notifications := by
  refine prefixes_safe_iff_along Over (fun later => later.outcome = game.outcome) ?_ ?_ ⟨started, ended⟩ rfl
  · intro state late isOver harmless
    exact isOver.handleLate harmless
  · intro state late isOver same
    rw [← same]
    exact isOver.outcome_handleLate_iff late

/-- The host has clicked a button and the client has lost. -/
def hostWon : MpGame :=
  ((TwoPc.handshaken 3 .host).eventHandler (.click .redB)).uartNotification Coms.lose.toByte .recData

def Late.of (data : Option UInt8) (packet : Option Packet) (alarm : Bool) : Late :=
  { (Call.ofMouse packet alarm).flags with
    uartInterrupt := data.isSome, uartTypeInterrupt := .recData, dataPacket := data.getD 0, received := fun _ => rfl }

/-- A wrong button of the client, a packet, and the byte of a tie together with the
alarm do nothing to the result; on the next screen no byte does. -/
def lateNotifications : List Late :=
  [.of (some (buttonByte .blueB)) none false,
    .of none (some { lb := true, xOv := false, yOv := false, deltaX := 0, deltaY := 0 }) false,
    .of (some Coms.tieRemote.toByte) none true, .of (some Coms.lose.toByte) none false]

theorem frozen_hostWon :
    hostWon.gameStarted = true ∧ hostWon.gameEnd = true ∧
    (Data.run MpGame.handleLate hostWon lateNotifications).outcome = hostWon.outcome :=
  ⟨by decide, by decide,
    (frozen_iff (by decide) (by decide) lateNotifications).mpr (by decide) lateNotifications List.prefix_rfl⟩

/-- The client connects again before the screen is left or in the call that leaves
it: `CONNECTED` has the value of `TIE`, and the array is freed once more. -/
theorem reconnect_overwrites :
    hostWon.gameStarted = true ∧ hostWon.gameEnd = true ∧ hostWon.ws = .winner1 ∧ hostWon.buttons.frees = 1 ∧
    (hostWon.handleLate (.of (some Coms.connected.toByte) none false)).ws = .tie ∧
    (hostWon.handleLate (.of (some Coms.connected.toByte) none false)).buttons.frees = 2 ∧
    (hostWon.handleLate (.of (some Coms.connected.toByte) none true)).ws = .tie ∧
    (hostWon.handleLate (.of (some Coms.connected.toByte) none true)).buttons.frees = 2 := by
  decide

end MpGame

end SimonVs
