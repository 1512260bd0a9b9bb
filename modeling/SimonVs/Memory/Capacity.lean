import SimonVs.Rules.Frame
import SimonVs.Rules.Simon

namespace SimonVs

open Data Memory Rules Serial

/-- How far the array is filled. -/
structure Memory.Extent where
  size : Nat
  maxSize : Nat
  capacity : Nat
  overruns : Nat
deriving DecidableEq, Repr

namespace Memory.Extent

def add (extent : Extent) : Extent :=
  { extent with
    size := extent.size + 1
    overruns := if extent.size < extent.capacity then extent.overruns else extent.overruns + 1 }

/-- No store has missed the array, and the next one would hit it or is the first
past the end. -/
def Safe (extent : Extent) : Prop := extent.size ≤ extent.maxSize ∧ extent.overruns = 0

instance (extent : Extent) : Decidable extent.Safe := inferInstanceAs (Decidable (_ ∧ _))

theorem safe_add {extent : Extent} (fits : extent.capacity = extent.maxSize) (safe : extent.Safe) :
    extent.add.Safe ↔ extent.size ≠ extent.maxSize := by
  obtain ⟨within, clean⟩ := safe
  constructor
  · intro added full
    have more : extent.size + 1 ≤ extent.maxSize := added.1
    omega
  · intro notFull
    have room : extent.size < extent.capacity := by omega
    refine ⟨?_, ?_⟩
    · change extent.size + 1 ≤ extent.maxSize
      omega
    · simp [add, room, clean]

/-- The array has the `rounds` elements that the maximum speaks of. -/
def Allocated (extent : Extent) (rounds : Nat) : Prop := extent.maxSize = rounds ∧ extent.capacity = rounds

theorem Allocated.click {extent : Extent} {rounds : Nat} (allocated : extent.Allocated rounds) (adds : Prop)
    [Decidable adds] : (if adds then extent.add else extent).Allocated rounds := by
  split
  · exact allocated
  · exact allocated

/-- A click adds a button when the sequence is reproduced or a VS window is
open, and the progress is not the maximum. -/
theorem safe_click_iff {extent : Extent} {rounds : Nat} (allocated : extent.Allocated rounds)
    (safe : extent.Safe) {clicks pressed : Prop} {guessed : Nat}
    [Decidable (clicks ∧ (guessed = extent.size ∨ pressed) ∧ guessed ≠ extent.maxSize)] :
    (if clicks ∧ (guessed = extent.size ∨ pressed) ∧ guessed ≠ extent.maxSize then extent.add
      else extent).Safe ↔
    ¬ (clicks ∧ pressed ∧ guessed ≠ extent.maxSize ∧ extent.size = extent.maxSize) := by
  have fits : extent.capacity = extent.maxSize := allocated.2.trans allocated.1.symm
  split
  · rename_i adds
    obtain ⟨clicked, first, notMax⟩ := adds
    rw [safe_add fits safe]
    constructor
    · intro notFull overfills
      exact notFull overfills.2.2.2
    · intro fine full
      rcases first with complete | window
      · exact notMax (complete.trans full)
      · exact fine ⟨clicked, window, notMax, full⟩
  · rename_i keeps
    constructor
    · intro _ overfills
      exact keeps ⟨overfills.1, .inr overfills.2.1, overfills.2.2.1⟩
    · intro _
      exact safe

end Memory.Extent

namespace Game

variable {game : Game} {click : ButtonClick} {rand : Nat}

def extent (game : Game) : Extent :=
  { size := game.buttonsSize, maxSize := game.maxButtonsSize
    capacity := game.buttons.capacity, overruns := game.buttons.overruns }

def Adds (game : Game) : Prop :=
  (game.guessed = game.buttonsSize ∨ game.vsWasPressed = true) ∧ game.guessed ≠ game.maxButtonsSize

instance (game : Game) : Decidable game.Adds := inferInstanceAs (Decidable (_ ∧ _))

theorem extent_clickButton (sound : game.Sound) (real : click ≠ .noButton) :
    (game.clickButton click rand).extent = if game.Adds then game.extent.add else game.extent := by
  rw [clickButton_eq sound real]
  cases found : game.play.verdict click with
  | matched | wrong =>
      obtain ⟨incomplete, closed, _⟩ := situation sound.within found
      have keeps : ¬ game.Adds := by simp [Adds, incomplete, closed]
      rw [if_neg keeps]
      rfl
  | tied =>
      obtain ⟨_, full⟩ := situation sound.within found
      have keeps : ¬ game.Adds := by simp [Adds, full]
      rw [if_neg keeps]
      rfl
  | opened =>
      obtain ⟨complete, _, notFull, _⟩ := situation sound.within found
      have adds : game.Adds := ⟨.inl complete, complete ▸ notFull⟩
      rw [if_pos adds]
      rfl
  | extended =>
      obtain ⟨pressed, notFull, _⟩ := situation sound.within found
      have adds : game.Adds := ⟨.inr pressed, notFull⟩
      rw [if_pos adds]
      rfl
  | appended =>
      obtain ⟨first, notFull, _⟩ := situation sound.within found
      have adds : game.Adds := ⟨first, notFull⟩
      rw [if_pos adds]
      rfl

def Clicks (game : Game) (input : Input) : Prop := game.gameEnd = false ∧ game.clickOf input ≠ .noButton

instance (game : Game) (input : Input) : Decidable (game.Clicks input) := inferInstanceAs (Decidable (_ ∧ _))

/-- A click inside a VS window finds the array full. -/
def Overfills (game : Game) (input : Input) : Prop :=
  game.Clicks input ∧ game.vsWasPressed = true ∧ game.guessed ≠ game.maxButtonsSize ∧
    game.buttonsSize = game.maxButtonsSize

instance (game : Game) (input : Input) : Decidable (game.Overfills input) :=
  inferInstanceAs (Decidable (_ ∧ _))

theorem extent_handleClick (sound : game.Sound) :
    (game.handleClick click rand).extent =
      if click ≠ .noButton ∧ game.Adds then game.extent.add else game.extent := by
  obtain ⟨screen, lit⟩ := lightButton_screen (game.clickButton click rand) click
  have same : (game.handleClick click rand).extent = (game.clickButton click rand).extent := by
    rw [handleClick, lit]
    rfl
  rw [same]
  by_cases real : click = .noButton
  · rw [if_neg (by simp [real])]
    simp only [clickButton, real, if_true]
    rfl
  · rw [extent_clickButton sound real]
    simp [real]

theorem extent_leaveIfEnded : game.leaveIfEnded.extent = game.extent := by
  unfold leaveIfEnded
  split
  · obtain ⟨mode, left⟩ := leave_mode { game with alarm := .everySecond }
    rw [left]
    rfl
  · rfl

theorem extent_countDown : (game.countDown rand).extent = game.extent := by
  unfold countDown
  split
  · rfl
  · split
    · rfl
    · split <;> rfl

theorem extent_handle (sound : game.Sound) (input : Input) :
    (game.handle input).extent =
      (if game.Clicks input ∧ game.Adds then game.extent.add else game.extent) ∧
    (game.handle input).Sound := by
  by_cases ended : game.gameEnd = true
  · have silent : ¬ game.Clicks input := by simp [Clicks, ended]
    rw [if_neg fun clicks => silent clicks.1]
    cases input with
    | click | mouse => simpa [handle, gameUpdateStatusMouse, ended] using sound
    | key press =>
        simp only [handle, gameUpdateStatusKey, ended, if_true]
        split
        · obtain ⟨mode, left⟩ := leave_mode game
          rw [left]
          exact ⟨rfl, sound.within, sound.window⟩
        · exact ⟨rfl, sound⟩
    | timer => exact ⟨rfl, sound.within, sound.window⟩
    | rtc rand =>
        exact ⟨extent_leaveIfEnded.trans extent_countDown, (play_gameUpdateStatusRtc sound).2⟩
  · have running : game.gameEnd = false := Bool.eq_false_iff.mpr ended
    cases input with
    | click click rand =>
        have clicks : game.Clicks (.click click rand) ↔ click ≠ .noButton := by simp [Clicks, clickOf, running]
        rw [handle, if_neg ended]
        refine ⟨?_, (play_handleClick sound).2⟩
        simp only [clicks]
        exact extent_handleClick sound
    | mouse packet rand =>
        have moved : Sound { game with mouse := game.mouse.update packet } := ⟨sound.within, sound.window⟩
        have clicks : game.Clicks (.mouse packet rand) ↔ (game.mouse.update packet).click ≠ .noButton := by
          simp [Clicks, clickOf, running]
        rw [handle, gameUpdateStatusMouse, if_neg ended]
        refine ⟨?_, (play_handleClick moved).2⟩
        simp only [clicks]
        exact extent_handleClick moved
    | key press =>
        rw [handle, gameUpdateStatusKey, if_neg ended]
        exact ⟨by simp [Clicks, clickOf], sound⟩
    | timer => exact ⟨by simp [handle, gameUpdateStatusTimer, Clicks, clickOf, extent], sound.within, sound.window⟩
    | rtc rand =>
        refine ⟨?_, (play_gameUpdateStatusRtc sound).2⟩
        rw [if_neg (by simp [Clicks, clickOf])]
        exact extent_leaveIfEnded.trans extent_countDown

theorem writes_within (game : Game) (rounds rand : Nat) (inputs : List Input) :
    (∀ done, done <+: inputs →
      (Data.run handle (game.resetGame rounds rand) done).maxButtonsSize = rounds ∧
      (Data.run handle (game.resetGame rounds rand) done).extent.Safe) ↔
    Along handle (fun game input => ¬ game.Overfills input) (game.resetGame rounds rand) inputs := by
  refine prefixes_safe_iff_along (fun game : Game => game.Sound ∧ game.extent.Allocated rounds)
    (fun game : Game => game.maxButtonsSize = rounds ∧ game.extent.Safe) ?_ ?_ ?_ ?_
  · intro state input holds _
    obtain ⟨extended, sound⟩ := extent_handle holds.1 input
    refine ⟨sound, ?_⟩
    rw [extended]
    exact holds.2.click _
  · intro state input holds safe
    obtain ⟨extended, _⟩ := extent_handle holds.1 input
    have allocated : (state.handle input).extent.Allocated rounds := by
      rw [extended]
      exact holds.2.click _
    have maxSize : (state.handle input).maxButtonsSize = rounds := allocated.1
    rw [and_iff_right maxSize, extended]
    exact Extent.safe_click_iff holds.2 safe.2
  · exact ⟨(play_resetGame game rounds).2, rfl, rfl⟩
  · exact ⟨rfl, Nat.zero_le _, rfl⟩

end Game

namespace MpGame

variable {game : MpGame} {click : ButtonClick}

def extent (game : MpGame) : Extent :=
  { size := game.buttonsSize, maxSize := game.maxButtonsSize
    capacity := game.buttons.capacity, overruns := game.buttons.overruns }

def Adds (game : MpGame) : Prop :=
  (game.guessed = game.buttonsSize ∨ game.vsWasPressed = true) ∧ game.guessed ≠ game.maxButtonsSize

instance (game : MpGame) : Decidable game.Adds := inferInstanceAs (Decidable (_ ∧ _))

theorem adds_of_verdict (within : game.guessed ≤ game.buttonsSize) {verdict : Verdict}
    (found : game.play.verdict click = verdict) :
    game.Adds ↔ verdict = .opened ∨ verdict = .extended ∨ verdict = .appended := by
  cases verdict with
  | matched | wrong =>
      obtain ⟨incomplete, closed, _⟩ := situation within found
      simp [Adds, incomplete, closed]
  | tied =>
      obtain ⟨_, full⟩ := situation within found
      simp [Adds, full]
  | opened =>
      obtain ⟨complete, _, notFull, _⟩ := situation within found
      simp [Adds, complete, notFull]
  | extended =>
      obtain ⟨pressed, notFull, _⟩ := situation within found
      simp [Adds, pressed, notFull]
  | appended =>
      obtain ⟨first, notFull, _⟩ := situation within found
      simp [Adds, first, notFull]

theorem extent_mpClickButton (within : game.guessed ≤ game.buttonsSize) (real : click ≠ .noButton) :
    (game.mpClickButton click).extent = if game.Adds then game.extent.add else game.extent := by
  rw [mpClickButton_eq within real]
  cases found : game.play.verdict click with
  | matched | wrong | tied =>
      have keeps : ¬ game.Adds := by simp [adds_of_verdict within found]
      rw [if_neg keeps]
      simp only [mpSendButton, mpGetWinner, mpSendWinner_eq, mpEndGame, sendOrQueue_eq, scored_eq]
      rfl
  | opened | extended | appended =>
      have adds : game.Adds := by simp [adds_of_verdict within found]
      rw [if_pos adds]
      simp only [mpAddButton, mpSendButton, mpChangePlayer_eq, sendOrQueue_eq, scored_eq]
      rfl

theorem extent_mpRemoteClickButton (within : game.guessed ≤ game.buttonsSize) :
    (game.mpRemoteClickButton click).extent = if game.Adds then game.extent.add else game.extent := by
  rw [mpRemoteClickButton_eq within]
  cases found : game.play.verdict click with
  | matched =>
      have keeps : ¬ game.Adds := by simp [adds_of_verdict within found]
      rw [if_neg keeps]
      rfl
  | wrong =>
      have keeps : ¬ game.Adds := by simp [adds_of_verdict within found]
      rw [if_neg keeps]
  | tied =>
      have keeps : ¬ game.Adds := by simp [adds_of_verdict within found]
      rw [if_neg keeps]
      simp only [mpEndGame, scored_eq]
      rfl
  | opened | extended | appended =>
      have adds : game.Adds := by simp [adds_of_verdict within found]
      rw [if_pos adds]
      simp only [mpAddButton, scored_eq]
      rfl

theorem extent_mpButtonsHandler (within : game.guessed ≤ game.buttonsSize) (real : click ≠ .noButton) :
    (game.mpButtonsHandler click).extent = if game.Adds then game.extent.add else game.extent := by
  by_cases mine : game.isHost = game.isPlayer1
  · obtain ⟨screen, seconds, handled⟩ := mpButtonsHandler_mine mine click
    rw [handled]
    exact extent_mpClickButton within real
  · obtain ⟨screen, seconds, handled⟩ := mpButtonsHandler_remote mine click
    rw [handled]
    exact extent_mpRemoteClickButton within

/-- What one PC of a running session is told. -/
inductive PcEvent where
  | input (input : Input)
  | uart (data : UInt8) (type : IntOrigin)
deriving DecidableEq, Repr

def happen (game : MpGame) : PcEvent → MpGame
  | .input input => game.handle input
  | .uart data type => game.mpGameUpdateStatusUart data type

def Clicks (game : MpGame) : PcEvent → Prop
  | .input input => game.Active ∧ game.clickOf input ≠ .noButton
  | .uart data type => type = .recData ∧ 3 ≤ data ∧ data ≤ 8

instance (game : MpGame) : (event : PcEvent) → Decidable (game.Clicks event)
  | .input _ => inferInstanceAs (Decidable (_ ∧ _))
  | .uart _ _ => inferInstanceAs (Decidable (_ ∧ _ ∧ _))

/-- A click inside a VS window finds the array full. -/
def Overfills (game : MpGame) (event : PcEvent) : Prop :=
  game.Clicks event ∧ game.vsWasPressed = true ∧ game.guessed ≠ game.maxButtonsSize ∧
    game.buttonsSize = game.maxButtonsSize

instance (game : MpGame) (event : PcEvent) : Decidable (game.Overfills event) :=
  inferInstanceAs (Decidable (_ ∧ _))

theorem byteButton_real {data : UInt8} (low : 3 ≤ data) (high : data ≤ 8) : byteButton data ≠ .noButton := by
  have lowNat : 3 ≤ data.toNat := low
  have highNat : data.toNat ≤ 8 := high
  have values : ∀ value, 3 ≤ value → value ≤ 8 → ButtonClick.ofValue (value - 3) ≠ .noButton := by
    intro value low high
    obtain rfl | rfl | rfl | rfl | rfl | rfl :
        value = 3 ∨ value = 4 ∨ value = 5 ∨ value = 6 ∨ value = 7 ∨ value = 8 := by omega
    all_goals decide
  exact values data.toNat lowNat highNat

theorem extent_playGame (within : game.guessed ≤ game.buttonsSize) (data : UInt8) :
    (game.playGame data).extent =
      if (3 ≤ data ∧ data ≤ 8) ∧ game.Adds then game.extent.add else game.extent := by
  unfold playGame
  by_cases button : 3 ≤ data ∧ data ≤ 8
  · rw [if_pos button, extent_mpButtonsHandler within (byteButton_real button.1 button.2)]
    simp [button]
  · have keeps : ¬ ((3 ≤ data ∧ data ≤ 8) ∧ game.Adds) := fun adds => button adds.1
    rw [if_neg button, if_neg keeps]
    repeat' split
    all_goals rfl

theorem extent_leaveIfEnded : game.leaveIfEnded.extent = game.extent := by
  unfold leaveIfEnded
  split
  · obtain ⟨mode, left⟩ := leave_mode { game with alarm := .everySecond }
    rw [left]
    rfl
  · rfl

theorem extent_mpGameUpdateStatusRtc : game.mpGameUpdateStatusRtc.extent = game.extent := by
  unfold mpGameUpdateStatusRtc
  split
  · split
    · simp only [mpGetWinner, mpSendWinner_eq, mpEndGame, sendOrQueue_eq]
      rfl
    · split
      · rw [extent_leaveIfEnded, mpChangePlayer_eq, sendOrQueue_eq]
        rfl
      · split
        · exact extent_leaveIfEnded
        · exact extent_leaveIfEnded
  · exact extent_leaveIfEnded

theorem extent_handleClick (within : game.guessed ≤ game.buttonsSize) (mine : game.isHost = game.isPlayer1) :
    (game.handleClick click).extent =
      if click ≠ .noButton ∧ game.Adds then game.extent.add else game.extent := by
  rw [handleClick, if_pos mine]
  by_cases real : click = .noButton
  · rw [if_neg (by simp [real])]
    simp only [mpButtonsHandler, mine, real, mpClickButton, ne_eq, not_true_eq_false, if_true, if_false]
    rfl
  · rw [extent_mpButtonsHandler within real]
    simp [real]

theorem extent_handle (started : game.gameStarted = true) (within : game.guessed ≤ game.buttonsSize)
    (input : Input) :
    (game.handle input).extent =
      if (game.Active ∧ game.clickOf input ≠ .noButton) ∧ game.Adds then game.extent.add else game.extent := by
  by_cases active : game.Active
  · have alive : ¬ game.gameEnd = true := by simp [active.2.1]
    have mine := active.2.2
    simp only [active, true_and]
    cases input with
    | click button =>
        rw [handle, localClick, if_neg alive, if_pos started]
        exact extent_handleClick within mine
    | mouse packet =>
        rw [handle, mpGameUpdateStatusMouse, if_neg alive, if_pos started]
        exact @extent_handleClick { game with mpMouse := game.mpMouse.update packet }
          (game.mpMouse.update packet).click within mine
    | key press =>
        rw [handle, mpGameUpdateStatusKey, if_neg alive]
        simp [clickOf]
    | timer =>
        rw [handle, mpGameUpdateStatusTimer]
        dsimp only
        split <;> simp [clickOf, extent]
    | rtc =>
        rw [handle, extent_mpGameUpdateStatusRtc]
        simp [clickOf]
  · obtain ⟨_, _, _, _, _, handled, _⟩ := idles_handle started active input
    rw [handled, if_neg fun adds => active adds.1.1]
    rfl

theorem extent_happen (started : game.gameStarted = true) (within : game.guessed ≤ game.buttonsSize)
    (event : PcEvent) :
    (game.happen event).extent =
      if game.Clicks event ∧ game.Adds then game.extent.add else game.extent := by
  cases event with
  | input input => exact extent_handle started within input
  | uart data type =>
      cases type with
      | recData =>
          simp only [happen, mpGameUpdateStatusUart, started, Bool.not_true, Bool.false_eq_true, if_false,
            Clicks, true_and]
          exact extent_playGame within data
      | transEmpty =>
          have silent : ¬ (game.Clicks (.uart data .transEmpty) ∧ game.Adds) := by simp [Clicks]
          rw [if_neg silent]
          simp only [happen, mpGameUpdateStatusUart, started, Bool.not_true, Bool.false_eq_true, if_false]
          split <;> rfl
      | modStat | lineStat | charTimeout | reserved =>
          rw [if_neg (by simp [Clicks])]
          rfl

theorem frame_happen (started : game.gameStarted = true) (within : game.guessed ≤ game.buttonsSize)
    (event : PcEvent) : game.Frame (game.happen event) := by
  cases event with
  | input input => exact frame_handle within input
  | uart data type => exact frame_mpGameUpdateStatusUart started within data type

theorem writes_within (game : MpGame) (rounds : Nat) (events : List PcEvent) :
    (∀ done, done <+: events →
      (Data.run happen { game.mpResetGame rounds with gameStarted := true } done).maxButtonsSize = rounds ∧
      (Data.run happen { game.mpResetGame rounds with gameStarted := true } done).extent.Safe) ↔
    Along happen (fun game event => ¬ game.Overfills event)
      { game.mpResetGame rounds with gameStarted := true } events := by
  refine prefixes_safe_iff_along
    (fun game : MpGame => (game.gameStarted = true ∧ game.guessed ≤ game.buttonsSize) ∧
      game.extent.Allocated rounds)
    (fun game : MpGame => game.maxButtonsSize = rounds ∧ game.extent.Safe) ?_ ?_ ?_ ?_
  · intro state event holds _
    have extended := extent_happen holds.1.1 holds.1.2 event
    have frame := frame_happen holds.1.1 holds.1.2 event
    refine ⟨⟨frame.gameStarted.trans holds.1.1, frame.within⟩, ?_⟩
    rw [extended]
    exact holds.2.click _
  · intro state event holds safe
    have extended := extent_happen holds.1.1 holds.1.2 event
    have allocated : (state.happen event).extent.Allocated rounds := by
      rw [extended]
      exact holds.2.click _
    have maxSize : (state.happen event).maxButtonsSize = rounds := allocated.1
    rw [and_iff_right maxSize, extended]
    exact Extent.safe_click_iff holds.2 safe.2
  · exact ⟨⟨rfl, Nat.zero_le _⟩, rfl, rfl⟩
  · exact ⟨rfl, Nat.zero_le _, rfl⟩

end MpGame

/-- Both games write inside the array in every state of a run precisely if no
click of the run overfills it. -/
theorem array_written_within (rounds : Nat) :
    (∀ (game : Game) (rand : Nat) (inputs : List Game.Input),
      (∀ done, done <+: inputs →
        (Data.run Game.handle (game.resetGame rounds rand) done).maxButtonsSize = rounds ∧
        (Data.run Game.handle (game.resetGame rounds rand) done).extent.Safe) ↔
      Along Game.handle (fun game input => ¬ game.Overfills input) (game.resetGame rounds rand) inputs) ∧
    (∀ (game : MpGame) (events : List MpGame.PcEvent),
      (∀ done, done <+: events →
        (Data.run MpGame.happen { game.mpResetGame rounds with gameStarted := true } done).maxButtonsSize =
          rounds ∧
        (Data.run MpGame.happen { game.mpResetGame rounds with gameStarted := true } done).extent.Safe) ↔
      Along MpGame.happen (fun game event => ¬ game.Overfills event)
        { game.mpResetGame rounds with gameStarted := true } events) :=
  ⟨fun game rand inputs => Game.writes_within game rounds rand inputs,
    fun game events => MpGame.writes_within game rounds events⟩

/-- One round, and a VS window with one more click in it: the second button is
written behind the one-element array, in both games. -/
theorem array_overrun :
    ¬ (Data.run Game.handle ((Game.boot 0 fun _ => none).resetGame 1 0)
      [.click .vsB 0, .click .redB 0]).extent.Safe ∧
    ¬ (Data.run MpGame.happen
      { (MpGame.boot (.idle true) 0 fun _ => none).hostMpGame 1 with gameStarted := true }
      [.input (.click .vsB), .input (.click .redB)]).extent.Safe := by
  decide

end SimonVs
