import SimonVs.Screens.HighScore

namespace SimonVs

open Data

namespace HighScore

variable {width : XpmImage → UInt16} {screen : HighScore}

/-- What holds during a visit that found no name. -/
def Visiting (screen : HighScore) : Prop := screen.mode = .highscore → screen.Named

theorem Visiting.enterName (holds : screen.Named) (date : RtcDate) (uninitialised : Chars) :
    (screen.enterName date uninitialised).1.Visiting := by
  unfold HighScore.enterName
  split
  · exact fun visiting => nomatch visiting
  · exact fun _ => holds

/-- A key keeps string and box together, or it ends the visit. -/
theorem Visiting.eventHandler (holds : screen.Visiting) (typed : Typed) :
    (screen.eventHandler width typed).1.Visiting := by
  unfold HighScore.eventHandler
  split
  · rename_i visiting
    have named := holds visiting
    rcases highscoreUpdateStatus_cases width screen typed with
      ⟨_, _, same⟩ | ⟨_, _, entered⟩ | ⟨_, _, alpha, added⟩ | ⟨_, _, deleted⟩
    · rw [same]
      exact holds
    · rw [entered]
      exact .enterName named typed.date typed.uninitialised
    · rw [added]
      exact fun _ => (named.typeChar alpha).1
    · rw [deleted]
      exact fun _ => named.deleteChar
  · exact holds

/-- No BACKSPACE for the empty name and no ENTER for another one. -/
def Careful (screen : HighScore) (typed : Typed) : Prop :=
  screen.mode = .highscore →
    ¬ (typed.Releases (UInt8.ofNat backspace) ∧ screen.player.text = []) ∧
    ¬ (typed.Releases (UInt8.ofNat enter) ∧ screen.player.text ≠ [])

instance (screen : HighScore) (typed : Typed) : Decidable (screen.Careful typed) :=
  inferInstanceAs (Decidable (_ → _))

theorem Visiting.inside_iff (holds : screen.Visiting) (typed : Typed) :
    Inside Buffer.size (screen.eventHandler width typed).2 ↔ screen.Careful typed := by
  unfold HighScore.eventHandler Careful
  split
  · rename_i visiting
    have named := holds visiting
    rcases highscoreUpdateStatus_cases width screen typed with
      ⟨noEnter, noBackspace, same⟩ | ⟨isEnter, noBackspace, entered⟩ | ⟨noEnter, noBackspace, alpha, added⟩ |
        ⟨noEnter, isBackspace, deleted⟩
    · rw [same]
      simp [noEnter, noBackspace]
    · rw [entered, named.inside_enterName]
      simp [visiting, isEnter, noBackspace]
    · rw [added]
      simp [noEnter, noBackspace, (named.typeChar alpha).2]
    · rw [deleted, named.inside_deleteChar]
      simp [visiting, noEnter, isBackspace]
  · rename_i elsewhere
    simp [elsewhere]

/-- In a visit that starts with no name, all characters that are touched belong
to their arrays precisely when no BACKSPACE meets the empty name and the name
is never confirmed. -/
theorem inside_iff_careful (empty : screen.player.text = []) (width : XpmImage → UInt16) (score : Int)
    (uninitialised : Vector XpmImage 20) (keys : List Typed) :
    (∀ accesses ∈ answers (eventHandler width) (screen.openScreen score uninitialised) keys,
      Inside Buffer.size accesses) ↔
    Along (fun screen typed => (screen.eventHandler width typed).1) Careful
      (screen.openScreen score uninitialised) keys := by
  rw [answers_forall]
  refine along_congr Visiting (fun _ typed holds => holds.eventHandler typed)
    (fun _ typed holds => holds.inside_iff typed) ?_
  exact fun _ => named_open.mpr empty

/-- Images of one width, and a box that has never been used. -/
def fixedWidth (_ : XpmImage) : UInt16 := 42

def unusedImages : Vector XpmImage 20 := .replicate 20 (.letter 26)

/-- A key that is released on the second of November. -/
def released (keyChar : Nat) : Typed :=
  { key := { key := keyChar, down := false }
    date := { day := 2, month := 11, year := 20, dayRange := by decide, monthRange := by decide, yearRange := by decide }
    uninitialised := .replicate 11 0 }

def boot (board : Leaderboard) (newHiscore : TextBox) : HighScore :=
  { player := .replicate 11 0, newHiscore, board, mode := .menu }

def bootShipped : HighScore := boot .shipped (.createWriteableTextBox 0 0 0 0 0 unusedImages)

/-- Two letters, of which one is deleted again. -/
theorem inside_typing :
    bootShipped.player.text = [] ∧
    ∀ accesses ∈ answers (eventHandler fixedWidth) (bootShipped.openScreen 300 unusedImages)
      [released 'a'.toNat, released 'b'.toNat, released backspace],
      Inside Buffer.size accesses :=
  ⟨by decide, (@inside_iff_careful bootShipped (by decide) fixedWidth 300 unusedImages
    [released 'a'.toNat, released 'b'.toNat, released backspace]).mpr (by decide +kernel)⟩

def touched (keys : List Typed) : List (List (Access Buffer)) :=
  answers (eventHandler fixedWidth) (bootShipped.openScreen 300 unusedImages) keys

/-- BACKSPACE as the first key writes before the array, and a name of one letter
that is confirmed has the date copied from behind its block. -/
theorem outside_touched :
    bootShipped.player.text = [] ∧
    { buffer := .player, index := -1 } ∈ (touched [released backspace]).flatten ∧
    { buffer := .block, index := 10 } ∈ (touched [released 'a'.toNat, released enter]).flatten ∧
    (¬ ∀ accesses ∈ touched [released backspace], Inside Buffer.size accesses) ∧
    ¬ ∀ accesses ∈ touched [released 'a'.toNat, released enter], Inside Buffer.size accesses := by
  decide +kernel

inductive Visit where
  | opens (score : Int) (uninitialised : Vector XpmImage 20)
  | types (typed : Typed)

/-- `checkNewHiScore` runs in the modes of the games only. -/
def visit (width : XpmImage → UInt16) (screen : HighScore) : Visit → HighScore
  | .opens score uninitialised =>
      if screen.mode = .highscore then screen else screen.openScreen score uninitialised
  | .types typed => (screen.eventHandler width typed).1

/-- During a visit the string is what the box shows, and ENTER files that name. -/
def Faithful (width : XpmImage → UInt16) (screen : HighScore) : Prop :=
  screen.mode = .highscore →
    screen.player.text = screen.newHiscore.held.map XpmImage.shown ∧
    (screen.player.text.length : Int) = screen.newHiscore.charSize ∧ screen.newHiscore.charSize ≤ 10 ∧
    ∀ typed, typed.Releases (UInt8.ofNat enter) → screen.player.text ≠ [] →
      ∃ name date, (screen.eventHandler width typed).1.board = screen.board.confirmName name date ∧
        name.text = screen.newHiscore.held.map XpmImage.shown

def FindsNoName (screen : HighScore) : Visit → Prop
  | .opens _ _ => screen.mode ≠ .highscore → screen.player.text = []
  | .types _ => True

theorem Visiting.faithful (holds : screen.Visiting) : screen.Faithful width := by
  intro visiting
  have named := holds visiting
  have size := named.strlen_eq
  have small := named.strlen_le
  refine ⟨named.same, size, by omega, fun typed isEnter nonempty => ?_⟩
  refine ⟨screen.player, (getDate typed.date typed.uninitialised).1, ?_, named.same⟩
  rcases highscoreUpdateStatus_cases width screen typed with
    ⟨noEnter, _⟩ | ⟨_, _, entered⟩ | ⟨noEnter, _⟩ | ⟨noEnter, _⟩
  · exact absurd isEnter noEnter
  · have filled : screen.strlen ≠ 0 := List.length_eq_zero_iff.not.mpr nonempty
    rw [HighScore.eventHandler, if_pos visiting, entered, HighScore.enterName, if_pos filled]
  · exact absurd isEnter noEnter
  · exact absurd isEnter noEnter

theorem Visiting.visit (holds : screen.Visiting) {event : Visit} (good : screen.FindsNoName event) :
    (screen.visit width event).Visiting := by
  cases event with
  | opens score uninitialised =>
      by_cases visiting : screen.mode = .highscore
      · rw [HighScore.visit, if_pos visiting]
        exact holds
      · rw [HighScore.visit, if_neg visiting]
        exact fun _ => named_open.mpr (good visiting)
  | types typed => exact holds.eventHandler typed

theorem visiting_boot (board : Leaderboard) (newHiscore : TextBox) : (boot board newHiscore).Visiting :=
  fun visiting => nomatch visiting

/-- In any number of visits, the string is always what the box shows precisely
when every visit finds the string empty. -/
theorem names_shown_iff (width : XpmImage → UInt16) (board : Leaderboard) (newHiscore : TextBox)
    (events : List Visit) :
    (∀ done, done <+: events → Faithful width (run (visit width) (boot board newHiscore) done)) ↔
      Along (visit width) FindsNoName (boot board newHiscore) events := by
  refine prefixes_safe_iff_along Visiting (Faithful width) (fun _ _ holds good => holds.visit good) ?_
    (visiting_boot board newHiscore) (visiting_boot board newHiscore).faithful
  intro screen event holds _
  refine ⟨fun faithful => ?_, fun good => (holds.visit good).faithful⟩
  cases event with
  | opens score uninitialised =>
      intro elsewhere
      rw [HighScore.visit, if_neg elsewhere] at faithful
      exact (faithful rfl).1
  | types typed => trivial

/-- A visit in which "a" is confirmed, and the next one. -/
def twoVisits : List Visit :=
  [.opens 300 unusedImages, .types (released 'a'.toNat), .types (released enter), .opens 301 unusedImages]

/-- The second visit begins with the name of the first, and nothing is shown. -/
theorem name_left_over :
    (run (visit fixedWidth) bootShipped twoVisits).player.text = [ascii 'a'] ∧
    (run (visit fixedWidth) bootShipped twoVisits).newHiscore.held = [] ∧
    ¬ ∀ done, done <+: twoVisits → Faithful fixedWidth (run (visit fixedWidth) bootShipped done) := by
  refine ⟨by decide +kernel, by decide +kernel, fun all => ?_⟩
  have shown := (all twoVisits (List.prefix_refl _) (by decide +kernel)).1
  exact absurd shown (by decide +kernel)

end HighScore

end SimonVs
