import SimonVs.Whole.Results

namespace SimonVs

open Data Serial

namespace Chars

/-- The string leaves room for its zero and has only such characters in it. -/
structure Written (allowed : UInt8 → Prop) (chars : Chars) : Prop where
  fits : chars.text.length < 11
  allows : ∀ byte ∈ chars.text, allowed byte

def Plain (chars : Chars) : Prop := chars.Written fun byte => isSpace byte = false

theorem Plain.isWord {chars : Chars} (plain : chars.Plain) (some : chars.text ≠ []) : chars.IsWord :=
  ⟨some, plain.fits, plain.allows⟩

theorem written_zeros (allowed : UInt8 → Prop) : Written allowed (.replicate 11 0) := by
  have nothing : Chars.text (.replicate 11 0) = [] := rfl
  constructor
  · rw [nothing]
    exact Nat.zero_lt_succ 10
  · rw [nothing]
    exact fun byte mem => (nomatch mem)

end Chars

theorem length_printNat_day {value : Nat} (small : value < 32) : (printNat value).length ≤ 2 := by
  have all : ∀ value < 32, (printNat value).length ≤ 2 := by decide
  exact all value small

theorem length_printNat_year {value : Nat} (small : value < 100) : (printNat (value + 2000)).length ≤ 4 := by
  have all : ∀ value < 100, (printNat (value + 2000)).length ≤ 4 := by decide +kernel
  exact all value small

/-- The date without its zero. -/
def RtcDate.body (date : RtcDate) : List UInt8 :=
  printNat date.day ++ ascii '/' :: (printNat date.month ++ ascii '/' :: printNat (date.year + 2000))

theorem RtcDate.written_eq (date : RtcDate) : date.written = date.body ++ [0] := by
  simp [written, body]

theorem RtcDate.length_body (date : RtcDate) : date.body.length < 11 := by
  have day := length_printNat_day (Nat.lt_succ_of_le date.dayRange.2)
  have month := length_printNat_day (Nat.lt_of_le_of_lt date.monthRange.2 (by decide))
  have year := length_printNat_year (Nat.lt_succ_of_le date.yearRange)
  simp only [body, List.length_append, List.length_cons]
  omega

theorem RtcDate.mem_body {date : RtcDate} {byte : UInt8} (member : byte ∈ date.body) :
    isDigit byte = true ∨ byte = ascii '/' := by
  simp only [body, List.mem_append, List.mem_cons] at member
  rcases member with day | slash | month | slash | year
  · exact .inl (isDigit_printNat _ byte day)
  · exact .inr slash
  · exact .inl (isDigit_printNat _ byte month)
  · exact .inr slash
  · exact .inl (isDigit_printNat _ byte year)

theorem RtcDate.plain_body (date : RtcDate) : ∀ byte ∈ date.body, isSpace byte = false ∧ byte ≠ 0 := by
  intro byte member
  rcases RtcDate.mem_body member with digit | rfl
  · refine ⟨not_isSpace_of_isDigit digit, ?_⟩
    rintro rfl
    exact absurd digit (by decide)
  · decide

theorem text_getDate (date : RtcDate) (uninitialised : Chars) : (getDate date uninitialised).1.text = date.body := by
  have length := date.length_body
  have layout : (getDate date uninitialised).1.toList =
      date.body ++ 0 :: uninitialised.toList.drop (date.body.length + 1) := by
    apply List.ext_getElem
    · simp
      omega
    · intro i left right
      simp only [getDate, date.written_eq, Vector.getElem_toList, Vector.getElem_ofFn]
      rcases Nat.lt_trichotomy i date.body.length with before | here | behind
      · rw [List.getElem_append_left before, List.getElem?_append_left before, List.getElem?_eq_getElem before]
        rfl
      · subst here
        simp
      · obtain ⟨j, rfl⟩ := Nat.exists_eq_add_of_lt behind
        have beyond : (date.body ++ [0]).length ≤ date.body.length + j + 1 := by
          simp only [List.length_append, List.length_singleton]
          omega
        rw [List.getElem?_eq_none beyond, List.getElem_append_right (by omega)]
        simp [Nat.add_assoc, Nat.add_comm 1]
  exact cString_eq layout fun byte member => (date.plain_body byte member).2

theorem isWord_getDate (date : RtcDate) (uninitialised : Chars) : (getDate date uninitialised).1.IsWord := by
  have text := text_getDate date uninitialised
  refine ⟨?_, ?_, ?_⟩
  · rw [text, RtcDate.body]
    simp
  · rw [text]
    exact date.length_body
  · rw [text]
    exact fun byte member => (date.plain_body byte member).1

/-- An entry that can be read back. -/
structure ContWinner.Printable (entry : ContWinner) : Prop where
  name : entry.name.IsWord
  date : entry.date.IsWord

namespace HighScore

variable {width : XpmImage → UInt16} {screen : HighScore}

theorem isSpace_alphaNumerical {byte : UInt8} (alpha : isAlphaNumberical byte = true) (notBlank : byte ≠ ascii ' ') :
    isSpace byte = false := by
  have all : ∀ value : Fin 256, isAlphaNumberical (UInt8.ofFin value) = true → UInt8.ofFin value ≠ ascii ' ' →
      isSpace (UInt8.ofFin value) = false := by
    decide +kernel
  exact all byte.toFin alpha notBlank

theorem written_typeChar {allowed : UInt8 → Prop} {keyChar : UInt8} (written : screen.player.Written allowed)
    (alpha : isAlphaNumberical keyChar = true) (allows : allowed keyChar) (room : screen.strlen < 10) :
    (screen.typeChar width keyChar).1.player.Written allowed := by
  have text := @text_typeChar width screen keyChar alpha room
  split at text
  · refine ⟨?_, fun byte member => ?_⟩
    · rw [text, List.length_append, List.length_singleton]
      exact Nat.succ_lt_succ room
    · rw [text] at member
      rcases List.mem_append.mp member with old | new
      · exact written.allows byte old
      · rw [List.mem_singleton.mp new]
        exact allows
  · refine ⟨?_, ?_⟩
    · rw [text]
      exact written.fits
    · rw [text]
      exact written.allows

theorem written_deleteChar {allowed : UInt8 → Prop} (written : screen.player.Written allowed) :
    (screen.deleteChar width).1.player.Written allowed := by
  have text := @text_deleteChar width screen written.fits
  refine ⟨?_, fun byte member => ?_⟩
  · rw [text, List.length_dropLast]
    exact Nat.lt_of_le_of_lt (Nat.sub_le _ _) written.fits
  · rw [text] at member
    exact written.allows byte (List.dropLast_subset _ member)

/-- What a key does to the name, if a character that is typed may be in it and
finds room. -/
theorem written_update {allowed : UInt8 → Prop} {typed : Typed} (written : screen.player.Written allowed)
    (types : typed.key.down = false → isAlphaNumberical typed.keyChar = true →
      allowed typed.keyChar ∧ screen.strlen < 10) :
    (screen.highscoreUpdateStatus width typed).1.player.Written allowed := by
  by_cases down : typed.key.down = true
  · rw [highscoreUpdateStatus, if_pos down]
    exact written
  rcases highscoreUpdateStatus_cases width screen typed with ⟨_, _, same⟩ | ⟨_, _, same⟩ | ⟨_, _, alpha, same⟩ |
    ⟨_, _, same⟩
  · rw [same]
    exact written
  · rw [same, enterName]
    split
    · exact written
    · exact written
  · obtain ⟨allows, room⟩ := types (Bool.eq_false_iff.mpr down) alpha
    rw [same]
    exact written_typeChar written alpha allows room
  · rw [same]
    exact written_deleteChar written

end HighScore

theorem Leaderboard.mem_updateData {board : Leaderboard} {entry : ContWinner}
    (member : entry ∈ board.updateData.entries) : entry = board.newWinner ∨ entry ∈ board.entries := by
  rw [entries_updateData] at member
  rcases List.mem_append.mp (List.mem_of_mem_take member) with before | other
  · exact .inr (List.mem_of_mem_take before)
  · rcases List.mem_cons.mp other with rfl | behind
    · exact .inl rfl
    · exact .inr (List.mem_of_mem_drop behind)

namespace Program

variable {width : XpmImage → UInt16} {program : Program} {event : Event}

/-- A character that is typed on the highscore screen is no blank and finds room
in `player`. -/
def TypesWell (program : Program) (event : Event) : Prop :=
  program.mode = .highscore → event.1.gotKeyPress = true → event.1.keyboardPacket.down = false →
    isAlphaNumberical (UInt8.ofNat event.1.keyboardPacket.key) = true →
      UInt8.ofNat event.1.keyboardPacket.key ≠ ascii ' ' ∧ program.highScore.strlen < 10

instance (program : Program) (event : Event) : Decidable (program.TypesWell event) :=
  inferInstanceAs (Decidable (_ → _ → _ → _ → _ ∧ _))

/-- What is on the leaderboard, and what may get there, can be read back. -/
structure Tidy (program : Program) : Prop where
  player : program.highScore.player.Plain
  entries : ∀ entry ∈ program.board.entries, entry.Printable

theorem step_elsewhere (elsewhere : program.mode ≠ .highscore) (event : Event) :
    (program.step width event).highScore.player = program.highScore.player ∧
    (program.step width event).board.leaderboard = program.board.leaderboard := by
  have moves := @moves_step width program event
  have leaves {after : Program} {left : Option Result}
      (leaves : (program.transmit event.2.transmitted).Leaves after left) :
      after.highScore.player = program.highScore.player ∧ after.board.leaderboard = program.board.leaderboard := by
    refine ⟨leaves.player.trans ?_, leaves.leaderboard.trans ?_⟩
    · rw [highScore_transmit]
    · rw [board_transmit]
  generalize program.step width event = after at moves
  cases moves with
  | plays => exact leaves (leaves_games event.2.hiscoreBox _ _)
  | playsMp => exact leaves (leaves_mpGames event.2.hiscoreBox _ _)
  | names visiting => exact absurd ((mode_transmit _ _).symm.trans visiting) elsewhere
  | stay | choose | askRounds | connect | back | types | starts | hosts =>
      simp only [board, highScore_transmit, and_self]

theorem written_step {allowed : UInt8 → Prop} (written : program.highScore.player.Written allowed)
    (types : program.mode = .highscore → event.1.gotKeyPress = true → event.1.keyboardPacket.down = false →
      isAlphaNumberical (UInt8.ofNat event.1.keyboardPacket.key) = true →
        allowed (UInt8.ofNat event.1.keyboardPacket.key) ∧ program.highScore.strlen < 10) :
    (program.step width event).highScore.player.Written allowed := by
  by_cases visiting : program.mode = .highscore
  · rw [step_highscore visiting]
    split
    · next pressed =>
        rw [highscoreUpdateStatus, highScore_transmit, mode_transmit]
        exact HighScore.written_update written (types visiting pressed)
    · rw [highScore_transmit]
      exact written
  · rw [(step_elsewhere visiting event).1]
    exact written

/-- Whatever is on the leaderboard after a call was there or has been entered. -/
theorem mem_entries_step {entry : ContWinner} (member : entry ∈ (program.step width event).board.entries) :
    program.filed width event = some entry ∨ entry ∈ program.board.entries := by
  have outcome := @outcome_step width program event
  generalize program.leftWith event = left at outcome
  generalize program.filed width event = filing at outcome
  cases outcome with
  | keeps entries =>
      rw [entries] at member
      exact .inr member
  | leaves result playing entries =>
      rw [entries] at member
      exact .inr member
  | files winner visiting shown score entries =>
      rw [entries] at member
      rcases Leaderboard.mem_updateData member with rfl | old
      · exact .inl rfl
      · exact .inr old

/-- What is entered: the score of the game, the name that was typed, and the day. -/
theorem filed_some {winner : ContWinner} (filing : program.filed width event = some winner) :
    program.mode = .highscore ∧ program.highScore.player.text ≠ [] ∧
      winner.intScore = program.board.newWinner.intScore ∧ winner.name = program.highScore.player ∧
      winner.date = (getDate event.2.date event.2.dateBlock).1 := by
  rw [filed] at filing
  split at filing
  · next leaving =>
      obtain ⟨visiting, left⟩ := leaving
      obtain rfl := Option.some.inj filing
      rcases @step_names width program visiting event with ⟨stays, _⟩ | ⟨_, _, named⟩
      · exact absurd stays left
      · exact ⟨visiting, fun empty => named (List.length_eq_zero_iff.mpr empty), rfl, rfl, rfl⟩
  · cases filing

theorem Tidy.step (tidy : program.Tidy) (well : program.TypesWell event) : (program.step width event).Tidy := by
  refine ⟨written_step tidy.player fun visiting pressed released alpha => ?_, fun entry member => ?_⟩
  · obtain ⟨notBlank, room⟩ := well visiting pressed released alpha
    exact ⟨HighScore.isSpace_alphaNumerical alpha notBlank, room⟩
  · rcases mem_entries_step member with filing | old
    · obtain ⟨_, named, _, name, date⟩ := filed_some filing
      constructor
      · rw [name]
        exact tidy.player.isWord named
      · rw [date]
        exact isWord_getDate _ _
    · exact tidy.entries entry old

end Program

/-- The static variables of `leaderboard.c` before `retrieveData`. -/
def Leaderboard.blank : Leaderboard where
  leaderboard _ := { date := .replicate 11 0, name := .replicate 11 0, intScore := 0 }
  newWinner := { date := .replicate 11 0, name := .replicate 11 0, intScore := 0 }

/-- What an execution of the program meets. -/
structure Execution where
  name : Chars
  date : Chars
  uart : Uart
  uninitialised : Nat → Memory.Cell
  images : Vector XpmImage 20
  events : List Program.Event

namespace Execution

open Program

variable {width : XpmImage → UInt16}

/-- `retrieveData` and the start of `run`. -/
def load (execution : Execution) (file : List UInt8) : Option Program :=
  (Leaderboard.blank.retrieveData file execution.name execution.date).map fun board =>
    .boot board execution.uart execution.uninitialised execution.images

/-- `proj_main_loop`. The file is lost if `retrieveData` writes behind its
arrays. -/
def projMainLoop (width : XpmImage → UInt16) (file : Option (List UInt8)) (execution : Execution) :
    Option (List UInt8) := do
  let program ← execution.load (← file)
  return (Data.run (Program.step width) program execution.events).board.saveData

/-- The results that are entered during an execution. -/
def filedIn (width : XpmImage → UInt16) (file : Option (List UInt8)) (execution : Execution) : List ContWinner :=
  match file.bind execution.load with
  | none => []
  | some program => reported width (filed width) program execution.events

def TypesWell (width : XpmImage → UInt16) (file : Option (List UInt8)) (execution : Execution) : Prop :=
  ∀ program ∈ file.bind execution.load, Along (Program.step width) Program.TypesWell program execution.events

instance (width : XpmImage → UInt16) (file : Option (List UInt8)) (execution : Execution) :
    Decidable (execution.TypesWell width file) :=
  inferInstanceAs (Decidable (∀ program ∈ file.bind execution.load, _))

/-- All that are entered during some executions. -/
def filedAlong (width : XpmImage → UInt16) (file : Option (List UInt8)) (executions : List Execution) :
    List ContWinner :=
  (answers (fun file execution => (projMainLoop width file execution, filedIn width file execution)) file
    executions).flatten

end Execution

/-- What a reader of the file sees of an entry. -/
def ContWinner.contents (entry : ContWinner) : List UInt8 × Int × List UInt8 :=
  (entry.name.text, entry.intScore, entry.date.text)

def ContWinner.scoreOf (contents : List UInt8 × Int × List UInt8) : Int := contents.2.1

theorem ContWinner.scoreOf_contents (entry : ContWinner) : scoreOf entry.contents = entry.intScore := rfl

theorem ContWinner.ranked_iff_contents {entries : List ContWinner} :
    Ranked ContWinner.intScore entries ↔ Ranked scoreOf (entries.map ContWinner.contents) := by
  rw [Ranked, Ranked, List.pairwise_map]
  rfl

theorem ContWinner.Same.contents {entry other : ContWinner} (same : entry.Same other) :
    entry.contents = other.contents := by
  rw [ContWinner.contents, same.name, same.intScore, same.date]
  rfl

theorem Chars.IsWord.of_text {chars other : Chars} (word : other.IsWord) (same : chars.text = other.text) :
    chars.IsWord := by
  refine ⟨?_, ?_, ?_⟩
  · rw [same]
    exact word.some
  · rw [same]
    exact word.fits
  · rw [same]
    exact word.plain

theorem ContWinner.Printable.of_same {entry other : ContWinner} (printable : other.Printable)
    (same : entry.Same other) : entry.Printable :=
  ⟨printable.name.of_text same.name, printable.date.of_text same.date⟩

namespace Execution

open Program ContWinner

variable {width : XpmImage → UInt16} {board : Leaderboard}

theorem load_saveData (printable : ∀ entry ∈ board.entries, entry.Printable) (execution : Execution) :
    ∃ program, execution.load board.saveData = some program ∧ program.mode = .menu ∧
      program.board.entries.map ContWinner.contents = board.entries.map ContWinner.contents ∧ program.Tidy := by
  have words : ∀ i, (board.leaderboard i).Printable := fun i =>
    printable _ (List.mem_ofFn.mpr ⟨i, rfl⟩)
  obtain ⟨done, finished, holds⟩ := @Leaderboard.retrieve_entries board (fun i => (words i).name)
    (fun i => (words i).date) (List.finRange 5)
    { leaderboard := Leaderboard.blank.leaderboard, name := execution.name, date := execution.date
      input := board.saveData } rfl
  have same : ∀ i, (done.leaderboard i).Same (board.leaderboard i) := fun i => holds i (.inl (List.mem_finRange i))
  let loaded : Leaderboard := { Leaderboard.blank with leaderboard := done.leaderboard }
  have read : Leaderboard.blank.retrieveData board.saveData execution.name execution.date = some loaded := by
    rw [Leaderboard.retrieveData, finished]
    rfl
  refine ⟨.boot loaded execution.uart execution.uninitialised execution.images, ?_, rfl, ?_, ?_, ?_⟩
  · rw [load, read]
    rfl
  · have alike : ContWinner.contents ∘ done.leaderboard = ContWinner.contents ∘ board.leaderboard :=
      funext fun i => (same i).contents
    have listed : loaded.entries.map ContWinner.contents = board.entries.map ContWinner.contents := by
      rw [Leaderboard.entries, Leaderboard.entries, List.map_ofFn, List.map_ofFn, alike]
    exact listed
  · exact Chars.written_zeros _
  · intro entry member
    obtain ⟨i, rfl⟩ := List.mem_ofFn.mp member
    exact (words i).of_same (same i)

theorem projMainLoop_saveData (ranked : Ranked ContWinner.intScore board.entries)
    (printable : ∀ entry ∈ board.entries, entry.Printable) {execution : Execution}
    (well : execution.TypesWell width (some board.saveData)) :
    ∃ after : Leaderboard, projMainLoop width (some board.saveData) execution = some after.saveData ∧
      (∀ entry ∈ after.entries, entry.Printable) ∧
      after.entries.map ContWinner.contents =
        (rank scoreOf ((board.entries ++ filedIn width (some board.saveData) execution).map
          ContWinner.contents)).take 5 := by
  obtain ⟨program, loaded, menu, same, tidy⟩ := load_saveData printable execution
  have loadedToo : (some board.saveData).bind execution.load = some program := loaded
  have rankedToo : Ranked ContWinner.intScore program.board.entries := by
    rw [ranked_iff_contents, same, ← ranked_iff_contents]
    exact ranked
  have kept := @kept_run width program rankedToo (by simp [menu]) execution.events
  have tidyAfter : (Data.run (Program.step width) program execution.events).Tidy :=
    run_invariant Tidy (fun _ _ tidy well => tidy.step well) tidy (well program loadedToo)
  refine ⟨(Data.run (Program.step width) program execution.events).board, ?_, tidyAfter.entries, ?_⟩
  · simp only [projMainLoop, loaded, Option.bind_eq_bind, Option.bind_some, Option.pure_def]
  · rw [kept.best, filedIn, loadedToo, List.map_take, map_rank scoreOf_contents, List.map_append, List.map_append, same]

theorem ranked_of_best {entries later : List ContWinner}
    (best : entries.map ContWinner.contents = (rank scoreOf (later.map ContWinner.contents)).take 5) :
    Ranked ContWinner.intScore entries := by
  rw [ranked_iff_contents, best]
  exact (ranked_rank _).sublist (List.take_sublist _ _)

/-- Over any number of executions the file stays readable and holds the best
five of the entries it started with and of all that were entered. -/
theorem executions_best (width : XpmImage → UInt16) (board : Leaderboard)
    (ranked : Ranked ContWinner.intScore board.entries) (printable : ∀ entry ∈ board.entries, entry.Printable)
    (executions : List Execution)
    (well : Along (projMainLoop width) (fun file execution => execution.TypesWell width file) (some board.saveData)
      executions) :
    ∃ after : Leaderboard, Data.run (projMainLoop width) (some board.saveData) executions = some after.saveData ∧
      (∀ entry ∈ after.entries, entry.Printable) ∧
      after.entries.map ContWinner.contents =
        (rank scoreOf ((board.entries ++ filedAlong width (some board.saveData) executions).map
          ContWinner.contents)).take 5 := by
  induction executions generalizing board with
  | nil =>
      refine ⟨board, rfl, printable, ?_⟩
      have rankedContents := ranked_iff_contents.mp ranked
      rw [filedAlong, answers_nil, List.flatten_nil, List.append_nil, rank_of_ranked rankedContents]
      rfl
  | cons execution rest ih =>
      obtain ⟨between, saved, printableBetween, bestBetween⟩ := projMainLoop_saveData ranked printable well.1
      have wellRest := well.2
      rw [saved] at wellRest
      obtain ⟨after, ran, printableAfter, bestAfter⟩ :=
        ih between (ranked_of_best bestBetween) printableBetween wellRest
      refine ⟨after, ?_, printableAfter, ?_⟩
      · rw [run_cons, saved]
        exact ran
      · have entered : filedAlong width (some board.saveData) (execution :: rest) =
            filedIn width (some board.saveData) execution ++ filedAlong width (some between.saveData) rest := by
          rw [filedAlong, answers_cons, List.flatten_cons, saved]
          rfl
        rw [bestAfter, entered, List.map_append, bestBetween, take_rank_append, ← List.map_append, List.append_assoc]

/-- Five entries that any game beats. -/
def poorBoard : Leaderboard where
  leaderboard _ := { name := .of "nobody", intScore := -1, date := .of "1/1/2020" }
  newWinner := Leaderboard.blank.newWinner

/-- A game of one round: the first click is on the VS button, which is under the
cursor, and then nobody clicks any more. -/
def playOnce (name : Nat) : List Program.Event :=
  [november quietFlags, releaseCall enter, releaseCall '1'.toNat, releaseCall enter,
    november (Call.ofMouse (some { lb := true, xOv := false, yOv := false, deltaX := 0, deltaY := 0 }) false).flags] ++
  List.replicate 5 alarmCall ++ [releaseCall name, releaseCall enter]

def playedOnce (name : Nat) : Execution :=
  { name := .replicate 11 0, date := .replicate 11 0, uart := .idle true, uninitialised := fun _ => none
    images := HighScore.unusedImages, events := playOnce name }

/-- The file is written anew by two executions with one game each. -/
theorem executions_best_two :
    (∃ after : Leaderboard,
      Data.run (projMainLoop HighScore.fixedWidth) (some poorBoard.saveData)
        [playedOnce 'a'.toNat, playedOnce 'b'.toNat] = some after.saveData ∧
      (∀ entry ∈ after.entries, entry.Printable) ∧
      after.entries.map ContWinner.contents =
        (rank scoreOf ((poorBoard.entries ++ filedAlong HighScore.fixedWidth (some poorBoard.saveData)
          [playedOnce 'a'.toNat, playedOnce 'b'.toNat]).map ContWinner.contents)).take 5) ∧
    (filedAlong HighScore.fixedWidth (some poorBoard.saveData) [playedOnce 'a'.toNat, playedOnce 'b'.toNat]).map
      ContWinner.contents =
        [([ascii 'a'], 0, (Chars.of "2/11/2020").text), ([ascii 'b'], 0, (Chars.of "2/11/2020").text)] := by
  have ranked : Ranked ContWinner.intScore poorBoard.entries := by
    unfold Ranked
    decide
  have printable : ∀ entry ∈ poorBoard.entries, entry.Printable := by
    intro entry member
    obtain ⟨i, rfl⟩ := List.mem_ofFn.mp member
    have words : (Chars.of "nobody").IsWord ∧ (Chars.of "1/1/2020").IsWord := by decide
    exact ⟨words.1, words.2⟩
  exact ⟨executions_best HighScore.fixedWidth poorBoard ranked printable _ (by decide +kernel), by decide +kernel⟩

end Execution

end SimonVs
