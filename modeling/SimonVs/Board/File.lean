import SimonVs.Board.Leaderboard
import SimonVs.Data.Scan

namespace SimonVs

open Data

namespace Chars

/-- The C string in an array: the characters before the first zero. -/
def text (chars : Chars) : List UInt8 := chars.toList.takeWhile (· != 0)

/-- `fscanf` writes the word and a zero behind it; the other elements keep their
values. There is no result if the array is too short. -/
def store (chars : Chars) (word : List UInt8) : Option Chars :=
  if fits : word.length < 11 then
    some ⟨(word ++ 0 :: chars.toList.drop (word.length + 1)).toArray, by simp; omega⟩
  else none

/-- One to ten characters without white space. -/
structure IsWord (chars : Chars) : Prop where
  some : chars.text ≠ []
  fits : chars.text.length < 11
  plain : ∀ byte ∈ chars.text, isSpace byte = false

instance (chars : Chars) : Decidable chars.IsWord :=
  have := List.decidableBAll (fun byte => isSpace byte = false) chars.text
  decidable_of_iff (chars.text ≠ [] ∧ chars.text.length < 11 ∧ ∀ byte ∈ chars.text, isSpace byte = false)
    ⟨fun word => ⟨word.1, word.2.1, word.2.2⟩, fun word => ⟨word.some, word.fits, word.plain⟩⟩

end Chars

namespace Leaderboard

def newline : UInt8 := 0x0A

/-- `fprintf(lbd, "%s\n%d\n%s\n\n", ...)` -/
def fprintfEntry (entry : ContWinner) : List UInt8 :=
  entry.name.text ++ newline :: (printInt entry.intScore ++ newline ::
    (entry.date.text ++ [newline, newline]))

/-- `saveData` writes the file anew. -/
def saveData (board : Leaderboard) : List UInt8 :=
  (List.finRange 5).flatMap fun i => fprintfEntry (board.leaderboard i)

/-- `fscanf(lbd, "%s\n", chars)` -/
def fscanfString (chars : Chars) (input : List UInt8) : Option (Chars × List UInt8) :=
  let (word, rest) := scanString input
  if word = [] then some (chars, rest)
  else (chars.store word).map fun chars => (chars, skipSpace rest)

/-- `fscanf(lbd, "%d\n", &value)` -/
def fscanfInt (value : Int) (input : List UInt8) : Int × List UInt8 :=
  match scanInt input with
  | (some number, rest) => (number, skipSpace rest)
  | (none, rest) => (value, rest)

/-- The variables of `retrieveData`; `input` is what is left of the file. -/
structure Reading where
  leaderboard : Fin 5 → ContWinner
  name : Chars
  date : Chars
  input : List UInt8

/-- The body of the loop of `retrieveData`. -/
def retrieveEntry (reading : Reading) (i : Fin 5) : Option Reading := do
  let (name, input) ← fscanfString reading.name reading.input
  let (intScore, input) := fscanfInt (reading.leaderboard i).intScore input
  let (date, input) ← fscanfString reading.date input
  return { leaderboard := Function.update reading.leaderboard i { name, intScore, date }, name, date, input }

/-- `retrieveData`; the local arrays `name` and `date` hold anything at first. -/
def retrieveData (board : Leaderboard) (file : List UInt8) (name date : Chars) : Option Leaderboard :=
  ((List.finRange 5).foldlM retrieveEntry { leaderboard := board.leaderboard, name, date, input := file }).map
    fun reading => { board with leaderboard := reading.leaderboard }

end Leaderboard

/-- The same entry, with names and dates compared as C strings. -/
structure ContWinner.Same (entry other : ContWinner) : Prop where
  name : entry.name.text = other.name.text
  intScore : entry.intScore = other.intScore
  date : entry.date.text = other.date.text

namespace Leaderboard

variable {chars : Chars} {after : List UInt8}

theorem isSpace_newline : isSpace newline = true := by decide

theorem text_nonzero (chars : Chars) : ∀ byte ∈ chars.text, (byte != 0) = true := by
  intro byte member
  exact @List.mem_takeWhile_imp _ (· != 0) _ _ member

/-- A word read into an array is the C string in it. -/
theorem store_text (buffer : Chars) (word : chars.IsWord) :
    ∃ stored, buffer.store chars.text = some stored ∧ stored.text = chars.text := by
  rw [Chars.store, dif_pos word.fits]
  refine ⟨_, rfl, ?_⟩
  have contents : ∀ (array : Array UInt8) (size : array.size = 11),
      Chars.text ⟨array, size⟩ = array.toList.takeWhile (· != 0) := fun _ _ => rfl
  rw [contents, List.takeWhile_append_of_pos (text_nonzero chars), List.takeWhile_cons_of_neg (by simp),
    List.append_nil]

theorem fscanfString_word (buffer : Chars) (word : chars.IsWord) :
    ∃ stored, fscanfString buffer (chars.text ++ newline :: after) = some (stored, skipSpace after) ∧
      stored.text = chars.text := by
  obtain ⟨stored, found, same⟩ := store_text buffer word
  refine ⟨stored, ?_, same⟩
  rw [fscanfString, scanString_text word.some word.plain isSpace_newline]
  simp only [word.some, if_false, found, Option.map_some, skipSpace_cons isSpace_newline]

theorem fscanfInt_print (value number : Int) :
    fscanfInt value (printInt number ++ newline :: after) = (number, skipSpace after) := by
  rw [fscanfInt, scanInt_printInt number isSpace_newline]
  simp only [skipSpace_cons isSpace_newline]

/-- One entry is read back, and the file is left at the next one. -/
theorem retrieveEntry_printed {entry : ContWinner} (name : entry.name.IsWord) (date : entry.date.IsWord)
    {reading : Reading} (input : reading.input = fprintfEntry entry ++ after)
    (fresh : skipSpace after = after) (i : Fin 5) :
    ∃ next, retrieveEntry reading i = some next ∧ next.input = after ∧ (next.leaderboard i).Same entry ∧
      ∀ j, j ≠ i → next.leaderboard j = reading.leaderboard j := by
  have layout : fprintfEntry entry ++ after =
      entry.name.text ++ newline :: (printInt entry.intScore ++ newline ::
        (entry.date.text ++ newline :: (newline :: after))) := by
    simp [fprintfEntry]
  obtain ⟨storedName, readName, sameName⟩ := @fscanfString_word entry.name
    (printInt entry.intScore ++ newline :: (entry.date.text ++ newline :: (newline :: after))) reading.name name
  obtain ⟨storedDate, readDate, sameDate⟩ := @fscanfString_word entry.date (newline :: after) reading.date date
  refine ⟨{ leaderboard := Function.update reading.leaderboard i
              { name := storedName, intScore := entry.intScore, date := storedDate }
            name := storedName, date := storedDate, input := after }, ?_, rfl, ?_, ?_⟩
  · rw [skipSpace_cons isSpace_newline, fresh] at readDate
    rw [skipSpace_printInt] at readName
    simp only [retrieveEntry, input, layout, readName, fscanfInt_print,
      skipSpace_text date.some date.plain, readDate, Option.bind_eq_bind, Option.bind_some, Option.pure_def]
  · dsimp only
    rw [Function.update_self]
    exact { name := sameName, intScore := rfl, date := sameDate }
  · intro j other
    exact Function.update_of_ne other _ _

variable {board : Leaderboard}

/-- A file that starts with an entry starts with a name. -/
theorem fresh_entries (words : ∀ i, (board.leaderboard i).name.IsWord) (places : List (Fin 5)) :
    skipSpace (places.flatMap fun i => fprintfEntry (board.leaderboard i)) =
      places.flatMap fun i => fprintfEntry (board.leaderboard i) := by
  cases places with
  | nil => rfl
  | cons i rest =>
      rw [List.flatMap_cons, fprintfEntry, List.append_assoc]
      exact skipSpace_text (words i).some (words i).plain

/-- The loop of `retrieveData`: what has been read is the same, and the file is
left where the entries that were not read begin. -/
theorem retrieve_entries (names : ∀ i, (board.leaderboard i).name.IsWord)
    (dates : ∀ i, (board.leaderboard i).date.IsWord) {places : List (Fin 5)} {reading : Reading}
    (input : reading.input = places.flatMap fun i => fprintfEntry (board.leaderboard i)) :
    ∃ done, places.foldlM retrieveEntry reading = some done ∧
      ∀ i, i ∈ places ∨ (reading.leaderboard i).Same (board.leaderboard i) →
        (done.leaderboard i).Same (board.leaderboard i) := by
  induction places generalizing reading with
  | nil =>
      refine ⟨reading, rfl, ?_⟩
      rintro i (member | same)
      · cases member
      · exact same
  | cons first rest ih =>
      rw [List.flatMap_cons] at input
      obtain ⟨next, read, left, same, others⟩ :=
        retrieveEntry_printed (names first) (dates first) input (fresh_entries names rest) first
      obtain ⟨done, finished, holds⟩ := ih left
      refine ⟨done, ?_, ?_⟩
      · rw [List.foldlM_cons, read]
        exact finished
      · intro i known
        apply holds
        by_cases here : i = first
        · exact .inr (here ▸ same)
        · rw [others i here]
          exact known.imp_left fun member => (List.mem_cons.mp member).resolve_left here

theorem fprintfEntry_same {entry other : ContWinner} (same : entry.Same other) :
    fprintfEntry entry = fprintfEntry other := by
  rw [fprintfEntry, fprintfEntry, same.name, same.intScore, same.date]

/-- What `saveData` wrote, `retrieveData` reads back, whatever was in memory
before; and saving it again writes the same file. -/
theorem save_retrieve (board : Leaderboard) (names : ∀ i, (board.leaderboard i).name.IsWord)
    (dates : ∀ i, (board.leaderboard i).date.IsWord) (before : Leaderboard) (name date : Chars) :
    ∃ loaded, before.retrieveData board.saveData name date = some loaded ∧
      (∀ i, (loaded.leaderboard i).Same (board.leaderboard i)) ∧ loaded.saveData = board.saveData := by
  obtain ⟨done, finished, holds⟩ := @retrieve_entries board names dates (List.finRange 5)
    { leaderboard := before.leaderboard, name, date, input := board.saveData } rfl
  have same : ∀ i, (done.leaderboard i).Same (board.leaderboard i) := fun i => holds i (.inl (List.mem_finRange i))
  refine ⟨{ before with leaderboard := done.leaderboard }, ?_, same, ?_⟩
  · rw [retrieveData, finished]
    rfl
  · apply List.flatMap_congr
    intro i _
    exact fprintfEntry_same (same i)

/-- The file that comes with the program, read into an empty leaderboard. -/
theorem save_retrieve_shipped :
    ∃ loaded, retrieveData { shipped with leaderboard := fun _ => shipped.newWinner } shipped.saveData
        (.of "") (.of "") = some loaded ∧
      (∀ i, (loaded.leaderboard i).Same (shipped.leaderboard i)) ∧ loaded.saveData = shipped.saveData := by
  apply save_retrieve shipped
  · decide
  · decide

end Leaderboard

end SimonVs
