import Mathlib.Data.List.Basic
import Mathlib.Data.List.Induction
import Mathlib.Order.Lattice

namespace SimonVs.Data

/-! Lists ranked by a key, the largest first. Elements with the same key keep
the order in which they came.

`rank` is the stable merge sort of the standard library. Ranking one more
element is inserting it behind those that are not smaller
(`rank_append_singleton`), and the first places of the result depend on the
first places only (`take_insertRanked`), so that a table of the best can be kept
without remembering the rest.
-/

variable {α β : Type} [LinearOrder β] (key : α → β)

/-- `first` may stand before `second`. -/
def notBelow (first second : α) : Bool := key second ≤ key first

def rank (items : List α) : List α := items.mergeSort (notBelow key)

def Ranked (items : List α) : Prop := items.Pairwise fun first second => key second ≤ key first

def insertRanked (item : α) : List α → List α
  | [] => [item]
  | first :: rest => if key item ≤ key first then first :: insertRanked item rest else item :: first :: rest

variable {key} {item : α} {items others : List α}

theorem notBelow_trans (first second third : α) (before : notBelow key first second = true)
    (after : notBelow key second third = true) : notBelow key first third = true :=
  decide_eq_true (le_trans (of_decide_eq_true after) (of_decide_eq_true before))

theorem notBelow_total (first second : α) :
    (notBelow key first second || notBelow key second first) = true := by
  simpa [notBelow] using le_total (key second) (key first)

theorem ranked_rank (items : List α) : Ranked key (rank key items) :=
  (List.pairwise_mergeSort notBelow_trans notBelow_total items).imp fun before => of_decide_eq_true before

theorem rank_of_ranked (ranked : Ranked key items) : rank key items = items :=
  List.mergeSort_of_pairwise (ranked.imp fun before => decide_eq_true before)

/-- The elements of one key, in their order. -/
def withKey (key : α → β) (value : β) (items : List α) : List α := items.filter fun item => key item = value

theorem withKey_rank (value : β) (items : List α) : withKey key value (rank key items) = withKey key value items := by
  have alike : (withKey key value items).Pairwise
      fun first second => notBelow key first second = true := by
    refine List.pairwise_iff_forall_sublist.mpr fun pair => ?_
    have members := pair.subset
    have first := List.mem_filter.mp (members (List.mem_cons_self))
    have second := List.mem_filter.mp (members (List.mem_cons_of_mem _ List.mem_cons_self))
    simp only [decide_eq_true_eq] at first second
    rw [notBelow, first.2, second.2]
    exact decide_eq_true (le_refl _)
  have kept : (withKey key value items).Sublist (rank key items) :=
    List.sublist_mergeSort notBelow_trans notBelow_total alike List.filter_sublist
  have within : (withKey key value items).Sublist (withKey key value (rank key items)) := by
    have filtered := kept.filter fun item => key item = value
    simpa only [withKey, List.filter_filter, Bool.and_self] using filtered
  have lengths : (withKey key value (rank key items)).length = (withKey key value items).length :=
    ((List.mergeSort_perm items _).filter _).length_eq
  exact (within.eq_of_length lengths.symm).symm

theorem mem_of_withKey_eq (same : ∀ value, withKey key value items = withKey key value others)
    (member : item ∈ items) : item ∈ others := by
  have found : item ∈ withKey key (key item) items := List.mem_filter.mpr ⟨member, by simp⟩
  rw [same] at found
  exact (List.mem_filter.mp found).1

/-- A ranked list is determined by the order among elements of the same key. -/
theorem ranked_ext (ranked : Ranked key items) (rankedToo : Ranked key others)
    (same : ∀ value, withKey key value items = withKey key value others) : items = others := by
  induction items generalizing others with
  | nil =>
      cases others with
      | nil => rfl
      | cons first rest =>
          have member := mem_of_withKey_eq (fun value => (same value).symm) (List.mem_cons_self (l := rest))
          cases member
  | cons item items ih =>
      cases others with
      | nil =>
          have member := mem_of_withKey_eq same (List.mem_cons_self (l := items))
          cases member
      | cons other others =>
          obtain ⟨largest, rest⟩ := List.pairwise_cons.mp ranked
          obtain ⟨largestToo, restToo⟩ := List.pairwise_cons.mp rankedToo
          have keys : key item = key other := by
            apply le_antisymm
            · rcases List.mem_cons.mp (mem_of_withKey_eq same List.mem_cons_self) with rfl | later
              · exact le_refl _
              · exact largestToo _ later
            · rcases List.mem_cons.mp (mem_of_withKey_eq (fun value => (same value).symm) List.mem_cons_self)
                with rfl | later
              · exact le_refl _
              · exact largest _ later
          have heads := same (key item)
          simp only [withKey, List.filter_cons, decide_true, if_true, ← keys] at heads
          obtain ⟨rfl, _⟩ := List.cons.inj heads
          rw [ih rest restToo fun value => ?_]
          have tails := same value
          simp only [withKey, List.filter_cons] at tails ⊢
          split at tails
          · exact (List.cons.inj tails).2
          · exact tails

theorem mem_insertRanked {other : α} : other ∈ insertRanked key item items ↔ other = item ∨ other ∈ items := by
  induction items with
  | nil => simp [insertRanked]
  | cons first rest ih =>
      unfold insertRanked
      split
      · rw [List.mem_cons, ih, List.mem_cons]
        exact or_left_comm
      · rw [List.mem_cons]

theorem insertRanked_last (smallest : ∀ other ∈ items, key item ≤ key other) :
    insertRanked key item items = items ++ [item] := by
  induction items with
  | nil => rfl
  | cons first rest ih =>
      obtain ⟨below, others⟩ := List.forall_mem_cons.mp smallest
      rw [insertRanked, if_pos below, ih others, List.cons_append]

theorem Ranked.insert (ranked : Ranked key items) : Ranked key (insertRanked key item items) := by
  induction items with
  | nil => exact List.pairwise_singleton _ _
  | cons first rest ih =>
      obtain ⟨largest, others⟩ := List.pairwise_cons.mp ranked
      unfold insertRanked
      split
      · rename_i below
        refine List.pairwise_cons.mpr ⟨fun other member => ?_, ih others⟩
        rcases mem_insertRanked.mp member with rfl | later
        · exact below
        · exact largest other later
      · rename_i above
        refine List.pairwise_cons.mpr ⟨fun other member => ?_, ranked⟩
        rcases List.mem_cons.mp member with rfl | later
        · exact le_of_not_ge above
        · exact le_trans (largest other later) (le_of_not_ge above)

/-- An inserted element comes last among those of its key. -/
theorem withKey_insertRanked (ranked : Ranked key items) (value : β) :
    withKey key value (insertRanked key item items) = withKey key value (items ++ [item]) := by
  induction items with
  | nil => rfl
  | cons first rest ih =>
      obtain ⟨largest, others⟩ := List.pairwise_cons.mp ranked
      have later := ih others
      unfold insertRanked
      split
      · simp only [withKey, List.cons_append, List.filter_cons] at later ⊢
        rw [later]
      · rename_i above
        by_cases mine : key item = value
        · have none : withKey key value (first :: rest) = [] := by
            refine List.filter_eq_nil_iff.mpr fun other member => ?_
            have small : key other ≤ key first := by
              rcases List.mem_cons.mp member with rfl | after
              · exact le_refl _
              · exact largest other after
            simp only [decide_eq_true_eq, ← mine]
            exact fun same => above (same ▸ small)
          unfold withKey at none ⊢
          rw [List.filter_append, List.filter_cons, none, List.filter_singleton, List.nil_append]
          simp [mine]
        · simp [withKey, List.filter_cons, List.filter_append, mine]

theorem rank_append_singleton (items : List α) (item : α) :
    rank key (items ++ [item]) = insertRanked key item (rank key items) := by
  apply ranked_ext (ranked_rank _) (ranked_rank items).insert
  intro value
  have appended (items : List α) :
      withKey key value (items ++ [item]) = withKey key value items ++ withKey key value [item] :=
    List.filter_append _ _
  rw [withKey_rank, withKey_insertRanked (ranked_rank items), appended, appended, withKey_rank]

/-- The first places after an insertion depend on the first places before it. -/
theorem take_insertRanked (item : α) (items : List α) (places : Nat) :
    (insertRanked key item items).take places = (insertRanked key item (items.take places)).take places := by
  induction items generalizing places with
  | nil => rw [List.take_nil]
  | cons first rest ih =>
      cases places with
      | zero => rfl
      | succ places =>
          rw [List.take_succ_cons]
          unfold insertRanked
          split
          · rw [List.take_succ_cons, List.take_succ_cons, ih]
          · rw [List.take_succ_cons, List.take_succ_cons]
            cases places with
            | zero => rfl
            | succ places => simp [List.take_succ_cons, List.take_take]

/-- Of a table of the best, the keys are the best keys. -/
theorem map_insertRanked (item : α) (items : List α) :
    (insertRanked key item items).map key = insertRanked id (key item) (items.map key) := by
  induction items with
  | nil => rfl
  | cons first rest ih =>
      simp only [insertRanked, List.map_cons, id]
      split
      · rw [List.map_cons, ih]
      · rfl

/-- Of a first list only its best places matter. -/
theorem take_rank_append (earlier later : List α) (places : Nat) :
    (rank key ((rank key earlier).take places ++ later)).take places = (rank key (earlier ++ later)).take places := by
  induction later using List.reverseRecOn with
  | nil =>
      have ranked : Ranked key ((rank key earlier).take places) :=
        (ranked_rank earlier).sublist (List.take_sublist _ _)
      rw [List.append_nil, List.append_nil, rank_of_ranked ranked, List.take_take, Nat.min_self]
  | append_singleton later item ih =>
      rw [← List.append_assoc, ← List.append_assoc, rank_append_singleton, rank_append_singleton, take_insertRanked,
        ih, ← take_insertRanked]

/-- What a view of the elements hides has no influence on their order. -/
theorem map_rank {γ : Type} {view : α → γ} {keyOfView : γ → β} (same : ∀ item, keyOfView (view item) = key item)
    (items : List α) : (rank key items).map view = rank keyOfView (items.map view) := by
  apply List.map_mergeSort
  intro first _ second _
  rw [notBelow, notBelow, same, same]

end SimonVs.Data
