import EntityTagger.Proofs.Decoding
import Mathlib.Data.Int.Notation
import Mathlib.Tactic.NormNum

/-! Filling up and taking out again: the rectangle of some sequences has the width of the longest,
its mask says which cells are real, and these, row by row, are the sequences. -/
namespace EntityTagger.Batch

section Rows

variable {α : Type} {sequences : List (List α)}

theorem exists_length_eq_width (hne : sequences ≠ []) :
    ∃ s ∈ sequences, s.length = Batch.width sequences := by
  induction sequences with
  | nil => exact absurd rfl hne
  | cons t rest ih =>
    rcases Nat.le_total (Batch.width rest) t.length with hle | hle
    · exact ⟨t, List.mem_cons_self .., (Nat.max_eq_left hle).symm⟩
    · rcases eq_or_ne rest [] with rfl | hrest
      · exact ⟨t, List.mem_cons_self .., (Nat.max_eq_left (Nat.zero_le _)).symm⟩
      · obtain ⟨s, hs, hlength⟩ := ih hrest
        exact ⟨s, List.mem_cons_of_mem t hs, hlength.trans (Nat.max_eq_right hle).symm⟩

theorem exists_mem_fill_iff {filler x : α} :
    (∃ row ∈ (fill filler sequences).rows, x ∈ row) ↔
      (∃ s ∈ sequences, x ∈ s) ∨
        x = filler ∧ ∃ s ∈ sequences, ∃ t ∈ sequences, s.length ≠ t.length := by
  constructor
  · rintro ⟨row, hrow, hx⟩
    obtain ⟨s, hs, rfl⟩ := List.mem_map.1 hrow
    rcases List.mem_append.1 hx with hx | hx
    · exact Or.inl ⟨s, hs, hx⟩
    · obtain ⟨hshort, hfiller⟩ := List.mem_replicate.1 hx
      obtain ⟨t, ht, hlength⟩ := exists_length_eq_width (List.ne_nil_of_mem hs)
      exact Or.inr ⟨hfiller, s, hs, t, ht, by omega⟩
  · rintro (⟨s, hs, hx⟩ | ⟨rfl, s, hs, t, ht, hne⟩)
    · exact ⟨_, List.mem_map.2 ⟨s, hs, rfl⟩, List.mem_append_left _ hx⟩
    · have hshort : ∃ r ∈ sequences, Batch.width sequences - r.length ≠ 0 := by
        have hles := length_le_width hs
        have hlet := length_le_width ht
        rcases Nat.lt_or_gt_of_ne hne with hlt | hlt
        · exact ⟨s, hs, by omega⟩
        · exact ⟨t, ht, by omega⟩
      obtain ⟨r, hr, hmore⟩ := hshort
      exact ⟨_, List.mem_map.2 ⟨r, hr, rfl⟩,
        List.mem_append_right _ (List.mem_replicate.2 ⟨hmore, rfl⟩)⟩

end Rows

section Ids

variable {sequences : List (List ℤ)} {filler : ℤ}

def IsWord (n : ℤ) : Prop := -2 ^ 63 ≤ n ∧ n < 2 ^ 63

theorem isId_iff {n : ℤ} : isId n = true ↔ IsWord n := by
  have hbounds : Int64.minValue.toInt = -2 ^ 63 ∧ Int64.maxValue.toInt = 2 ^ 63 - 1 := by decide
  rw [isId, hbounds.1, hbounds.2, Bool.and_eq_true, decide_eq_true_eq, decide_eq_true_eq, IsWord]
  omega

/-- All cells of the rectangle of some sequences are integers of 64 bits; it has fillers only if two
lengths differ. -/
def AreWords (sequences : List (List ℤ)) (filler : ℤ) : Prop :=
  (∀ s ∈ sequences, ∀ id ∈ s, IsWord id) ∧
    (IsWord filler ∨ ∀ s ∈ sequences, ∀ t ∈ sequences, s.length = t.length)

theorem areWords_iff : AreWords sequences filler ↔
    ∀ row ∈ (fill filler sequences).rows, ∀ n ∈ row, IsWord n := by
  constructor
  · rintro ⟨hids, hfiller⟩ row hrow n hn
    rcases exists_mem_fill_iff.1 ⟨row, hrow, hn⟩ with ⟨s, hs, hn⟩ | ⟨rfl, s, hs, t, ht, hne⟩
    · exact hids s hs n hn
    · exact hfiller.resolve_right fun heven => hne (heven s hs t ht)
  · intro h
    refine ⟨fun s hs id hid => ?_, ?_⟩
    · obtain ⟨row, hrow, hmem⟩ := exists_mem_fill_iff.2 (Or.inl ⟨s, hs, hid⟩)
      exact h row hrow id hmem
    · by_contra hnot
      push Not at hnot
      obtain ⟨hfiller, s, hs, t, ht, hne⟩ := hnot
      obtain ⟨row, hrow, hmem⟩ := exists_mem_fill_iff.2 (Or.inr ⟨rfl, s, hs, t, ht, hne⟩)
      exact hfiller (h row hrow filler hmem)

theorem all_isId_fill_iff :
    ((fill filler sequences).rows.all fun row => row.all isId) = true ↔
      AreWords sequences filler := by
  simp only [List.all_eq_true, isId_iff, areWords_iff]

theorem pad_eq_ok_iff {r : Rectangle ℤ} : pad sequences filler = .ok r ↔
    sequences ≠ [] ∧ AreWords sequences filler ∧ r = fill filler sequences := by
  rw [pad]
  by_cases hempty : sequences = []
  · simp [hempty]
  · rw [if_neg (by simpa using hempty)]
    by_cases hwords : AreWords sequences filler
    · simp [all_isId_fill_iff.2 hwords, hempty, hwords, eq_comm]
    · simp [mt all_isId_fill_iff.1 hwords, hwords]

theorem pad_eq_error_iff {e : Error} : pad sequences filler = .error e ↔
    sequences = [] ∧ e = .input .noSequences ∨
      sequences ≠ [] ∧ ¬ AreWords sequences filler ∧ e = .misuse .badValue := by
  rw [pad]
  by_cases hempty : sequences = []
  · simp [hempty, eq_comm]
  · rw [if_neg (by simpa using hempty)]
    by_cases hwords : AreWords sequences filler
    · simp [all_isId_fill_iff.2 hwords, hempty, hwords]
    · simp [mt all_isId_fill_iff.1 hwords, hempty, hwords, eq_comm]

end Ids

section Values

variable {α β : Type}

theorem eq_of_rows {r s : Rectangle α} (hwidth : r.width = s.width) (hrows : r.rows = s.rows) :
    r = s := by
  obtain ⟨width, rows, h⟩ := r
  obtain rfl : width = s.width := hwidth
  obtain rfl : rows = s.rows := hrows
  rfl

theorem fill_map (f : α → β) (filler : α) (sequences : List (List α)) :
    fill (f filler) (sequences.map (·.map f)) = (fill filler sequences).map f := by
  have hwidth : Batch.width (sequences.map (·.map f)) = Batch.width sequences := by
    induction sequences with
    | nil => rfl
    | cons s rest ih => simpa [Batch.width] using congrArg (max s.length) ih
  apply eq_of_rows hwidth
  simp [fill, Rectangle.map, hwidth, fillRow]

def listed (sequences : List (List ℤ)) : Value :=
  .list (sequences.map fun s => .list (s.map .int))

theorem findSome?_fault?_map (cells : List ℤ) : (cells.map Value.int).findSome? fault? =
    if cells.all isId then none else some (.misuse .badValue) := by
  induction cells with
  | nil => rfl
  | cons n rest ih =>
    rw [List.map_cons, List.findSome?_cons]
    cases hn : isId n <;> simp [fault?, idOf, hn, ih]

theorem map_idOf_int {r : Rectangle ℤ} (h : ∀ row ∈ r.rows, ∀ n ∈ row, isId n = true) :
    (r.map Value.int).map (fun cell => (idOf cell).toOption.getD 0) = r := by
  refine eq_of_rows (s := r) rfl ?_
  show (r.rows.map _).map _ = r.rows
  rw [List.map_map]
  refine (List.map_congr_left fun row hrow => ?_).trans (List.map_id r.rows)
  rw [Function.comp_apply, List.map_map]
  refine (List.map_congr_left fun n hn => ?_).trans (List.map_id row)
  simp [idOf, h row hrow n hn, Except.toOption]

theorem padValue_listed (sequences : List (List ℤ)) (filler : ℤ) :
    padValue (listed sequences) filler = pad sequences filler := by
  have hholds : (listed sequences).holds = !sequences.isEmpty := by
    simp [listed, Value.holds]
  have hitems : (sequences.map fun s => Value.list (s.map .int)).mapM itemsOf =
      .ok (sequences.map (·.map Value.int)) := by
    rw [List.mapM_map]
    exact Traversal.mapM_eq_pure fun _ _ => rfl
  have hfault : (fill (.int filler) (sequences.map (·.map Value.int))).rows.flatten.findSome?
      fault? = if (fill filler sequences).rows.all fun row => row.all isId then none
        else some (.misuse .badValue) := by
    have hflatten : ((fill filler sequences).map Value.int).rows.flatten =
        (fill filler sequences).rows.flatten.map Value.int := List.map_flatten.symm
    rw [fill_map, hflatten, findSome?_fault?_map, List.all_flatten]
  rw [padValue, pad, hholds, Bool.not_not]
  by_cases hempty : sequences.isEmpty = true
  · rw [if_pos hempty, if_pos hempty]
  · rw [if_neg hempty, if_neg hempty]
    show ((sequences.map fun s => Value.list (s.map .int)).mapM itemsOf).bind _ = _
    rw [hitems, Except.bind]
    simp only [hfault]
    by_cases hall : ((fill filler sequences).rows.all fun row => row.all isId) = true
    · rw [if_pos hall, fill_map, map_idOf_int]
      · simp only [if_pos hall]
      · simpa only [List.all_eq_true] using hall
    · simp only [if_neg hall]

end Values

section Marks

variable {sequences : List (List ℤ)} {filler : ℤ} {width : ℕ}

def lengths (sequences : List (List ℤ)) : List ℤ := sequences.map fun s => (s.length : ℤ)

def unpadRow (row marks : List ℤ) : List ℤ :=
  ((row.zip marks).filter fun cell => cell.2 = 1).map Prod.fst

def unpad (ids marks : Rectangle ℤ) : List (List ℤ) := List.zipWith unpadRow ids.rows marks.rows

/-- A row that a sequence was filled up to, and its row of the mask. -/
structure IsFilled (filler : ℤ) (s row marks : List ℤ) : Prop where
  length_eq : row.length = marks.length
  ones_first : ∃ zeros, marks = List.replicate s.length 1 ++ List.replicate zeros 0
  unpadRow_eq : unpadRow row marks = s
  filler_of_zero : ∀ place : ℕ, marks[place]? = some 0 → row[place]? = some filler

theorem unpadRow_append {first second marks others : List ℤ} (h : first.length = marks.length) :
    unpadRow (first ++ second) (marks ++ others) =
      unpadRow first marks ++ unpadRow second others := by
  simp [unpadRow, List.zip_append h]

theorem unpadRow_ones (row : List ℤ) : unpadRow row (List.replicate row.length 1) = row := by
  rw [unpadRow, List.filter_eq_self.2]
  · exact List.map_fst_zip (by simp)
  · intro cell hcell
    simp [List.eq_of_mem_replicate (List.of_mem_zip hcell).2]

theorem unpadRow_zeros (row : List ℤ) (n : ℕ) : unpadRow row (List.replicate n 0) = [] := by
  rw [unpadRow, List.filter_eq_nil_iff.2, List.map_nil]
  intro cell hcell
  simp [List.eq_of_mem_replicate (List.of_mem_zip hcell).2]

def marksOf (width : ℕ) (s : List ℤ) : List ℤ :=
  List.replicate s.length 1 ++ List.replicate (width - s.length) 0

theorem isFilled_fillRow (width : ℕ) (filler : ℤ) (s : List ℤ) :
    IsFilled filler s (fillRow filler width s) (marksOf width s) where
  length_eq := by simp [fillRow, marksOf]
  ones_first := ⟨_, rfl⟩
  unpadRow_eq := by
    rw [fillRow, marksOf, unpadRow_append (by simp), unpadRow_ones, unpadRow_zeros,
      List.append_nil]
  filler_of_zero := by
    intro place hplace
    by_cases hlt : place < s.length
    · simp [marksOf, List.getElem?_append_left, hlt] at hplace
    · rw [marksOf, List.getElem?_append_right (by simpa using hlt), List.length_replicate,
        List.getElem?_replicate] at hplace
      have hin : place - s.length < width - s.length := by
        by_contra hout
        simp [hout] at hplace
      rw [fillRow, List.getElem?_append_right (not_lt.1 hlt), List.getElem?_replicate, if_pos hin]

theorem rows_mask (hle : ∀ s ∈ sequences, s.length ≤ width) :
    (mask width (lengths sequences)).rows = sequences.map (marksOf width) := by
  simp only [mask, lengths, List.map_map]
  refine List.map_congr_left fun s hs => ?_
  have hrow := map_range_lt (1 : ℤ) 0 (hle s hs)
  rw [marksOf, ← hrow]
  simp only [Function.comp_apply, Nat.cast_lt]

structure Pads (sequences : List (List ℤ)) (filler : ℤ) (ids marks : Rectangle ℤ) : Prop where
  length_rows : ids.rows.length = sequences.length
  same_shape : marks.rows.length = ids.rows.length ∧ marks.width = ids.width
  length_le : ∀ s ∈ sequences, s.length ≤ ids.width
  longest : ∃ s ∈ sequences, s.length = ids.width
  isFilled : ∀ (i : ℕ) s, sequences[i]? = some s →
    ∃ row under, ids.rows[i]? = some row ∧ marks.rows[i]? = some under ∧ IsFilled filler s row under
  full_row : ∃ under ∈ marks.rows, 0 ∉ under
  unpad_eq : unpad ids marks = sequences

theorem pads_fill (hne : sequences ≠ []) (filler : ℤ) :
    Pads sequences filler (fill filler sequences)
      (mask (Batch.width sequences) (lengths sequences)) := by
  have hle : ∀ s ∈ sequences, s.length ≤ Batch.width sequences := fun s hs => length_le_width hs
  have hmarks := rows_mask hle
  obtain ⟨longest, hlongest, hwidth⟩ := exists_length_eq_width hne
  constructor
  · exact List.length_map _
  · rw [hmarks]
    exact ⟨by simp [fill], rfl⟩
  · exact hle
  · exact ⟨longest, hlongest, hwidth⟩
  · intro i s hs
    refine ⟨_, _, ?_, ?_, isFilled_fillRow (Batch.width sequences) filler s⟩
    · simp [fill, hs]
    · simp [hmarks, hs]
  · rw [hmarks]
    refine ⟨_, List.mem_map.2 ⟨longest, hlongest, rfl⟩, ?_⟩
    simp [marksOf, hwidth]
  · rw [unpad, hmarks, fill, List.zipWith_map, List.zipWith_self]
    refine (List.map_congr_left fun s _ => ?_).trans (List.map_id sequences)
    exact (isFilled_fillRow _ filler s).unpadRow_eq

/-- Filling up succeeds for every list of sequences that is not empty and whose rectangle has cells
of 64 bits alone, however it is given, and the mask of the lengths tells the sequences from what was
filled up. -/
theorem unpad_pad (sequences : List (List ℤ)) (filler : ℤ) :
    ((∃ r, pad sequences filler = .ok r) ↔ sequences ≠ [] ∧ AreWords sequences filler) ∧
    (∀ r, pad sequences filler = .ok r →
      Pads sequences filler r (mask r.width (lengths sequences))) ∧
    (∀ e, pad sequences filler = .error e ↔
      sequences = [] ∧ e = .input .noSequences ∨
        (∃ row ∈ (fill filler sequences).rows, ∃ n ∈ row, ¬ IsWord n) ∧ e = .misuse .badValue) ∧
    padValue (listed sequences) filler = pad sequences filler := by
  refine ⟨?_, ?_, ?_, padValue_listed sequences filler⟩
  · simp only [pad_eq_ok_iff]
    exact ⟨fun ⟨r, hne, hwords, _⟩ => ⟨hne, hwords⟩, fun ⟨hne, hwords⟩ => ⟨_, hne, hwords, rfl⟩⟩
  · intro r hr
    obtain ⟨hne, -, rfl⟩ := pad_eq_ok_iff.1 hr
    exact pads_fill hne filler
  · intro e
    have hwords : (∃ row ∈ (fill filler sequences).rows, ∃ n ∈ row, ¬ IsWord n) ↔
        sequences ≠ [] ∧ ¬ AreWords sequences filler := by
      rw [areWords_iff]
      push Not
      refine (and_iff_right_of_imp ?_).symm
      rintro ⟨row, hrow, -⟩ rfl
      simp [fill] at hrow
    rw [pad_eq_error_iff, hwords, and_assoc]

example : unpad (fill 0 [[0, 5], [], [0]]) (mask 2 (lengths [[0, 5], [], [0]])) =
    [[0, 5], [], [0]] := by decide

end Marks

end EntityTagger.Batch
