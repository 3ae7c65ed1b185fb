import EntityTagger.Proofs.Tensor

/-! Where a cell comes from when an array is spread to another shape: its coordinates on the last
axes are its own, except along the axes of size one, where there is a single cell. -/
namespace EntityTagger.Tensor

variable {α : Type} {shape source target coordinates : List ℕ} {cells : List α}

/-- The place of the cell at some coordinates, one for each axis. -/
def place : List ℕ → List ℕ → ℕ
  | _ :: shape, i :: coordinates => i * size shape + place shape coordinates
  | _, _ => 0

/-- Coordinates without those along the axes of size one. -/
def collapse : List ℕ → List ℕ → List ℕ
  | n :: shape, i :: coordinates => (if n = 1 then 0 else i) :: collapse shape coordinates
  | _, _ => []

theorem place_lt (h : List.Forall₂ (· < ·) coordinates shape) :
    place shape coordinates < size shape := by
  induction h with
  | nil => exact Nat.zero_lt_one
  | @cons i n coordinates shape hi _ ih =>
    calc place (n :: shape) (i :: coordinates)
        < i * size shape + size shape := Nat.add_lt_add_left ih _
      _ = (i + 1) * size shape := (Nat.succ_mul i (size shape)).symm
      _ ≤ size (n :: shape) := Nat.mul_le_mul_right _ hi

theorem fits_cons {n m : ℕ} (h : fits (n :: source) (m :: target) = true) :
    (n = m ∨ n = 1) ∧ fits source target = true := by
  simpa [fits] using h

theorem length_spread (h : fits source target = true) (hcells : cells.length = size source) :
    (spread source target cells).length = size target := by
  induction source generalizing target cells with
  | nil =>
    cases target with
    | nil => exact hcells
    | cons m target => simp [fits] at h
  | cons n source ih =>
    cases target with
    | nil => simp [fits] at h
    | cons m target =>
      obtain ⟨hsize, hrest⟩ := fits_cons h
      rw [spread]
      split_ifs with hsame
      · subst hsame
        have hlength : ∀ block ∈ (rows (size source) n cells).map (spread source target),
            block.length = size target := by
          intro block hblock
          obtain ⟨row, hrow, rfl⟩ := List.mem_map.1 hblock
          exact ih hrest (length_of_mem_rows hcells hrow)
        rw [List.flatMap_def, length_flatten_of_length hlength, List.length_map, length_rows,
          size_cons]
      · obtain rfl := hsize.resolve_left hsame
        rw [size_cons, Nat.one_mul] at hcells
        simp [ih hrest hcells]

theorem getElem?_of_rows {width count i k : ℕ} (cells : List α) (hi : i < count) (hk : k < width) :
    ∃ row, (rows width count cells)[i]? = some row ∧ row[k]? = cells[i * width + k]? := by
  refine ⟨_, getElem?_rows cells hi, ?_⟩
  rw [List.getElem?_take_of_lt hk, List.getElem?_drop]

theorem collapse_lt (h : fits source target = true)
    (hin : List.Forall₂ (· < ·) coordinates target) :
    List.Forall₂ (· < ·) (collapse source coordinates) source := by
  induction hin generalizing source with
  | nil =>
    cases source with
    | nil => exact .nil
    | cons n source => simp [fits] at h
  | @cons i m coordinates target hi _ ih =>
    cases source with
    | nil => simp [fits] at h
    | cons n source =>
      obtain ⟨hsize, hrest⟩ := fits_cons h
      refine .cons ?_ (ih hrest)
      by_cases hone : n = 1
      · rw [if_pos hone, hone]
        exact Nat.zero_lt_one
      · rw [if_neg hone, hsize.resolve_right hone]
        exact hi

theorem getElem?_spread (h : fits source target = true) (hcells : cells.length = size source)
    (hin : List.Forall₂ (· < ·) coordinates target) :
    (spread source target cells)[place target coordinates]? =
      cells[place source (collapse source coordinates)]? := by
  induction hin generalizing source cells with
  | nil =>
    cases source with
    | nil => rfl
    | cons n source => simp [fits] at h
  | @cons i m coordinates target hi hin ih =>
    cases source with
    | nil => simp [fits] at h
    | cons n source =>
      obtain ⟨hsize, hrest⟩ := fits_cons h
      have hplace := place_lt hin
      rw [spread, place, collapse, place]
      by_cases hsame : n = m
      · subst hsame
        have hlength : ∀ block ∈ (rows (size source) n cells).map (spread source target),
            block.length = size target := by
          intro block hblock
          obtain ⟨row, hrow, rfl⟩ := List.mem_map.1 hblock
          exact length_spread hrest (length_of_mem_rows hcells hrow)
        obtain ⟨row, hrow, hcell⟩ := getElem?_of_rows cells hi (place_lt (collapse_lt hrest hin))
        have hwidth := length_of_mem_rows hcells (List.mem_of_getElem? hrow)
        have hhead : (if n = 1 then 0 else i) = i := by
          split_ifs with hone
          · omega
          · rfl
        rw [if_pos rfl, hhead, List.flatMap_def, getElem?_flatten_of_length hlength i hplace,
          List.getElem?_map, hrow, Option.map_some, Option.bind_some, ih hrest hwidth, hcell]
      · obtain rfl := hsize.resolve_left hsame
        rw [size_cons, Nat.one_mul] at hcells
        have hlength : ∀ block ∈ List.replicate m (spread source target cells),
            block.length = size target := by
          intro block hblock
          rw [List.eq_of_mem_replicate hblock]
          exact length_spread hrest hcells
        rw [if_neg hsame, if_pos rfl, getElem?_flatten_of_length hlength i hplace,
          List.getElem?_replicate, if_pos hi, Option.bind_some, ih hrest hcells, Nat.zero_mul,
          Nat.zero_add]

theorem eq_of_cells {s t : Tensor α} (hshape : s.shape = t.shape) (hcells : s.cells = t.cells) :
    s = t := by
  obtain ⟨shape, cells, h⟩ := s
  obtain ⟨other, more, k⟩ := t
  obtain rfl : shape = other := hshape
  obtain rfl : cells = more := hcells
  rfl

/-- The cell of an array for coordinates on as many axes or more, the last of which are its own. -/
def spreadAt? (t : Tensor α) (coordinates : List ℕ) : Option α :=
  t.cells[place t.shape
    (collapse t.shape (coordinates.drop (coordinates.length - t.rank)))]?

theorem place_collapse_replicate (k : ℕ) (h : k ≤ coordinates.length) (shape : List ℕ) :
    place (List.replicate k 1 ++ shape) (collapse (List.replicate k 1 ++ shape) coordinates) =
      place shape (collapse shape (coordinates.drop k)) := by
  induction k generalizing coordinates with
  | zero => rfl
  | succ k ih =>
    cases coordinates with
    | nil => simp at h
    | cons i coordinates =>
      rw [List.replicate_succ, List.cons_append, collapse, if_pos rfl, place, Nat.zero_mul,
        Nat.zero_add, ih (Nat.le_of_succ_le_succ h), List.drop_succ_cons]

theorem size_replicate_append (k : ℕ) (shape : List ℕ) :
    size (List.replicate k 1 ++ shape) = size shape := by
  induction k with
  | zero => rfl
  | succ k ih => rw [List.replicate_succ, List.cons_append, size_cons, Nat.one_mul, ih]

/-- An array can be brought to each shape that its own one, with axes of size one in front, fits. -/
theorem broadcastTo?_eq_some_iff {t result : Tensor α} : t.broadcastTo? target = some result ↔
    fits (List.replicate (target.length - t.rank) 1 ++ t.shape) target = true ∧
      result.shape = target ∧ result.cells =
        spread (List.replicate (target.length - t.rank) 1 ++ t.shape) target t.cells := by
  rw [broadcastTo?, broadcast?, rank]
  by_cases hfits : fits (List.replicate (target.length - t.shape.length) 1 ++ t.shape) target = true
  · have hlength := length_spread hfits (t.length_cells.trans (size_replicate_append _ _).symm)
    simp only [hfits, if_true, Option.bind_some, ofCells?, dif_pos hlength, Option.some.injEq,
      true_and]
    constructor
    · rintro rfl
      exact ⟨rfl, rfl⟩
    · rintro ⟨hshape, hcells⟩
      exact eq_of_cells hshape.symm hcells.symm
  · simp [hfits]

theorem getElem?_broadcastTo? {t result : Tensor α} (h : t.broadcastTo? target = some result)
    (hin : List.Forall₂ (· < ·) coordinates target) :
    result.cells[place target coordinates]? = t.spreadAt? coordinates := by
  obtain ⟨hfits, -, hcells⟩ := broadcastTo?_eq_some_iff.1 h
  have hsize := t.length_cells.trans (size_replicate_append (target.length - t.rank) _).symm
  rw [hcells, getElem?_spread hfits hsize hin, spreadAt?, hin.length_eq,
    place_collapse_replicate _ (hin.length_eq ▸ Nat.sub_le _ _)]

end EntityTagger.Tensor
