import EntityTagger.Proofs.Tensor.Axis

/-! Arrays combined with what was made of their slices. A reduced array has one cell for every
slice; combining it with the array it comes from gives every cell the one of the slice through it,
so both steps together are a change of every slice. -/
namespace EntityTagger.Tensor

variable {α β γ : Type} {shape coordinates : List ℕ} {axis : ℕ} {cells : List α}

/-! ### Arrays by their cells -/

theorem exists_place {k : ℕ} (h : k < size shape) :
    ∃ coordinates, List.Forall₂ (· < ·) coordinates shape ∧ place shape coordinates = k := by
  induction shape generalizing k with
  | nil => exact ⟨[], .nil, (Nat.lt_one_iff.1 h).symm⟩
  | cons n rest ih =>
    rw [size_cons] at h
    have hpos : 0 < size rest := Nat.pos_of_mul_pos_left (Nat.zero_lt_of_lt h)
    obtain ⟨coordinates, hin, hplace⟩ := ih (Nat.mod_lt k hpos)
    refine ⟨k / size rest :: coordinates, .cons ?_ hin, ?_⟩
    · exact Nat.div_lt_of_lt_mul (Nat.mul_comm .. ▸ h)
    · rw [place, hplace, Nat.div_add_mod']

theorem eq_of_cell? {s t : Tensor α} (hshape : s.shape = t.shape)
    (h : ∀ coordinates, List.Forall₂ (· < ·) coordinates t.shape →
      s.cell? coordinates = t.cell? coordinates) : s = t := by
  apply eq_of_cells hshape
  apply List.ext_getElem?
  intro k
  by_cases hk : k < size t.shape
  · obtain ⟨coordinates, hin, rfl⟩ := exists_place hk
    have hcell := h coordinates hin
    rwa [cell?, hshape] at hcell
  · rw [List.getElem?_eq_none (by rw [s.length_cells, hshape]; omega),
      List.getElem?_eq_none (by rw [t.length_cells]; omega)]

@[simp] theorem cell?_map (f : α → β) (t : Tensor α) (coordinates : List ℕ) :
    (t.map f).cell? coordinates = (t.cell? coordinates).map f :=
  List.getElem?_map ..

theorem through_map (f : α → β) (t : Tensor α) (axis : ℕ) (coordinates : List ℕ) :
    (t.map f).through axis coordinates = (t.through axis coordinates).map f := by
  rw [through, cellsThrough, through, cellsThrough, List.map_filterMap]
  exact List.filterMap_congr fun i _ => List.getElem?_map ..

/-! ### The coordinate along the axis -/

theorem getD_lt (h : List.Forall₂ (· < ·) coordinates shape) (axis : ℕ) :
    coordinates.getD axis 0 < shape.getD axis 1 := by
  induction h generalizing axis with
  | nil => exact Nat.zero_lt_one
  | cons hi _ ih =>
    cases axis with
    | zero => exact hi
    | succ axis => exact ih axis

theorem set_lt_set (h : List.Forall₂ (· < ·) coordinates shape) (axis : ℕ) :
    List.Forall₂ (· < ·) (coordinates.set axis 0) (shape.set axis 1) := by
  induction h generalizing axis with
  | nil => exact .nil
  | cons hi hrest ih =>
    cases axis with
    | zero => exact .cons Nat.zero_lt_one hrest
    | succ axis => exact .cons hi (ih axis)

theorem getD_set (h : List.Forall₂ (· < ·) coordinates shape) {i : ℕ}
    (hi : i < shape.getD axis 1) : (coordinates.set axis i).getD axis 0 = i := by
  induction h generalizing axis with
  | nil => exact (Nat.lt_one_iff.1 hi).symm
  | cons _ _ ih =>
    cases axis with
    | zero => rfl
    | succ axis => exact ih hi

theorem set_getD (axis : ℕ) (coordinates : List ℕ) :
    coordinates.set axis (coordinates.getD axis 0) = coordinates := by
  induction coordinates generalizing axis with
  | nil => rfl
  | cons i coordinates ih =>
    cases axis with
    | zero => rfl
    | succ axis => exact congrArg (i :: ·) (ih axis)

variable {t : Tensor α}

theorem through_set (t : Tensor α) (axis i : ℕ) (coordinates : List ℕ) :
    t.through axis (coordinates.set axis i) = t.through axis coordinates := by
  simp only [through, cellsThrough, List.set_set]

theorem getElem?_through_self (h : List.Forall₂ (· < ·) coordinates t.shape) (axis : ℕ) :
    (t.through axis coordinates)[coordinates.getD axis 0]? = t.cell? coordinates := by
  rw [getElem?_through h, if_pos (getD_lt h axis), set_getD]

theorem length_through (h : List.Forall₂ (· < ·) coordinates t.shape) :
    (t.through axis coordinates).length = t.shape.getD axis 1 := by
  have hcells : ∀ i ∈ List.range (t.shape.getD axis 1),
      (t.cells[place t.shape (coordinates.set axis i)]?).isSome := by
    intro i hi
    obtain ⟨x, hx⟩ := exists_cell? t (set_lt h (List.mem_range.1 hi))
    exact Option.isSome_of_eq_some hx
  rw [through, cellsThrough, List.length_filterMap_eq_countP, List.countP_eq_length.2 hcells,
    List.length_range]

/-! ### Changed slices -/

/-- The array with every slice along an axis changed. -/
def changeAxis (f : List α → List β) (hf : ∀ slice, (f slice).length = slice.length) (axis : ℕ)
    (t : Tensor α) : Tensor β :=
  ⟨t.shape, mapAxis f t.shape axis t.cells, length_mapAxis hf t.length_cells⟩

section Change

variable {f : List α → List β} {hf : ∀ slice, (f slice).length = slice.length}

theorem cell?_changeAxis (haxis : axis < max t.rank 1)
    (h : List.Forall₂ (· < ·) coordinates t.shape) : (t.changeAxis f hf axis).cell? coordinates =
      (f (t.through axis coordinates))[coordinates.getD axis 0]? :=
  getElem?_mapAxis hf t.length_cells haxis h

theorem eq_changeAxis {s : Tensor β} (haxis : axis < max t.rank 1) (hshape : s.shape = t.shape)
    (h : ∀ coordinates, List.Forall₂ (· < ·) coordinates t.shape →
      s.cell? coordinates = (f (t.through axis coordinates))[coordinates.getD axis 0]?) :
    s = t.changeAxis f hf axis := by
  apply eq_of_cell? (t := t.changeAxis f hf axis) hshape
  intro coordinates hin
  rw [h coordinates hin, cell?_changeAxis haxis hin]

theorem through_changeAxis (haxis : axis < max t.rank 1)
    (h : List.Forall₂ (· < ·) coordinates t.shape) :
    (t.changeAxis f hf axis).through axis coordinates = f (t.through axis coordinates) := by
  apply List.ext_getElem?
  intro i
  rw [getElem?_through (t := t.changeAxis f hf axis) h]
  split_ifs with hi
  · rw [cell?_changeAxis haxis (set_lt h hi), through_set, getD_set h hi]
  · rw [List.getElem?_eq_none]
    rw [hf, length_through h]
    exact Nat.not_lt.1 hi

end Change

/-! ### Reduced slices -/

theorem getElem?_reduceAxis (f : List α → β) (hcells : cells.length = size shape)
    (h : List.Forall₂ (· < ·) coordinates shape) :
    (reduceAxis f shape axis cells)[place (shape.set axis 1) (coordinates.set axis 0)]? =
      some (f (cellsThrough shape axis cells coordinates)) := by
  induction h generalizing axis cells with
  | nil =>
    rw [cellsThrough_nil hcells]
    rfl
  | @cons i n coordinates rest hi hrest ih =>
    have hlt := place_lt hrest
    cases axis with
    | zero =>
      rw [reduceAxis, List.set_cons_zero, List.set_cons_zero, place, Nat.zero_mul, Nat.zero_add,
        List.getElem?_map, getElem?_columns _ hlt, cellsThrough_zero cells hlt, Option.map_some]
    | succ axis =>
      have hreduced : place (rest.set axis 1) (coordinates.set axis 0) < size (rest.set axis 1) :=
        place_lt (set_lt_set hrest axis)
      have hblock : ((cells.drop (i * size rest)).take (size rest)).length = size rest :=
        length_of_mem_rows hcells (List.mem_of_getElem? (getElem?_rows cells hi))
      rw [reduceAxis, List.set_cons_succ, List.set_cons_succ, place,
        getElem?_flatMap_rows (fun row hrow => length_reduceAxis f hrow) hcells hi hreduced,
        ih hblock, cellsThrough_succ cells hrest]

theorem cell?_reduce (f : List α → β) (axis : ℕ) (h : List.Forall₂ (· < ·) coordinates t.shape) :
    (t.reduce f axis).cell? (coordinates.set axis 0) = some (f (t.through axis coordinates)) :=
  getElem?_reduceAxis f t.length_cells h

theorem exists_mapM_id {items : List (Option α)} (h : ∀ item ∈ items, ∃ x, item = some x) :
    ∃ values, items.mapM id = some values ∧ items = values.map some := by
  induction items with
  | nil => exact ⟨[], rfl, rfl⟩
  | cons item rest ih =>
    obtain ⟨x, rfl⟩ := h item (List.mem_cons_self ..)
    obtain ⟨values, hvalues, rfl⟩ := ih fun other hother => h other (List.mem_cons_of_mem _ hother)
    refine ⟨x :: values, ?_, rfl⟩
    rw [List.mapM_cons, hvalues]
    rfl

theorem lt_of_lt_set (h : List.Forall₂ (· < ·) coordinates (shape.set axis 1))
    (hsize : shape[axis]? ≠ some 0) :
    List.Forall₂ (· < ·) coordinates shape ∧ coordinates.set axis 0 = coordinates := by
  induction shape generalizing axis coordinates with
  | nil =>
    cases h
    exact ⟨.nil, rfl⟩
  | cons n rest ih =>
    cases axis with
    | zero =>
      obtain ⟨i, more, hi, hrest, rfl⟩ := List.forall₂_cons_right_iff.1 h
      obtain rfl := Nat.lt_one_iff.1 hi
      have hpos : 0 < n := Nat.pos_of_ne_zero fun hzero => hsize (congrArg some hzero)
      exact ⟨.cons hpos hrest, rfl⟩
    | succ axis =>
      obtain ⟨i, more, hi, hrest, rfl⟩ := List.forall₂_cons_right_iff.1 h
      obtain ⟨hin, hset⟩ := ih hrest hsize
      exact ⟨.cons hi hin, congrArg (i :: ·) hset⟩

theorem exists_values?_reduce {f : List α → Option β} (hsize : t.shape[axis]? ≠ some 0)
    (h : ∀ coordinates, List.Forall₂ (· < ·) coordinates t.shape →
      ∃ y, f (t.through axis coordinates) = some y) :
    ∃ r, (t.reduce f axis).values? = some r ∧ r.shape = t.shape.set axis 1 ∧
      ∀ coordinates, List.Forall₂ (· < ·) coordinates t.shape →
        r.cell? (coordinates.set axis 0) = f (t.through axis coordinates) := by
  have hsome : ∀ item ∈ (t.reduce f axis).cells, ∃ y, item = some y := by
    intro item hitem
    obtain ⟨k, hk⟩ := List.mem_iff_getElem?.1 hitem
    have hlt := (List.getElem?_eq_some_iff.1 hk).1
    rw [(t.reduce f axis).length_cells] at hlt
    obtain ⟨coordinates, hin, rfl⟩ := exists_place hlt
    obtain ⟨hin', hset⟩ := lt_of_lt_set hin hsize
    have hcell := cell?_reduce f axis hin'
    rw [hset, cell?, hk] at hcell
    obtain ⟨y, hy⟩ := h coordinates hin'
    exact ⟨y, (Option.some.inj hcell).trans hy⟩
  obtain ⟨values, hvalues, hcells⟩ := exists_mapM_id hsome
  have hlength : values.length = size (t.shape.set axis 1) := by
    rw [← List.length_map (f := some), ← hcells]
    exact (t.reduce f axis).length_cells
  refine ⟨⟨t.shape.set axis 1, values, hlength⟩, ?_, rfl, ?_⟩
  · rw [values?, hvalues]
    exact dif_pos hlength
  · intro coordinates hin
    have hcell := cell?_reduce f axis hin
    rw [cell?, hcells, List.getElem?_map] at hcell
    obtain ⟨y, hy, hfy⟩ := Option.map_eq_some_iff.1 hcell
    exact hy.trans hfy

/-! ### An array and its reduced slices -/

theorem commonSizes?_set (shape : List ℕ) (axis : ℕ) :
    commonSizes? shape (shape.set axis 1) = some shape := by
  induction shape generalizing axis with
  | nil => rfl
  | cons n rest ih =>
    cases axis with
    | zero =>
      have hrest : commonSizes? rest rest = some rest := by
        have hset := ih rest.length
        rwa [List.set_eq_of_length_le (Nat.le_refl _)] at hset
      rw [List.set_cons_zero, commonSizes?, if_pos (Or.inr rfl), hrest]
      rfl
    | succ axis =>
      rw [List.set_cons_succ, commonSizes?, if_pos (Or.inl rfl), ih]
      rfl

theorem commonShape?_set (shape : List ℕ) (axis : ℕ) :
    commonShape? shape (shape.set axis 1) = some shape := by
  rw [commonShape?, List.length_set, Nat.sub_self]
  exact commonSizes?_set shape axis

theorem fits_set (shape : List ℕ) (axis : ℕ) : fits (shape.set axis 1) shape = true := by
  induction shape generalizing axis with
  | nil => rfl
  | cons n rest ih =>
    cases axis with
    | zero => simp [fits, fits_self]
    | succ axis => simp [fits, ih]

theorem collapse_self (h : List.Forall₂ (· < ·) coordinates shape) :
    collapse shape coordinates = coordinates := by
  induction h with
  | nil => rfl
  | @cons i n coordinates rest hi _ ih =>
    have hhead : (if n = 1 then 0 else i) = i := by
      split_ifs with hone
      · omega
      · rfl
    rw [collapse, hhead, ih]

theorem collapse_set (h : List.Forall₂ (· < ·) coordinates shape) (axis : ℕ) :
    collapse (shape.set axis 1) coordinates = coordinates.set axis 0 := by
  induction h generalizing axis with
  | nil => rfl
  | @cons i n coordinates rest hi hrest ih =>
    cases axis with
    | zero => rw [List.set_cons_zero, List.set_cons_zero, collapse, if_pos rfl, collapse_self hrest]
    | succ axis =>
      have hhead : (if n = 1 then 0 else i) = i := by
        split_ifs with hone
        · omega
        · rfl
      rw [List.set_cons_succ, List.set_cons_succ, collapse, hhead, ih]

/-- Every cell is combined with the one that stands for the slice through it. -/
theorem exists_combine? (g : α → β → γ) {r : Tensor β} (hshape : r.shape = t.shape.set axis 1) :
    ∃ u, t.combine? g r = some u ∧ u.shape = t.shape ∧
      ∀ coordinates, List.Forall₂ (· < ·) coordinates t.shape → u.cell? coordinates =
        (t.cell? coordinates).bind fun x => (r.cell? (coordinates.set axis 0)).map (g x) := by
  have hrank : r.rank = t.shape.length := by rw [rank, hshape, List.length_set]
  have hfits : fits (List.replicate (t.shape.length - r.rank) 1 ++ r.shape) t.shape = true := by
    rw [hrank, Nat.sub_self, hshape]
    exact fits_set t.shape axis
  have hsize := r.length_cells.trans (size_replicate_append (t.shape.length - r.rank) _).symm
  obtain ⟨spread, hspread, hspreadshape⟩ :
      ∃ spread, r.broadcastTo? t.shape = some spread ∧ spread.shape = t.shape :=
    ⟨⟨t.shape, _, length_spread hfits hsize⟩, broadcastTo?_eq_some_iff.2 ⟨hfits, rfl, rfl⟩, rfl⟩
  have hlength : (List.zipWith g t.cells spread.cells).length = size t.shape := by
    rw [List.length_zipWith, t.length_cells, spread.length_cells, hspreadshape, Nat.min_self]
  refine ⟨⟨t.shape, List.zipWith g t.cells spread.cells, hlength⟩, ?_, rfl, ?_⟩
  · rw [combine?, hshape, commonShape?_set, Option.bind_eq_bind, Option.bind_some,
      broadcastTo?_shape, Option.bind_eq_bind, Option.bind_some, hspread]
    exact dif_pos hlength
  · intro coordinates hin
    have hcell : spread.cells[place t.shape coordinates]? = r.cell? (coordinates.set axis 0) := by
      rw [getElem?_broadcastTo? hspread hin, spreadAt?, hrank, hin.length_eq, Nat.sub_self,
        List.drop_zero, hshape, collapse_set hin, cell?, hshape]
    rw [cell?, List.getElem?_zipWith', hcell, Option.bind_map]
    rfl

end EntityTagger.Tensor
