import EntityTagger.Proofs.Tensor.Broadcast

/-! Slices along an axis. A change along one axis gives every cell the value that it has in the
changed slice through it; and it is a change along the last axis once the cells have been moved so
that this axis runs fastest. -/
namespace EntityTagger.Tensor

variable {α β : Type} {shape coordinates : List ℕ} {axis : ℕ} {cells : List α}

/-! ### Rows and columns -/

section Columns

variable {block : List (List α)} {width count place k : ℕ}

theorem getElem?_column (h : ∀ row ∈ block, row.length = width) (hp : place < width) (k : ℕ) :
    (column block place)[k]? = block[k]?.bind (·[place]?) := by
  induction block generalizing k with
  | nil => rfl
  | cons row rest ih =>
    have hrow : place < row.length := (h row (List.mem_cons_self ..)).symm ▸ hp
    have hsome : row[place]? = some row[place] := List.getElem?_eq_getElem hrow
    have hcolumn : column (row :: rest) place = row[place] :: column rest place :=
      List.filterMap_cons_some hsome
    rw [hcolumn]
    cases k with
    | zero => exact hsome.symm
    | succ k => exact ih (fun other hm => h other (List.mem_cons_of_mem _ hm)) k

theorem getElem?_columns (block : List (List α)) (hp : place < width) :
    (columns width block)[place]? = some (column block place) := by
  rw [columns, List.getElem?_map, List.getElem?_range hp, Option.map_some]

theorem column_rows (cells : List α) (count : ℕ) (hk : k < width) :
    column (rows width count cells) k =
      (List.range count).filterMap fun i => cells[i * width + k]? := by
  induction count generalizing cells with
  | zero => rfl
  | succ count ih =>
    have hfirst : (cells.take width)[k]? = cells[0 * width + k]? := by
      rw [List.getElem?_take_of_lt hk, Nat.zero_mul, Nat.zero_add]
    have hrest : ∀ i, (cells.drop width)[i * width + k]? = cells[(i + 1) * width + k]? := by
      intro i
      rw [List.getElem?_drop, Nat.succ_mul]
      congr 1
      omega
    have hcons := ih (cells.drop width)
    simp only [hrest] at hcons
    rw [column] at hcons ⊢
    rw [rows, List.range_succ_eq_map, List.filterMap_cons, List.filterMap_cons, List.filterMap_map,
      hfirst, hcons]
    rfl

theorem columns_columns (h : ∀ row ∈ block, row.length = width) :
    columns block.length (columns width block) = block := by
  have hcolumns : ∀ slice ∈ columns width block, slice.length = block.length :=
    fun slice hslice => length_of_mem_columns h hslice
  apply List.ext_getElem (length_columns ..)
  intro i hi hi'
  have hget := getElem?_columns (columns width block) hi'
  rw [List.getElem?_eq_getElem hi] at hget
  rw [Option.some.inj hget]
  apply List.ext_getElem?
  intro p
  have hlength : block[i].length = width := h _ (List.getElem_mem hi')
  rw [getElem?_column hcolumns hi']
  by_cases hp : p < width
  · rw [getElem?_columns block hp, Option.bind_some, getElem?_column h hp,
      List.getElem?_eq_getElem hi', Option.bind_some]
  · rw [List.getElem?_eq_none (by rw [length_columns]; omega), Option.bind_none,
      List.getElem?_eq_none (by omega)]

theorem rows_flatten (h : ∀ row ∈ block, row.length = width) :
    rows width block.length block.flatten = block := by
  induction block with
  | nil => rfl
  | cons row rest ih =>
    have hrow := h row (List.mem_cons_self ..)
    rw [List.length_cons, List.flatten_cons, rows, List.take_left' hrow, List.drop_left' hrow,
      ih fun other hm => h other (List.mem_cons_of_mem _ hm)]

theorem getElem?_flatten_columns (h : ∀ row ∈ block, row.length = width) (hp : place < width)
    (hk : k < block.length) :
    (columns width block).flatten[place * block.length + k]? = block[k]?.bind (·[place]?) := by
  have hlength : ∀ slice ∈ columns width block, slice.length = block.length :=
    fun slice hslice => length_of_mem_columns h hslice
  rw [getElem?_flatten_of_length hlength place hk, getElem?_columns block hp, Option.bind_some,
    getElem?_column h hp]

theorem rows_flatMap_rows {g : List α → List β}
    (hg : ∀ row, row.length = width → (g row).length = width)
    (hcells : cells.length = count * width) :
    rows width count ((rows width count cells).flatMap g) = (rows width count cells).map g := by
  have hlength : ∀ block ∈ (rows width count cells).map g, block.length = width := by
    intro block hblock
    obtain ⟨row, hrow, rfl⟩ := List.mem_map.1 hblock
    exact hg row (length_of_mem_rows hcells hrow)
  have hrows := rows_flatten hlength
  rwa [List.length_map, length_rows, ← List.flatMap_def] at hrows

theorem getElem?_flatMap_rows {other : ℕ} {g : List α → List β}
    (hg : ∀ row, row.length = width → (g row).length = other)
    (hcells : cells.length = count * width) (hp : place < count) (hk : k < other) :
    ((rows width count cells).flatMap g)[place * other + k]? =
      (g ((cells.drop (place * width)).take width))[k]? := by
  have hlength : ∀ block ∈ (rows width count cells).map g, block.length = other := by
    intro block hblock
    obtain ⟨row, hrow, rfl⟩ := List.mem_map.1 hblock
    exact hg row (length_of_mem_rows hcells hrow)
  rw [List.flatMap_def, getElem?_flatten_of_length hlength place hk, List.getElem?_map,
    getElem?_rows cells hp]
  rfl

end Columns

/-! ### Slices -/

/-- The cells at some coordinates but for that of one axis, which runs over the whole axis. Without
axes there is the single cell. -/
def cellsThrough (shape : List ℕ) (axis : ℕ) (cells : List α) (coordinates : List ℕ) : List α :=
  (List.range (shape.getD axis 1)).filterMap fun i => cells[place shape (coordinates.set axis i)]?

theorem cellsThrough_nil (hcells : cells.length = size []) (axis : ℕ) (coordinates : List ℕ) :
    cellsThrough [] axis cells coordinates = cells := by
  obtain ⟨cell, rfl⟩ := List.length_eq_one_iff.1 hcells
  rfl

theorem cellsThrough_zero {n i : ℕ} {rest : List ℕ} (cells : List α)
    (hlt : place rest coordinates < size rest) :
    cellsThrough (n :: rest) 0 cells (i :: coordinates) =
      column (rows (size rest) n cells) (place rest coordinates) :=
  (column_rows cells n hlt).symm

theorem set_lt (h : List.Forall₂ (· < ·) coordinates shape) {i : ℕ} (hi : i < shape.getD axis 1) :
    List.Forall₂ (· < ·) (coordinates.set axis i) shape := by
  induction h generalizing axis with
  | nil => exact .nil
  | @cons c n coordinates rest hc hrest ih =>
    cases axis with
    | zero => exact .cons (by simpa using hi) hrest
    | succ axis => exact .cons hc (ih (by simpa using hi))

theorem cellsThrough_succ {n i : ℕ} {rest : List ℕ} (cells : List α)
    (h : List.Forall₂ (· < ·) coordinates rest) :
    cellsThrough (n :: rest) (axis + 1) cells (i :: coordinates) =
      cellsThrough rest axis ((cells.drop (i * size rest)).take (size rest)) coordinates := by
  have haxis : (n :: rest).getD (axis + 1) 1 = rest.getD axis 1 := List.getD_cons_succ ..
  rw [cellsThrough, cellsThrough, haxis]
  apply List.filterMap_congr
  intro j hj
  have hlt := place_lt (set_lt h (List.mem_range.1 hj))
  rw [List.getElem?_take_of_lt hlt, List.getElem?_drop]
  rfl

theorem getElem?_mapAxis {f : List α → List β} (hf : ∀ slice, (f slice).length = slice.length)
    (hcells : cells.length = size shape) (haxis : axis < max shape.length 1)
    (h : List.Forall₂ (· < ·) coordinates shape) :
    (mapAxis f shape axis cells)[place shape coordinates]? =
      (f (cellsThrough shape axis cells coordinates))[coordinates.getD axis 0]? := by
  induction h generalizing axis cells with
  | nil =>
    rw [cellsThrough_nil hcells]
    rfl
  | @cons i n coordinates rest hi hrest ih =>
    have hlt := place_lt hrest
    cases axis with
    | zero =>
      have hrow : ∀ row ∈ rows (size rest) n cells, row.length = size rest :=
        fun row => length_of_mem_rows hcells
      have hslice : ∀ slice ∈ (columns (size rest) (rows (size rest) n cells)).map f,
          slice.length = n := by
        intro slice hs
        obtain ⟨source, hm, rfl⟩ := List.mem_map.1 hs
        rw [hf, length_of_mem_columns hrow hm, length_rows]
      have hcell := getElem?_flatten_columns hslice hi (k := place rest coordinates)
        (by rwa [List.length_map, length_columns])
      rw [List.length_map, length_columns, List.getElem?_map, getElem?_columns _ hlt] at hcell
      rw [mapAxis, place, hcell, cellsThrough_zero cells hlt]
      rfl
    | succ axis =>
      have haxis' : axis < max rest.length 1 := by
        simp only [List.length_cons] at haxis
        omega
      have hblock : ((cells.drop (i * size rest)).take (size rest)).length = size rest :=
        length_of_mem_rows hcells (List.mem_of_getElem? (getElem?_rows cells hi))
      rw [mapAxis, place,
        getElem?_flatMap_rows (fun row hrow => length_mapAxis hf hrow) hcells hi hlt,
        ih hblock haxis', cellsThrough_succ cells hrest]
      rfl

/-! ### Moving an axis behind all others -/

/-- The item of an axis comes last; the others keep their order. -/
def toLast {γ : Type} (axis : ℕ) (items : List γ) : List γ :=
  items.eraseIdx axis ++ items[axis]?.toList

@[simp] theorem toLast_nil {γ : Type} (axis : ℕ) : toLast axis ([] : List γ) = [] := rfl

@[simp] theorem toLast_zero {γ : Type} (x : γ) (rest : List γ) :
    toLast 0 (x :: rest) = rest ++ [x] :=
  rfl

@[simp] theorem toLast_succ {γ : Type} (axis : ℕ) (x : γ) (rest : List γ) :
    toLast (axis + 1) (x :: rest) = x :: toLast axis rest := rfl

theorem length_toLast {γ : Type} (axis : ℕ) (items : List γ) :
    (toLast axis items).length = items.length := by
  induction items generalizing axis with
  | nil => rfl
  | cons x rest ih =>
    cases axis with
    | zero => simp
    | succ axis => simp [ih axis]

theorem size_toLast (axis : ℕ) (shape : List ℕ) : size (toLast axis shape) = size shape := by
  induction shape generalizing axis with
  | nil => rfl
  | cons n rest ih =>
    cases axis with
    | zero => simp [Nat.mul_comm]
    | succ axis => simp [ih axis]

/-- The cells in the order in which the axis runs fastest. -/
def moveCells : List ℕ → ℕ → List α → List α
  | [], _, cells => cells
  | n :: rest, 0, cells => (columns (size rest) (rows (size rest) n cells)).flatten
  | n :: rest, axis + 1, cells => (rows (size rest) n cells).flatMap (moveCells rest axis)

theorem length_moveCells (h : cells.length = size shape) (axis : ℕ) :
    (moveCells shape axis cells).length = size shape := by
  induction shape generalizing axis cells with
  | nil => exact h
  | cons n rest ih =>
    cases axis with
    | zero =>
      have hblock : ∀ block ∈ columns (size rest) (rows (size rest) n cells), block.length = n := by
        intro block hb
        rw [length_of_mem_columns (fun row => length_of_mem_rows h) hb, length_rows]
      rw [moveCells, length_flatten_of_length hblock, length_columns, size_cons, Nat.mul_comm]
    | succ axis =>
      have hblock : ∀ block ∈ (rows (size rest) n cells).map (moveCells rest axis),
          block.length = size rest := by
        intro block hb
        obtain ⟨row, hm, rfl⟩ := List.mem_map.1 hb
        exact ih (length_of_mem_rows h hm) axis
      rw [moveCells, List.flatMap_def, length_flatten_of_length hblock, List.length_map,
        length_rows, size_cons]

theorem place_snoc (h : coordinates.length = shape.length) (n i : ℕ) :
    place (shape ++ [n]) (coordinates ++ [i]) = place shape coordinates * n + i := by
  induction shape generalizing coordinates with
  | nil =>
    obtain rfl := List.length_eq_zero_iff.1 h
    simp [place]
  | cons m rest ih =>
    cases coordinates with
    | nil => simp at h
    | cons j coordinates =>
      have hrest := ih (Nat.succ.inj h)
      simp only [List.cons_append, place, hrest, size_append, size_cons, size_nil]
      ring

theorem toLast_lt (h : List.Forall₂ (· < ·) coordinates shape) (axis : ℕ) :
    List.Forall₂ (· < ·) (toLast axis coordinates) (toLast axis shape) := by
  induction h generalizing axis with
  | nil => exact .nil
  | @cons i n coordinates rest hi hrest ih =>
    cases axis with
    | zero => exact List.rel_append hrest (.cons hi .nil)
    | succ axis => exact .cons hi (ih axis)

theorem getElem?_moveCells (hcells : cells.length = size shape) (axis : ℕ)
    (h : List.Forall₂ (· < ·) coordinates shape) :
    (moveCells shape axis cells)[place (toLast axis shape) (toLast axis coordinates)]? =
      cells[place shape coordinates]? := by
  induction h generalizing axis cells with
  | nil => rfl
  | @cons i n coordinates rest hi hrest ih =>
    have hlt := place_lt hrest
    have hrow : ((cells.drop (i * size rest)).take (size rest))[place rest coordinates]? =
        cells[i * size rest + place rest coordinates]? := by
      rw [List.getElem?_take_of_lt hlt, List.getElem?_drop]
    cases axis with
    | zero =>
      have hlength : ∀ row ∈ rows (size rest) n cells, row.length = size rest :=
        fun row => length_of_mem_rows hcells
      have hcell := getElem?_flatten_columns hlength hlt (k := i) (by rwa [length_rows])
      rw [length_rows, getElem?_rows cells hi, Option.bind_some, hrow] at hcell
      rw [toLast_zero, toLast_zero, place_snoc hrest.length_eq, moveCells, hcell, place]
    | succ axis =>
      have hmoved : place (toLast axis rest) (toLast axis coordinates) < size rest := by
        rw [← size_toLast axis rest]
        exact place_lt (toLast_lt hrest axis)
      have hblock : ((cells.drop (i * size rest)).take (size rest)).length = size rest :=
        length_of_mem_rows hcells (List.mem_of_getElem? (getElem?_rows cells hi))
      rw [toLast_succ, toLast_succ, place, size_toLast, moveCells,
        getElem?_flatMap_rows (fun row hrow => length_moveCells hrow axis) hcells hi hmoved,
        ih hblock axis, hrow, place]

theorem mapAxis_moveCells_first {f : List α → List β}
    (hf : ∀ slice, (f slice).length = slice.length) {n : ℕ} {rest : List ℕ}
    (hcells : cells.length = size (n :: rest)) :
    mapAxis f (rest ++ [n]) rest.length (moveCells (n :: rest) 0 cells) =
      moveCells (n :: rest) 0 (mapAxis f (n :: rest) 0 cells) := by
  have hrow : ∀ row ∈ rows (size rest) n cells, row.length = size rest :=
    fun row => length_of_mem_rows hcells
  rw [moveCells, moveCells, mapAxis]
  set slices := columns (size rest) (rows (size rest) n cells) with hslices
  have hcount : slices.length = size rest := length_columns ..
  have hslice : ∀ slice ∈ slices, slice.length = n := by
    intro slice hs
    rw [length_of_mem_columns hrow hs, length_rows]
  have hchanged : ∀ slice ∈ slices.map f, slice.length = n := by
    intro slice hs
    obtain ⟨source, hm, rfl⟩ := List.mem_map.1 hs
    rw [hf, hslice source hm]
  have hcolumn : ∀ block ∈ columns n (slices.map f), block.length = size rest := by
    intro block hb
    rw [length_of_mem_columns hchanged hb, List.length_map, hcount]
  have hback := rows_flatten hcolumn
  have htwice := columns_columns hchanged
  rw [length_columns] at hback
  rw [List.length_map, hcount] at htwice
  rw [hback, htwice]
  -- the slices are the blocks along the last axis
  have hflat : slices.flatten.length = size rest * n := by
    rw [length_flatten_of_length hslice, hcount]
  have hblocks := rows_mapAxis_last hf rest hflat
  have hsplit := rows_flatten hslice
  rw [hcount] at hsplit
  rw [hsplit] at hblocks
  have hlength : (mapAxis f (rest ++ [n]) rest.length slices.flatten).length = size rest * n := by
    rw [length_mapAxis hf (hflat.trans (by simp)), size_append, size_cons, size_nil, Nat.mul_one]
  rw [← flatten_rows hlength, hblocks]

/-- A change along an axis is one along the last axis when that axis has been moved there. -/
theorem mapAxis_moveCells {f : List α → List β} (hf : ∀ slice, (f slice).length = slice.length)
    (hcells : cells.length = size shape) (haxis : axis < max shape.length 1) :
    mapAxis f (toLast axis shape) (shape.length - 1) (moveCells shape axis cells) =
      moveCells shape axis (mapAxis f shape axis cells) := by
  induction shape generalizing axis cells with
  | nil => rfl
  | cons n rest ih =>
    cases axis with
    | zero => exact mapAxis_moveCells_first hf hcells
    | succ axis =>
      have hlt : axis < rest.length := by
        simp only [List.length_cons] at haxis
        omega
      obtain ⟨last, hlast⟩ : ∃ last, rest.length = last + 1 := ⟨rest.length - 1, by omega⟩
      have hmoved : ∀ row : List α, row.length = size rest →
          (moveCells rest axis row).length = size rest := fun _ hrow => length_moveCells hrow axis
      have hmapped : ∀ row : List α, row.length = size rest →
          (mapAxis f rest axis row).length = size rest := fun _ hrow => length_mapAxis hf hrow
      rw [toLast_succ, List.length_cons, Nat.add_sub_cancel, hlast, mapAxis, size_toLast, moveCells,
        rows_flatMap_rows hmoved hcells, List.flatMap_map, mapAxis, moveCells,
        rows_flatMap_rows hmapped hcells, List.flatMap_map]
      apply List.flatMap_congr
      intro row hrow
      have hrest := ih (length_of_mem_rows hcells hrow) (hlt.trans_le (Nat.le_max_left ..))
      rwa [hlast, Nat.add_sub_cancel] at hrest

theorem getElem?_toLast {γ : Type} {items : List γ} (haxis : axis < max items.length 1) :
    (toLast axis items)[items.length - 1]? = items[axis]? := by
  induction items generalizing axis with
  | nil => rfl
  | cons x rest ih =>
    cases axis with
    | zero => simp
    | succ axis =>
      have hlt : axis < rest.length := by
        simp only [List.length_cons] at haxis
        omega
      obtain ⟨last, hlast⟩ : ∃ last, rest.length = last + 1 := ⟨rest.length - 1, by omega⟩
      have hrest := ih (hlt.trans_le (Nat.le_max_left ..))
      rw [hlast, Nat.add_sub_cancel] at hrest
      rw [toLast_succ, List.length_cons, Nat.add_sub_cancel, hlast, List.getElem?_cons_succ, hrest,
        List.getElem?_cons_succ]

/-! ### Arrays -/

def cell? (t : Tensor α) (coordinates : List ℕ) : Option α := t.cells[place t.shape coordinates]?

/-- The slice through a cell along an axis. -/
def through (t : Tensor α) (axis : ℕ) (coordinates : List ℕ) : List α :=
  cellsThrough t.shape axis t.cells coordinates

/-- The array with one axis moved behind all others. -/
def moveLast (axis : ℕ) (t : Tensor α) : Tensor α :=
  ⟨toLast axis t.shape, moveCells t.shape axis t.cells,
    (length_moveCells t.length_cells axis).trans (size_toLast axis t.shape).symm⟩

def line (cells : List α) : Tensor α := ⟨[cells.length], cells, (Nat.mul_one _).symm⟩

variable {t : Tensor α}

theorem exists_cell? (t : Tensor α) (h : List.Forall₂ (· < ·) coordinates t.shape) :
    ∃ x, t.cell? coordinates = some x := by
  have hlt : place t.shape coordinates < t.cells.length := by
    rw [t.length_cells]
    exact place_lt h
  exact ⟨_, List.getElem?_eq_getElem hlt⟩

theorem getElem?_filterMap {γ : Type} {f : γ → Option α} {items : List γ}
    (h : ∀ x ∈ items, ∃ y, f x = some y) (k : ℕ) : (items.filterMap f)[k]? = items[k]?.bind f := by
  induction items generalizing k with
  | nil => rfl
  | cons x rest ih =>
    obtain ⟨y, hy⟩ := h x (List.mem_cons_self ..)
    rw [List.filterMap_cons_some hy]
    cases k with
    | zero => exact hy.symm
    | succ k => exact ih (fun z hz => h z (List.mem_cons_of_mem _ hz)) k

theorem getElem?_through (h : List.Forall₂ (· < ·) coordinates t.shape) (axis i : ℕ) :
    (t.through axis coordinates)[i]? =
      if i < t.shape.getD axis 1 then t.cell? (coordinates.set axis i) else none := by
  have hcells : ∀ j ∈ List.range (t.shape.getD axis 1),
      ∃ x, t.cells[place t.shape (coordinates.set axis j)]? = some x := by
    intro j hj
    exact exists_cell? t (set_lt h (List.mem_range.1 hj))
  rw [through, cellsThrough, getElem?_filterMap hcells]
  split_ifs with hi
  · rw [List.getElem?_range hi]
    rfl
  · rw [List.getElem?_eq_none (by simpa using hi)]
    rfl

theorem through_congr {other : Tensor α} (hshape : other.shape = t.shape)
    (h : List.Forall₂ (· < ·) coordinates t.shape)
    (hsame : ∀ i < t.shape.getD axis 1,
      other.cell? (coordinates.set axis i) = t.cell? (coordinates.set axis i)) :
    other.through axis coordinates = t.through axis coordinates := by
  apply List.ext_getElem?
  intro i
  rw [getElem?_through (hshape ▸ h), getElem?_through h, hshape]
  split_ifs with hi
  · exact hsame i hi
  · rfl

theorem cell?_moveLast (h : List.Forall₂ (· < ·) coordinates t.shape) (axis : ℕ) :
    (t.moveLast axis).cell? (toLast axis coordinates) = t.cell? coordinates :=
  getElem?_moveCells t.length_cells axis h

end EntityTagger.Tensor
