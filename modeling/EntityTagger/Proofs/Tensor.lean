import EntityTagger.Tensor
import EntityTagger.Proofs.Traversal
import Mathlib.Tactic.Ring

/-! Arrays made of blocks of one width: they are cut into their blocks again, a change along the
last axis is a change of every block, and a cell's place tells its block and its place there. -/
namespace EntityTagger.Tensor

variable {α β γ : Type}

@[simp] theorem size_append (shape more : List ℕ) :
    size (shape ++ more) = size shape * size more := by
  induction shape with
  | nil => simp
  | cons n shape ih => simp [ih, Nat.mul_assoc]

theorem flatten_rows {width count : ℕ} {cells : List α} (h : cells.length = count * width) :
    (rows width count cells).flatten = cells := by
  induction count generalizing cells with
  | zero => simpa [rows, eq_comm] using h
  | succ count ih =>
    rw [Nat.succ_mul] at h
    rw [rows, List.flatten_cons, ih (by simp; omega), List.take_append_drop]

theorem length_flatMap_of_length {f : γ → List α} {width : ℕ} (h : ∀ x, (f x).length = width)
    (items : List γ) : (items.flatMap f).length = items.length * width := by
  induction items with
  | nil => simp
  | cons x rest ih => rw [List.flatMap_cons, List.length_append, h, ih, List.length_cons]; ring

theorem rows_mul_flatMap {width count : ℕ} (k : ℕ) {f : γ → List α}
    (h : ∀ x, (f x).length = width) {items : List γ} (hc : items.length = count * k) :
    rows (k * width) count (items.flatMap f) = (rows k count items).map (·.flatMap f) := by
  induction count generalizing items with
  | zero => rfl
  | succ count ih =>
    rw [Nat.succ_mul] at hc
    have htake : ((items.take k).flatMap f).length = k * width := by
      rw [length_flatMap_of_length h, List.length_take, Nat.min_eq_left (by omega)]
    have hsplit : items.flatMap f = (items.take k).flatMap f ++ (items.drop k).flatMap f := by
      rw [← List.flatMap_append, List.take_append_drop]
    have hrest := ih (show (items.drop k).length = count * k by rw [List.length_drop]; omega)
    rw [hsplit, rows, List.take_left' htake, List.drop_left' htake, hrest, rows, List.map_cons]

theorem rows_one (cells : List α) : rows 1 cells.length cells = cells.map ([·]) := by
  induction cells with
  | nil => rfl
  | cons cell rest ih => simp [rows, ih]

theorem rows_flatMap {f : γ → List α} {width : ℕ} (h : ∀ x, (f x).length = width)
    (items : List γ) : rows width items.length (items.flatMap f) = items.map f := by
  have hrows := rows_mul_flatMap 1 h (show items.length = items.length * 1 by omega)
  rw [Nat.one_mul, rows_one] at hrows
  simpa [Function.comp_def] using hrows

theorem flatten_columns_single (cells : List α) :
    (columns cells.length [cells]).flatten = cells := by
  have hcolumn : column [cells] = fun place => cells[place]?.toList := by
    funext place
    cases h : cells[place]? <;> simp [column, h]
  rw [columns, hcolumn]
  clear hcolumn
  induction cells with
  | nil => rfl
  | cons cell rest ih =>
    rw [List.length_cons, List.range_succ_eq_map, List.map_cons, List.map_map, List.flatten_cons]
    simpa [Function.comp_def] using ih

/-- Applies `f` to every slice along one axis, counted from 0. Without axes the single cell is a
slice of its own. -/
def mapAxis (f : List α → List β) : List ℕ → ℕ → List α → List β
  | [], _, cells => f cells
  | n :: rest, 0, cells =>
    (columns n ((columns (size rest) (rows (size rest) n cells)).map f)).flatten
  | n :: rest, axis + 1, cells =>
    (rows (size rest) n cells).flatMap (mapAxis f rest axis)

theorem length_mapAxis {f : List α → List β} (hf : ∀ slice, (f slice).length = slice.length)
    {shape : List Nat} {axis : Nat} {cells : List α} (h : cells.length = size shape) :
    (mapAxis f shape axis cells).length = size shape := by
  induction shape generalizing axis cells with
  | nil => simp [mapAxis, hf, h]
  | cons n rest ih =>
    have hrow : ∀ row ∈ rows (size rest) n cells, row.length = size rest :=
      fun row => length_of_mem_rows h
    cases axis with
    | zero =>
      have hslice : ∀ slice ∈ (columns (size rest) (rows (size rest) n cells)).map f,
          slice.length = n := by
        intro slice hs
        obtain ⟨source, hm, rfl⟩ := List.mem_map.1 hs
        simp [hf, length_of_mem_columns hrow hm]
      rw [mapAxis, @length_flatten_of_length _ _ (size rest), length_columns, size_cons]
      intro block hb
      simpa using length_of_mem_columns hslice hb
    | succ axis =>
      rw [mapAxis, List.flatMap_def, @length_flatten_of_length _ _ (size rest)]
      · simp
      · intro block hb
        obtain ⟨row, hm, rfl⟩ := List.mem_map.1 hb
        exact ih (hrow row hm)

theorem mapAxis_single {f : List α → List β} (hf : ∀ slice, (f slice).length = slice.length)
    (slice : List α) : mapAxis f [slice.length] 0 slice = f slice := by
  have hin : columns 1 (slice.map ([·])) = [slice] := by
    simp [columns, column, List.filterMap_map]
  rw [mapAxis, size_nil, rows_one, hin, ← hf slice]
  exact flatten_columns_single (f slice)

theorem mapAxis_last {f : List α → List β} (hf : ∀ slice, (f slice).length = slice.length)
    {g : γ → List α} {width : ℕ} (hg : ∀ x, (g x).length = width) (shape : List ℕ)
    {items : List γ} (hs : items.length = size shape) :
    mapAxis f (shape ++ [width]) shape.length (items.flatMap g) =
      items.flatMap fun x => f (g x) := by
  induction shape generalizing items with
  | nil =>
    obtain ⟨x, rfl⟩ := List.length_eq_one_iff.1 hs
    obtain rfl := hg x
    simpa using mapAxis_single hf (g x)
  | cons n shape ih =>
    rw [size_cons] at hs
    have hgroup : ∀ group ∈ rows (size shape) n items,
        mapAxis f (shape ++ [width]) shape.length (group.flatMap g) =
          group.flatMap fun x => f (g x) := by
      intro group hm
      exact ih (length_of_mem_rows hs hm)
    calc mapAxis f (n :: shape ++ [width]) (shape.length + 1) (items.flatMap g)
        = (rows (size shape * width) n (items.flatMap g)).flatMap
            (mapAxis f (shape ++ [width]) shape.length) := by simp [mapAxis]
      _ = (rows (size shape) n items).flatMap
            (fun group => mapAxis f (shape ++ [width]) shape.length (group.flatMap g)) := by
          rw [rows_mul_flatMap _ hg hs, List.flatMap_map]
      _ = (rows (size shape) n items).flatMap (·.flatMap fun x => f (g x)) :=
          List.flatMap_congr hgroup
      _ = items.flatMap fun x => f (g x) := by
          rw [← List.flatMap_assoc, List.flatMap_id', flatten_rows hs]

theorem getElem?_rows {width count place : ℕ} (cells : List α) (hp : place < count) :
    (rows width count cells)[place]? = some ((cells.drop (place * width)).take width) := by
  induction count generalizing place cells with
  | zero => omega
  | succ count ih =>
    cases place with
    | zero => simp [rows]
    | succ place =>
      rw [rows, List.getElem?_cons_succ, ih (cells.drop width) (by omega), List.drop_drop,
        Nat.succ_mul, Nat.add_comm]

theorem rows_mapAxis_last {f : List α → List β} (hf : ∀ slice, (f slice).length = slice.length)
    (shape : List ℕ) {width : ℕ} {cells : List α} (h : cells.length = size shape * width) :
    rows width (size shape) (mapAxis f (shape ++ [width]) shape.length cells) =
      (rows width (size shape) cells).map f := by
  set blocks := (rows width (size shape) cells).attachWith (·.length = width)
    (fun _ => length_of_mem_rows h) with hblocks
  have hval : blocks.map Subtype.val = rows width (size shape) cells := by
    rw [hblocks, List.attachWith_map_subtype_val]
  have hcount : blocks.length = size shape := by
    rw [← List.length_map (f := Subtype.val), hval, length_rows]
  have hcells : cells = blocks.flatMap Subtype.val := by
    rw [List.flatMap_def, hval, flatten_rows h]
  have hwidth : ∀ block : {block : List α // block.length = width},
      (f block.val).length = width := fun block => (hf block.val).trans block.property
  have hmap : mapAxis f (shape ++ [width]) shape.length cells =
      blocks.flatMap fun block => f block.val := by
    rw [hcells]
    exact mapAxis_last hf (fun block => block.property) shape hcount
  rw [hmap, ← hcount, rows_flatMap hwidth, hcount, ← hval, List.map_map]
  rfl

theorem fits_self (shape : List ℕ) : fits shape shape = true := by
  induction shape with
  | nil => rfl
  | cons n shape ih => simp [fits, ih]

theorem spread_self {shape : List ℕ} {cells : List α} (h : cells.length = size shape) :
    spread shape shape cells = cells := by
  induction shape generalizing cells with
  | nil => rfl
  | cons n shape ih =>
    rw [size_cons] at h
    have hrows : (rows (size shape) n cells).flatMap (spread shape shape) =
        (rows (size shape) n cells).flatMap id :=
      List.flatMap_congr fun row hr => ih (length_of_mem_rows h hr)
    rw [spread, if_pos rfl, hrows, List.flatMap_id, flatten_rows h]

@[simp] theorem broadcastTo?_shape (t : Tensor α) : t.broadcastTo? t.shape = some t := by
  have hspread : broadcast? t.shape t.shape t.cells = some t.cells := by
    simp [broadcast?, fits_self, spread_self t.length_cells]
  rw [broadcastTo?, hspread, Option.bind_some, ofCells?, dif_pos t.length_cells]

theorem getElem?_flatten_of_length {width : ℕ} {blocks : List (List α)}
    (h : ∀ block ∈ blocks, block.length = width) (k : ℕ) {place : ℕ} (hp : place < width) :
    blocks.flatten[k * width + place]? = blocks[k]?.bind (·[place]?) := by
  induction blocks generalizing k with
  | nil => simp
  | cons block rest ih =>
    have hb := h block (List.mem_cons_self ..)
    cases k with
    | zero =>
      rw [List.flatten_cons, Nat.zero_mul, Nat.zero_add, List.getElem?_append_left (by omega)]
      simp
    | succ k =>
      have hplace : (k + 1) * width + place - block.length = k * width + place := by
        rw [Nat.succ_mul]; omega
      rw [List.flatten_cons, List.getElem?_append_right (by rw [Nat.succ_mul]; omega), hplace,
        ih fun b hm => h b (List.mem_cons_of_mem _ hm)]
      simp

theorem zip_flatMap {f : γ → List α} {g : γ → List β} {items : List γ}
    (h : ∀ x ∈ items, (f x).length = (g x).length) :
    (items.flatMap f).zip (items.flatMap g) = items.flatMap fun x => (f x).zip (g x) := by
  induction items with
  | nil => rfl
  | cons x rest ih =>
    rw [List.flatMap_cons, List.flatMap_cons, List.flatMap_cons,
      List.zip_append (h x (List.mem_cons_self ..)),
      ih fun y hy => h y (List.mem_cons_of_mem _ hy)]

theorem zipIdx_flatten {width : ℕ} {blocks : List (List α)}
    (h : ∀ block ∈ blocks, block.length = width) (start : ℕ) :
    blocks.flatten.zipIdx (start * width) =
      (blocks.zipIdx start).flatMap fun pair => pair.1.zipIdx (pair.2 * width) := by
  induction blocks generalizing start with
  | nil => rfl
  | cons block rest ih =>
    have hnext : start * width + block.length = (start + 1) * width := by
      rw [h block (List.mem_cons_self ..), Nat.succ_mul]
    rw [List.flatten_cons, List.zipIdx_append, hnext,
      ih (fun b hb => h b (List.mem_cons_of_mem _ hb)), List.zipIdx_cons, List.flatMap_cons]

end EntityTagger.Tensor
