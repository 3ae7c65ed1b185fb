/-!
Rectangular arrays of any rank. The cells stand in one list, the last axis running fastest; a change
along one axis is a recursion over the axes before it.
-/

namespace EntityTagger

namespace Tensor

variable {α β : Type}

def size (shape : List Nat) : Nat := shape.foldr (· * ·) 1

def rows (width : Nat) : Nat → List α → List (List α)
  | 0, _ => []
  | count + 1, cells => cells.take width :: rows width count (cells.drop width)

def column (rows : List (List α)) (place : Nat) : List α := rows.filterMap (·[place]?)

def columns (width : Nat) (rows : List (List α)) : List (List α) :=
  (List.range width).map (column rows)

/-- Makes one cell of every slice along one axis, counted from 0. Without axes the single cell is a
slice of its own. -/
def reduceAxis (f : List α → β) : List Nat → Nat → List α → List β
  | [], _, cells => [f cells]
  | n :: rest, 0, cells => (columns (size rest) (rows (size rest) n cells)).map f
  | n :: rest, axis + 1, cells => (rows (size rest) n cells).flatMap (reduceAxis f rest axis)

/-- Whether a shape has on every axis the size of another one, or 1. -/
def fits : List Nat → List Nat → Bool
  | [], [] => true
  | n :: source, m :: target => (n = m || n = 1) && fits source target
  | _, _ => false

/-- Repeats cells along the axes on which the first shape has size 1 and the second another one. -/
def spread : List Nat → List Nat → List α → List α
  | n :: source, m :: target, cells =>
    if n = m then (rows (size source) n cells).flatMap (spread source target)
    else (List.replicate m (spread source target cells)).flatten
  | _, _, cells => cells

/-- Brings cells to another shape: missing axes are put in front, and axes of size 1 are
repeated; `none` if an axis fits in neither way. -/
def broadcast? (source target : List Nat) (cells : List α) : Option (List α) :=
  let source := List.replicate (target.length - source.length) 1 ++ source
  if fits source target then some (spread source target cells) else none

/-- The sizes that two shapes with as many axes come to when axes of size 1 are repeated. -/
def commonSizes? : List Nat → List Nat → Option (List Nat)
  | [], [] => some []
  | n :: first, m :: second =>
    if n = m ∨ m = 1 then (commonSizes? first second).map (n :: ·)
    else if n = 1 then (commonSizes? first second).map (m :: ·)
    else none
  | _, _ => none

/-- The shape that arrays of two shapes are brought to before they are combined. -/
def commonShape? (first second : List Nat) : Option (List Nat) :=
  commonSizes? (List.replicate (second.length - first.length) 1 ++ first)
    (List.replicate (first.length - second.length) 1 ++ second)

@[simp] theorem size_nil : size [] = 1 := rfl

@[simp] theorem size_cons (n : Nat) (rest : List Nat) : size (n :: rest) = n * size rest := rfl

@[simp] theorem length_rows (width count : Nat) (cells : List α) :
    (rows width count cells).length = count := by
  induction count generalizing cells with
  | zero => rfl
  | succ count ih => simp [rows, ih]

theorem length_of_mem_rows {width count : Nat} {cells row : List α}
    (h : cells.length = count * width) (hr : row ∈ rows width count cells) :
    row.length = width := by
  induction count generalizing cells with
  | zero => simp [rows] at hr
  | succ count ih =>
    rw [Nat.succ_mul] at h
    rcases List.mem_cons.1 hr with rfl | hr
    · simp; omega
    · exact ih (by simp; omega) hr

theorem length_column {rows : List (List α)} {width place : Nat}
    (h : ∀ row ∈ rows, row.length = width) (hp : place < width) :
    (column rows place).length = rows.length := by
  induction rows with
  | nil => rfl
  | cons row rest ih =>
    have hr : place < row.length := by rw [h row (by simp)]; exact hp
    have := ih fun row hm => h row (List.mem_cons_of_mem _ hm)
    simp [column, List.getElem?_eq_getElem hr] at this ⊢
    exact this

@[simp] theorem length_columns (width : Nat) (rows : List (List α)) :
    (columns width rows).length = width := by simp [columns]

theorem length_of_mem_columns {rows : List (List α)} {width : Nat} {slice : List α}
    (h : ∀ row ∈ rows, row.length = width) (hs : slice ∈ columns width rows) :
    slice.length = rows.length := by
  obtain ⟨place, hp, rfl⟩ := List.mem_map.1 hs
  exact length_column h (List.mem_range.1 hp)

theorem length_flatten_of_length {blocks : List (List α)} {width : Nat}
    (h : ∀ block ∈ blocks, block.length = width) :
    blocks.flatten.length = blocks.length * width := by
  induction blocks with
  | nil => simp
  | cons block rest ih =>
    simp [h block (by simp), ih fun b hb => h b (List.mem_cons_of_mem _ hb), Nat.succ_mul,
      Nat.add_comm]

theorem length_reduceAxis (f : List α → β) {shape : List Nat} {axis : Nat} {cells : List α}
    (h : cells.length = size shape) :
    (reduceAxis f shape axis cells).length = size (shape.set axis 1) := by
  induction shape generalizing axis cells with
  | nil => rfl
  | cons n rest ih =>
    cases axis with
    | zero => simp [reduceAxis]
    | succ axis =>
      rw [reduceAxis, List.flatMap_def, @length_flatten_of_length _ _ (size (rest.set axis 1))]
      · simp
      · intro block hb
        obtain ⟨row, hm, rfl⟩ := List.mem_map.1 hb
        exact ih (length_of_mem_rows h hm)

end Tensor

/-- An array: its sizes along the axes, and its cells with the last axis running fastest. -/
structure Tensor (α : Type) where
  shape : List Nat
  cells : List α
  length_cells : cells.length = Tensor.size shape

namespace Tensor

variable {α β γ : Type}

/-- The array with the given shape and cells, if there are as many as the shape needs. -/
def ofCells? (shape : List Nat) (cells : List α) : Option (Tensor α) :=
  if h : cells.length = size shape then some ⟨shape, cells, h⟩ else none

def rank (t : Tensor α) : Nat := t.shape.length

def map (f : α → β) (t : Tensor α) : Tensor β :=
  ⟨t.shape, t.cells.map f, by simp [t.length_cells]⟩

def broadcastTo? (t : Tensor α) (target : List Nat) : Option (Tensor α) :=
  (broadcast? t.shape target t.cells).bind (ofCells? target)

/-- One cell for every slice along an axis, which stays with size 1. -/
def reduce (f : List α → β) (axis : Nat) (t : Tensor α) : Tensor β :=
  ⟨t.shape.set axis 1, reduceAxis f t.shape axis t.cells, length_reduceAxis f t.length_cells⟩

/-- The array of the values of the cells, if every cell has one. -/
def values? (t : Tensor (Option α)) : Option (Tensor α) :=
  (t.cells.mapM id).bind (ofCells? t.shape)

/-- Two arrays combined cell by cell, after both have been brought to one shape. -/
def combine? (f : α → β → γ) (s : Tensor α) (t : Tensor β) : Option (Tensor γ) := do
  let shape ← commonShape? s.shape t.shape
  let s ← s.broadcastTo? shape
  let t ← t.broadcastTo? shape
  ofCells? shape (List.zipWith f s.cells t.cells)

end Tensor

end EntityTagger
