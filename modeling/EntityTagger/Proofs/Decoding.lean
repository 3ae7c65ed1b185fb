import EntityTagger.Decoder
import EntityTagger.Model
import EntityTagger.Proofs.Softmax

/-! Decoding where the logits of a cell depend on its token id alone. The cells that the mask keeps
are the tokens of the sequences, each in its row and at its place; the cells that were filled up
give nothing, whatever logits they have. -/
namespace EntityTagger

open Tensor

variable {α β : Type}

/-- A token of the sequences with the cell that it stands in. -/
structure Token where
  batch : ℕ
  position : ℕ
  id : ℤ

namespace Token

def ofRow (batch : ℕ) (row : List ℤ) : List Token :=
  row.zipIdx.map fun pair => ⟨batch, pair.2, pair.1⟩

def ofRows (rows : List (List ℤ)) : List Token :=
  rows.zipIdx.flatMap fun pair => ofRow pair.2 pair.1

@[simp] theorem length_ofRow (batch : ℕ) (row : List ℤ) :
    (ofRow batch row).length = row.length := by simp [ofRow]

theorem map_id_ofRow (batch : ℕ) (row : List ℤ) : (ofRow batch row).map Token.id = row := by
  simp [ofRow, Function.comp_def]

theorem map_id_ofRows (rows : List (List ℤ)) : (ofRows rows).map Token.id = rows.flatten := by
  simp only [ofRows, List.map_flatMap, map_id_ofRow]
  rw [List.flatMap_def, List.zipIdx_map_fst]

theorem mem_ofRows {rows : List (List ℤ)} {t : Token} (h : t ∈ ofRows rows) :
    ∃ row, rows[t.batch]? = some row ∧ row[t.position]? = some t.id := by
  obtain ⟨⟨row, batch⟩, hrow, ht⟩ := List.mem_flatMap.1 h
  obtain ⟨⟨id, position⟩, hid, rfl⟩ := List.mem_map.1 ht
  exact ⟨row, List.mem_zipIdx_iff_getElem?.1 hrow, List.mem_zipIdx_iff_getElem?.1 hid⟩

theorem batch_of_mem_ofRow {batch : ℕ} {row : List ℤ} {t : Token} (h : t ∈ ofRow batch row) :
    t.batch = batch := by
  obtain ⟨_, -, rfl⟩ := List.mem_map.1 h
  rfl

theorem filter_batch_ofRows (rows : List (List ℤ)) {k : ℕ} (hk : k < rows.length) :
    (ofRows rows).filter (·.batch = k) = ofRow k rows[k] := by
  have hsplit : rows.zipIdx = (rows.take k).zipIdx ++
      (rows[k], k) :: (rows.drop (k + 1)).zipIdx (k + 1) := by
    conv_lhs => rw [← List.take_append_drop k rows, List.drop_eq_getElem_cons hk]
    rw [List.zipIdx_append, List.zipIdx_cons, List.length_take, Nat.min_eq_left (by omega),
      Nat.zero_add]
  have hout : ∀ {part : List (List ℤ)} {start : ℕ}, (∀ pair ∈ part.zipIdx start, pair.2 ≠ k) →
      ((part.zipIdx start).flatMap fun pair => ofRow pair.2 pair.1).filter (·.batch = k) =
        [] := by
    intro part start hne
    rw [List.filter_eq_nil_iff]
    intro t ht
    obtain ⟨pair, hpair, ht⟩ := List.mem_flatMap.1 ht
    simpa [batch_of_mem_ofRow ht] using hne pair hpair
  have hrow : (ofRow k rows[k]).filter (·.batch = k) = ofRow k rows[k] := by
    rw [List.filter_eq_self]
    intro t ht
    simpa using batch_of_mem_ofRow ht
  rw [ofRows, hsplit, List.flatMap_append, List.flatMap_cons, List.filter_append,
    List.filter_append, hrow, hout, hout, List.nil_append, List.append_nil]
  · intro pair hpair
    have := List.le_snd_of_mem_zipIdx hpair
    omega
  · intro pair hpair
    have := List.snd_lt_of_mem_zipIdx hpair
    rw [List.length_take] at this
    omega

end Token

namespace Rectangle

theorem length_flatten (ids : Rectangle ℤ) :
    ids.rows.flatten.length = ids.rows.length * ids.width :=
  length_flatten_of_length ids.length_row

def expand (values : ℤ → List α) (count : ℕ) (h : ∀ id, (values id).length = count)
    (ids : Rectangle ℤ) : Tensor α where
  shape := [ids.rows.length, ids.width, count]
  cells := ids.rows.flatten.flatMap values
  length_cells := by
    rw [length_flatMap_of_length h, ids.length_flatten]
    simp [Nat.mul_assoc]

end Rectangle

theorem Model.spread_eq_expand {logits : ℤ → List α} {count : ℕ}
    (h : ∀ id, (logits id).length = count) {ids : Rectangle ℤ} (hne : ids.rows.flatten ≠ []) :
    spread logits ids.rows [ids.rows.length, ids.width] = .ok (ids.expand logits count h) := by
  obtain ⟨id, rest, hids⟩ := List.exists_cons_of_ne_nil hne
  have hcount : ((ids.rows.flatten.map logits).head?.map List.length).getD 0 = count := by
    rw [hids, List.map_cons, List.head?_cons, Option.map_some, Option.getD_some, h]
  have hall : (ids.rows.flatten.map logits).all (·.length == count) = true := by
    simp [h]
  have hcells : ofCells? [ids.rows.length, ids.width, count]
      (ids.rows.flatten.map logits).flatten = some (ids.expand logits count h) := by
    rw [← List.flatMap_def]
    exact dif_pos (ids.expand logits count h).length_cells
  simp only [spread, hcount, hall, if_true, List.cons_append, List.nil_append, hcells]

namespace Decoder

variable {K : Kernel} {logits : ℤ → List K.Logit} {count : ℕ}

theorem scores_expand (h : ∀ id, (logits id).length = count) (hpos : 0 < count)
    (ids : Rectangle ℤ) : scores K (ids.expand logits count h) =
      .ok (ids.expand (fun id => Softmax.slice K (logits id)) count (by simpa using h)) := by
  have hmap : mapAxis (Softmax.slice K) [ids.rows.length, ids.width, count] 2
      (ids.rows.flatten.flatMap logits) =
      ids.rows.flatten.flatMap fun id => Softmax.slice K (logits id) := by
    refine mapAxis_last (Softmax.length_slice K) h [ids.rows.length, ids.width] ?_
    simp [ids.length_flatten, size]
  have hsome : (ids.expand logits count h).shape[2]? ≠ some 0 := by
    show some count ≠ some 0
    simp; omega
  have halong := Softmax.along_eq_ok (t := ids.expand logits count h) Softmax.namesAxis_last hsome
  rw [scores, if_neg (by simp [rank, Rectangle.expand]), halong]
  exact congrArg Except.ok (eq_of_cells rfl hmap)

/-- The first best score of a token, with its label. -/
def top (K : Kernel) (scores : ℤ → List K.Score) (id : ℤ) : ℕ × K.Score :=
  (K.scores.best? (scores id)).getD (0, K.zero)

def cellOf (K : Kernel) (scores : ℤ → List K.Score) (t : Token) : Cell K.Score :=
  ⟨t.batch, t.position, (top K scores t.id).1, (top K scores t.id).2⟩

variable {scores : ℤ → List K.Score}

theorem cells_expand (h : ∀ id, (scores id).length = count) (hpos : 0 < count)
    (ids : Rectangle ℤ) :
    cells K (ids.expand scores count h) = (Token.ofRows ids.rows).map (cellOf K scores) := by
  have htop : ∀ id, K.scores.best? (scores id) = some (top K scores id) := by
    intro id
    have hne : scores id ≠ [] := List.ne_nil_of_length_pos (by rw [h]; exact hpos)
    cases hs : scores id with
    | nil => exact absurd hs hne
    | cons x rest => simp [top, hs, Scale.best?]
  have hblocks : Tensor.rows count (ids.rows.length * ids.width) (ids.rows.flatten.flatMap scores) =
      ids.rows.flatten.map scores := by
    rw [← ids.length_flatten, rows_flatMap h]
  have hrow : ∀ pair ∈ ids.rows.zipIdx,
      (pair.1.zipIdx (pair.2 * ids.width)).map (fun cell =>
        (⟨cell.2 / ids.width, cell.2 % ids.width, (top K scores cell.1).1,
          (top K scores cell.1).2⟩ : Cell K.Score)) =
        (Token.ofRow pair.2 pair.1).map (cellOf K scores) := by
    intro pair hpair
    have hlen := ids.length_row pair.1
      (List.mem_of_getElem? (List.mem_zipIdx_iff_getElem?.1 hpair))
    rw [List.zipIdx_eq_map_add, Token.ofRow, List.map_map, List.map_map]
    refine List.map_congr_left fun cell hcell => ?_
    have hlt : cell.2 < ids.width := by
      rw [← hlen]
      exact List.snd_lt_of_mem_zipIdx hcell
    have hdiv : (pair.2 * ids.width + cell.2) / ids.width = pair.2 := by
      rw [Nat.mul_comm, Nat.mul_add_div (by omega), Nat.div_eq_of_lt hlt, Nat.add_zero]
    have hmod : (pair.2 * ids.width + cell.2) % ids.width = cell.2 := by
      rw [Nat.mul_comm, Nat.mul_add_mod, Nat.mod_eq_of_lt hlt]
    simp [cellOf, hdiv, hmod]
  show ((Tensor.rows count (ids.rows.length * ids.width)
    (ids.rows.flatten.flatMap scores)).zipIdx.filterMap fun cell =>
      (K.scores.best? cell.1).map fun best =>
        (⟨cell.2 / ids.width, cell.2 % ids.width, best.1, best.2⟩ : Cell K.Score)) = _
  rw [hblocks, List.zipIdx_map, List.filterMap_map, Token.ofRows, List.map_flatMap]
  have hflat := zipIdx_flatten ids.length_row 0
  rw [Nat.zero_mul] at hflat
  rw [hflat, List.filterMap_flatMap]
  refine List.flatMap_congr fun pair hpair => ?_
  rw [← hrow pair hpair]
  simp [htop]

end Decoder

namespace Batch

def attended (sequences : List (List ℤ)) : Tensor Bool :=
  ((mask (width sequences) (sequences.map fun s => (s.length : ℤ))).map (· != 0)).toTensor

theorem shape_attended (sequences : List (List ℤ)) :
    (attended sequences).shape = [sequences.length, width sequences] := by
  simp [attended, Rectangle.toTensor, Rectangle.map, mask]

theorem cells_attended (sequences : List (List ℤ)) :
    (attended sequences).cells = sequences.flatMap fun s =>
      (List.range (width sequences)).map (decide <| · < s.length) := by
  have hcell : ∀ (s : List ℤ) (place : ℕ),
      ((if (place : ℤ) < s.length then (1 : ℤ) else 0) != 0) = decide (place < s.length) := by
    intro s place
    by_cases h : place < s.length <;> simp [h]
  simp only [attended, Rectangle.toTensor, Rectangle.map, mask, List.map_map, List.flatMap_def]
  refine congrArg List.flatten (List.map_congr_left fun s _ => ?_)
  simp only [Function.comp_def, List.map_map, hcell]

theorem map_range_lt (first second : α) {n width : ℕ} (h : n ≤ width) :
    (List.range width).map (fun place => if place < n then first else second) =
      List.replicate n first ++ List.replicate (width - n) second := by
  obtain ⟨more, rfl⟩ := Nat.exists_eq_add_of_le h
  rw [List.range_add, List.map_append, List.map_map, Nat.add_sub_cancel_left]
  congr 1
  · rw [List.eq_replicate_iff]
    refine ⟨by simp, fun b hb => ?_⟩
    obtain ⟨place, hplace, rfl⟩ := List.mem_map.1 hb
    exact if_pos (List.mem_range.1 hplace)
  · rw [List.eq_replicate_iff]
    refine ⟨by simp, fun b hb => ?_⟩
    obtain ⟨place, -, rfl⟩ := List.mem_map.1 hb
    exact if_neg (Nat.not_lt.2 (Nat.le_add_right n place))

theorem keep_fillRow (batch : ℕ) (filler : ℤ) {total : ℕ} {row : List ℤ}
    (h : row.length ≤ total) :
    (((Token.ofRow batch (fillRow filler total row)).zip
      ((List.range total).map (decide <| · < row.length))).filter (·.2)).map (·.1) =
      Token.ofRow batch row := by
  have hmarks : (List.range total).map (decide <| · < row.length) =
      List.replicate row.length true ++ List.replicate (total - row.length) false := by
    simpa using map_range_lt true false h
  have hkeep : ∀ tokens : List Token, tokens.length = row.length →
      ((tokens.zip (List.replicate row.length true)).filter (·.2)).map (·.1) = tokens := by
    intro tokens hlen
    rw [List.filter_eq_self.2 fun pair hp => List.eq_of_mem_replicate (List.of_mem_zip hp).2]
    exact List.map_fst_zip (by simp [hlen])
  have hdrop : ∀ tokens : List Token,
      (tokens.zip (List.replicate (total - row.length) false)).filter (·.2) = [] := by
    intro tokens
    rw [List.filter_eq_nil_iff]
    intro pair hp
    simp [List.eq_of_mem_replicate (List.of_mem_zip hp).2]
  rw [fillRow, Token.ofRow, List.zipIdx_append, List.map_append, hmarks,
    List.zip_append (by simp), List.filter_append, List.map_append, hkeep _ (by simp), hdrop,
    List.map_nil, List.append_nil, Token.ofRow]

/-- Of all cells, the mask keeps the tokens of the sequences. -/
theorem keep_fill (filler : ℤ) (sequences : List (List ℤ)) :
    (((Token.ofRows (fill filler sequences).rows).zip (attended sequences).cells).filter
      (·.2)).map (·.1) = Token.ofRows sequences := by
  have htokens : Token.ofRows (fill filler sequences).rows = sequences.zipIdx.flatMap fun pair =>
      Token.ofRow pair.2 (fillRow filler (width sequences) pair.1) := by
    rw [Token.ofRows, fill, List.zipIdx_map, List.flatMap_map]
    rfl
  have hmask : (attended sequences).cells = sequences.zipIdx.flatMap fun pair =>
      (List.range (width sequences)).map (decide <| · < pair.1.length) := by
    rw [cells_attended]
    generalize width sequences = total
    conv_lhs => rw [← List.zipIdx_map_fst 0 sequences, List.flatMap_map]
  have hwidth : ∀ pair ∈ sequences.zipIdx, pair.1.length ≤ width sequences := fun pair hp =>
    length_le_width (List.mem_of_getElem? (List.mem_zipIdx_iff_getElem?.1 hp))
  rw [htokens, hmask, zip_flatMap, List.filter_flatMap, List.map_flatMap, Token.ofRows]
  · exact List.flatMap_congr fun pair hp => keep_fillRow pair.2 filler (hwidth pair hp)
  · intro pair hp
    have := hwidth pair hp
    simp [fillRow]
    omega

end Batch

namespace Decoder

theorem name_eq_mapM {σ : Type} (labels : LabelMapping) (cells : List (Cell σ)) :
    name labels cells = cells.mapM fun cell =>
      (labels.lookup cell.best).map (⟨cell.batch, cell.position, ·, cell.score⟩) := by
  induction cells with
  | nil => rfl
  | cons cell rest ih =>
    rw [name]
    cases h : labels.lookup cell.best with
    | error e => rw [Traversal.mapM_cons_error (e := e) (by rw [h]; rfl)]
    | ok label =>
      rw [Traversal.mapM_cons_ok (y := ⟨cell.batch, cell.position, label, cell.score⟩)
        (by rw [h]; rfl), ← ih]

variable {K : Kernel} {logits : ℤ → List K.Logit} {count : ℕ}

/-- The tokens that are recognised: their best label is not the one for no entity. -/
def recognised (K : Kernel) (scores : ℤ → List K.Score) (tokens : List Token) : List Token :=
  tokens.filter fun t => (top K scores t.id).1 != LabelMapping.nonEntity

/-- Decoding a filled batch names the labels of the recognised tokens of the sequences. -/
theorem decode_fill (labels : LabelMapping) (h : ∀ id, (logits id).length = count)
    (hpos : 0 < count) (filler : ℤ) (sequences : List (List ℤ)) :
    let scores := fun id => Softmax.slice K (logits id)
    decode K labels ((Batch.fill filler sequences).expand logits count h)
      (some (Batch.attended sequences)) =
      (recognised K scores (Token.ofRows sequences)).mapM fun t =>
        (labels.lookup (top K scores t.id).1).map
          (⟨t.batch, t.position, ·, (top K scores t.id).2⟩) := by
  intro scores
  have hscores : ∀ id, (scores id).length = count := by simpa [scores] using h
  have hkept : kept ((Batch.fill filler sequences).expand scores count hscores).shape
      (some (Batch.attended sequences)) = .ok (Batch.attended sequences).cells := by
    show kept [(Batch.fill filler sequences).rows.length, Batch.width sequences, count] _ = _
    have hspread := broadcastTo?_shape (Batch.attended sequences)
    rw [Batch.shape_attended] at hspread
    simp [kept, Batch.fill, hspread]
  have hchosen : ((((Token.ofRows (Batch.fill filler sequences).rows).map (cellOf K scores)).zip
      (Batch.attended sequences).cells).filter
        fun pair => pair.2 && pair.1.best != LabelMapping.nonEntity).map (·.1) =
      (recognised K scores (Token.ofRows sequences)).map (cellOf K scores) := by
    rw [recognised, ← Batch.keep_fill filler sequences, List.zip_map_left, List.filter_map,
      List.map_map, List.filter_map, List.filter_filter, List.map_map]
    refine congrArg (List.map _) (List.filter_congr fun pair _ => ?_)
    exact Bool.and_comm _ _
  rw [decode, scores_expand h hpos]
  show (kept _ _ >>= fun kept => _) = _
  rw [hkept]
  show name labels _ = _
  rw [cells_expand hscores hpos, hchosen, name_eq_mapM, List.mapM_map]
  rfl

end Decoder

end EntityTagger
