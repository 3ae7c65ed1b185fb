import EntityTagger.Proofs.Decoding

/-! Predictions and the cells that they are made from, for arrays of logits of any kind: a
prediction has the place of its cell and the cell's best score, and the cells come batch by batch
and from left to right. -/
namespace EntityTagger

/-- The slice of a cell: the values for each of its labels. -/
def Tensor.sliceAt {α : Type} (t : Tensor α) (batch position : ℕ) : List α :=
  match t.shape with
  | [_, positions, count] => (t.cells.drop ((batch * positions + position) * count)).take count
  | _ => []

namespace Tensor

variable {α : Type} {t : Tensor α} {batches positions count batch position : ℕ}

theorem length_cells_of_shape (hshape : t.shape = [batches, positions, count]) :
    t.cells.length = batches * positions * count := by
  rw [t.length_cells, hshape]
  simp [size, Nat.mul_assoc]

theorem mul_add_lt (hb : batch < batches) (hp : position < positions) :
    batch * positions + position < batches * positions :=
  calc batch * positions + position
      < batch * positions + positions := Nat.add_lt_add_left hp _
    _ = (batch + 1) * positions := (Nat.succ_mul batch positions).symm
    _ ≤ batches * positions := Nat.mul_le_mul_right positions hb

theorem div_mod_lt {place : ℕ} (h : place < batches * positions) :
    place / positions < batches ∧ place % positions < positions := by
  have hpositions : 0 < positions := Nat.pos_of_mul_pos_left (Nat.zero_lt_of_lt h)
  exact ⟨Nat.div_lt_of_lt_mul (Nat.mul_comm .. ▸ h), Nat.mod_lt _ hpositions⟩

theorem getElem?_rows_cells (hshape : t.shape = [batches, positions, count])
    (hb : batch < batches) (hp : position < positions) :
    (rows count (batches * positions) t.cells)[batch * positions + position]? =
      some (t.sliceAt batch position) := by
  simp only [getElem?_rows t.cells (mul_add_lt hb hp), sliceAt, hshape]

theorem length_sliceAt (hshape : t.shape = [batches, positions, count]) (hb : batch < batches)
    (hp : position < positions) : (t.sliceAt batch position).length = count :=
  length_of_mem_rows (length_cells_of_shape hshape)
    (List.mem_of_getElem? (getElem?_rows_cells hshape hb hp))

end Tensor

namespace Decoder

variable {K : Kernel} {labels : LabelMapping} {logits : Tensor K.Logit}
  {mask : Option (Tensor Bool)}

/-- What is predicted for a cell: its place, its best score, and the name of its best label. -/
structure Names {σ : Type} (labels : LabelMapping) (cell : Cell σ) (p : Prediction σ) : Prop where
  batch_eq : p.batch = cell.batch
  position_eq : p.position = cell.position
  score_eq : p.score = cell.score
  lookup_eq : labels.lookup cell.best = .ok p.label

theorem name_eq_ok {σ : Type} {cells : List (Cell σ)} {predictions : List (Prediction σ)}
    (h : name labels cells = .ok predictions) :
    List.Forall₂ (Names labels) cells predictions := by
  rw [name_eq_mapM] at h
  apply (Traversal.mapM_eq_ok_iff.1 h).imp
  intro cell p hp
  obtain ⟨label, hlabel, rfl⟩ := Traversal.map_eq_ok_iff.1 hp
  exact ⟨rfl, rfl, rfl, hlabel⟩

theorem map_fst_zip_sublist {α β : Type} (items : List α) (others : List β) :
    ((items.zip others).map Prod.fst).Sublist items := by
  induction items generalizing others with
  | nil => simp
  | cons x rest ih =>
    cases others with
    | nil => exact List.nil_sublist _
    | cons y others => exact (ih others).cons_cons x

/-- The predictions are made, in order, from cells whose best label is one for entities. -/
theorem decode_eq_ok {predictions : List (Prediction K.Score)}
    (h : decode K labels logits mask = .ok predictions) :
    ∃ scored chosen, scores K logits = .ok scored ∧ chosen.Sublist (cells K scored) ∧
      (∀ cell ∈ chosen, cell.best ≠ LabelMapping.nonEntity) ∧
      List.Forall₂ (Names labels) chosen predictions := by
  rw [decode] at h
  cases hscores : scores K logits with
  | error e => simp [hscores, bind, Except.bind] at h
  | ok scored =>
    cases hkept : kept scored.shape mask with
    | error e => simp [hscores, hkept, bind, Except.bind] at h
    | ok keep =>
      simp only [hscores, hkept, bind, Except.bind] at h
      refine ⟨scored, _, rfl, ?_, ?_, name_eq_ok h⟩
      · exact (List.filter_sublist.map Prod.fst).trans (map_fst_zip_sublist _ _)
      · intro cell hcell
        obtain ⟨pair, hpair, rfl⟩ := List.mem_map.1 hcell
        have hchosen : pair.2 = true ∧ pair.1.best ≠ LabelMapping.nonEntity := by
          simpa using (List.mem_filter.1 hpair).2
        exact hchosen.2

theorem scores_eq_ok {batches positions count : ℕ}
    (hshape : logits.shape = [batches, positions, count]) (hcount : 0 < count) :
    ∃ scored, scores K logits = .ok scored ∧ scored.shape = [batches, positions, count] ∧
      Tensor.rows count (batches * positions) scored.cells =
        (Tensor.rows count (batches * positions) logits.cells).map (Softmax.slice K) := by
  obtain ⟨shape, cells, hlength⟩ := logits
  subst hshape
  have hsome : [batches, positions, count][2]? ≠ some 0 := by
    simp
    omega
  have hrows : Tensor.rows count (Tensor.size [batches, positions]) (Tensor.mapAxis
      (Softmax.slice K) [batches, positions, count] 2 cells) =
        (Tensor.rows count (Tensor.size [batches, positions]) cells).map (Softmax.slice K) := by
    apply Tensor.rows_mapAxis_last (Softmax.length_slice K) [batches, positions]
    rw [hlength]
    simp [Tensor.size, Nat.mul_assoc]
  have hsize : Tensor.size [batches, positions] = batches * positions := by simp [Tensor.size]
  rw [hsize] at hrows
  refine ⟨Softmax.ofSlices K 2 ⟨[batches, positions, count], cells, hlength⟩, ?_, rfl, hrows⟩
  rw [scores, if_neg (by simp [Tensor.rank])]
  exact Softmax.along_eq_ok Softmax.namesAxis_last hsome

theorem sliceAt_scores {batches positions count batch position : ℕ} {scored : Tensor K.Score}
    (hshape : logits.shape = [batches, positions, count])
    (hscored : scored.shape = [batches, positions, count])
    (hrows : Tensor.rows count (batches * positions) scored.cells =
      (Tensor.rows count (batches * positions) logits.cells).map (Softmax.slice K))
    (hb : batch < batches) (hp : position < positions) :
    scored.sliceAt batch position = Softmax.slice K (logits.sliceAt batch position) := by
  have hslice := Tensor.getElem?_rows_cells hscored hb hp
  rw [hrows, List.getElem?_map, Tensor.getElem?_rows_cells hshape hb hp] at hslice
  exact (Option.some.inj hslice).symm

theorem best?_of_mem_cells {scored : Tensor K.Score} {batches positions count : ℕ}
    (hshape : scored.shape = [batches, positions, count]) {cell : Cell K.Score}
    (h : cell ∈ cells K scored) :
    cell.batch < batches ∧ cell.position < positions ∧
      K.scores.best? (scored.sliceAt cell.batch cell.position) =
        some (cell.best, cell.score) := by
  simp only [cells, hshape] at h
  obtain ⟨⟨slice, place⟩, hmem, hcell⟩ := List.mem_filterMap.1 h
  obtain ⟨best, hbest, rfl⟩ := Option.map_eq_some_iff.1 hcell
  have hslice := List.mem_zipIdx_iff_getElem?.1 hmem
  have hplace : place < batches * positions := by
    simpa using (List.getElem?_eq_some_iff.1 hslice).1
  obtain ⟨hb, hp⟩ := Tensor.div_mod_lt hplace
  refine ⟨hb, hp, ?_⟩
  have hat := Tensor.getElem?_rows_cells hshape hb hp
  rw [Nat.div_add_mod', hslice] at hat
  rw [← Option.some.inj hat]
  exact hbest

theorem pairwise_batch_cells (scored : Tensor K.Score) :
    (cells K scored).Pairwise fun a b => a.batch ≤ b.batch := by
  unfold cells
  split
  · next batches positions count hshape =>
    have hplaces : ((Tensor.rows count (batches * positions) scored.cells).zipIdx).Pairwise
        fun a b => a.2 < b.2 := by
      rw [← List.pairwise_map (f := Prod.snd), List.zipIdx_map_snd]
      exact List.pairwise_lt_range'
    rw [List.pairwise_filterMap]
    refine hplaces.imp ?_
    rintro ⟨slice, place⟩ ⟨slice', place'⟩ hlt cell hcell cell' hcell'
    obtain ⟨best, -, rfl⟩ := Option.map_eq_some_iff.1 hcell
    obtain ⟨best', -, rfl⟩ := Option.map_eq_some_iff.1 hcell'
    exact Nat.div_le_div_right (Nat.le_of_lt hlt)
  · exact List.Pairwise.nil

/-- The predictions for a text stand before those for the texts after it. -/
theorem pairwise_batch_of_decode {predictions : List (Prediction K.Score)}
    (h : decode K labels logits mask = .ok predictions) :
    predictions.Pairwise fun a b => a.batch ≤ b.batch := by
  obtain ⟨scored, chosen, -, hsub, -, hnames⟩ := decode_eq_ok h
  have hbatches : predictions.map Prediction.batch = chosen.map Cell.batch := by
    rw [← List.forall₂_eq_eq_eq, List.forall₂_map_left_iff, List.forall₂_map_right_iff]
    exact hnames.flip.imp fun _ _ hname => hname.batch_eq
  have hchosen := (pairwise_batch_cells scored).sublist hsub
  rw [← List.pairwise_map (f := Cell.batch) (R := (· ≤ ·)), ← hbatches, List.pairwise_map]
    at hchosen
  exact hchosen

end Decoder

end EntityTagger
