import EntityTagger.Proofs.Confidence
import EntityTagger.Proofs.Tensor.Broadcast

/-! What is predicted, place by place: the cells that a mask keeps and whose best label is one for
entities, row by row. So the predictions for stacked arrays follow one another, and the logits of
the other cells have no influence. -/
namespace EntityTagger

namespace Decoder

variable {K : Kernel} {labels : LabelMapping} {logits other : Tensor K.Logit}
  {mask : Option (Tensor Bool)} {batches positions count : ℕ} {keep : List Bool}

/-! ### Places -/

def places (batches positions : ℕ) : List (ℕ × ℕ) :=
  (List.range (batches * positions)).map fun k => (k / positions, k % positions)

theorem length_places (batches positions : ℕ) :
    (places batches positions).length = batches * positions := by simp [places]

theorem mem_places_iff {x : ℕ × ℕ} :
    x ∈ places batches positions ↔ x.1 < batches ∧ x.2 < positions := by
  rw [places, List.mem_map]
  constructor
  · rintro ⟨k, hk, rfl⟩
    exact Tensor.div_mod_lt (List.mem_range.1 hk)
  · rintro ⟨hb, hp⟩
    refine ⟨x.1 * positions + x.2, List.mem_range.2 (Tensor.mul_add_lt hb hp), ?_⟩
    have hpositions : 0 < positions := Nat.zero_lt_of_lt hp
    rw [Nat.mul_comm, Nat.mul_add_div hpositions, Nat.mul_add_mod, Nat.div_eq_of_lt hp,
      Nat.mod_eq_of_lt hp, Nat.add_zero]

/-- One place comes before another one: in an earlier row, or in the same row further left. -/
def Precedes (x y : ℕ × ℕ) : Prop := x.1 < y.1 ∨ x.1 = y.1 ∧ x.2 < y.2

theorem pairwise_places (batches positions : ℕ) :
    (places batches positions).Pairwise Precedes := by
  rw [places, List.pairwise_map]
  refine List.pairwise_lt_range.imp ?_
  intro j k hlt
  rcases Nat.lt_or_eq_of_le (Nat.div_le_div_right (c := positions) (Nat.le_of_lt hlt)) with
    hrow | hrow
  · exact Or.inl hrow
  · refine Or.inr ⟨hrow, ?_⟩
    have hj := Nat.div_add_mod' j positions
    have hk := Nat.div_add_mod' k positions
    dsimp only
    rw [hrow] at hj
    omega

theorem places_add (batches others positions : ℕ) : places (batches + others) positions =
    places batches positions ++ (places others positions).map fun x => (batches + x.1, x.2) := by
  rw [places, Nat.add_mul, List.range_add, List.map_append, List.map_map, places, places,
    List.map_map]
  refine congrArg _ (List.map_congr_left fun k hk => ?_)
  have hpositions := (Nat.zero_le _).trans_lt (Tensor.div_mod_lt (List.mem_range.1 hk)).2
  simp only [Function.comp_apply, Nat.mul_comm batches positions, Nat.mul_add_div hpositions,
    Nat.mul_add_mod]

theorem eq_map_range {α : Type} {items : List α} {n : ℕ} {f : ℕ → α} (hlength : items.length = n)
    (h : ∀ k < n, items[k]? = some (f k)) : items = (List.range n).map f := by
  apply List.ext_getElem?
  intro k
  by_cases hk : k < n
  · rw [h k hk, List.getElem?_map, List.getElem?_range hk, Option.map_some]
  · rw [List.getElem?_eq_none (by omega), List.getElem?_eq_none (by simpa using hk)]

/-! ### Masks -/

/-- A mask of any shape keeps a place, or there is no mask. -/
def IsKept (mask : Option (Tensor Bool)) (batch position : ℕ) : Prop :=
  ∀ m ∈ mask, m.spreadAt? [batch, position] = some true

instance (mask : Option (Tensor Bool)) (batch position : ℕ) :
    Decidable (IsKept mask batch position) :=
  inferInstanceAs (Decidable (∀ m ∈ mask, m.spreadAt? [batch, position] = some true))

theorem kept_eq_map (h : kept [batches, positions, count] mask = .ok keep) :
    keep = (places batches positions).map fun x => decide (IsKept mask x.1 x.2) := by
  have hsize : Tensor.size [batches, positions] = batches * positions := by simp [Tensor.size]
  cases mask with
  | none =>
    obtain rfl := Except.ok.inj h
    have hall : ∀ x : ℕ × ℕ, decide (IsKept none x.1 x.2) = true := by simp [IsKept]
    show List.replicate (Tensor.size [batches, positions]) true = _
    rw [hsize, ← length_places, List.map_congr_left fun x _ => hall x, List.map_const']
  | some m =>
    simp only [kept, List.take_succ_cons, List.take_zero] at h
    cases hspread : m.broadcastTo? [batches, positions] with
    | none => simp [hspread] at h
    | some spread =>
      rw [hspread] at h
      obtain rfl := Except.ok.inj h
      have hlength : spread.cells.length = batches * positions := by
        rw [spread.length_cells, (Tensor.broadcastTo?_eq_some_iff.1 hspread).2.1, hsize]
      rw [places, List.map_map]
      refine eq_map_range hlength fun k hk => ?_
      obtain ⟨hb, hp⟩ := Tensor.div_mod_lt hk
      have hcell := Tensor.getElem?_broadcastTo? hspread (.cons hb (.cons hp .nil))
      have hplace : Tensor.place [batches, positions] [k / positions, k % positions] = k := by
        simpa [Tensor.place] using Nat.div_add_mod' k positions
      rw [hplace] at hcell
      have hat : k < spread.cells.length := hlength ▸ hk
      rw [List.getElem?_eq_getElem hat] at hcell ⊢
      simp [IsKept, ← hcell]

/-! ### Cells -/

/-- The cell at a place: the first of its labels with the greatest score, and that score. -/
def cellAt (K : Kernel) (logits : Tensor K.Logit) (x : ℕ × ℕ) : Cell K.Score :=
  let (best, score) :=
    (K.scores.best? (Softmax.slice K (logits.sliceAt x.1 x.2))).getD (0, K.zero)
  ⟨x.1, x.2, best, score⟩

theorem best?_of_lt (hshape : logits.shape = [batches, positions, count]) (hcount : 0 < count)
    {x : ℕ × ℕ} (hx : x.1 < batches ∧ x.2 < positions) :
    K.scores.best? (Softmax.slice K (logits.sliceAt x.1 x.2)) =
      some ((cellAt K logits x).best, (cellAt K logits x).score) := by
  have hne : Softmax.slice K (logits.sliceAt x.1 x.2) ≠ [] := by
    apply List.ne_nil_of_length_pos
    rw [Softmax.length_slice, Tensor.length_sliceAt hshape hx.1 hx.2]
    exact hcount
  obtain ⟨best, score, hbest⟩ := Scale.exists_best? (S := K.scores) hne
  simp only [cellAt, hbest, Option.getD_some]

theorem cells_eq_map (hshape : logits.shape = [batches, positions, count]) (hcount : 0 < count)
    {scored : Tensor K.Score} (hscores : scores K logits = .ok scored) :
    scored.shape = [batches, positions, count] ∧
      cells K scored = (places batches positions).map (cellAt K logits) := by
  obtain ⟨found, hfound, hscored, hrows⟩ := scores_eq_ok (K := K) hshape hcount
  obtain rfl := Except.ok.inj (hscores.symm.trans hfound)
  refine ⟨hscored, ?_⟩
  have hzip : (Tensor.rows count (batches * positions) scored.cells).zipIdx =
      (List.range (batches * positions)).map fun k =>
        (Softmax.slice K (logits.sliceAt (k / positions) (k % positions)), k) := by
    apply eq_map_range
    · simp
    · intro k hk
      obtain ⟨hb, hp⟩ := Tensor.div_mod_lt hk
      have hrow := Tensor.getElem?_rows_cells hscored hb hp
      rw [Nat.div_add_mod', sliceAt_scores hshape hscored hrows hb hp] at hrow
      rw [List.getElem?_zipIdx, hrow]
      simp
  simp only [cells, hscored]
  rw [hzip, places, List.map_map, List.filterMap_map, ← List.filterMap_eq_map]
  refine List.filterMap_congr fun k hk => ?_
  have hbest := best?_of_lt (K := K) (x := (k / positions, k % positions)) hshape hcount
    (Tensor.div_mod_lt (List.mem_range.1 hk))
  simp only [Function.comp_apply, hbest, Option.map_some]
  rfl

/-- The places whose cells are named. -/
def chosen (K : Kernel) (logits : Tensor K.Logit) (mask : Option (Tensor Bool))
    (batches positions : ℕ) : List (ℕ × ℕ) :=
  (places batches positions).filter fun x =>
    decide (IsKept mask x.1 x.2) && (cellAt K logits x).best != LabelMapping.nonEntity

def predictAt (K : Kernel) (labels : LabelMapping) (logits : Tensor K.Logit) (x : ℕ × ℕ) :
    Except Error (Prediction K.Score) :=
  (labels.lookup (cellAt K logits x).best).map (⟨x.1, x.2, ·, (cellAt K logits x).score⟩)

theorem decode_eq_mapM (labels : LabelMapping)
    (hshape : logits.shape = [batches, positions, count]) (hcount : 0 < count)
    (mask : Option (Tensor Bool)) : decode K labels logits mask =
      (kept [batches, positions, count] mask).bind fun _ =>
        (chosen K logits mask batches positions).mapM (predictAt K labels logits) := by
  obtain ⟨scored, hscores, -⟩ := scores_eq_ok (K := K) hshape hcount
  obtain ⟨hscored, hcells⟩ := cells_eq_map hshape hcount hscores
  rw [decode, hscores]
  show ((kept scored.shape mask).bind fun keep => _) = _
  rw [hscored, hcells]
  cases hkept : kept [batches, positions, count] mask with
  | error e => rfl
  | ok keep =>
    obtain rfl := kept_eq_map hkept
    have hnamed : ((((places batches positions).map (cellAt K logits)).zip
        ((places batches positions).map fun x => decide (IsKept mask x.1 x.2))).filter
          fun pair => pair.2 && pair.1.best != LabelMapping.nonEntity).map Prod.fst =
        (chosen K logits mask batches positions).map (cellAt K logits) := by
      rw [List.zip_map', List.filter_map, List.map_map]
      rfl
    show name labels _ = _
    rw [hnamed, name_eq_mapM, List.mapM_map]
    rfl

theorem cellAt_congr {x : ℕ × ℕ}
    (h : other.sliceAt x.1 x.2 = logits.sliceAt x.1 x.2) :
    cellAt K other x = cellAt K logits x := by
  rw [cellAt, cellAt, h]

/-- Only the cells that are kept have an influence. -/
theorem decode_eq_of_cellAt (labels : LabelMapping)
    (hshape : logits.shape = [batches, positions, count])
    (hother : other.shape = [batches, positions, count]) (hcount : 0 < count)
    (hcell : ∀ x ∈ places batches positions, IsKept mask x.1 x.2 →
      cellAt K other x = cellAt K logits x) :
    decode K labels other mask = decode K labels logits mask := by
  have hchosen : chosen K other mask batches positions =
      chosen K logits mask batches positions := by
    refine List.filter_congr fun x hx => ?_
    by_cases hkeep : IsKept mask x.1 x.2
    · rw [hcell x hx hkeep]
    · simp [hkeep]
  rw [decode_eq_mapM labels hother hcount, decode_eq_mapM labels hshape hcount, hchosen]
  refine congrArg _ (funext fun _ => Traversal.mapM_congr fun x hx => ?_)
  obtain ⟨hx, hkeep⟩ := List.mem_filter.1 hx
  rw [predictAt, predictAt, hcell x hx (by simp_all)]

theorem decode_congr (labels : LabelMapping)
    (hshape : logits.shape = [batches, positions, count])
    (hother : other.shape = [batches, positions, count]) (hcount : 0 < count)
    (hsame : ∀ i < batches, ∀ p < positions, IsKept mask i p →
      other.sliceAt i p = logits.sliceAt i p) :
    decode K labels other mask = decode K labels logits mask := by
  apply decode_eq_of_cellAt labels hshape hother hcount
  intro x hx hkeep
  obtain ⟨hb, hp⟩ := mem_places_iff.1 hx
  exact cellAt_congr (hsame x.1 hb x.2 hp hkeep)

theorem best?_of_mem_decode (hshape : logits.shape = [batches, positions, count])
    (hcount : 0 < count) {predictions : List (Prediction K.Score)}
    (hdecode : decode K labels logits mask = .ok predictions) {p : Prediction K.Score}
    (hp : p ∈ predictions) : ∃ best : ℕ, labels.lookup best = .ok p.label ∧
      K.scores.best? (Softmax.slice K (logits.sliceAt p.batch p.position)) =
        some (best, p.score) := by
  rw [decode_eq_mapM labels hshape hcount] at hdecode
  obtain ⟨-, -, hpredict⟩ := Traversal.bind_eq_ok_iff.1 hdecode
  obtain ⟨x, hx, hat⟩ := Traversal.exists_of_mem_mapM hpredict hp
  obtain ⟨label, hlookup, rfl⟩ := Traversal.map_eq_ok_iff.1 hat
  have hlt := mem_places_iff.1 (List.mem_filter.1 hx).1
  exact ⟨_, hlookup, best?_of_lt hshape hcount hlt⟩

theorem map_place_of_mapM {xs : List (ℕ × ℕ)} {predictions : List (Prediction K.Score)}
    (h : xs.mapM (predictAt K labels logits) = .ok predictions) :
    predictions.map (fun p => (p.batch, p.position)) = xs := by
  have hall := Traversal.mapM_eq_ok_iff.1 h
  clear h
  induction hall with
  | nil => rfl
  | cons hx _ ih =>
    obtain ⟨label, -, rfl⟩ := Traversal.map_eq_ok_iff.1 hx
    rw [List.map_cons, ih]

end Decoder

end EntityTagger
