import EntityTagger.Proofs.Decoding.Places

/-! Decoding as a whole: which cells are predicted, in which order and as what, and that the
predictions for two arrays that are stacked are those for the first and then those for the
second. -/
namespace EntityTagger

/-- An array made of two others, one after the other along the first axis. -/
structure Tensor.IsStack {α : Type} (first second whole : Tensor α) : Prop where
  shape_eq : ∃ n m rest, first.shape = n :: rest ∧ second.shape = m :: rest ∧
    whole.shape = (n + m) :: rest
  cells_eq : whole.cells = first.cells ++ second.cells

namespace Tensor

variable {α : Type} {first second whole : Tensor α} {batches others positions count : ℕ}

theorem IsStack.shape_whole (h : IsStack first second whole) {n m : ℕ} {rest : List ℕ}
    (hfirst : first.shape = n :: rest) (hsecond : second.shape = m :: rest) :
    whole.shape = (n + m) :: rest := by
  obtain ⟨n', m', rest', hn, hm, hwhole⟩ := h.shape_eq
  obtain ⟨rfl, rfl⟩ := List.cons.inj (hfirst.symm.trans hn)
  obtain ⟨rfl, -⟩ := List.cons.inj (hsecond.symm.trans hm)
  exact hwhole

theorem IsStack.sliceAt_first (h : IsStack first second whole)
    (hfirst : first.shape = [batches, positions, count])
    (hsecond : second.shape = [others, positions, count]) {i p : ℕ} (hi : i < batches)
    (hp : p < positions) : whole.sliceAt i p = first.sliceAt i p := by
  have hplace : (i * positions + p) * count + count ≤ first.cells.length := by
    rw [length_cells_of_shape hfirst, ← Nat.succ_mul]
    exact Nat.mul_le_mul_right count (mul_add_lt hi hp)
  simp only [sliceAt, hfirst, h.shape_whole hfirst hsecond, h.cells_eq]
  rw [List.drop_append_of_le_length (by omega), List.take_append_of_le_length]
  rw [List.length_drop]
  omega

theorem IsStack.sliceAt_second (h : IsStack first second whole)
    (hfirst : first.shape = [batches, positions, count])
    (hsecond : second.shape = [others, positions, count]) (i p : ℕ) :
    whole.sliceAt (batches + i) p = second.sliceAt i p := by
  have hplace : ((batches + i) * positions + p) * count =
      first.cells.length + (i * positions + p) * count := by
    rw [length_cells_of_shape hfirst]
    ring
  simp only [sliceAt, hsecond, h.shape_whole hfirst hsecond, h.cells_eq]
  rw [hplace, List.drop_length_add_append]

end Tensor

def Prediction.below {σ : Type} (batches : ℕ) (p : Prediction σ) : Prediction σ :=
  { p with batch := batches + p.batch }

namespace Decoder

open Tensor

variable {K : Kernel} {labels : LabelMapping} {logits other whole : Tensor K.Logit}
  {mask mask' masks : Option (Tensor Bool)} {batches others positions count : ℕ}

/-- No masks at all, or masks that are brought to their cells and stacked. -/
inductive StackedMasks (batches others positions : ℕ) :
    Option (Tensor Bool) → Option (Tensor Bool) → Option (Tensor Bool) → Prop
  | absent : StackedMasks batches others positions none none none
  | given {first second spread spread' whole : Tensor Bool}
      (hfirst : first.broadcastTo? [batches, positions] = some spread)
      (hsecond : second.broadcastTo? [others, positions] = some spread')
      (hwhole : IsStack spread spread' whole) :
      StackedMasks batches others positions (some first) (some second) (some whole)

theorem StackedMasks.kept (h : StackedMasks batches others positions mask mask' masks)
    (count : ℕ) : ∃ keep keep', kept [batches, positions, count] mask = .ok keep ∧
      kept [others, positions, count] mask' = .ok keep' ∧
      kept [batches + others, positions, count] masks = .ok (keep ++ keep') := by
  cases h with
  | absent =>
    refine ⟨_, _, rfl, rfl, ?_⟩
    rw [List.replicate_append_replicate]
    simp [Decoder.kept, size, Nat.add_mul]
  | @given first second spread spread' whole hfirst hsecond hwhole =>
    have hshape := hwhole.shape_whole (broadcastTo?_eq_some_iff.1 hfirst).2.1
      (broadcastTo?_eq_some_iff.1 hsecond).2.1
    have hself : whole.broadcastTo? [batches + others, positions] = some whole :=
      hshape ▸ broadcastTo?_shape whole
    refine ⟨spread.cells, spread'.cells, ?_, ?_, ?_⟩
    · simp [Decoder.kept, hfirst]
    · simp [Decoder.kept, hsecond]
    · simp [Decoder.kept, hself, hwhole.cells_eq]

theorem StackedMasks.isKept_iff (h : StackedMasks batches others positions mask mask' masks) :
    (∀ x ∈ places batches positions, IsKept masks x.1 x.2 ↔ IsKept mask x.1 x.2) ∧
    ∀ x ∈ places others positions, IsKept masks (batches + x.1) x.2 ↔ IsKept mask' x.1 x.2 := by
  obtain ⟨keep, keep', hfirst, hsecond, hwhole⟩ := h.kept 1
  have hall := kept_eq_map hwhole
  rw [places_add, List.map_append, List.map_map, kept_eq_map hfirst, kept_eq_map hsecond] at hall
  obtain ⟨hbatches, hothers⟩ := List.append_inj hall (by simp)
  rw [List.map_inj_left] at hbatches hothers
  constructor
  · intro x hx
    exact (decide_eq_decide.1 (hbatches x hx)).symm
  · intro x hx
    exact (decide_eq_decide.1 (hothers x hx)).symm

/-- Two arrays that are stacked are decoded one after the other. -/
theorem decode_stack (labels : LabelMapping)
    (hshape : logits.shape = [batches, positions, count])
    (hother : other.shape = [others, positions, count]) (hcount : 0 < count)
    (hstack : IsStack logits other whole)
    (hmasks : StackedMasks batches others positions mask mask' masks) :
    decode K labels whole masks = (decode K labels logits mask).bind fun first =>
      (decode K labels other mask').map fun second =>
        first ++ second.map (Prediction.below batches) := by
  obtain ⟨keep, keep', hfirst, hsecond, hboth⟩ := hmasks.kept count
  obtain ⟨hupper, hlower⟩ := hmasks.isKept_iff
  have hcell : ∀ x ∈ places batches positions, cellAt K whole x = cellAt K logits x := by
    intro x hx
    obtain ⟨hb, hp⟩ := mem_places_iff.1 hx
    exact cellAt_congr (hstack.sliceAt_first hshape hother hb hp)
  have hbelow : ∀ x : ℕ × ℕ, predictAt K labels whole (batches + x.1, x.2) =
      (predictAt K labels other x).map (Prediction.below batches) ∧
        (cellAt K whole (batches + x.1, x.2)).best = (cellAt K other x).best := by
    intro x
    have hslice := hstack.sliceAt_second hshape hother x.1 x.2
    simp only [predictAt, cellAt, hslice]
    refine ⟨?_, trivial⟩
    cases labels.lookup _ <;> rfl
  have hchosen : chosen K whole masks (batches + others) positions =
      chosen K logits mask batches positions ++
        (chosen K other mask' others positions).map fun x => (batches + x.1, x.2) := by
    rw [chosen, places_add, List.filter_append, List.filter_map]
    congr 1
    · exact List.filter_congr fun x hx => by rw [hcell x hx, decide_eq_decide.2 (hupper x hx)]
    · refine congrArg _ (List.filter_congr fun x hx => ?_)
      simp only [Function.comp_apply, (hbelow x).2, decide_eq_decide.2 (hlower x hx)]
  rw [decode_eq_mapM labels (hstack.shape_whole hshape hother) hcount,
    decode_eq_mapM labels hshape hcount, decode_eq_mapM labels hother hcount, hfirst, hsecond,
    hboth, hchosen]
  simp only [Except.bind]
  have hupperMap : (chosen K logits mask batches positions).mapM (predictAt K labels whole) =
      (chosen K logits mask batches positions).mapM (predictAt K labels logits) := by
    refine Traversal.mapM_congr fun x hx => ?_
    rw [predictAt, predictAt, hcell x (List.mem_filter.1 hx).1]
  have hlowerMap : ((chosen K other mask' others positions).map
        fun x => (batches + x.1, x.2)).mapM (predictAt K labels whole) =
      ((chosen K other mask' others positions).mapM (predictAt K labels other)).map
        (List.map (Prediction.below batches)) := by
    rw [List.mapM_map, ← Traversal.mapM_step_map]
    exact Traversal.mapM_congr fun x _ => (hbelow x).1
  rw [Traversal.mapM_append, hupperMap, hlowerMap]
  cases (chosen K logits mask batches positions).mapM (predictAt K labels logits) with
  | error e => rfl
  | ok first =>
    cases (chosen K other mask' others positions).mapM (predictAt K labels other) <;> rfl

/-! ### What is predicted -/

/-- The lowest label of a cell whose score no other exceeds; 0 if no score is a number. -/
def bestAt (K : Kernel) (logits : Tensor K.Logit) (batch position : ℕ) : ℕ :=
  K.scores.lowestBest (Softmax.slice K (logits.sliceAt batch position))

/-- A prediction has the name of the best label of its cell and its score, the greatest one. -/
structure Describes (labels : LabelMapping) (logits : Tensor K.Logit) (p : Prediction K.Score) :
    Prop where
  lookup_eq : labels.lookup (bestAt K logits p.batch p.position) = .ok p.label
  score_eq : (Softmax.slice K (logits.sliceAt p.batch p.position))[bestAt K logits p.batch
    p.position]? = some p.score
  greatest : ∀ s ∈ Softmax.slice K (logits.sliceAt p.batch p.position),
    K.scores.atLeast p.score s = true

theorem best_cellAt {e : ElementType} (he : e ≠ .integer) {logits : Tensor e.kernel.Logit}
    (hshape : logits.shape = [batches, positions, count]) (hcount : 0 < count) {x : ℕ × ℕ}
    (hx : x.1 < batches ∧ x.2 < positions) :
    (cellAt e.kernel logits x).best = bestAt e.kernel logits x.1 x.2 ∧
    (Softmax.slice e.kernel (logits.sliceAt x.1 x.2))[bestAt e.kernel logits x.1 x.2]? =
      some (cellAt e.kernel logits x).score ∧
    (bestAt e.kernel logits x.1 x.2 ≠ LabelMapping.nonEntity →
      ∀ s ∈ Softmax.slice e.kernel (logits.sliceAt x.1 x.2),
        e.kernel.scores.atLeast (cellAt e.kernel logits x).score s = true) := by
  have hbest := Scale.isBest_of_best? (best?_of_lt hshape hcount hx)
  rcases ElementType.scores_nan_or_share he (logits.sliceAt x.1 x.2) with hnan | hshare
  · obtain ⟨hzero, hlowest⟩ := Scale.lowestBest_of_nan hbest hnan
    rw [bestAt, hlowest, hzero]
    exact ⟨rfl, hzero ▸ hbest.at_place, fun h => absurd rfl h⟩
  · have hnumbers := fun s hs => (hshare s hs).1
    rw [bestAt, Scale.lowestBest_of_numbers hbest hnumbers]
    exact ⟨rfl, hbest.at_place, fun _ => hbest.atLeast hnumbers⟩

theorem mem_chosen_iff {e : ElementType} (he : e ≠ .integer) {logits : Tensor e.kernel.Logit}
    (hshape : logits.shape = [batches, positions, count]) (hcount : 0 < count) {x : ℕ × ℕ} :
    x ∈ chosen e.kernel logits mask batches positions ↔ (x.1 < batches ∧ x.2 < positions) ∧
      bestAt e.kernel logits x.1 x.2 ≠ LabelMapping.nonEntity ∧ IsKept mask x.1 x.2 := by
  rw [chosen, List.mem_filter, mem_places_iff]
  refine and_congr_right fun hx => ?_
  rw [(best_cellAt he hshape hcount hx).1]
  simp [and_comm]

theorem describes_of_predictAt {e : ElementType} (he : e ≠ .integer)
    {logits : Tensor e.kernel.Logit} (hshape : logits.shape = [batches, positions, count])
    (hcount : 0 < count) {x : ℕ × ℕ} (hx : x.1 < batches ∧ x.2 < positions)
    (hentity : bestAt e.kernel logits x.1 x.2 ≠ LabelMapping.nonEntity)
    {p : Prediction e.kernel.Score} (hp : predictAt e.kernel labels logits x = .ok p) :
    Describes labels logits p := by
  obtain ⟨hbest, hscore, hgreatest⟩ := best_cellAt he hshape hcount hx
  obtain ⟨label, hlabel, rfl⟩ := Traversal.map_eq_ok_iff.1 hp
  rw [hbest] at hlabel
  exact ⟨hlabel, hscore, hgreatest hentity⟩

/-- Predictions stand in the order of their cells. They are those for the cells that the mask keeps
and whose best label is one for entities, each with that label and the greatest score. So the
predictions for stacked arrays follow one another, and the logits of the other cells have no
influence. -/
theorem decode_places {e : ElementType} (he : e ≠ .integer) {logits : Tensor e.kernel.Logit}
    (hshape : logits.shape = [batches, positions, count]) (hcount : 0 < count)
    (labels : LabelMapping) (mask : Option (Tensor Bool)) :
    (∀ predictions, decode e.kernel labels logits mask = .ok predictions →
      (predictions.Pairwise fun a b =>
        a.batch < b.batch ∨ a.batch = b.batch ∧ a.position < b.position) ∧
      (∀ i p, (∃ x ∈ predictions, x.batch = i ∧ x.position = p) ↔
        (i < batches ∧ p < positions) ∧
          bestAt e.kernel logits i p ≠ LabelMapping.nonEntity ∧ IsKept mask i p) ∧
      ∀ x ∈ predictions, Describes labels logits x) ∧
    (∀ (others : ℕ) (other whole : Tensor e.kernel.Logit) (mask' masks : Option (Tensor Bool)),
      other.shape = [others, positions, count] → IsStack logits other whole →
      StackedMasks batches others positions mask mask' masks →
        decode e.kernel labels whole masks =
          (decode e.kernel labels logits mask).bind fun first =>
            (decode e.kernel labels other mask').map fun second =>
              first ++ second.map (Prediction.below batches)) ∧
    ∀ other : Tensor e.kernel.Logit, other.shape = [batches, positions, count] →
      (∀ i < batches, ∀ p < positions, IsKept mask i p →
        other.sliceAt i p = logits.sliceAt i p) →
      decode e.kernel labels other mask = decode e.kernel labels logits mask := by
  refine ⟨?_, ?_, ?_⟩
  · intro predictions hdecode
    rw [decode_eq_mapM labels hshape hcount, Traversal.bind_eq_ok_iff] at hdecode
    obtain ⟨keep, -, hpredictions⟩ := hdecode
    have hplaces := map_place_of_mapM hpredictions
    refine ⟨?_, ?_, ?_⟩
    · have hordered := (pairwise_places batches positions).sublist
        (List.filter_sublist (p := fun x => decide (IsKept mask x.1 x.2) &&
          (cellAt e.kernel logits x).best != LabelMapping.nonEntity))
      rw [← chosen, ← hplaces, List.pairwise_map] at hordered
      exact hordered
    · intro i p
      rw [← mem_chosen_iff (x := (i, p)) he hshape hcount, ← hplaces, List.mem_map]
      simp only [Prod.mk.injEq]
    · intro x hx
      obtain ⟨y, hy, hpredict⟩ := Traversal.exists_of_mem_mapM hpredictions hx
      obtain ⟨hin, hentity, -⟩ := (mem_chosen_iff he hshape hcount).1 hy
      exact describes_of_predictAt he hshape hcount hin hentity hpredict
  · intro others other whole mask' masks hother hstack hmasks
    exact decode_stack labels hshape hother hcount hstack hmasks
  · intro other hother hsame
    exact decode_congr labels hshape hother hcount hsame

/-- Two rows of two cells, of which all but one have a label for entities. -/
def fourCells : Tensor ElementType.single.kernel.Logit :=
  ⟨[2, 2, 2], [Binary.infinity true, Binary.ofInt .single 7, Binary.infinity true,
    Binary.ofInt .single 7, Binary.ofInt .single 7, Binary.infinity true, Binary.infinity true,
    Binary.ofInt .single 7], rfl⟩

def firstColumn : Tensor Bool := ⟨[2], [true, false], rfl⟩

/-- The only cell that is kept and has a label for entities is predicted, and for stacked arrays it
is predicted twice. -/
theorem decode_places_fourCells :
    (∀ x ∈ [(⟨0, 0, text "SWITCH", Binary.ofInt .single 1⟩ :
        Prediction ElementType.single.kernel.Score)],
      Describes [(1, text "SWITCH")] fourCells x) ∧
    bestAt ElementType.single.kernel fourCells 1 0 = LabelMapping.nonEntity ∧
    decode ElementType.single.kernel [(1, text "SWITCH")]
      ⟨[4, 2, 2], fourCells.cells ++ fourCells.cells, rfl⟩
      (some ⟨[4, 2], [true, false, true, false, true, false, true, false], rfl⟩) =
        .ok [⟨0, 0, text "SWITCH", Binary.ofInt .single 1⟩,
          ⟨2, 0, text "SWITCH", Binary.ofInt .single 1⟩] := by
  have hdecode : decode ElementType.single.kernel [(1, text "SWITCH")] fourCells
      (some firstColumn) = .ok [⟨0, 0, text "SWITCH", Binary.ofInt .single 1⟩] :=
    Traversal.toOption_eq_some_iff.1 (by decide +kernel)
  obtain ⟨hall, hstack, -⟩ := decode_places (show ElementType.single ≠ .integer by decide)
    (show fourCells.shape = [2, 2, 2] from rfl) (by decide) [(1, text "SWITCH")] (some firstColumn)
  obtain ⟨-, hcells, hdescribes⟩ := hall _ hdecode
  refine ⟨hdescribes, ?_, ?_⟩
  · by_contra hentity
    obtain ⟨x, hx, hbatch, -⟩ := (hcells 1 0).2 ⟨by decide, hentity, by decide⟩
    obtain rfl := List.mem_singleton.1 hx
    simp at hbatch
  · have hmasks : StackedMasks 2 2 2 (some firstColumn) (some firstColumn)
        (some ⟨[4, 2], [true, false, true, false, true, false, true, false], rfl⟩) :=
      @StackedMasks.given 2 2 2 _ _ ⟨[2, 2], [true, false, true, false], rfl⟩
        ⟨[2, 2], [true, false, true, false], rfl⟩ _ rfl rfl ⟨⟨2, 2, [2], rfl, rfl, rfl⟩, rfl⟩
    rw [hstack 2 fourCells _ _ _ rfl ⟨⟨2, 2, [2, 2], rfl, rfl, rfl⟩, rfl⟩ hmasks, hdecode]
    rfl

end Decoder

end EntityTagger
