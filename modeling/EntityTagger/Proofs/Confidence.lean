import EntityTagger.Proofs.Cells
import EntityTagger.Proofs.Tagging

/-! Scores as confidences. Where a slice of logits has no scores, the label for no entity is found
and nothing is predicted; so every score that is predicted is a number from 0 to 1, and no entity is
ever refused for its score. -/
namespace EntityTagger

open Extended

namespace Kernel.Reading

variable {K : Kernel} {R : K.Reading}

/-- What holds of a slice of logits and the scores that they give. -/
structure Confident (R : K.Reading) (logits : List K.Logit) : Prop where
  no_scores : R.NoScores logits ↔ ∀ s ∈ Softmax.slice K logits, R.score s = none
  divisor : ¬ R.NoScores logits →
    ∃ q, R.score (Softmax.total K logits) = some (number q) ∧ 1 ≤ q
  share : ¬ R.NoScores logits → ∀ s ∈ Softmax.slice K logits, IsShare (R.score s)

theorem confident_of_ne_nil (h : R.Lawful) {logits : List K.Logit} (hne : logits ≠ []) :
    R.Confident logits := by
  have hslice : Softmax.slice K logits ≠ [] := by
    apply List.ne_nil_of_length_pos
    rw [Softmax.length_slice]
    exact List.length_pos_iff.2 hne
  rcases Softmax.slice_cases h hne with ⟨hno, hnone⟩ | ⟨hno, hdivisor, hshare⟩
  · exact ⟨⟨fun _ => hnone, fun _ => hno⟩, fun h => absurd hno h, fun h => absurd hno h⟩
  · refine ⟨⟨fun h => absurd h hno, fun hnone => ?_⟩, fun _ => hdivisor, fun _ => hshare⟩
    obtain ⟨s, hs⟩ := List.exists_mem_of_ne_nil _ hslice
    exact absurd (hnone s hs) (hshare s hs).ne_none

/-- Among scores none of which is a number the first is the best. -/
theorem Confident.isShare_best (h : R.Lawful) {logits : List K.Logit} (hc : R.Confident logits)
    {best : ℕ} {score : K.Score}
    (hbest : K.scores.best? (Softmax.slice K logits) = some (best, score)) (hne : best ≠ 0) :
    ¬ R.NoScores logits ∧ IsShare (R.score score) := by
  have := h.scores.lawful
  have hisBest := Scale.isBest_of_best? hbest
  have hscores : ¬ R.NoScores logits := by
    intro hno
    have hnan : ∀ s ∈ Softmax.slice K logits, K.scores.isNaN s = true := fun s hs =>
      (h.scores.isNaN_iff s).2 (hc.no_scores.1 hno s hs)
    exact hne (Scale.lowestBest_of_nan hisBest hnan).1
  exact ⟨hscores, hc.share hscores score (List.mem_of_getElem? hisBest.at_place)⟩

end Kernel.Reading

namespace Decoder

variable {K : Kernel} {R : K.Reading} {logits : Tensor K.Logit} {batches positions count : ℕ}

/-- What is predicted lies in the array, at a slice with scores, and has one of these. -/
structure ConfidentAt (R : K.Reading) (logits : Tensor K.Logit) (batches positions : ℕ)
    (p : Prediction K.Score) : Prop where
  batch_lt : p.batch < batches
  position_lt : p.position < positions
  has_scores : ¬ R.NoScores (logits.sliceAt p.batch p.position)
  isShare : IsShare (R.score p.score)

theorem confidentAt_of_decode (h : R.Lawful) (hshape : logits.shape = [batches, positions, count])
    (hcount : 0 < count) {labels : LabelMapping} {mask : Option (Tensor Bool)}
    {predictions : List (Prediction K.Score)}
    (hdecode : decode K labels logits mask = .ok predictions) :
    ∀ p ∈ predictions, ConfidentAt R logits batches positions p := by
  obtain ⟨scored, chosen, hscores, hsub, hentity, hnames⟩ := decode_eq_ok hdecode
  obtain ⟨scored', hscores', hshape', hrows⟩ := scores_eq_ok (K := K) hshape hcount
  obtain rfl := Except.ok.inj (hscores.symm.trans hscores')
  intro p hp
  obtain ⟨i, hi, rfl⟩ := List.getElem_of_mem hp
  have hi' : i < chosen.length := hnames.length_eq ▸ hi
  have hname := hnames.get hi' hi
  have hmem : chosen[i] ∈ chosen := List.getElem_mem hi'
  obtain ⟨hb, hpos, hbest⟩ := best?_of_mem_cells hshape' (hsub.subset hmem)
  rw [sliceAt_scores hshape hshape' hrows hb hpos] at hbest
  have hne : logits.sliceAt chosen[i].batch chosen[i].position ≠ [] := by
    apply List.ne_nil_of_length_pos
    rw [Tensor.length_sliceAt hshape hb hpos]
    exact hcount
  have hconfident := Kernel.Reading.confident_of_ne_nil h hne
  obtain ⟨hhas, hshare⟩ := hconfident.isShare_best h hbest (hentity _ hmem)
  have hbatch : predictions[i].batch = chosen[i].batch := hname.batch_eq
  have hposition : predictions[i].position = chosen[i].position := hname.position_eq
  have hscore : predictions[i].score = chosen[i].score := hname.score_eq
  constructor
  · rwa [hbatch]
  · rwa [hposition]
  · rwa [hbatch, hposition]
  · rwa [hscore]

/-- Scores from 0 to 1 are never what stops the assembling. -/
theorem assemble_of_isShare {measure : K.Score → Double} (hmeasure : R.MeasuredBy measure)
    {predictions : List (Prediction K.Score)} (h : ∀ p ∈ predictions, IsShare (R.score p.score))
    (word : ℤ → Text) (ids : Tensor ℤ) :
    Entity.assemble word ids (predictions.map fun p => Tagger.candidate (p.map measure)) =
      predictions.mapM fun p => match Entity.cell? ids p.batch p.position with
        | none => .error (.misuse .outOfRange)
        | some id => .ok ⟨word id, measure p.score, p.label⟩ := by
  rw [Entity.assemble, List.mapM_map]
  apply Traversal.mapM_congr
  intro p hp
  have hentity := Entity.ofFields_of_isShare (Kernel.Reading.MeasuredBy.isShare hmeasure (h p hp))
  simp only [Function.comp_apply, Entity.ofCandidate, Tagger.candidate, Prediction.map]
  cases Entity.cell? ids p.batch p.position with
  | none => rfl
  | some id => exact hentity (word id) p.label

/-- With any arithmetic that keeps the laws, as that of each type of floating logits does, every
slice of logits has scores from 0 to 1 or none, and only what has scores is predicted. -/
theorem decode_confident :
    (∀ e : ElementType, e ≠ .integer → e.reading.Lawful ∧ e.reading.MeasuredBy e.measure) ∧
    ∀ {K : Kernel} {R : K.Reading} {measure : K.Score → Double}, R.Lawful → R.MeasuredBy measure →
      ∀ {logits : Tensor K.Logit} {batches positions count : ℕ},
        logits.shape = [batches, positions, count] → 0 < count →
      (∃ scored, scores K logits = .ok scored ∧ scored.shape = [batches, positions, count] ∧
        ∀ batch < batches, ∀ position < positions,
          scored.sliceAt batch position = Softmax.slice K (logits.sliceAt batch position) ∧
          R.Confident (logits.sliceAt batch position)) ∧
      ∀ labels mask predictions, decode K labels logits mask = .ok predictions →
        (∀ p ∈ predictions, ConfidentAt R logits batches positions p) ∧
        ∀ word ids,
          Entity.assemble word ids (predictions.map fun p => Tagger.candidate (p.map measure)) =
            predictions.mapM fun p => match Entity.cell? ids p.batch p.position with
              | none => .error (.misuse .outOfRange)
              | some id => .ok ⟨word id, measure p.score, p.label⟩ := by
  constructor
  · intro e he
    exact ⟨ElementType.lawful_reading he, ElementType.measuredBy_measure e⟩
  · intro K R measure h hmeasure logits batches positions count hshape hcount
    constructor
    · obtain ⟨scored, hscores, hscored, hrows⟩ := scores_eq_ok (K := K) hshape hcount
      refine ⟨scored, hscores, hscored, fun batch hb position hp => ?_⟩
      refine ⟨sliceAt_scores hshape hscored hrows hb hp, ?_⟩
      apply Kernel.Reading.confident_of_ne_nil h
      apply List.ne_nil_of_length_pos
      rw [Tensor.length_sliceAt hshape hb hp]
      exact hcount
    · intro labels mask predictions hdecode
      have hconfident := confidentAt_of_decode h hshape hcount hdecode
      exact ⟨hconfident, assemble_of_isShare hmeasure fun p hp => (hconfident p hp).isShare⟩

instance : DecidableEq ElementType.single.kernel.Score :=
  inferInstanceAs (DecidableEq (Binary .single))

/-- Three cells: one with a logit that is not a number, one with a sure label, and one whose logits
are infinitely small. -/
def threeCells : Tensor ElementType.single.kernel.Logit :=
  ⟨[1, 3, 2], [Binary.nan, Binary.ofInt .single 1, Binary.infinity true, Binary.ofInt .single 7,
    Binary.infinity true, Binary.infinity true], rfl⟩

theorem decode_confident_threeCells :
    ElementType.single.reading.Lawful ∧
    ElementType.single.reading.MeasuredBy ElementType.single.measure ∧
    decode ElementType.single.kernel [(1, text "SWITCH")] threeCells none =
      .ok [⟨0, 1, text "SWITCH", Binary.ofInt .single 1⟩] ∧
    ¬ ElementType.single.reading.NoScores (threeCells.sliceAt 0 1) ∧
    Entity.assemble (fun _ => text "on") ⟨[1, 3], [0, 1, 2], rfl⟩
      [⟨0, 1, .str (text "SWITCH"), .float (Double.ofInt 1)⟩] =
      .ok [⟨text "on", Double.ofInt 1, text "SWITCH"⟩] := by
  obtain ⟨hlawful, hmeasure⟩ := decode_confident.1 .single (by decide)
  have hdecode : decode ElementType.single.kernel [(1, text "SWITCH")] threeCells none =
      .ok [⟨0, 1, text "SWITCH", Binary.ofInt .single 1⟩] :=
    Traversal.toOption_eq_some_iff.1 (by decide +kernel)
  have hconfident := (decode_confident.2 hlawful hmeasure
    (show threeCells.shape = [1, 3, 2] from rfl) (by decide)).2 _ _ _ hdecode
  refine ⟨hlawful, hmeasure, hdecode, ?_, ?_⟩
  · exact (hconfident.1 _ (List.mem_singleton_self _)).has_scores
  · have hassemble := hconfident.2 (fun _ => text "on") ⟨[1, 3], [0, 1, 2], rfl⟩
    have hmeasured : ElementType.single.measure (Binary.ofInt .single 1) = Double.ofInt 1 := by
      decide +kernel
    rw [List.map_singleton, Prediction.map, hmeasured] at hassemble
    exact hassemble

end Decoder

end EntityTagger
