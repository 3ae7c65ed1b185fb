import EntityTagger.Proofs.Decoding.Places
import EntityTagger.Proofs.Softmax.Exact
import EntityTagger.Proofs.Softmax.Order
import Mathlib.Analysis.SpecialFunctions.Exp

/-! Decoding by scores is decoding by logits: the label that is selected has the score of the first
label of the greatest logit, before which it stands only where rounding makes them tie, and without
rounding it is that label. -/
namespace EntityTagger.Decoder

open Kernel

variable {K : Kernel} {R : K.Reading} {batches positions count : ℕ}

/-- Without rounding, one constant added to all logits of a cell changes nothing. -/
theorem decode_exact_add {𝕜 : Type} [LinearOrder 𝕜] [Field 𝕜] [IsStrictOrderedRing 𝕜]
    {exp : 𝕜 → 𝕜} {logits other : Tensor 𝕜} (hshape : logits.shape = [batches, positions, count])
    (hother : other.shape = [batches, positions, count]) (hcount : 0 < count)
    (hadd : ∀ i < batches, ∀ p < positions,
      ∃ c, other.sliceAt i p = (logits.sliceAt i p).map (· + c))
    (labels : LabelMapping) (mask : Option (Tensor Bool)) :
    decode (Kernel.exact exp) labels other mask = decode (Kernel.exact exp) labels logits mask := by
  apply decode_eq_of_cellAt (K := Kernel.exact exp) labels hshape hother hcount
  intro x hx _
  obtain ⟨hb, hp⟩ := mem_places_iff.1 hx
  obtain ⟨c, hc⟩ := hadd x.1 hb x.2 hp
  rw [cellAt, cellAt, hc, Softmax.slice_exact_add]

/-- Without rounding, the label that is selected is the first of the greatest logit. -/
theorem exists_isFirstGreatest_of_decode {𝕜 : Type} [LinearOrder 𝕜] [Field 𝕜]
    [IsStrictOrderedRing 𝕜] {exp : 𝕜 → 𝕜} (hmono : StrictMono exp) (hpos : ∀ x, 0 < exp x)
    {logits : Tensor 𝕜} (hshape : logits.shape = [batches, positions, count]) (hcount : 0 < count)
    {labels : LabelMapping} {mask : Option (Tensor Bool)} {predictions : List (Prediction 𝕜)}
    (hdecode : decode (Kernel.exact exp) labels logits mask = .ok predictions)
    {p : Prediction 𝕜} (hp : p ∈ predictions) :
    ∃ best : ℕ, labels.lookup best = .ok p.label ∧
      IsFirstGreatest (logits.sliceAt p.batch p.position) best := by
  obtain ⟨best, hlookup, hbest⟩ :=
    best?_of_mem_decode (K := Kernel.exact exp) hshape hcount hdecode hp
  have hne : logits.sliceAt p.batch p.position ≠ [] := by
    intro hnil
    rw [hnil] at hbest
    exact Option.some_ne_none _ hbest.symm
  obtain ⟨first, score, hfirst, hgreatest⟩ := Softmax.best?_slice_exact hpos hmono hne
  obtain ⟨rfl, -⟩ := Prod.mk.inj (Option.some.inj (hfirst.symm.trans hbest))
  exact ⟨first, hlookup, hgreatest⟩

/-- With any arithmetic that keeps the laws and is monotone, as that of each type of floating logits
is, finite logits have scores in their order, and the label that is selected has the score of the
first label of the greatest logit, and is not behind it. Without rounding, for any positive
exponential that increases strictly, the scores of a slice sum to 1, depend on the differences of
its logits alone, and the label that is selected is the first of the greatest logit. -/
theorem decode_picks_top :
    (∀ e : ElementType, e ≠ .integer → e.reading.Lawful ∧ e.reading.Monotone) ∧
    (∀ {K : Kernel} {R : K.Reading}, R.Lawful → R.Monotone →
      (∀ logits : List K.Logit, (∀ x ∈ logits, R.IsFinite x) → R.KeepsOrder logits ∧
        (logits ≠ [] → ∃ best score,
          K.scores.best? (Softmax.slice K logits) = some (best, score) ∧
            R.PicksTop logits best score)) ∧
      ∀ {logits : Tensor K.Logit} {batches positions count : ℕ},
        logits.shape = [batches, positions, count] → 0 < count →
        ∀ labels mask predictions, decode K labels logits mask = .ok predictions →
          ∀ p ∈ predictions, (∀ x ∈ logits.sliceAt p.batch p.position, R.IsFinite x) →
            ∃ best : ℕ, labels.lookup best = .ok p.label ∧
              R.PicksTop (logits.sliceAt p.batch p.position) best p.score) ∧
    ∀ {𝕜 : Type} [LinearOrder 𝕜] [Field 𝕜] [IsStrictOrderedRing 𝕜] {exp : 𝕜 → 𝕜},
      StrictMono exp → (∀ x, 0 < exp x) →
      (∀ logits : List 𝕜, logits ≠ [] →
        (Softmax.slice (Kernel.exact exp) logits).sum = (1 : 𝕜) ∧
        (∀ c, Softmax.slice (Kernel.exact exp) (logits.map (· + c)) =
          Softmax.slice (Kernel.exact exp) logits) ∧
        ∃ best score, (Scale.ordered 𝕜).best? (Softmax.slice (Kernel.exact exp) logits) =
          some (best, score) ∧ IsFirstGreatest logits best) ∧
      ∀ {logits : Tensor 𝕜} {batches positions count : ℕ},
        logits.shape = [batches, positions, count] → 0 < count →
        (∀ other : Tensor 𝕜, other.shape = logits.shape →
          (∀ i < batches, ∀ p < positions,
            ∃ c, other.sliceAt i p = (logits.sliceAt i p).map (· + c)) →
          ∀ labels mask, decode (Kernel.exact exp) labels other mask =
            decode (Kernel.exact exp) labels logits mask) ∧
        ∀ labels mask predictions, decode (Kernel.exact exp) labels logits mask = .ok predictions →
          ∀ p ∈ predictions, ∃ best : ℕ, labels.lookup best = .ok p.label ∧
            IsFirstGreatest (logits.sliceAt p.batch p.position) best := by
  refine ⟨?_, ?_, ?_⟩
  · intro e he
    exact ⟨ElementType.lawful_reading he, ElementType.monotone_reading he⟩
  · intro K R h hmono
    constructor
    · intro logits hfinite
      exact ⟨Reading.keepsOrder_of_isFinite h hmono hfinite,
        Reading.exists_picksTop h hmono hfinite⟩
    · intro logits batches positions count hshape hcount labels mask predictions hdecode p hp
        hfinite
      obtain ⟨best, hlookup, hbest⟩ := best?_of_mem_decode hshape hcount hdecode hp
      exact ⟨best, hlookup, Reading.picksTop_of_best? h hmono hfinite hbest⟩
  · intro 𝕜 _ _ _ exp hmono hpos
    constructor
    · intro logits hne
      exact ⟨Softmax.sum_slice_exact hpos hne, Softmax.slice_exact_add logits,
        Softmax.best?_slice_exact hpos hmono hne⟩
    · intro logits batches positions count hshape hcount
      constructor
      · intro other hother hadd
        exact decode_exact_add hshape (hother.trans hshape) hcount hadd
      · intro labels mask predictions hdecode p hp
        exact exists_isFirstGreatest_of_decode hmono hpos hshape hcount hdecode hp

/-- Two cells: one whose logits are as far apart as can be, and one with a logit that exceeds
another one by too little for their scores to differ. -/
def twoSlices : Tensor ElementType.single.kernel.Logit :=
  ⟨[1, 2, 3], [Format.single.pack true 16777215 104, Format.single.pack false 16777215 104,
    Binary.ofInt .single 1, Binary.ofInt .single (-7), Binary.ofInt .single 0,
    Format.single.pack false 1 (-149)], rfl⟩

theorem decode_picks_top_twoSlices :
    ElementType.single.reading.Lawful ∧ ElementType.single.reading.Monotone ∧
    decode ElementType.single.kernel [(1, text "SWITCH")] twoSlices none =
      .ok [⟨0, 0, text "SWITCH", Binary.ofInt .single 1⟩,
        ⟨0, 1, text "SWITCH", Format.single.pack false 16769571 (-25)⟩] ∧
    ElementType.single.reading.KeepsOrder (twoSlices.sliceAt 0 1) ∧
    (∃ best, ElementType.single.reading.PicksTop (twoSlices.sliceAt 0 1) best
      (Format.single.pack false 16769571 (-25))) ∧
    (Softmax.slice (Kernel.exact Real.exp) [3, 5, 5]).sum = (1 : ℝ) ∧
    ∃ best score, (Scale.ordered ℝ).best? (Softmax.slice (Kernel.exact Real.exp) [3, 5, 5]) =
      some (best, score) ∧ IsFirstGreatest [(3 : ℝ), 5, 5] best := by
  obtain ⟨hlawful, hmono⟩ := decode_picks_top.1 .single (by decide)
  have hdecode : decode ElementType.single.kernel [(1, text "SWITCH")] twoSlices none =
      .ok [⟨0, 0, text "SWITCH", Binary.ofInt .single 1⟩,
        ⟨0, 1, text "SWITCH", Format.single.pack false 16769571 (-25)⟩] :=
    Traversal.toOption_eq_some_iff.1 (by decide +kernel)
  have hfinite : ∀ x ∈ twoSlices.sliceAt 0 1, ElementType.single.reading.IsFinite x := by
    have hall : (twoSlices.sliceAt 0 1).all (Binary.isFinite (F := .single)) = true := by
      decide +kernel
    intro x hx
    exact ⟨_, Binary.level?_eq_number_iff.2 ⟨List.all_eq_true.1 hall x hx, rfl⟩⟩
  obtain ⟨hslice, hpredicted⟩ := decode_picks_top.2.1 hlawful hmono
  obtain ⟨best, -, hpicks⟩ := hpredicted (show twoSlices.shape = [1, 2, 3] from rfl) (by decide)
    _ _ _ hdecode _ (List.mem_cons_of_mem _ (List.mem_singleton_self _)) hfinite
  obtain ⟨hsum, -, hbest⟩ := (decode_picks_top.2.2 Real.exp_strictMono Real.exp_pos).1
    [(3 : ℝ), 5, 5] (by simp)
  exact ⟨hlawful, hmono, hdecode, (hslice _ hfinite).1, ⟨best, hpicks⟩, hsum, hbest⟩

end EntityTagger.Decoder
