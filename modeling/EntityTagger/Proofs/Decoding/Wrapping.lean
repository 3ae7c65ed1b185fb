import EntityTagger.Proofs.Decoding.Places
import EntityTagger.Proofs.Softmax.Wrapping
import EntityTagger.Proofs.Tagging

/-! Decoding integer logits. Where no shift wraps around, the label that is found has the score of the
greatest logit, and an entity may have that score; elsewhere a logit that is too far below the
greatest one scores no less than that. -/
namespace EntityTagger.Decoder

open Kernel

theorem ofFields_of_normalises {slice : List Int64} (h : Softmax.Normalises slice) {best : ℕ}
    {score : Binary .single}
    (hbest : integer.scores.best? (Softmax.slice integer slice) = some (best, score))
    (word label : Text) :
    Entity.ofFields [(.str (text "text"), .str word),
      (.str (text "score"), .float (ElementType.integer.measure score)),
      (.str (text "label"), .str label)] =
      .ok ⟨word, ElementType.integer.measure score, label⟩ := by
  have hscore : score ∈ Softmax.slice integer slice :=
    List.mem_of_getElem? (h.picksTop best score hbest).at_best
  have hmeasure : (ElementType.integer.measure score).IsShare :=
    Reading.MeasuredBy.isShare (ElementType.measuredBy_measure .integer) (h.isShare score hscore)
  exact Entity.ofFields_of_isShare hmeasure word label

/-- A slice of integers is normalised as it should exactly if none of them is more than `2 ^ 63`
below another one. A logit that is further below the greatest one has a shift that is too great by
`2 ^ 64` and above zero, and scores no less than the greatest one, if both have scores. What is
predicted at a slice that is normalised has the score of the greatest logit and is accepted as an
entity. -/
theorem normalises_iff_narrow (slice : List Int64) (hne : slice ≠ []) :
    (Softmax.Normalises slice ↔ Softmax.IsNarrow slice) ∧
    (∀ {first : ℕ} {top : Int64}, integer.logits.best? slice = some (first, top) →
      ∀ {i : ℕ} {x : Int64} {s t : Binary .single}, slice[i]? = some x →
        2 ^ 63 < top.toInt - x.toInt →
        (Softmax.slice integer slice)[i]? = some s →
        (Softmax.slice integer slice)[first]? = some t →
          (Softmax.shifts integer slice)[i]? = some (x - top) ∧
          (x - top).toInt = x.toInt - top.toInt + 2 ^ 64 ∧ 0 < (x - top).toInt ∧
          ∀ a b, t.level? = some a → s.level? = some b → a ≤ b) ∧
    ∀ {logits : Tensor Int64} {batches positions count : ℕ},
      logits.shape = [batches, positions, count] → 0 < count →
      ∀ labels mask predictions, decode integer labels logits mask = .ok predictions →
        ∀ p ∈ predictions, logits.sliceAt p.batch p.position = slice → Softmax.IsNarrow slice →
          (∃ best : ℕ, labels.lookup best = .ok p.label ∧
            integerReading.PicksTop slice best p.score) ∧
          ∀ word, Entity.ofFields [(.str (text "text"), .str word),
            (.str (text "score"), .float (ElementType.integer.measure p.score)),
            (.str (text "label"), .str p.label)] =
            .ok ⟨word, ElementType.integer.measure p.score, p.label⟩ := by
  refine ⟨Softmax.normalises_iff_isNarrow hne, ?_, ?_⟩
  · intro first top hbest i x s t hx hwide hs ht
    obtain ⟨hshift, hpos⟩ :=
      Softmax.toInt_shift_of_wide hbest (List.mem_of_getElem? hx) hwide
    have hat : (slice.map (· - top))[i]? = some (x - top) := by
      rw [List.getElem?_map, hx, Option.map_some]
    refine ⟨?_, hshift, hpos, fun a b => Softmax.level_top_le_of_wide hbest hx hwide hs ht⟩
    exact (congrArg (·[i]?) (Softmax.shifts_of_best? hbest)).trans hat
  · rintro logits batches positions count hshape hcount labels mask predictions hdecode p hp rfl
      hnarrow
    obtain ⟨best, hlookup, hbest⟩ := best?_of_mem_decode hshape hcount hdecode hp
    have hnormal := Softmax.normalises_of_isNarrow hnarrow hne
    exact ⟨⟨best, hlookup, hnormal.picksTop best p.score hbest⟩,
      fun word => ofFields_of_normalises hnormal hbest word p.label⟩

instance : DecidableEq integer.Score :=
  inferInstanceAs (DecidableEq (Binary .single))

/-- Two cells: one whose logits are as far apart as can be, and one whose logits are as far apart as
may be. -/
def twoSpreads : Tensor Int64 :=
  ⟨[1, 2, 2], [9223372036854775807, -9223372036854775808, -1, 9223372036854775807], rfl⟩

/-- At the first cell the label of the least integer is predicted, not that of the greatest. -/
theorem normalises_iff_narrow_twoSpreads :
    ¬ Softmax.Normalises (twoSpreads.sliceAt 0 0) ∧ Softmax.Normalises (twoSpreads.sliceAt 0 1) ∧
    (∀ a b : Extended, (Format.single.pack false 9024177 (-25)).level? = some a →
      (Format.single.pack false 12265128 (-24)).level? = some b → a ≤ b) ∧
    decode integer [(1, text "SWITCH")] twoSpreads none =
      .ok [⟨0, 0, text "SWITCH", Format.single.pack false 12265128 (-24)⟩,
        ⟨0, 1, text "SWITCH", Binary.ofInt .single 1⟩] ∧
    Entity.ofFields [(.str (text "text"), .str (text "on")),
      (.str (text "score"), .float (Double.ofInt 1)),
      (.str (text "label"), .str (text "SWITCH"))] =
      .ok ⟨text "on", Double.ofInt 1, text "SWITCH"⟩ := by
  have hslice : twoSpreads.sliceAt 0 0 = [9223372036854775807, -9223372036854775808] := rfl
  have hslice' : twoSpreads.sliceAt 0 1 = [-1, 9223372036854775807] := rfl
  obtain ⟨hiff, hwide, -⟩ := normalises_iff_narrow (twoSpreads.sliceAt 0 0) (by rw [hslice]; simp)
  obtain ⟨hiff', -, hpredicted⟩ :=
    normalises_iff_narrow (twoSpreads.sliceAt 0 1) (by rw [hslice']; simp)
  have hnarrow : Softmax.IsNarrow (twoSpreads.sliceAt 0 1) := by
    rw [hslice']
    intro x hx y hy
    rcases List.mem_pair.1 hx with rfl | rfl <;> rcases List.mem_pair.1 hy with rfl | rfl <;> decide
  have hdecode : decode integer [(1, text "SWITCH")] twoSpreads none =
      .ok [⟨0, 0, text "SWITCH", Format.single.pack false 12265128 (-24)⟩,
        ⟨0, 1, text "SWITCH", Binary.ofInt .single 1⟩] :=
    Traversal.toOption_eq_some_iff.1 (by decide +kernel)
  refine ⟨fun h => ?_, hiff'.2 hnarrow, ?_, hdecode, ?_⟩
  · have hspread := hiff.1 h (-9223372036854775808) (by simp [hslice]) 9223372036854775807
      (by simp [hslice])
    revert hspread
    decide
  · intro a b ha hb
    have hbest : integer.logits.best? (twoSpreads.sliceAt 0 0) =
        some (0, (9223372036854775807 : Int64)) := rfl
    have hscores : (show List (Binary .single) from
          Softmax.slice integer (twoSpreads.sliceAt 0 0)) =
        [Format.single.pack false 9024177 (-25), Format.single.pack false 12265128 (-24)] := by
      decide +kernel
    exact (hwide hbest (i := 1) rfl (by decide) (congrArg (·[1]?) hscores)
      (congrArg (·[0]?) hscores)).2.2.2 a b ha hb
  · have hentity := (hpredicted (show twoSpreads.shape = [1, 2, 2] from rfl) (by decide) _ _ _
      hdecode _ (List.mem_cons_of_mem _ (List.mem_singleton_self _)) rfl hnarrow).2 (text "on")
    have hmeasured : ElementType.integer.measure (Binary.ofInt .single 1) = Double.ofInt 1 := by
      decide +kernel
    rw [hmeasured] at hentity
    exact hentity

end EntityTagger.Decoder
