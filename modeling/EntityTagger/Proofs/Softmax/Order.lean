import EntityTagger.Proofs.ElementType
import EntityTagger.Proofs.Number.Monotone

/-! The order of scores. With any arithmetic that is monotone, rounding included, a greater logit
has no smaller score; so the first label of the greatest score is not behind the first label of the
greatest logit, and has the same score. -/
namespace EntityTagger

open Extended

namespace Extended

/-- The levels of two numbers, the first of which is not above the second one. -/
def AtMost (a b : Option Extended) : Prop :=
  ∃ p q : ℚ, a = some (number p) ∧ b = some (number q) ∧ p ≤ q

theorem AtMost.antisymm {a b : Option Extended} (h : AtMost a b) (h' : AtMost b a) : a = b := by
  obtain ⟨p, q, rfl, rfl, hle⟩ := h
  obtain ⟨q', p', hq, hp, hle'⟩ := h'
  obtain rfl := number_inj.1 (Option.some.inj hq)
  obtain rfl := number_inj.1 (Option.some.inj hp)
  rw [le_antisymm hle hle']

end Extended

theorem Scale.Reads.atMost_of_not_above {α : Type} {S : Scale α} {level? : α → Option Extended}
    (h : S.Reads level?) {x y : α} {p q : ℚ} (hx : level? x = some (number p))
    (hy : level? y = some (number q)) (habove : S.above x y = false) :
    AtMost (level? x) (level? y) := by
  refine ⟨p, q, hx, hy, ?_⟩
  by_contra hlt
  rw [← Bool.not_eq_true, h.above_iff] at habove
  apply habove
  refine ⟨_, hy, fun a ha => ?_⟩
  rw [← Option.some.inj (hx.symm.trans ha), ← not_le, number_le_number]
  exact hlt

namespace Kernel

variable {K : Kernel}

namespace Reading

/-- What the order of the scores rests on: a difference from one number, an exponential of what is
not positive and a quotient by one positive number never turn around the order of what they are made
of. -/
structure Monotone (R : K.Reading) : Prop where
  sub_mono : ∀ {x y z p q r a b}, R.logit x = some (number p) → R.logit y = some (number q) →
    R.logit z = some (number r) → p ≤ q → R.shift (K.sub x z) = some a →
      R.shift (K.sub y z) = some b → a ≤ b
  exp_mono : ∀ {x y a b p q}, R.shift x = some a → R.shift y = some b → a ≤ b → b ≤ number 0 →
    R.score (K.exp x) = some (number p) → R.score (K.exp y) = some (number q) → p ≤ q
  div_mono : ∀ {x y z p q r s t}, R.score x = some (number p) → R.score y = some (number q) →
    R.score z = some (number r) → 0 ≤ p → p ≤ q → 0 < r →
      R.score (K.div x z) = some (number s) → R.score (K.div y z) = some (number t) → s ≤ t

def IsFinite (R : K.Reading) (x : K.Logit) : Prop := ∃ q, R.logit x = some (number q)

/-- A greater logit has no smaller score. -/
def KeepsOrder (R : K.Reading) (logits : List K.Logit) : Prop :=
  ∀ {i j : ℕ} {x y : K.Logit} {s t : K.Score}, logits[i]? = some x → logits[j]? = some y →
    (Softmax.slice K logits)[i]? = some s → (Softmax.slice K logits)[j]? = some t →
      AtMost (R.logit x) (R.logit y) → AtMost (R.score s) (R.score t)

/-- A label that is not behind the first label of the greatest logit, and has its score, which no
other exceeds. -/
structure PicksTop (R : K.Reading) (logits : List K.Logit) (best : ℕ) (score : K.Score) :
    Prop where
  at_best : (Softmax.slice K logits)[best]? = some score
  first_top : ∃ first top s, K.logits.IsBest logits first top ∧ best ≤ first ∧
    (Softmax.slice K logits)[first]? = some s ∧ R.score score = R.score s
  score_top : ∀ t ∈ Softmax.slice K logits, AtMost (R.score t) (R.score score)

variable {R : K.Reading} {logits : List K.Logit}

theorem not_noScores_of_isFinite (hne : logits ≠ []) (hfinite : ∀ x ∈ logits, R.IsFinite x) :
    ¬ R.NoScores logits := by
  rintro (⟨x, hx, hnone | htop⟩ | hbot)
  · obtain ⟨q, hq⟩ := hfinite x hx
    rw [hnone] at hq
    exact absurd hq.symm (Option.some_ne_none _)
  · obtain ⟨q, hq⟩ := hfinite x hx
    exact absurd (Option.some.inj (htop.symm.trans hq)) (number_lt_top q).ne'
  · obtain ⟨x, hx⟩ := List.exists_mem_of_ne_nil _ hne
    obtain ⟨q, hq⟩ := hfinite x hx
    exact absurd (Option.some.inj ((hbot x hx).symm.trans hq)) (bot_lt_number q).ne

theorem share_of_isFinite (h : R.Lawful) (hne : logits ≠ [])
    (hfinite : ∀ x ∈ logits, R.IsFinite x) :
    (∃ r, R.score (Softmax.total K logits) = some (number r) ∧ 0 < r) ∧
      ∀ s ∈ Softmax.slice K logits, IsShare (R.score s) := by
  rcases Softmax.slice_cases h hne with ⟨hno, -⟩ | ⟨-, ⟨r, hr, hone⟩, hshare⟩
  · exact absurd hno (not_noScores_of_isFinite hne hfinite)
  · exact ⟨⟨r, hr, zero_lt_one.trans_le hone⟩, hshare⟩

theorem eq_of_getElem?_slice {place : ℕ} {top : K.Logit}
    (hbest? : K.logits.best? logits = some (place, top)) {k : ℕ} {z : K.Logit} {u : K.Score}
    (hz : logits[k]? = some z) (hu : (Softmax.slice K logits)[k]? = some u) :
    u = K.div (K.exp (K.sub z top)) (Softmax.total K logits) := by
  rw [Softmax.slice_eq_map, Softmax.weights_of_best? hbest?, List.map_map, List.getElem?_map, hz]
    at hu
  exact (Option.some.inj hu).symm

theorem keepsOrder_of_isFinite (h : R.Lawful) (hmono : R.Monotone)
    (hfinite : ∀ x ∈ logits, R.IsFinite x) : R.KeepsOrder logits := by
  intro i j x y s t hx hy hs ht hle
  have hmem := List.mem_of_getElem? hx
  have hmem' := List.mem_of_getElem? hy
  have := h.logits.lawful
  obtain ⟨place, top, hbest?⟩ := Scale.exists_best? (S := K.logits) (List.ne_nil_of_mem hmem)
  have hbest := Scale.isBest_of_best? hbest?
  obtain ⟨q, hq⟩ := hfinite top (List.mem_of_getElem? hbest.at_place)
  obtain ⟨⟨r, hr, hpos⟩, hshare⟩ := share_of_isFinite h (List.ne_nil_of_mem hmem) hfinite
  -- no logit is above the greatest one, so no shift is positive
  have hshift : ∀ z ∈ logits, ∃ a, R.shift (K.sub z top) = some a ∧ a ≤ number 0 := by
    intro z hz
    obtain ⟨p, hp⟩ := hfinite z hz
    obtain ⟨p', q', hp', hq', hpq⟩ := h.logits.atMost_of_not_above hp hq (hbest.none_above z hz)
    exact h.sub_nonpos hp' hq' (number_le_number.2 hpq)
  obtain ⟨p, p', hp, hp', hpp'⟩ := hle
  obtain ⟨a, ha, -⟩ := hshift x hmem
  obtain ⟨b, hb, hnonpos⟩ := hshift y hmem'
  have hab := hmono.sub_mono hp hp' hq hpp' ha hb
  obtain ⟨u, hu, hnonneg, -⟩ := Softmax.isShare_weights h hbest hq x hmem
  obtain ⟨v, hv, -, -⟩ := Softmax.isShare_weights h hbest hq y hmem'
  have huv := hmono.exp_mono ha hb hab hnonpos hu hv
  obtain ⟨c, hc, -, -⟩ := hshare s (List.mem_of_getElem? hs)
  obtain ⟨d, hd, -, -⟩ := hshare t (List.mem_of_getElem? ht)
  refine ⟨c, d, hc, hd, ?_⟩
  rw [eq_of_getElem?_slice hbest? hx hs] at hc
  rw [eq_of_getElem?_slice hbest? hy ht] at hd
  exact hmono.div_mono hu hv hr hnonneg huv hpos hc hd

/-- The label of the greatest score is picked as if by the logits, up to ties. -/
theorem picksTop_of_best? (h : R.Lawful) (hmono : R.Monotone)
    (hfinite : ∀ x ∈ logits, R.IsFinite x) {best : ℕ} {score : K.Score}
    (hbest? : K.scores.best? (Softmax.slice K logits) = some (best, score)) :
    R.PicksTop logits best score := by
  have := h.logits.lawful
  have := h.scores.lawful
  have hbest := Scale.isBest_of_best? hbest?
  have hscore := List.mem_of_getElem? hbest.at_place
  have hne : logits ≠ [] := by
    rintro rfl
    exact absurd hscore List.not_mem_nil
  have horder : R.KeepsOrder logits := keepsOrder_of_isFinite h hmono hfinite
  have hshare := (share_of_isFinite h hne hfinite).2
  obtain ⟨first, top, hfirst?⟩ := Scale.exists_best? (S := K.logits) hne
  have hfirst := Scale.isBest_of_best? hfirst?
  have hlt : first < (Softmax.slice K logits).length := by
    rw [Softmax.length_slice]
    exact (List.getElem?_eq_some_iff.1 hfirst.at_place).1
  obtain ⟨s, hs⟩ : ∃ s, (Softmax.slice K logits)[first]? = some s :=
    ⟨_, List.getElem?_eq_getElem hlt⟩
  obtain ⟨q, hq⟩ := hfinite top (List.mem_of_getElem? hfirst.at_place)
  -- the score of the greatest logit is exceeded by none, so neither is it by the picked one
  have htop : ∀ t ∈ Softmax.slice K logits, AtMost (R.score t) (R.score s) := by
    intro t ht
    obtain ⟨j, hj⟩ := List.mem_iff_getElem?.1 ht
    have hj' : j < logits.length := by
      rw [← Softmax.length_slice K]
      exact (List.getElem?_eq_some_iff.1 hj).1
    have hy := List.getElem?_eq_getElem hj'
    obtain ⟨p, hp⟩ := hfinite _ (List.mem_of_getElem? hy)
    have hle := h.logits.atMost_of_not_above hp hq
      (hfirst.none_above _ (List.mem_of_getElem? hy))
    exact horder hy hfirst.at_place hj hs hle
  obtain ⟨u, hu, -, -⟩ := hshare s (List.mem_of_getElem? hs)
  obtain ⟨v, hv, -, -⟩ := hshare score hscore
  have hequal : R.score score = R.score s := (htop score hscore).antisymm
    (h.scores.atMost_of_not_above hu hv (hbest.none_above s (List.mem_of_getElem? hs)))
  refine ⟨hbest.at_place, ⟨first, top, s, hfirst, ?_, hs, hequal⟩, fun t ht => ?_⟩
  · by_contra hbehind
    have habove := hbest.above_earlier first (not_le.1 hbehind) s hs
    obtain ⟨b, hb, hall⟩ := (h.scores.above_iff score s).1 habove
    exact lt_irrefl b (hall b (hequal.trans hb))
  · rw [hequal]
    exact htop t ht

theorem exists_picksTop (h : R.Lawful) (hmono : R.Monotone) (hfinite : ∀ x ∈ logits, R.IsFinite x)
    (hne : logits ≠ []) : ∃ best score,
      K.scores.best? (Softmax.slice K logits) = some (best, score) ∧
        R.PicksTop logits best score := by
  have hslice : Softmax.slice K logits ≠ [] := by
    apply List.ne_nil_of_length_pos
    rw [Softmax.length_slice]
    exact List.length_pos_iff.2 hne
  obtain ⟨best, score, hbest⟩ := Scale.exists_best? (S := K.scores) hslice
  exact ⟨best, score, hbest, picksTop_of_best? h hmono hfinite hbest⟩

end Reading

/-- The arithmetic of binary numbers is monotone. -/
theorem monotone_floating {F G : Format} [G.Regular] (h : F.Within G) :
    (floatingReading F G).Monotone where
  sub_mono := by
    intro x y z p q r a b hx hy hz hle ha hb
    obtain ⟨hxfin, rfl⟩ := Binary.level?_eq_number_iff.1 hx
    obtain ⟨hyfin, rfl⟩ := Binary.level?_eq_number_iff.1 hy
    obtain ⟨hzfin, -⟩ := Binary.level?_eq_number_iff.1 hz
    obtain ⟨-, rfl⟩ := Binary.level?_eq_some_iff.1 ha
    obtain ⟨-, rfl⟩ := Binary.level?_eq_some_iff.1 hb
    have hconvert : ∀ {w : Binary F}, w.isFinite = true → (w.convert G).isFinite = true :=
      fun hw => (Binary.isFinite_convert h _).trans hw
    have hvalue : (Binary.convert G x).value ≤ (Binary.convert G y).value :=
      ((Binary.value_convert h x).trans_le hle).trans_eq (Binary.value_convert h y).symm
    exact Binary.level_sub_mono (hconvert hxfin) (hconvert hyfin) (hconvert hzfin) hvalue
  exp_mono := by
    intro x y a b p q hx hy hle hnonpos hp hq
    obtain ⟨hxn, rfl⟩ := Binary.level?_eq_some_iff.1 hx
    obtain ⟨hyn, rfl⟩ := Binary.level?_eq_some_iff.1 hy
    obtain ⟨-, hxl⟩ := Binary.level?_eq_some_iff.1 hp
    obtain ⟨-, hyl⟩ := Binary.level?_eq_some_iff.1 hq
    have hmono := Binary.level_exp_mono hxn hyn hle hnonpos
    exact number_le_number.1 (hxl ▸ hyl ▸ hmono)
  div_mono := by
    intro x y z p q r s t hx hy hz hnonneg hle hpos hs ht
    obtain ⟨hxfin, rfl⟩ := Binary.level?_eq_number_iff.1 hx
    obtain ⟨hyfin, rfl⟩ := Binary.level?_eq_number_iff.1 hy
    obtain ⟨hzfin, rfl⟩ := Binary.level?_eq_number_iff.1 hz
    obtain ⟨-, hxl⟩ := Binary.level?_eq_some_iff.1 hs
    obtain ⟨-, hyl⟩ := Binary.level?_eq_some_iff.1 ht
    have hmono := Binary.level_div_mono hxfin hyfin hzfin hnonneg hle hpos
    exact number_le_number.1 (hxl ▸ hyl ▸ hmono)

end Kernel

theorem ElementType.monotone_reading {e : ElementType} (he : e ≠ .integer) :
    e.reading.Monotone := by
  cases e with
  | half => exact Kernel.monotone_floating ⟨by decide, by decide, by decide⟩
  | brain => exact Kernel.monotone_floating ⟨by decide, by decide, by decide⟩
  | single => exact Kernel.monotone_floating ⟨by decide, by decide, by decide⟩
  | double => exact Kernel.monotone_floating ⟨by decide, by decide, by decide⟩
  | integer => exact absurd rfl he

end EntityTagger
