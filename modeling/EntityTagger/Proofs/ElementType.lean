import EntityTagger.ElementType
import EntityTagger.Field
import EntityTagger.Proofs.Kernel
import EntityTagger.Proofs.Number.Widening

/-! The types of floating logits are normalised by the laws, and their scores are measured exactly:
a score from 0 to 1 passes the check of an entity's score. -/
namespace EntityTagger

open Extended

namespace Kernel

variable {F G : Format}

/-- Floating numbers stand for their values. -/
def floatingReading (F G : Format) : (floating F G).Reading where
  logit := Binary.level? (F := F)
  shift := Binary.level? (F := G)
  score := Binary.level? (F := G)

theorem isShare_level? {x : Binary F} : IsShare x.level? ↔ x.IsShare := by
  constructor
  · rintro ⟨q, hq, hnonneg, hle⟩
    obtain ⟨hfin, rfl⟩ := Binary.level?_eq_number_iff.1 hq
    exact ⟨hfin, hnonneg, hle⟩
  · intro h
    exact ⟨x.value, Binary.level?_eq_number_iff.2 ⟨h.isFinite_eq, rfl⟩, h.nonneg, h.le_one⟩

theorem level?_eq_none_iff_nan {x : Binary F} : x.level? = none ↔ x = .nan := by
  rw [Binary.level?_eq_none_iff]
  cases x <;> simp [Binary.isNaN]

theorem isFinite_iff_level? {x : Binary F} :
    x.isFinite = false ↔ ∀ q, x.level? ≠ some (number q) := by
  constructor
  · intro h q hq
    simp [(Binary.level?_eq_number_iff.1 hq).1] at h
  · intro h
    by_contra hfin
    exact h x.value (Binary.level?_eq_number_iff.2 ⟨by simpa using hfin, rfl⟩)

/-- Scores of a format that holds all logits keep the laws. -/
theorem lawful_floating [G.Regular] (h : F.Within G) : (floatingReading F G).Lawful where
  logits := Binary.reads_scale
  scores := Binary.reads_scale
  sub_self := by
    intro x q hx
    have hfin : (Binary.convert G x).isFinite = true :=
      (Binary.isFinite_convert h x).trans (Binary.level?_eq_number_iff.1 hx).1
    exact Binary.level?_eq_number_iff.2 (Binary.sub_self_of_isFinite hfin)
  sub_self_none := by
    intro x hx
    have hfin : (Binary.convert G x).isFinite = false :=
      (Binary.isFinite_convert h x).trans (isFinite_iff_level?.2 hx)
    exact level?_eq_none_iff_nan.2 (Binary.sub_self_of_not_isFinite hfin)
  sub_nonpos := by
    intro x y a q hx hy hle
    obtain ⟨hxn, rfl⟩ := Binary.level?_eq_some_iff.1 hx
    obtain ⟨hyn, hyl⟩ := Binary.level?_eq_some_iff.1 hy
    have hfin : (Binary.convert G y).isFinite = true :=
      (Binary.isFinite_convert h y).trans (Binary.level?_eq_number_iff.1 hy).1
    have hconvert := Binary.level_convert_mono (G := G) hxn hyn (hle.trans_eq hyl.symm)
    obtain ⟨hnan, hnonpos⟩ :=
      Binary.sub_nonpos ((Binary.isNaN_convert (G := G) x).trans hxn) hfin hconvert
    exact ⟨_, Binary.level?_eq_some_iff.2 ⟨hnan, rfl⟩, hnonpos⟩
  exp_none := by
    intro x hx
    obtain rfl := level?_eq_none_iff_nan.1 hx
    rfl
  exp_zero := by
    intro x hx
    obtain ⟨hfin, hv⟩ := Binary.level?_eq_number_iff.1 hx
    exact Binary.level?_eq_number_iff.2 (Binary.value_exp_of_value_zero hfin hv)
  exp_share := by
    intro x a hx hle
    obtain ⟨hnan, rfl⟩ := Binary.level?_eq_some_iff.1 hx
    exact isShare_level?.2 (Binary.isShare_exp hnan hle)
  sum_none := by
    intro weights w hw hnone
    obtain rfl := level?_eq_none_iff_nan.1 hnone
    exact level?_eq_none_iff_nan.2 (Binary.foldl_add_of_mem hw _)
  sum_shares := by
    intro weights hshare
    obtain ⟨htotal, -, hle⟩ := Binary.isTotal_foldl
      (fun w hw => isShare_level?.1 (hshare w hw)) (Binary.isTotal_zero (F := G))
    refine ⟨_, Binary.level?_eq_number_iff.2 ⟨htotal.isFinite_eq, rfl⟩, fun w hw p hp => ?_⟩
    rw [← (Binary.level?_eq_number_iff.1 hp).2]
    exact hle w hw
  div_none := by
    intro x y hy
    obtain rfl := level?_eq_none_iff_nan.1 hy
    exact level?_eq_none_iff_nan.2 (Binary.div_nan x)
  div_share := by
    intro x y p q hx hy hnonneg hle hpos
    obtain ⟨hxfin, rfl⟩ := Binary.level?_eq_number_iff.1 hx
    obtain ⟨hyfin, rfl⟩ := Binary.level?_eq_number_iff.1 hy
    exact isShare_level?.2 (Binary.isShare_div hxfin hyfin hnonneg hle hpos)

def Reading.MeasuredBy {K : Kernel} (R : K.Reading) (measure : K.Score → Double) : Prop :=
  ∀ x q, R.score x = some (number q) → (measure x).isFinite = true ∧ (measure x).value = q

theorem Reading.MeasuredBy.isShare {K : Kernel} {R : K.Reading} {measure : K.Score → Double}
    (h : R.MeasuredBy measure) {x : K.Score} (hx : IsShare (R.score x)) : (measure x).IsShare := by
  obtain ⟨q, hq, hnonneg, hle⟩ := hx
  obtain ⟨hfin, rfl⟩ := h x q hq
  exact ⟨hfin, hnonneg, hle⟩

end Kernel

namespace ElementType

/-- What logits and scores stand for; integer logits are never infinite. -/
def reading : (e : ElementType) → e.kernel.Reading
  | half => Kernel.floatingReading .half .single
  | brain => Kernel.floatingReading .brain .single
  | single => Kernel.floatingReading .single .single
  | double => Kernel.floatingReading .double .double
  | integer => ⟨fun x => some (number x.toInt), fun x => some (number x.toInt),
      Binary.level? (F := .single)⟩

theorem lawful_reading {e : ElementType} (he : e ≠ .integer) : e.reading.Lawful := by
  cases e with
  | half => exact Kernel.lawful_floating ⟨by decide, by decide, by decide⟩
  | brain => exact Kernel.lawful_floating ⟨by decide, by decide, by decide⟩
  | single => exact Kernel.lawful_floating ⟨by decide, by decide, by decide⟩
  | double => exact Kernel.lawful_floating ⟨by decide, by decide, by decide⟩
  | integer => exact absurd rfl he

theorem measuredBy_measure (e : ElementType) : e.reading.MeasuredBy e.measure := by
  have hsingle : ∀ (x : Binary .single) (q : ℚ), x.level? = some (number q) →
      (x.convert .double).isFinite = true ∧ (x.convert .double).value = q := by
    intro x q hx
    have hwithin : Format.single.Within .double := ⟨by decide, by decide, by decide⟩
    rw [Binary.isFinite_convert hwithin, Binary.value_convert hwithin]
    exact Binary.level?_eq_number_iff.1 hx
  cases e with
  | half => exact hsingle
  | brain => exact hsingle
  | single => exact hsingle
  | double => exact fun _ _ => Binary.level?_eq_number_iff.1
  | integer => exact hsingle

instance (e : ElementType) : e.kernel.scores.Lawful := by
  cases e <;> exact inferInstanceAs (Binary.scale _).Lawful

theorem scores_nan_or_share {e : ElementType} (he : e ≠ .integer)
    (logits : List e.kernel.Logit) :
    (∀ s ∈ Softmax.slice e.kernel logits, e.kernel.scores.isNaN s = true) ∨
    (∀ s ∈ Softmax.slice e.kernel logits,
      e.kernel.scores.isNaN s = false ∧ (e.measure s).IsShare) := by
  have h := lawful_reading he
  rcases eq_or_ne logits [] with rfl | hne
  · exact Or.inl fun s hs => by simp [Softmax.slice, Softmax.shifts, Scale.best?] at hs
  rcases Softmax.slice_cases h hne with ⟨-, hnone⟩ | ⟨-, -, hshare⟩
  · exact Or.inl fun s hs => (h.scores.isNaN_iff s).2 (hnone s hs)
  · refine Or.inr fun s hs => ⟨?_, Kernel.Reading.MeasuredBy.isShare (measuredBy_measure e) (hshare s hs)⟩
    obtain ⟨q, hq, -⟩ := hshare s hs
    exact h.scores.isNaN_eq_false hq

end ElementType

theorem Double.ofInt_one : (Double.ofInt 1).isFinite = true ∧ (Double.ofInt 1).value = 1 := by
  have h : ∃ k, Double.ofInt 1 = .finite false 4503599627370496 (-52) k := ⟨by decide, rfl⟩
  obtain ⟨k, hk⟩ := h
  rw [hk]
  exact ⟨rfl, by norm_num [Binary.value]⟩

theorem Double.ofInt_zero : (Double.ofInt 0).isFinite = true ∧ (Double.ofInt 0).value = 0 := by
  have h : ∃ k, Double.ofInt 0 = .finite false 0 (-1074) k := ⟨by decide, rfl⟩
  obtain ⟨k, hk⟩ := h
  rw [hk]
  exact ⟨rfl, by norm_num [Binary.value]⟩

theorem Binary.le_of_value_le {F : Format} {x y : Binary F} (hx : x.isFinite = true)
    (hy : y.isFinite = true) (h : x.value ≤ y.value) : x.le y = true := by
  have hu := (units_le_iff x y).2 h
  cases x with
  | finite a m e k =>
    cases y with
    | finite b n f l =>
      simp only [le, lt, beqValue, Bool.or_eq_true, decide_eq_true_eq, beq_iff_eq]
      omega
    | _ => simp [isFinite] at hy
  | _ => simp [isFinite] at hx

theorem Field.readFraction_of_isShare {x : Double} (h : x.IsShare) :
    Field.readFraction (.float x) = .ok x := by
  have hone : x.le (Double.ofInt 1) = true :=
    Binary.le_of_value_le h.isFinite_eq Double.ofInt_one.1 (Double.ofInt_one.2 ▸ h.le_one)
  have hzero : (Double.ofInt 0).le x = true :=
    Binary.le_of_value_le Double.ofInt_zero.1 h.isFinite_eq (Double.ofInt_zero.2 ▸ h.nonneg)
  simp [Field.readFraction, Field.readFloat, hone, hzero, bind, Except.bind]

end EntityTagger
