import EntityTagger.Proofs.Number.Share
import Mathlib.Algebra.Order.Floor.Semifield
import Mathlib.Data.Rat.Floor

/-! Monotone arithmetic: differences from one number, exponentials of numbers that are not positive,
and quotients by one positive number are rounded in the order of what they are made of. -/
namespace EntityTagger

namespace Exponential

variable {x y : ℕ}

theorem mul_mono {a b c d : ℕ} (hac : a ≤ c) (hbd : b ≤ d) : mul a b ≤ mul c d :=
  Nat.div_le_div_right (Nat.mul_le_mul hac hbd)

theorem series_mono (h : x ≤ y) (k terms : ℕ) : series x k terms ≤ series y k terms := by
  induction terms generalizing k with
  | zero => exact le_rfl
  | succ terms ih => exact Nat.add_le_add_left (Nat.div_le_div_right (mul_mono h (ih (k + 1)))) one

theorem square_mono {a b : ℕ} (h : a ≤ b) (n : ℕ) : square a n ≤ square b n := by
  induction n generalizing a b with
  | zero => exact h
  | succ n ih => exact ih (mul_mono h h)

theorem fixed_mono (h : x ≤ y) : fixed x ≤ fixed y :=
  square_mono (series_mono (Nat.div_le_div_right h) 1 40) 12

end Exponential

namespace Binary

variable {F : Format} {x y z : Binary F}

/-! ### Sums and differences -/

theorem level_zero [F.Regular] (negative : Bool) : (F.zero negative).level = .number 0 := by
  rw [level_of_isFinite (isFinite_zero negative), value_zero]

theorem isNaN_ofUnits (count : ℤ) : (ofUnits F count).isNaN = false := isNaN_round ..

theorem level_round_natAbs_mono [F.Regular] {a b : ℤ} (h : a ≤ b) (scale : ℕ) {den : ℕ}
    (hd : 0 < den) : (F.round (a < 0) (a.natAbs * scale) den).level ≤
      (F.round (b < 0) (b.natAbs * scale) den).level := by
  have hscale : ∀ {m n : ℕ}, m ≤ n →
      (F.round false (m * scale) den).level ≤ (F.round false (n * scale) den).level := by
    intro m n hmn
    apply level_round_mono hd hd
    gcongr
  by_cases ha : a < 0
  · by_cases hb : b < 0
    · rw [decide_eq_true ha, decide_eq_true hb, round_true, round_true]
      exact level_neg_le_neg (isNaN_round ..) (isNaN_round ..) (hscale (by omega))
    · rw [decide_eq_true ha, decide_eq_false hb]
      exact (level_round_le_zero _ hd).trans (zero_le_level_round _ hd)
  · rw [decide_eq_false ha, decide_eq_false (by omega : ¬ b < 0)]
    exact hscale (by omega)

theorem level_ofUnits_mono [F.Regular] {a b : ℤ} (h : a ≤ b) :
    (ofUnits F a).level ≤ (ofUnits F b).level :=
  level_round_natAbs_mono h _ (by positivity)

theorem level_add_of_isFinite [F.Regular] (hx : x.isFinite = true) (hy : y.isFinite = true) :
    (x.add y).isNaN = false ∧ (x.add y).level = (ofUnits F (x.units + y.units)).level := by
  rw [add_of_isFinite hx hy]
  by_cases hsum : x.units + y.units = 0
  · have hzero : ofUnits F 0 = F.zero false := by simp [ofUnits, Format.round]
    rw [if_pos hsum, hsum, hzero, level_zero, level_zero]
    exact ⟨isNaN_of_isFinite (isFinite_zero _), rfl⟩
  · rw [if_neg hsum]
    exact ⟨isNaN_ofUnits _, rfl⟩

theorem level_sub_mono [F.Regular] (hx : x.isFinite = true) (hy : y.isFinite = true)
    (hz : z.isFinite = true) (h : x.value ≤ y.value) : (x.sub z).level ≤ (y.sub z).level := by
  have hneg : z.neg.isFinite = true := (isFinite_neg z).trans hz
  rw [sub, sub, (level_add_of_isFinite hx hneg).2, (level_add_of_isFinite hy hneg).2]
  exact level_ofUnits_mono (Int.add_le_add_right ((units_le_iff x y).2 h) _)

/-! ### Exponentials -/

/-- The fixed-point number nearest to the size of a number from below. -/
theorem size_eq_floor (m : ℕ) (e : ℤ) :
    m * 2 ^ e.toNat * Exponential.one / 2 ^ (-e).toNat = ⌊(m * 2 ^ e * Exponential.one : ℚ)⌋₊ := by
  rw [← Nat.floor_div_eq_div (K := ℚ), ← finite_ratio]
  push_cast
  congr 1
  ring

/-- The exponential of the opposite of a number, given with its size in fixed point. -/
def expBelow (F : Format) (size : ℕ) : Binary F :=
  if Exponential.bound * Exponential.one ≤ size then F.zero false
  else F.round false Exponential.one (Exponential.fixed size)

theorem exp_finite_true {m : ℕ} {e : ℤ} (h : F.Holds m e) :
    (finite true m e h).exp = expBelow F ⌊(m * 2 ^ e * Exponential.one : ℚ)⌋₊ := by
  simp only [exp, if_true, size_eq_floor, expBelow]

theorem level_expBelow_anti [F.Regular] {m n : ℕ} (h : m ≤ n) :
    (expBelow F n).level ≤ (expBelow F m).level := by
  have hpos : ∀ k, 0 < Exponential.fixed k := fun k =>
    Exponential.one_pos.trans_le (Exponential.one_le_fixed k)
  unfold expBelow
  by_cases hm : Exponential.bound * Exponential.one ≤ m
  · rw [if_pos hm, if_pos (hm.trans h)]
  · rw [if_neg hm]
    split_ifs
    · rw [level_zero]
      exact zero_le_level_round _ (hpos m)
    · apply level_round_mono (hpos n) (hpos m)
      have hfixed : (0 : ℚ) < Exponential.fixed m := by exact_mod_cast hpos m
      have hle : (Exponential.fixed m : ℚ) ≤ Exponential.fixed n := by
        exact_mod_cast Exponential.fixed_mono h
      gcongr

/-- What is not positive is a negative number, of value 0, or infinitely small. -/
theorem cases_of_level_nonpos (hx : x.isNaN = false) (h : x.level ≤ .number 0) :
    x = .infinity true ∨ (x.isFinite = true ∧ x.value = 0) ∨ ∃ m e k, x = .finite true m e k := by
  cases x with
  | nan => simp [isNaN] at hx
  | infinity negative =>
    cases negative with
    | true => exact Or.inl rfl
    | false => exact absurd h (not_le.2 (Extended.number_lt_top 0))
  | finite negative m e k =>
    cases negative with
    | true => exact Or.inr (Or.inr ⟨m, e, k, rfl⟩)
    | false =>
      have hle : (finite false m e k).value ≤ 0 := Extended.number_le_number.1 h
      have hnonneg : 0 ≤ (finite false m e k).value := by
        show (0 : ℚ) ≤ m * 2 ^ e
        positivity
      exact Or.inr (Or.inl ⟨rfl, le_antisymm hle hnonneg⟩)

theorem level_exp_mono [F.Regular] (hx : x.isNaN = false) (hy : y.isNaN = false)
    (hle : x.level ≤ y.level) (hnonpos : y.level ≤ .number 0) : x.exp.level ≤ y.exp.level := by
  have hxshare := isShare_exp hx (hle.trans hnonpos)
  have hyshare := isShare_exp hy hnonpos
  rw [level_of_isFinite hyshare.isFinite_eq]
  rcases cases_of_level_nonpos hy hnonpos with rfl | ⟨hyfin, hy0⟩ | ⟨n, f, l, rfl⟩
  · -- nothing but itself is below what is infinitely small
    rcases cases_of_level_nonpos hx (hle.trans hnonpos) with rfl | ⟨hxfin, -⟩ | ⟨m, e, k, rfl⟩
    · rw [level_of_isFinite hxshare.isFinite_eq]
    · rw [level_of_isFinite hxfin] at hle
      exact absurd hle (not_le.2 (Extended.bot_lt_number _))
    · exact absurd hle (not_le.2 (Extended.bot_lt_number _))
  · rw [(value_exp_of_value_zero hyfin hy0).2, level_of_isFinite hxshare.isFinite_eq]
    exact Extended.number_le_number.2 hxshare.le_one
  · rcases cases_of_level_nonpos hx (hle.trans hnonpos) with rfl | ⟨hxfin, hx0⟩ | ⟨m, e, k, rfl⟩
    · show (F.zero false).level ≤ _
      rw [level_zero]
      exact Extended.number_le_number.2 hyshare.nonneg
    · -- both have the value 0
      rw [level_of_isFinite hxfin, hx0] at hle
      have hy0 : (finite true n f l).value = 0 :=
        le_antisymm (Extended.number_le_number.1 hnonpos) (Extended.number_le_number.1 hle)
      rw [level_of_isFinite hxshare.isFinite_eq, (value_exp_of_value_zero hxfin hx0).2,
        (value_exp_of_value_zero rfl hy0).2]
    · have hvalue : -(m * 2 ^ e : ℚ) ≤ -(n * 2 ^ f) := Extended.number_le_number.1 hle
      rw [← level_of_isFinite hyshare.isFinite_eq, exp_finite_true, exp_finite_true]
      apply level_expBelow_anti
      apply Nat.floor_mono
      have hsize := neg_le_neg_iff.1 hvalue
      gcongr

/-! ### Quotients -/

theorem level_div_of_nonneg [F.Regular] (hx : x.isFinite = true) (hy : y.isFinite = true)
    (hnonneg : 0 ≤ x.units) (hpos : 0 < y.units) :
    (x.div y).level = (F.round false x.units.natAbs y.units.natAbs).level := by
  rw [div_of_isFinite hx hy hpos.ne']
  rcases hnonneg.eq_or_lt with hzero | hxpos
  · have hround : ∀ negative, F.round negative 0 y.units.natAbs = F.zero negative := by
      intro negative
      simp [Format.round]
    rw [← hzero, Int.natAbs_zero, hround, hround, level_zero, level_zero]
  · rw [negative_of_units_pos hx hxpos, negative_of_units_pos hy hpos]
    rfl

theorem level_div_mono [F.Regular] (hx : x.isFinite = true) (hy : y.isFinite = true)
    (hz : z.isFinite = true) (hnonneg : 0 ≤ x.value) (hle : x.value ≤ y.value)
    (hpos : 0 < z.value) : (x.div z).level ≤ (y.div z).level := by
  have hxu := (units_nonneg_iff x).2 hnonneg
  have hxy := (units_le_iff x y).2 hle
  have hzu : 0 < z.units := by
    rw [value_eq_units] at hpos
    exact_mod_cast pos_of_mul_pos_left hpos (by positivity)
  rw [level_div_of_nonneg hx hz hxu hzu, level_div_of_nonneg hy hz (hxu.trans hxy) hzu]
  apply level_round_mono (by omega) (by omega)
  have hsize : x.units.natAbs ≤ y.units.natAbs := by omega
  gcongr

end Binary

end EntityTagger
