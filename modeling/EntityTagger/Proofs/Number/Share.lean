import EntityTagger.Proofs.Number.Order

/-! Shares: numbers from 0 to 1. The exponential of a shift to below is one, and so is the quotient
of a weight by a sum in which the weight stands. -/
namespace EntityTagger

namespace Format

variable {F : Format} {num den : ℕ}

theorem gridExponent_nonpos [F.Regular] (hn : 0 < num) (hd : 0 < den) (h : num ≤ den) :
    F.gridExponent num den ≤ 0 := by
  have hp := Regular.precision_pos (F := F)
  have hmin := Regular.minExponent_nonpos (F := F)
  have hq : (num / den : ℚ) ≤ 1 := (div_le_one (by exact_mod_cast hd)).2 (by exact_mod_cast h)
  have hlog := (log2Ratio_spec hn hd).1.trans hq
  rw [← zpow_zero (2 : ℚ)] at hlog
  have := (zpow_le_zpow_iff_right₀ one_lt_two).1 hlog
  unfold gridExponent
  omega

theorem one_eq_grid {e : ℤ} (he : e ≤ 0) : ((2 ^ (-e).toNat : ℕ) * 2 ^ e : ℚ) = 1 := by
  obtain ⟨n, hn⟩ := Int.eq_ofNat_of_zero_le (neg_nonneg.2 he)
  obtain rfl : e = -n := by omega
  simp

theorem gridValue_le_one [F.Regular] (hn : 0 < num) (hd : 0 < den) (h : num ≤ den) :
    F.gridValue num den ≤ 1 := by
  have he := gridExponent_nonpos (F := F) hn hd h
  have hq : (num / den : ℚ) ≤ 1 := (div_le_one (by exact_mod_cast hd)).2 (by exact_mod_cast h)
  have hp := gridPlace_le (F := F) hd (n := 2 ^ (-F.gridExponent num den).toNat)
    (hq.trans_eq (by exact_mod_cast (one_eq_grid he).symm))
  unfold gridValue
  rw [← one_eq_grid he]
  gcongr

theorem one_le_gridValue [F.Regular] (hd : 0 < den) : 1 ≤ F.gridValue den den := by
  have he := gridExponent_nonpos (F := F) hd hd le_rfl
  have hq : (den / den : ℚ) = 1 := div_self (by exact_mod_cast hd.ne')
  have hp := le_gridPlace (F := F) hd (n := 2 ^ (-F.gridExponent den den).toNat)
    (by rw [hq]; exact_mod_cast (one_eq_grid he).le)
  unfold gridValue
  rw [← one_eq_grid he]
  gcongr

theorem one_lt_limit [F.Regular] : 1 < F.limit := by
  have hp := Regular.precision_pos (F := F)
  have hmax := Regular.maxExponent_nonneg (F := F)
  unfold limit
  rw [← zpow_zero (2 : ℚ)]
  exact zpow_lt_zpow_right₀ one_lt_two (by omega)

end Format

namespace Exponential

theorem one_pos : 0 < one := by unfold one; positivity

theorem one_le_mul {a : ℕ} (h : one ≤ a) : one ≤ mul a a :=
  (Nat.le_div_iff_mul_le one_pos).2 (Nat.mul_le_mul h h)

theorem one_le_square {a : ℕ} (h : one ≤ a) (n : ℕ) : one ≤ square a n := by
  induction n generalizing a with
  | zero => exact h
  | succ n ih => exact ih (one_le_mul h)

theorem one_le_fixed (x : ℕ) : one ≤ fixed x := one_le_square (Nat.le_add_right _ _) 12

theorem series_zero (k terms : ℕ) : series 0 k terms = one := by
  cases terms <;> simp [series, mul]

theorem square_one (n : ℕ) : square one n = one := by
  induction n with
  | zero => rfl
  | succ n ih => rw [square, mul, Nat.mul_div_cancel _ one_pos, ih]

theorem fixed_zero : fixed 0 = one := by
  rw [fixed, Nat.zero_div, series_zero, square_one]

end Exponential

namespace Binary

variable {F : Format}

/-- A number from 0 to 1. -/
structure IsShare (x : Binary F) : Prop where
  isFinite_eq : x.isFinite = true
  nonneg : 0 ≤ x.value
  le_one : x.value ≤ 1

theorem isNaN_of_isFinite {x : Binary F} (h : x.isFinite = true) : x.isNaN = false := by
  cases x <;> simp_all [isFinite, isNaN]

theorem level_of_isFinite {x : Binary F} (h : x.isFinite = true) : x.level = .number x.value := by
  cases x <;> simp_all [isFinite, level, Extended.number]

theorem isFinite_zero [F.Regular] (negative : Bool) : (F.zero negative).isFinite = true := by
  obtain ⟨h, hz⟩ := zero_eq (F := F) negative
  rw [hz]
  rfl

theorem value_zero [F.Regular] (negative : Bool) : (F.zero negative).value = 0 := by
  obtain ⟨h, hz⟩ := zero_eq (F := F) negative
  simp [hz, value]

theorem isShare_zero [F.Regular] (negative : Bool) : (F.zero negative).IsShare := by
  refine ⟨isFinite_zero negative, ?_, ?_⟩ <;> rw [value_zero]
  exact zero_le_one

theorem isShare_round [F.Regular] {num den : ℕ} (hd : 0 < den) (h : num ≤ den) :
    (F.round false num den).IsShare := by
  rcases num.eq_zero_or_pos with rfl | hn
  · simpa [Format.round] using isShare_zero (F := F) false
  · have hle := Format.gridValue_le_one (F := F) hn hd h
    rcases F.round_cases false hn hd with ⟨-, m, e, k, hr, hv⟩ | ⟨hge, -⟩
    · rw [hr]
      refine ⟨rfl, ?_, hv.trans_le hle⟩
      show (0 : ℚ) ≤ m * 2 ^ e
      positivity
    · exact absurd (hge.trans hle) (not_le.2 Format.one_lt_limit)

theorem isShare_exp [F.Regular] {x : Binary F} (hx : x.isNaN = false)
    (h : x.level ≤ .number 0) : x.exp.IsShare := by
  have hone := Exponential.one_pos
  cases x with
  | nan => simp [isNaN] at hx
  | infinity negative =>
    cases negative with
    | true => exact isShare_zero false
    | false => exact absurd h (not_le.2 (Extended.number_lt_top 0))
  | finite negative m e k =>
    unfold exp
    dsimp only
    cases negative with
    | true =>
      simp only [if_true]
      split_ifs
      · exact isShare_zero false
      · exact isShare_round (hone.trans_le (Exponential.one_le_fixed _)) (Exponential.one_le_fixed _)
    | false =>
      have hzero : (m * 2 ^ e : ℚ) ≤ 0 := Extended.number_le_number.1 h
      have hpow : (0 : ℚ) < 2 ^ e := by positivity
      obtain rfl : m = 0 := by
        by_contra hm
        have : (0 : ℚ) < m * 2 ^ e := by positivity
        linarith
      rw [if_neg (by simp [Exponential.bound, hone.ne']), Nat.zero_mul, Nat.zero_mul, Nat.zero_div,
        Exponential.fixed_zero]
      exact isShare_round hone le_rfl

theorem value_exp_of_value_zero [F.Regular] {x : Binary F} (hx : x.isFinite = true)
    (hv : x.value = 0) : x.exp.isFinite = true ∧ x.exp.value = 1 := by
  have hone := Exponential.one_pos
  cases x with
  | nan => simp [isFinite] at hx
  | infinity => simp [isFinite] at hx
  | finite negative m e k =>
    have hpow : (2 : ℚ) ^ e ≠ 0 := zpow_ne_zero _ two_ne_zero
    obtain rfl : m = 0 := by
      cases negative <;> simpa [value, hpow] using hv
    unfold exp
    dsimp only
    rw [if_neg (by simp [Exponential.bound, hone.ne']), Nat.zero_mul, Nat.zero_mul, Nat.zero_div,
      Exponential.fixed_zero, ite_self]
    have hle := Format.gridValue_le_one (F := F) hone hone le_rfl
    rcases F.round_cases false hone hone with ⟨-, n, f, l, hr, hnf⟩ | ⟨hge, -⟩
    · rw [hr]
      exact ⟨rfl, hnf.trans (le_antisymm hle (Format.one_le_gridValue hone))⟩
    · exact absurd (hge.trans hle) (not_le.2 Format.one_lt_limit)

theorem units_ratio {x : Binary F} [F.Regular] (hx : 0 ≤ x.units) :
    (((x.units.natAbs * 2 ^ F.minExponent.toNat : ℕ) : ℚ) /
      ((2 ^ (-F.minExponent).toNat : ℕ) : ℚ)) = x.value := by
  have hu : ((x.units.natAbs : ℕ) : ℚ) = x.units := by
    rw [← Int.cast_natCast, Int.natAbs_of_nonneg hx]
  rw [value_eq_units, two_zpow_eq]
  push_cast
  rw [hu]
  ring

theorem units_nonneg_iff (x : Binary F) : 0 ≤ x.units ↔ 0 ≤ x.value := by
  rw [value_eq_units, mul_nonneg_iff_of_pos_right (by positivity)]
  exact_mod_cast Iff.rfl

theorem units_le_iff (x y : Binary F) : x.units ≤ y.units ↔ x.value ≤ y.value := by
  rw [← not_lt, ← not_lt, units_lt_units_iff]

@[simp] theorem units_neg (x : Binary F) : x.neg.units = -x.units := by
  cases x with
  | finite negative m e h => cases negative <;> simp [neg, units]
  | _ => simp [neg, units]

@[simp] theorem isFinite_neg (x : Binary F) : x.neg.isFinite = x.isFinite := by cases x <;> rfl

theorem add_of_isFinite {x y : Binary F} (hx : x.isFinite = true) (hy : y.isFinite = true) :
    x.add y = if x.units + y.units = 0 then F.zero (x.negative && y.negative)
      else ofUnits F (x.units + y.units) := by
  cases x <;> cases y <;> simp_all [isFinite, add]

theorem div_of_isFinite {x y : Binary F} (hx : x.isFinite = true) (hy : y.isFinite = true)
    (hpos : y.units ≠ 0) :
    x.div y = F.round (x.negative != y.negative) x.units.natAbs y.units.natAbs := by
  cases x <;> cases y <;> simp_all [isFinite, div]

theorem negative_of_units_pos {x : Binary F} (hx : x.isFinite = true) (hpos : 0 < x.units) :
    x.negative = false := by
  cases x with
  | finite negative m e h =>
    cases negative with
    | false => rfl
    | true =>
      have hsize : (0 : ℤ) ≤ (m * 2 ^ (e - F.minExponent).toNat : ℕ) := Int.natCast_nonneg _
      simp only [units, if_true] at hpos
      omega
  | _ => simp [isFinite] at hx

/-- A share is divided by a number that is not smaller into a share. -/
theorem isShare_div [F.Regular] {x y : Binary F} (hx : x.isFinite = true) (hy : y.isFinite = true)
    (hnonneg : 0 ≤ x.value) (hle : x.value ≤ y.value) (hpos : 0 < y.value) :
    (x.div y).IsShare := by
  have hxu := (units_nonneg_iff x).2 hnonneg
  have hyu : 0 < y.units := by
    rw [value_eq_units] at hpos
    exact_mod_cast pos_of_mul_pos_left hpos (by positivity)
  have hxy := (units_le_iff x y).2 hle
  rw [div_of_isFinite hx hy hyu.ne']
  rcases hxu.eq_or_lt with hzero | hxpos
  · simpa [Format.round, ← hzero] using isShare_zero (F := F) (x.negative != y.negative)
  · rw [negative_of_units_pos hx hxpos, negative_of_units_pos hy hyu]
    exact isShare_round (by omega) (by omega)

theorem sub_nonpos [F.Regular] {x y : Binary F} (hx : x.isNaN = false) (hy : y.isFinite = true)
    (h : x.level ≤ y.level) : (x.sub y).isNaN = false ∧ (x.sub y).level ≤ .number 0 := by
  have hyneg : y.neg.isFinite = true := (isFinite_neg y).trans hy
  cases hfin : x.isFinite with
  | false =>
    cases x with
    | nan => simp [isNaN] at hx
    | infinity negative =>
      cases negative with
      | true => cases y <;> simp_all [isFinite, sub, neg, add, isNaN, level]
      | false =>
        rw [level_of_isFinite hy] at h
        exact absurd h (not_le.2 (Extended.number_lt_top _))
    | finite => simp [isFinite] at hfin
  | true =>
    rw [level_of_isFinite hfin, level_of_isFinite hy] at h
    have hle := (units_le_iff x y).2 (Extended.number_le_number.1 h)
    rw [sub, add_of_isFinite hfin hyneg, units_neg]
    split_ifs with hz
    · refine ⟨isNaN_of_isFinite (isFinite_zero _), ?_⟩
      rw [level_of_isFinite (isFinite_zero _), value_zero]
    · generalize hc : x.units + -y.units = count at *
      rw [ofUnits, decide_eq_true (by omega : count < 0)]
      exact ⟨isNaN_round .., level_round_le_zero _ (by positivity)⟩

theorem sub_self_of_isFinite [F.Regular] {x : Binary F} (hx : x.isFinite = true) :
    (x.sub x).isFinite = true ∧ (x.sub x).value = 0 := by
  have hneg : x.neg.isFinite = true := (isFinite_neg x).trans hx
  rw [sub, add_of_isFinite hx hneg, units_neg, add_neg_cancel, if_pos rfl]
  exact ⟨isFinite_zero _, value_zero _⟩

theorem sub_self_of_not_isFinite {x : Binary F} (hx : x.isFinite = false) : x.sub x = .nan := by
  cases x with
  | nan => rfl
  | infinity a => cases a <;> rfl
  | finite => simp [isFinite] at hx

theorem add_nan (x : Binary F) : x.add .nan = .nan := by cases x <;> rfl

theorem nan_add (x : Binary F) : (nan : Binary F).add x = .nan := by cases x <;> rfl

theorem foldl_add_nan (weights : List (Binary F)) : weights.foldl add .nan = .nan := by
  induction weights with
  | nil => rfl
  | cons w rest ih => rw [List.foldl_cons, nan_add, ih]

theorem foldl_add_of_mem {weights : List (Binary F)} (h : (nan : Binary F) ∈ weights)
    (x : Binary F) : weights.foldl add x = .nan := by
  obtain ⟨before, after, rfl⟩ := List.append_of_mem h
  rw [List.foldl_append, List.foldl_cons, add_nan, foldl_add_nan]

theorem div_nan (x : Binary F) : x.div .nan = .nan := by cases x <;> rfl

end Binary

end EntityTagger
