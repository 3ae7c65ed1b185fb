import EntityTagger.Proofs.Number.Share

/-! Numbers that a wider format holds as they are, and sums of shares: however many are added, the
sum stays within the format. -/
namespace EntityTagger

namespace Format

variable {F G : Format} {num den m : ℕ} {e : ℤ}

/-- Every number of the first format is one of the second. -/
structure Within (F G : Format) : Prop where
  precision_le : F.precision ≤ G.precision
  minExponent_le : G.minExponent ≤ F.minExponent
  limit_le : (F.precision : ℤ) + F.maxExponent ≤ G.precision + G.maxExponent

theorem gridExponent_of_within (h : F.Within G) (hm : F.Holds m e) (hn : 0 < num) (hd : 0 < den)
    (hv : (num / den : ℚ) = m * 2 ^ e) : G.gridExponent num den ≤ e := by
  have hlow := (log2Ratio_spec hn hd).1
  have hmq : (m : ℚ) < 2 ^ F.precision := by exact_mod_cast hm.1
  have hlog : log2Ratio num den < F.precision + e := by
    rw [← zpow_lt_zpow_iff_right₀ (one_lt_two (α := ℚ)), zpow_add₀ two_ne_zero, zpow_natCast]
    rw [hv] at hlow
    exact hlow.trans_lt (by gcongr)
  have := h.precision_le
  have := h.minExponent_le
  have := hm.2.1
  unfold gridExponent
  omega

theorem gridValue_of_within (h : F.Within G) (hm : F.Holds m e) (hn : 0 < num) (hd : 0 < den)
    (hv : (num / den : ℚ) = m * 2 ^ e) : G.gridValue num den = m * 2 ^ e := by
  have he := gridExponent_of_within h hm hn hd hv
  have hplace : ((m * 2 ^ (e - G.gridExponent num den).toNat : ℕ) : ℚ) *
      2 ^ G.gridExponent num den = m * 2 ^ e := by
    push_cast
    rw [mul_assoc, ← zpow_natCast, ← zpow_add₀ two_ne_zero]
    congr 2
    omega
  have hgrid : G.gridPlace num den = m * 2 ^ (e - G.gridExponent num den).toNat := by
    apply le_antisymm
    · exact gridPlace_le hd (by rw [hv, hplace])
    · exact le_gridPlace hd (by rw [hv, hplace])
  rw [gridValue, hgrid, hplace]

theorem lt_limit_of_within (h : F.Within G) (hm : F.Holds m e) : (m * 2 ^ e : ℚ) < G.limit := by
  have hmq : (m : ℚ) < 2 ^ F.precision := by exact_mod_cast hm.1
  have := hm.2.2.1
  have := h.limit_le
  calc (m * 2 ^ e : ℚ) < 2 ^ F.precision * 2 ^ e := by gcongr
    _ = 2 ^ ((F.precision : ℤ) + e) := by rw [zpow_add₀ two_ne_zero, zpow_natCast]
    _ ≤ G.limit := zpow_le_zpow_right₀ one_le_two (by omega)

end Format

namespace Binary

variable {F G : Format}

theorem convert_finite [G.Regular] (h : F.Within G) (negative : Bool) {m : ℕ} {e : ℤ}
    (hm : F.Holds m e) : ∃ n f k, (finite negative m e hm).convert G = .finite negative n f k ∧
      (n * 2 ^ f : ℚ) = m * 2 ^ e := by
  rw [convert]
  rcases m.eq_zero_or_pos with rfl | hpos
  · obtain ⟨k, hz⟩ := zero_eq (F := G) negative
    exact ⟨0, G.minExponent, k, by simpa [Format.round] using hz, by simp⟩
  · have hn : 0 < m * 2 ^ e.toNat := by positivity
    have hd : 0 < 2 ^ (-e).toNat := by positivity
    have hv := finite_ratio m e
    have hgrid := Format.gridValue_of_within h hm hn hd hv
    rcases G.round_cases negative hn hd with ⟨-, n, f, k, hr, hnf⟩ | ⟨hge, -⟩
    · exact ⟨n, f, k, hr, hnf.trans hgrid⟩
    · exact absurd (hgrid ▸ hge) (not_le.2 (Format.lt_limit_of_within h hm))

theorem isFinite_convert [G.Regular] (h : F.Within G) (x : Binary F) :
    (x.convert G).isFinite = x.isFinite := by
  cases x with
  | nan => rfl
  | infinity => rfl
  | finite negative m e hm =>
    obtain ⟨n, f, k, hconvert, -⟩ := convert_finite h negative hm
    rw [hconvert]
    rfl

theorem value_convert [G.Regular] (h : F.Within G) (x : Binary F) :
    (x.convert G).value = x.value := by
  cases x with
  | nan => rfl
  | infinity => rfl
  | finite negative m e hm =>
    obtain ⟨n, f, k, hconvert, hv⟩ := convert_finite h negative hm
    rw [hconvert, value, value, hv]

/-- A sum of shares. It does not pass the integer from which on the format has no odd ones. -/
structure IsTotal (x : Binary F) : Prop where
  isFinite_eq : x.isFinite = true
  nonneg : 0 ≤ x.value
  le_pow : x.value ≤ 2 ^ F.precision

theorem isTotal_zero [F.Regular] : (F.zero false).IsTotal := by
  refine ⟨isFinite_zero false, ?_, ?_⟩ <;> rw [value_zero]
  positivity

theorem roundDiv_tie (n : ℕ) : roundDiv (2 * (2 * n) + 1) 2 = 2 * n := by
  have hdiv : (2 * (2 * n) + 1) / 2 = 2 * n := by omega
  have hmod : (2 * (2 * n) + 1) % 2 = 1 := by omega
  simp [roundDiv, hdiv, hmod]

/-- One more than the last integer is a tie, which goes back to that integer. -/
theorem gridValue_succ_pow [F.Regular] :
    F.gridValue (2 ^ F.precision + 1) 1 = 2 ^ F.precision := by
  have hp := Format.Regular.two_le_precision (F := F)
  have hlog : log2Ratio (2 ^ F.precision + 1) 1 = F.precision := by
    obtain ⟨hlow, hhigh⟩ := log2Ratio_spec (show 0 < 2 ^ F.precision + 1 by positivity) one_pos
    have hone : (1 : ℚ) < 2 ^ F.precision := one_lt_pow₀ one_lt_two (by omega)
    push_cast at hlow hhigh
    rw [div_one] at hlow hhigh
    have hupper : (2 : ℚ) ^ log2Ratio (2 ^ F.precision + 1) 1 < 2 ^ ((F.precision : ℤ) + 1) := by
      rw [zpow_add₀ two_ne_zero, zpow_natCast, zpow_one]
      linarith
    have hlower : (2 : ℚ) ^ (F.precision : ℤ) < 2 ^ (log2Ratio (2 ^ F.precision + 1) 1 + 1) := by
      rw [zpow_natCast]
      linarith
    have := (zpow_lt_zpow_iff_right₀ one_lt_two).1 hupper
    have := (zpow_lt_zpow_iff_right₀ one_lt_two).1 hlower
    omega
  have hmin := Format.Regular.minExponent_nonpos (F := F)
  have he : F.gridExponent (2 ^ F.precision + 1) 1 = 1 := by
    unfold Format.gridExponent
    omega
  obtain ⟨k, hk⟩ : ∃ k, F.precision = k + 2 := ⟨F.precision - 2, by omega⟩
  have hplace : F.gridPlace (2 ^ F.precision + 1) 1 = 2 ^ (k + 1) := by
    have hpow : 2 ^ (k + 2) = 2 * (2 * 2 ^ k) := by rw [Nat.pow_succ', Nat.pow_succ']
    rw [Format.gridPlace, he, hk, hpow, Nat.pow_succ', Int.toNat_one, pow_one, Nat.one_mul]
    simpa using roundDiv_tie (2 ^ k)
  rw [Format.gridValue, hplace, he, hk]
  push_cast
  ring

theorem value_le_gridValue [F.Regular] {x : Binary F} {count : ℤ} (hx : x.isFinite = true)
    (hnonneg : 0 ≤ x.units) (h : x.units ≤ count) (hc : 0 < count) :
    x.value ≤ F.gridValue (count.natAbs * 2 ^ F.minExponent.toNat) (2 ^ (-F.minExponent).toNat) := by
  rcases hnonneg.eq_or_lt with hzero | hpos
  · rw [value_eq_units, ← hzero]
    unfold Format.gridValue
    simp only [Int.cast_zero, zero_mul]
    positivity
  · cases x with
    | nan => simp [isFinite] at hx
    | infinity => simp [isFinite] at hx
    | finite negative m e k =>
      have hsize : (0 : ℤ) ≤ (m * 2 ^ (e - F.minExponent).toNat : ℕ) := Int.natCast_nonneg _
      obtain rfl : negative = false := by
        cases negative with
        | false => rfl
        | true =>
          simp only [units, if_true] at hpos
          omega
      have hv : (finite false m e k).value = m * 2 ^ e := rfl
      have hratio := units_ratio hnonneg
      have hn : 0 < (finite false m e k).units.natAbs * 2 ^ F.minExponent.toNat := by
        have : (finite false m e k).units.natAbs ≠ 0 := by omega
        positivity
      have hself : F.Within F := ⟨le_rfl, le_rfl, le_rfl⟩
      rw [hv, ← Format.gridValue_of_within hself k hn (by positivity) (hratio.trans hv)]
      apply Format.gridValue_mono hn (by positivity) (by
        have : count.natAbs ≠ 0 := by omega
        positivity) (by positivity)
      gcongr
      omega

/-- A share is added to a total without leaving the format: what would pass the last integer is
rounded back to it. The sum is not below either term. -/
theorem isTotal_add [F.Regular] {x y : Binary F} (hx : x.IsTotal) (hy : y.IsShare) :
    (x.add y).IsTotal ∧ x.value ≤ (x.add y).value ∧ y.value ≤ (x.add y).value := by
  have hxu := (units_nonneg_iff x).2 hx.nonneg
  have hyu := (units_nonneg_iff y).2 hy.nonneg
  rw [add_of_isFinite hx.isFinite_eq hy.isFinite_eq]
  split_ifs with hs
  · have hzero : ∀ {z : Binary F}, z.units = 0 → z.value = 0 := fun hz => by
      rw [value_eq_units, hz, Int.cast_zero, zero_mul]
    rw [hzero (show x.units = 0 by omega), hzero (show y.units = 0 by omega), value_zero]
    exact ⟨⟨isFinite_zero _, by rw [value_zero], by rw [value_zero]; positivity⟩, le_rfl, le_rfl⟩
  · have hxv := value_eq_units x
    have hyv := value_eq_units y
    have hsum : 0 < x.units + y.units := by omega
    have hxle := value_le_gridValue hx.isFinite_eq hxu (show _ ≤ x.units + y.units by omega) hsum
    have hyle := value_le_gridValue hy.isFinite_eq hyu (show _ ≤ x.units + y.units by omega) hsum
    generalize hcount : x.units + y.units = count at *
    have hpos : 0 < count := by omega
    rw [ofUnits, decide_eq_false (not_lt.2 hpos.le)]
    have hnum : 0 < count.natAbs * 2 ^ F.minExponent.toNat := by
      have : count.natAbs ≠ 0 := by omega
      positivity
    have hden : 0 < 2 ^ (-F.minExponent).toNat := by positivity
    have hratio : (((count.natAbs * 2 ^ F.minExponent.toNat : ℕ) : ℚ) /
        ((2 ^ (-F.minExponent).toNat : ℕ) : ℚ)) = x.value + y.value := by
      have habs : ((count.natAbs : ℕ) : ℚ) = count := by
        rw [← Int.cast_natCast, Int.natAbs_of_nonneg hpos.le]
      rw [hxv, hyv, ← add_mul, ← Int.cast_add, hcount, two_zpow_eq]
      push_cast
      rw [habs]
      ring
    have hle : F.gridValue (count.natAbs * 2 ^ F.minExponent.toNat) (2 ^ (-F.minExponent).toNat) ≤
        2 ^ F.precision := by
      rw [← gridValue_succ_pow]
      apply Format.gridValue_mono hnum hden (by positivity) one_pos
      rw [hratio]
      push_cast
      linarith [hx.le_pow, hy.le_one]
    have hlimit : (2 : ℚ) ^ F.precision < F.limit := by
      have := Format.Regular.maxExponent_pos (F := F)
      rw [Format.limit, ← zpow_natCast]
      exact zpow_lt_zpow_right₀ one_lt_two (by omega)
    rcases F.round_cases false hnum hden with ⟨-, n, f, h, hr, hv⟩ | ⟨hge, -⟩
    · have hvalue : (finite false n f h).value = n * 2 ^ f := rfl
      rw [hr, hvalue, hv]
      refine ⟨⟨rfl, ?_, ?_⟩, hxle, hyle⟩
      · rw [hvalue]
        positivity
      · rw [hvalue, hv]
        exact hle
    · exact absurd (hge.trans hle) (not_le.2 hlimit)

theorem isTotal_foldl [F.Regular] {weights : List (Binary F)} (h : ∀ w ∈ weights, w.IsShare)
    {x : Binary F} (hx : x.IsTotal) : (weights.foldl add x).IsTotal ∧
      x.value ≤ (weights.foldl add x).value ∧
      ∀ w ∈ weights, w.value ≤ (weights.foldl add x).value := by
  induction weights generalizing x with
  | nil => exact ⟨hx, le_rfl, by simp⟩
  | cons w rest ih =>
    obtain ⟨htotal, hle, hw⟩ := isTotal_add hx (h w (List.mem_cons_self ..))
    obtain ⟨ihtotal, ihle, ihw⟩ := ih (fun v hv => h v (List.mem_cons_of_mem _ hv)) htotal
    refine ⟨ihtotal, hle.trans ihle, fun v hv => ?_⟩
    rcases List.mem_cons.1 hv with rfl | hv
    · exact hw.trans ihle
    · exact ihw v hv

end Binary

end EntityTagger
