import EntityTagger.Number.Arithmetic
import Mathlib.Algebra.Order.Field.Power
import Mathlib.Tactic.FieldSimp
import Mathlib.Tactic.Linarith
import Mathlib.Tactic.Positivity
import Mathlib.Tactic.Ring

/-! Rounding an exact ratio to a binary format. The rounded value depends on the ratio alone, never
falls when the ratio grows, and is the ratio itself where the format holds it. -/
namespace EntityTagger

/-- What the formats in use have in common: 1 lies on the grid of each, and all integers up to the
length of a significand are far from an overflow. -/
class Format.Regular (F : Format) : Prop where
  two_le_precision : 2 ≤ F.precision
  minExponent_nonpos : F.minExponent ≤ 0
  maxExponent_pos : 1 ≤ F.maxExponent

theorem Format.Regular.precision_pos {F : Format} [h : F.Regular] : 1 ≤ F.precision :=
  Nat.le_of_succ_le h.two_le_precision

theorem Format.Regular.maxExponent_nonneg {F : Format} [h : F.Regular] : 0 ≤ F.maxExponent :=
  Int.le_of_lt h.maxExponent_pos

instance : Format.half.Regular := ⟨by decide, by decide, by decide⟩
instance : Format.brain.Regular := ⟨by decide, by decide, by decide⟩
instance : Format.single.Regular := ⟨by decide, by decide, by decide⟩
instance : Format.double.Regular := ⟨by decide, by decide, by decide⟩

/-- Within half a unit of the ratio, and even where both neighbours are that near. -/
theorem roundDiv_near (num : ℕ) {den : ℕ} (hd : 0 < den) :
    2 * roundDiv num den * den ≤ 2 * num + den ∧ 2 * num ≤ (2 * roundDiv num den + 1) * den ∧
    (2 * roundDiv num den * den = 2 * num + den → roundDiv num den % 2 = 0) ∧
    (2 * num = (2 * roundDiv num den + 1) * den → roundDiv num den % 2 = 0) := by
  have hdiv := Nat.div_add_mod num den
  have hlt := Nat.mod_lt num hd
  unfold roundDiv
  generalize num / den = q at *
  generalize num % den = r at *
  subst hdiv
  have hq : 2 * q * den = 2 * (den * q) := by ring
  have hq' : 2 * (q + 1) * den = 2 * (den * q) + 2 * den := by ring
  have hs : (2 * q + 1) * den = 2 * (den * q) + den := by ring
  have hs' : (2 * (q + 1) + 1) * den = 2 * (den * q) + 3 * den := by ring
  dsimp only
  split_ifs <;> simp only [hq, hq', hs, hs'] <;> refine ⟨?_, ?_, ?_, ?_⟩ <;> omega

theorem roundDiv_mono {a b c d : ℕ} (hb : 0 < b) (hd : 0 < d) (h : a * d ≤ c * b) :
    roundDiv a b ≤ roundDiv c d := by
  obtain ⟨ha, -, hae, -⟩ := roundDiv_near a hb
  obtain ⟨-, hc, -, hce⟩ := roundDiv_near c hd
  by_contra hn
  have hm : roundDiv c d + 1 ≤ roundDiv a b := by omega
  -- both ratios are then the midpoint between two neighbours, of which only one is even
  have hbd : 0 < b * d := Nat.mul_pos hb hd
  have h₁ : 2 * roundDiv a b * b * d ≤ (2 * a + b) * d := Nat.mul_le_mul_right d ha
  have h₂ : 2 * c * b ≤ (2 * roundDiv c d + 1) * d * b := Nat.mul_le_mul_right b hc
  have h₃ : 2 * (roundDiv c d + 1) * (b * d) ≤ 2 * roundDiv a b * (b * d) :=
    Nat.mul_le_mul_right _ (by omega)
  have heq : roundDiv a b = roundDiv c d + 1 := by nlinarith
  have hta : 2 * roundDiv a b * b = 2 * a + b := by nlinarith
  have htc : 2 * c = (2 * roundDiv c d + 1) * d := by nlinarith
  have := hae hta
  have := hce htc
  omega

theorem roundDiv_one (n : ℕ) : roundDiv n 1 = n := by simp [roundDiv, Nat.mod_one]

namespace Format

/-- The exponent of the grid that a ratio is rounded on. -/
def gridExponent (F : Format) (num den : ℕ) : ℤ :=
  max F.minExponent (log2Ratio num den - (F.precision - 1))

def gridPlace (F : Format) (num den : ℕ) : ℕ :=
  roundDiv (num * 2 ^ (-F.gridExponent num den).toNat) (den * 2 ^ (F.gridExponent num den).toNat)

/-- The value that a ratio is rounded to while nothing overflows. -/
def gridValue (F : Format) (num den : ℕ) : ℚ :=
  F.gridPlace num den * 2 ^ F.gridExponent num den

/-- The least power of two beyond the format. -/
def limit (F : Format) : ℚ := 2 ^ ((F.precision : ℤ) + F.maxExponent)

end Format

theorem two_zpow_eq (e : ℤ) : (2 : ℚ) ^ e = 2 ^ e.toNat / 2 ^ (-e).toNat := by
  rcases le_total 0 e with h | h
  · obtain ⟨n, rfl⟩ := Int.eq_ofNat_of_zero_le h
    simp
  · obtain ⟨n, hn⟩ := Int.eq_ofNat_of_zero_le (neg_nonneg.mpr h)
    obtain rfl : e = -n := by omega
    simp

theorem log2Ratio_spec {num den : ℕ} (hn : 0 < num) (hd : 0 < den) :
    (2 : ℚ) ^ log2Ratio num den ≤ num / den ∧ (num / den : ℚ) < 2 ^ (log2Ratio num den + 1) := by
  have hdq : (0 : ℚ) < den := by exact_mod_cast hd
  have hn₁ : (2 : ℚ) ^ num.log2 ≤ num := by exact_mod_cast Nat.log2_self_le hn.ne'
  have hn₂ : (num : ℚ) < 2 ^ (num.log2 + 1) := by exact_mod_cast Nat.lt_log2_self
  have hd₁ : (2 : ℚ) ^ den.log2 ≤ den := by exact_mod_cast Nat.log2_self_le hd.ne'
  have hd₂ : (den : ℚ) < 2 ^ (den.log2 + 1) := by exact_mod_cast Nat.lt_log2_self
  have hlow : (2 : ℚ) ^ ((num.log2 : ℤ) - den.log2 - 1) ≤ num / den := by
    rw [le_div_iff₀ hdq, sub_sub, zpow_sub₀ two_ne_zero, div_mul_eq_mul_div,
      div_le_iff₀ (by positivity)]
    exact_mod_cast mul_le_mul hn₁ hd₂.le hdq.le (by positivity)
  have hhigh : (num / den : ℚ) < 2 ^ ((num.log2 : ℤ) - den.log2 + 1) := by
    rw [div_lt_iff₀ hdq, sub_add_eq_add_sub, zpow_sub₀ two_ne_zero, div_mul_eq_mul_div,
      lt_div_iff₀ (by positivity)]
    exact_mod_cast mul_lt_mul hn₂ hd₁ (by positivity) (by positivity)
  have hfit : den * 2 ^ ((num.log2 : ℤ) - den.log2).toNat ≤
      num * 2 ^ (-((num.log2 : ℤ) - den.log2)).toNat ↔
      (2 : ℚ) ^ ((num.log2 : ℤ) - den.log2) ≤ num / den := by
    rw [two_zpow_eq, div_le_div_iff₀ (by positivity) hdq, mul_comm]
    exact_mod_cast Iff.rfl
  unfold log2Ratio
  dsimp only
  split_ifs with h
  · exact ⟨hfit.1 h, hhigh⟩
  · rw [sub_add_cancel]
    exact ⟨hlow, not_le.1 fun hle => h (hfit.2 hle)⟩

theorem log2Ratio_mono {a b c d : ℕ} (ha : 0 < a) (hb : 0 < b) (hc : 0 < c) (hd : 0 < d)
    (h : (a / b : ℚ) ≤ c / d) : log2Ratio a b ≤ log2Ratio c d := by
  have hlt : (2 : ℚ) ^ log2Ratio a b < 2 ^ (log2Ratio c d + 1) :=
    ((log2Ratio_spec ha hb).1.trans h).trans_lt (log2Ratio_spec hc hd).2
  have := (zpow_lt_zpow_iff_right₀ one_lt_two).1 hlt
  omega

namespace Format

variable {F : Format} {a b c d num den : ℕ}

theorem gridPlace_le (hd : 0 < den) {n : ℕ}
    (h : (num / den : ℚ) ≤ n * 2 ^ F.gridExponent num den) : F.gridPlace num den ≤ n := by
  rw [← roundDiv_one n]
  refine roundDiv_mono (by positivity) one_pos ?_
  rw [two_zpow_eq, mul_div_assoc', div_le_div_iff₀ (by exact_mod_cast hd) (by positivity)] at h
  have : num * 2 ^ (-F.gridExponent num den).toNat ≤
      n * 2 ^ (F.gridExponent num den).toNat * den := by exact_mod_cast h
  nlinarith

theorem le_gridPlace (hd : 0 < den) {n : ℕ}
    (h : (n * 2 ^ F.gridExponent num den : ℚ) ≤ num / den) : n ≤ F.gridPlace num den := by
  rw [← roundDiv_one n]
  refine roundDiv_mono one_pos (by positivity) ?_
  rw [two_zpow_eq, mul_div_assoc', div_le_div_iff₀ (by positivity) (by exact_mod_cast hd)] at h
  have : n * 2 ^ (F.gridExponent num den).toNat * den ≤
      num * 2 ^ (-F.gridExponent num den).toNat := by exact_mod_cast h
  nlinarith

theorem gridExponent_mono (ha : 0 < a) (hb : 0 < b) (hc : 0 < c) (hd : 0 < d)
    (h : (a / b : ℚ) ≤ c / d) : F.gridExponent a b ≤ F.gridExponent c d := by
  have := log2Ratio_mono ha hb hc hd h
  unfold gridExponent
  omega

theorem gridPlace_le_pow (hn : 0 < num) (hd : 0 < den) :
    F.gridPlace num den ≤ 2 ^ F.precision := by
  refine gridPlace_le hd ((log2Ratio_spec hn hd).2.le.trans ?_)
  push_cast
  rw [← zpow_natCast, ← zpow_add₀ two_ne_zero]
  refine zpow_le_zpow_right₀ one_le_two ?_
  unfold gridExponent
  omega

theorem pow_le_gridPlace [F.Regular] (hn : 0 < num) (hd : 0 < den)
    (he : F.minExponent < F.gridExponent num den) :
    2 ^ (F.precision - 1) ≤ F.gridPlace num den := by
  have hp := Regular.precision_pos (F := F)
  refine le_gridPlace hd (le_trans ?_ (log2Ratio_spec hn hd).1)
  push_cast
  rw [← zpow_natCast, ← zpow_add₀ two_ne_zero]
  refine zpow_le_zpow_right₀ one_le_two ?_
  unfold gridExponent at he ⊢
  omega

theorem gridValue_mono [F.Regular] (ha : 0 < a) (hb : 0 < b) (hc : 0 < c) (hd : 0 < d)
    (h : (a / b : ℚ) ≤ c / d) : F.gridValue a b ≤ F.gridValue c d := by
  have he := gridExponent_mono (F := F) ha hb hc hd h
  unfold gridValue
  rcases he.eq_or_lt with he | he
  · rw [he]
    refine mul_le_mul_of_nonneg_right ?_ (by positivity)
    have hbq : (0 : ℚ) < b := by exact_mod_cast hb
    have hdq : (0 : ℚ) < d := by exact_mod_cast hd
    have hcd : a * d ≤ c * b := by
      rw [div_le_div_iff₀ hbq hdq] at h
      exact_mod_cast h
    unfold gridPlace
    rw [he]
    have hscale := Nat.mul_le_mul_right
      (2 ^ (-F.gridExponent c d).toNat * 2 ^ (F.gridExponent c d).toNat) hcd
    exact_mod_cast roundDiv_mono (by positivity) (by positivity) (by linarith)
  · -- the finer grid ends where the significands of the coarser one begin
    have hp := Regular.precision_pos (F := F)
    have h₁ := gridPlace_le_pow (F := F) ha hb
    have h₂ := pow_le_gridPlace (F := F) hc hd (lt_of_le_of_lt (le_max_left _ _) he)
    calc (F.gridPlace a b * 2 ^ F.gridExponent a b : ℚ)
        ≤ 2 ^ F.precision * 2 ^ F.gridExponent a b := by gcongr; exact_mod_cast h₁
      _ ≤ 2 ^ (F.precision - 1) * 2 ^ F.gridExponent c d := by
        rw [← zpow_natCast, ← zpow_natCast, ← zpow_add₀ two_ne_zero, ← zpow_add₀ two_ne_zero]
        exact zpow_le_zpow_right₀ one_le_two (by omega)
      _ ≤ F.gridPlace c d * 2 ^ F.gridExponent c d := by gcongr; exact_mod_cast h₂

theorem round_eq_pack (negative : Bool) (hn : 0 < num) :
    F.round negative num den =
      if F.gridPlace num den = 2 ^ F.precision then
        F.pack negative (F.gridPlace num den / 2) (F.gridExponent num den + 1)
      else F.pack negative (F.gridPlace num den) (F.gridExponent num den) := by
  rw [round, if_neg hn.ne']
  rfl

theorem limit_le_gridValue [F.Regular] (hn : 0 < num) (hd : 0 < den)
    (he : F.maxExponent < F.gridExponent num den) : F.limit ≤ F.gridValue num den := by
  have hp := Regular.precision_pos (F := F)
  have hmin : F.minExponent < F.gridExponent num den :=
    lt_of_le_of_lt (Regular.minExponent_nonpos.trans Regular.maxExponent_nonneg) he
  have hm : (2 : ℚ) ^ (F.precision - 1) ≤ F.gridPlace num den := by
    exact_mod_cast pow_le_gridPlace hn hd hmin
  unfold gridValue limit
  calc (2 : ℚ) ^ ((F.precision : ℤ) + F.maxExponent)
      ≤ 2 ^ (((F.precision - 1 : ℕ) : ℤ) + F.gridExponent num den) :=
        zpow_le_zpow_right₀ one_le_two (by omega)
    _ = 2 ^ (F.precision - 1) * 2 ^ F.gridExponent num den := by
        rw [zpow_add₀ two_ne_zero, zpow_natCast]
    _ ≤ F.gridPlace num den * 2 ^ F.gridExponent num den := by gcongr

/-- A ratio is rounded to its value on the grid, or overflows if that is beyond the format. -/
theorem round_cases [F.Regular] (negative : Bool) (hn : 0 < num) (hd : 0 < den) :
    (F.gridValue num den < F.limit ∧ ∃ m e h, F.round negative num den = .finite negative m e h ∧
      (m * 2 ^ e : ℚ) = F.gridValue num den) ∨
    (F.limit ≤ F.gridValue num den ∧ F.round negative num den = .infinity negative) := by
  have hp := Regular.precision_pos (F := F)
  have hle := gridPlace_le_pow (F := F) hn hd
  have hlong := pow_le_gridPlace (F := F) hn hd
  have hmin : F.minExponent ≤ F.gridExponent num den := le_max_left _ _
  have hpow : 2 ^ F.precision = 2 * 2 ^ (F.precision - 1) := by
    rw [← Nat.pow_succ']; congr 1; omega
  have hpos : 0 < 2 ^ (F.precision - 1) := by positivity
  rw [round_eq_pack negative hn]
  split_ifs with htop
  · have hhalf : F.gridPlace num den / 2 = 2 ^ (F.precision - 1) := by omega
    have hv : F.gridValue num den = 2 ^ ((F.precision : ℤ) + F.gridExponent num den) := by
      rw [gridValue, htop, zpow_add₀ two_ne_zero, zpow_natCast]; push_cast; rfl
    rw [hhalf, hv]
    unfold pack limit
    split_ifs with hh
    · refine Or.inl ⟨zpow_lt_zpow_right₀ one_lt_two ?_, _, _, hh, rfl, ?_⟩
      · have := hh.2.2.1; omega
      · push_cast
        rw [← zpow_natCast, ← zpow_add₀ two_ne_zero]
        congr 1
        omega
    · refine Or.inr ⟨zpow_le_zpow_right₀ one_le_two ?_, rfl⟩
      by_contra hc
      exact hh ⟨by omega, by omega, by omega, Or.inl le_rfl⟩
  · unfold pack
    split_ifs with hh
    · refine Or.inl ⟨?_, _, _, hh, rfl, rfl⟩
      have hlt : (F.gridPlace num den : ℚ) < 2 ^ F.precision := by exact_mod_cast hh.1
      unfold gridValue limit
      rw [zpow_add₀ two_ne_zero, zpow_natCast]
      exact mul_lt_mul hlt (zpow_le_zpow_right₀ one_le_two hh.2.2.1) (by positivity) (by positivity)
    · -- too great an exponent is the only way out of the format
      refine Or.inr ⟨limit_le_gridValue hn hd ?_, rfl⟩
      by_contra hc
      refine hh ⟨by omega, hmin, by omega, ?_⟩
      rcases hmin.eq_or_lt with h | h
      · exact Or.inr h.symm
      · exact Or.inl (hlong h)

end Format

end EntityTagger
