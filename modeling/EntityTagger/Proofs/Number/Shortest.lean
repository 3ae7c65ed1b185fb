import EntityTagger.Number.Decimal
import EntityTagger.Proofs.Number.Rounding
import EntityTagger.Proofs.Text.Numeral
import Mathlib.Tactic.NormNum

/-! Decimal numbers that read back: all numbers between the midpoints around a double are rounded to
it, and the shortest decimal that is looked for is found and lies there. -/
namespace EntityTagger

/-- An integer is what a ratio is rounded to if it is within half a unit, and even if another one is
just as near. -/
theorem roundDiv_eq {num den n : ℕ} (hd : 0 < den) (hlow : 2 * n * den ≤ 2 * num + den)
    (hhigh : 2 * num ≤ (2 * n + 1) * den)
    (htie : n % 2 = 1 → 2 * n * den < 2 * num + den ∧ 2 * num < (2 * n + 1) * den) :
    roundDiv num den = n := by
  obtain ⟨hle, hge, hup, hdown⟩ := roundDiv_near num hd
  generalize roundDiv num den = r at *
  rcases lt_trichotomy r n with hlt | heq | hgt
  · have hstep : 2 * (r + 1) * den ≤ 2 * n * den := Nat.mul_le_mul_right _ (by omega)
    have hexpand : 2 * (r + 1) * den = (2 * r + 1) * den + den := by ring
    have hodd : r % 2 = 0 := hdown (by omega)
    have hnext : n = r + 1 := by
      by_contra hne
      have hfar : 2 * (r + 2) * den ≤ 2 * n * den := Nat.mul_le_mul_right _ (by omega)
      have hexpand' : 2 * (r + 2) * den = (2 * r + 1) * den + 3 * den := by ring
      omega
    have := (htie (by omega)).1
    omega
  · exact heq
  · have hstep : 2 * (n + 1) * den ≤ 2 * r * den := Nat.mul_le_mul_right _ (by omega)
    have hexpand : 2 * (n + 1) * den = (2 * n + 1) * den + den := by ring
    have hodd : r % 2 = 0 := hup (by omega)
    have hnext : r = n + 1 := by
      by_contra hne
      have hfar : 2 * (n + 2) * den ≤ 2 * r * den := Nat.mul_le_mul_right _ (by omega)
      have hexpand' : 2 * (n + 2) * den = (2 * n + 1) * den + 3 * den := by ring
      omega
    have := (htie (by omega)).2
    omega

theorem ten_zpow_eq (k : ℤ) : (10 : ℚ) ^ k = 10 ^ k.toNat / 10 ^ (-k).toNat := by
  rcases le_total 0 k with h | h
  · obtain ⟨n, rfl⟩ := Int.eq_ofNat_of_zero_le h
    simp
  · obtain ⟨n, hn⟩ := Int.eq_ofNat_of_zero_le (neg_nonneg.mpr h)
    obtain rfl : k = -n := by omega
    simp

namespace Format

variable {F : Format} {num den m n : ℕ} {e : ℤ} {x : ℚ}

theorem gridPlace_eq (hd : 0 < den)
    (hlow : ((2 * n - 1) * 2 ^ F.gridExponent num den : ℚ) ≤ 2 * (num / den))
    (hhigh : (2 * (num / den) : ℚ) ≤ (2 * n + 1) * 2 ^ F.gridExponent num den)
    (htie : n % 2 = 1 → ((2 * n - 1) * 2 ^ F.gridExponent num den : ℚ) < 2 * (num / den) ∧
      (2 * (num / den) : ℚ) < (2 * n + 1) * 2 ^ F.gridExponent num den) :
    F.gridPlace num den = n := by
  have hdq : (0 : ℚ) < den := by exact_mod_cast hd
  unfold gridPlace
  generalize F.gridExponent num den = E at *
  -- the unit and the ratio are both multiples of one positive number
  obtain ⟨s, hs, hunit, hratio⟩ : ∃ s : ℚ, 0 < s ∧ (2 : ℚ) ^ E = (den * 2 ^ E.toNat : ℕ) * s ∧
      (num / den : ℚ) = (num * 2 ^ (-E).toNat : ℕ) * s := by
    refine ⟨1 / (den * 2 ^ (-E).toNat), by positivity, ?_, ?_⟩
    · rw [two_zpow_eq]
      push_cast
      field_simp
    · push_cast
      field_simp
  rw [hunit, hratio] at hlow hhigh htie
  have hdD : 0 < den * 2 ^ E.toNat := by positivity
  generalize den * 2 ^ E.toNat = D at *
  generalize num * 2 ^ (-E).toNat = N at *
  refine roundDiv_eq hdD ?_ ?_ fun hodd => ⟨?_, ?_⟩
  · have h : ((2 * n - 1) * D : ℚ) ≤ 2 * N := le_of_mul_le_mul_right (by linarith) hs
    have h' : (2 * n * D : ℚ) ≤ 2 * N + D := by linarith
    exact_mod_cast h'
  · have h : (2 * N : ℚ) ≤ (2 * n + 1) * D := le_of_mul_le_mul_right (by linarith) hs
    exact_mod_cast h
  · have h : ((2 * n - 1) * D : ℚ) < 2 * N :=
      lt_of_mul_lt_mul_right (by linarith [(htie hodd).1]) hs.le
    have h' : (2 * n * D : ℚ) < 2 * N + D := by linarith
    exact_mod_cast h'
  · have h : (2 * N : ℚ) < (2 * n + 1) * D :=
      lt_of_mul_lt_mul_right (by linarith [(htie hodd).2]) hs.le
    exact_mod_cast h

end Format

namespace Decimal

variable {F : Format} {m n : ℕ} {e k : ℤ} {x : ℚ}

/-- The numbers that are rounded to `m · 2 ^ e`: those between the midpoints to its neighbours, and
the midpoints themselves if `m` is even. -/
structure RoundsTo (F : Format) (m : ℕ) (e : ℤ) (x : ℚ) : Prop where
  low : ((interval F m e).low * 2 ^ e : ℚ) ≤ 4 * x
  high : (4 * x : ℚ) ≤ (interval F m e).high * 2 ^ e
  odd : m % 2 = 1 → ((interval F m e).low * 2 ^ e : ℚ) < 4 * x ∧
    (4 * x : ℚ) < (interval F m e).high * 2 ^ e

theorem holds_iff : (interval F m e).holds (2 ^ e.toNat) (4 * 2 ^ (-e).toNat) n k = true ↔
    RoundsTo F m e (n * 10 ^ k) := by
  have hclosed : (interval F m e).closed = decide (m % 2 = 0) := rfl
  -- what is compared are both sides, multiplied by one positive number
  obtain ⟨s, hs, hunit, hpoint⟩ : ∃ s : ℚ, 0 < s ∧
      (∀ a : ℕ, (a * 2 ^ e : ℚ) = (a * 2 ^ e.toNat * 10 ^ (-k).toNat : ℕ) * s) ∧
      (4 * (n * 10 ^ k) : ℚ) = (n * 10 ^ k.toNat * (4 * 2 ^ (-e).toNat) : ℕ) * s := by
    refine ⟨1 / (2 ^ (-e).toNat * 10 ^ (-k).toNat), by positivity, fun a => ?_, ?_⟩
    · rw [two_zpow_eq]
      push_cast
      field_simp
    · rw [ten_zpow_eq]
      push_cast
      field_simp
  have hle : ∀ a b : ℕ, (a * s : ℚ) ≤ b * s ↔ a ≤ b := by
    intro a b
    rw [mul_le_mul_iff_of_pos_right hs]
    exact_mod_cast Iff.rfl
  have hlt : ∀ a b : ℕ, (a * s : ℚ) < b * s ↔ a < b := by
    intro a b
    rw [mul_lt_mul_iff_of_pos_right hs]
    exact_mod_cast Iff.rfl
  unfold Interval.holds
  rw [hclosed]
  constructor
  · intro h
    rcases Nat.mod_two_eq_zero_or_one m with heven | hodd
    · simp only [heven, decide_true, if_true, Bool.and_eq_true, decide_eq_true_eq] at h
      refine ⟨?_, ?_, fun hodd => absurd hodd (by omega)⟩
      · rw [hunit, hpoint, hle]
        exact h.1
      · rw [hunit, hpoint, hle]
        exact h.2
    · simp only [hodd, one_ne_zero, decide_false, Bool.false_eq_true, if_false, Bool.and_eq_true,
        decide_eq_true_eq] at h
      refine ⟨?_, ?_, fun _ => ⟨?_, ?_⟩⟩
      · rw [hunit, hpoint, hle]
        exact h.1.le
      · rw [hunit, hpoint, hle]
        exact h.2.le
      · rw [hunit, hpoint, hlt]
        exact h.1
      · rw [hunit, hpoint, hlt]
        exact h.2
  · rintro ⟨hlow, hhigh, hodd⟩
    rw [hunit, hpoint, hle] at hlow
    rw [hunit, hpoint, hle] at hhigh
    rw [hunit, hunit, hpoint, hlt, hlt] at hodd
    split_ifs with heven
    · simpa using ⟨hlow, hhigh⟩
    · have hstrict := hodd (by simpa using heven)
      simpa using hstrict

theorem low_cases (hm : 0 < m) :
    ((interval F m e).low : ℚ) = 4 * m - 2 ∨
      m = 2 ^ (F.precision - 1) ∧ F.minExponent < e ∧ ((interval F m e).low : ℚ) = 4 * m - 1 := by
  unfold interval
  dsimp only
  split_ifs with hgap
  · right
    refine ⟨hgap.1, hgap.2, ?_⟩
    rw [Nat.cast_sub (by omega)]
    push_cast
    ring
  · left
    rw [Nat.cast_sub (by omega)]
    push_cast
    ring

theorem high_eq : ((interval F m e).high : ℚ) = 4 * m + 2 := by
  unfold interval
  push_cast
  ring

theorem RoundsTo.le (h : RoundsTo F m e x) : 4 * x ≤ (4 * m + 2) * 2 ^ e := by
  have hhigh := h.high
  rwa [high_eq] at hhigh

theorem RoundsTo.ge (h : RoundsTo F m e x) (hm : 0 < m) : (4 * m - 2) * 2 ^ e ≤ 4 * x := by
  have hlow := h.low
  have hunit : (0 : ℚ) < 2 ^ e := by positivity
  rcases low_cases (F := F) (e := e) hm with heq | ⟨-, -, heq⟩
  · rwa [heq] at hlow
  · rw [heq] at hlow
    nlinarith

theorem RoundsTo.strict (h : RoundsTo F m e x) (hodd : m % 2 = 1) :
    (4 * m - 2) * 2 ^ e < 4 * x ∧ 4 * x < (4 * m + 2) * 2 ^ e := by
  obtain ⟨hlow, hhigh⟩ := h.odd hodd
  have hunit : (0 : ℚ) < 2 ^ e := by positivity
  rw [high_eq] at hhigh
  rcases low_cases (F := F) (e := e) (m := m) (by omega) with heq | ⟨-, -, heq⟩
  · rw [heq] at hlow
    exact ⟨hlow, hhigh⟩
  · rw [heq] at hlow
    exact ⟨by nlinarith, hhigh⟩

theorem RoundsTo.pos (h : RoundsTo F m e x) (hm : 0 < m) : 0 < x := by
  have hge := h.ge hm
  have hunit : (0 : ℚ) < 2 ^ e := by positivity
  have hmq : (1 : ℚ) ≤ m := by exact_mod_cast hm
  nlinarith

end Decimal

open Decimal

namespace Format

variable {F : Format} {num den m : ℕ} {e : ℤ}

theorem round_of_gridExponent (negative : Bool) (h : F.Holds m e) (hm : 0 < m) (hn : 0 < num)
    (hd : 0 < den) (hx : RoundsTo F m e (num / den)) (hexponent : F.gridExponent num den = e) :
    F.round negative num den = .finite negative m e h := by
  have hplace : F.gridPlace num den = m := by
    refine gridPlace_eq hd ?_ ?_ fun hodd => ?_
    · rw [hexponent]
      linarith [hx.ge hm]
    · rw [hexponent]
      linarith [hx.le]
    · rw [hexponent]
      obtain ⟨hlow, hhigh⟩ := hx.strict hodd
      constructor <;> linarith
  rw [round_eq_pack negative hn, hplace, hexponent, if_neg h.1.ne, pack, dif_pos h]

/-- Only the least significand reaches below its power of two, by a quarter of the unit. -/
theorem least_of_lt (h : F.Holds m e) (hm : 0 < m) {x : ℚ} (hx : RoundsTo F m e x)
    (hne : e ≠ F.minExponent) (hbelow : x < 2 ^ (e + (F.precision - 1 : ℕ))) :
    m = 2 ^ (F.precision - 1) ∧ (4 * m - 1) * 2 ^ e ≤ 4 * x := by
  obtain ⟨-, hmin, -, hlong⟩ := id h
  have hlong := hlong.resolve_right hne
  have hge := hx.ge hm
  have hunit : (0 : ℚ) < 2 ^ e := by positivity
  rw [zpow_add₀ two_ne_zero, zpow_natCast] at hbelow
  have hleast : m = 2 ^ (F.precision - 1) := by
    by_contra hmore
    have hmore' : (2 : ℚ) ^ (F.precision - 1) + 1 ≤ m := by
      exact_mod_cast Nat.lt_of_le_of_ne hlong (Ne.symm hmore)
    nlinarith
  refine ⟨hleast, ?_⟩
  have hlow : ((interval F m e).low : ℚ) = 4 * m - 1 := by
    rw [interval, if_pos ⟨hleast, by omega⟩, Nat.cast_sub (by omega)]
    push_cast
    ring
  rw [← hlow]
  exact hx.low

theorem round_of_lt [F.Regular] (negative : Bool) (h : F.Holds m e) (hm : 0 < m) (hn : 0 < num)
    (hd : 0 < den) (hx : RoundsTo F m e (num / den)) (hne : e ≠ F.minExponent)
    (hbelow : (num / den : ℚ) < 2 ^ (e + (F.precision - 1 : ℕ))) :
    F.round negative num den = .finite negative m e h := by
  obtain ⟨-, hmin, -, -⟩ := id h
  have hp := Regular.two_le_precision (F := F)
  obtain ⟨hleast, hquarter⟩ := least_of_lt h hm hx hne hbelow
  have hdouble : 2 ^ F.precision = 2 * 2 ^ (F.precision - 1) := by
    rw [← Nat.pow_succ']
    congr 1
    omega
  have hone : (1 : ℚ) ≤ m := by exact_mod_cast hm
  have hunit : (0 : ℚ) < 2 ^ e := by positivity
  have hhalf : (2 : ℚ) ^ e = 2 * 2 ^ (e - 1) := by
    rw [← zpow_one_add₀ two_ne_zero]
    congr 1
    ring
  have hexponent : F.gridExponent num den = e - 1 := by
    obtain ⟨hlog, hlog'⟩ := log2Ratio_spec hn hd
    have hlower : (2 : ℚ) ^ (e - 1 + (F.precision - 1 : ℕ)) ≤ num / den := by
      have hmq : (m : ℚ) = 2 ^ (F.precision - 1) := by exact_mod_cast hleast
      rw [zpow_add₀ two_ne_zero, zpow_natCast, ← hmq]
      nlinarith
    have h₁ : e - 1 + (F.precision - 1 : ℕ) < log2Ratio num den + 1 :=
      (zpow_lt_zpow_iff_right₀ one_lt_two).1 (hlower.trans_lt hlog')
    have h₂ : log2Ratio num den < e + (F.precision - 1 : ℕ) :=
      (zpow_lt_zpow_iff_right₀ one_lt_two).1 (hlog.trans_lt hbelow)
    unfold gridExponent
    omega
  have hle : 4 * (num / den : ℚ) ≤ 4 * m * 2 ^ e := by
    rw [zpow_add₀ two_ne_zero, zpow_natCast] at hbelow
    have hmq : (m : ℚ) = 2 ^ (F.precision - 1) := by exact_mod_cast hleast
    rw [hmq]
    nlinarith
  have hplace : F.gridPlace num den = 2 ^ F.precision := by
    refine gridPlace_eq hd ?_ ?_ fun hodd => absurd hodd (by omega)
    · rw [hexponent, hdouble, ← hleast]
      push_cast
      nlinarith
    · rw [hexponent, hdouble, ← hleast]
      push_cast
      nlinarith
  have hback : 2 ^ F.precision / 2 = m := by omega
  rw [round_eq_pack negative hn, hplace, hexponent, if_pos rfl, hback, Int.sub_add_cancel, pack,
    dif_pos h]

/-- Rounding keeps to the grid of the number, or to the finer one just below a power of two. -/
theorem round_of_roundsTo [F.Regular] (negative : Bool) (h : F.Holds m e) (hm : 0 < m)
    (hn : 0 < num) (hd : 0 < den) (hx : RoundsTo F m e (num / den)) :
    F.round negative num den = .finite negative m e h := by
  obtain ⟨hlt, hmin, -, -⟩ := id h
  obtain ⟨hlog, hlog'⟩ := log2Ratio_spec hn hd
  have hbelow : (num / den : ℚ) < 2 ^ (e + F.precision) := by
    have hle := hx.le
    have hunit : (0 : ℚ) < 2 ^ e := by positivity
    have hmq : (m : ℚ) + 1 ≤ 2 ^ F.precision := by exact_mod_cast hlt
    rw [zpow_add₀ two_ne_zero, zpow_natCast]
    nlinarith
  have hup : log2Ratio num den < e + F.precision :=
    (zpow_lt_zpow_iff_right₀ one_lt_two).1 (hlog.trans_lt hbelow)
  by_cases hgrid : e = F.minExponent ∨ (2 : ℚ) ^ (e + (F.precision - 1 : ℕ)) ≤ num / den
  · refine round_of_gridExponent negative h hm hn hd hx ?_
    have hp := Regular.two_le_precision (F := F)
    unfold gridExponent
    rcases hgrid with heq | hpow
    · omega
    · have : e + (F.precision - 1 : ℕ) < log2Ratio num den + 1 :=
        (zpow_lt_zpow_iff_right₀ one_lt_two).1 (hpow.trans_lt hlog')
      omega
  · rw [not_or, not_le] at hgrid
    exact round_of_lt negative h hm hn hd hx hgrid.1 hgrid.2

end Format

section Doubles

variable {m n : ℕ} {e k : ℤ} {x : ℚ}

theorem size_bounds (hn : 0 < n) (k : ℤ) :
    (10 : ℚ) ^ ((Text.ofNat n).length + k - 1) ≤ n * 10 ^ k ∧
      (n * 10 ^ k : ℚ) < 10 ^ ((Text.ofNat n).length + k) := by
  have hlength : 0 < (Text.ofNat n).length := List.length_pos_iff.2 (Text.ofNat_ne_nil n)
  have hlow : (10 : ℚ) ^ ((Text.ofNat n).length - 1) ≤ n := by
    exact_mod_cast Text.pow_le_of_ofNat hn
  have hhigh : (n : ℚ) < 10 ^ (Text.ofNat n).length := by
    exact_mod_cast Text.lt_pow_length_ofNat n
  have hpos : (0 : ℚ) < 10 ^ k := by positivity
  constructor
  · have hsplit : ((Text.ofNat n).length + k - 1 : ℤ) = ((Text.ofNat n).length - 1 : ℕ) + k := by
      omega
    rw [hsplit, zpow_add₀ (by norm_num), zpow_natCast]
    exact mul_le_mul_of_nonneg_right hlow hpos.le
  · rw [zpow_add₀ (by norm_num), zpow_natCast]
    exact mul_lt_mul_of_pos_right hhigh hpos

theorem two_zpow_lt_ten_zpow : (2 : ℚ) ^ (1200 : ℤ) < 10 ^ (400 : ℤ) := by
  have hsplit : (2 : ℚ) ^ (1200 : ℤ) = (2 ^ (3 : ℤ)) ^ (400 : ℤ) := zpow_mul 2 3 400
  rw [hsplit]
  exact zpow_lt_zpow_left₀ (by decide) (by positivity) (by norm_num)

theorem Decimal.RoundsTo.lt_pow (hx : RoundsTo .double m e x) (h : Format.double.Holds m e) :
    x < 10 ^ (400 : ℤ) := by
  have hle := hx.le
  have hm : (m : ℚ) + 1 ≤ 2 ^ 53 := by exact_mod_cast h.1
  have he : (2 : ℚ) ^ e ≤ 2 ^ (971 : ℤ) := zpow_le_zpow_right₀ one_le_two h.2.2.1
  have hunit : (0 : ℚ) < 2 ^ e := by positivity
  calc x < (m + 1) * 2 ^ e := by linarith
    _ ≤ 2 ^ (53 : ℤ) * 2 ^ (971 : ℤ) := mul_le_mul hm he hunit.le (by positivity)
    _ = 2 ^ (53 + 971 : ℤ) := (zpow_add₀ two_ne_zero 53 971).symm
    _ ≤ 2 ^ (1200 : ℤ) := zpow_le_zpow_right₀ one_le_two (by decide)
    _ < 10 ^ (400 : ℤ) := two_zpow_lt_ten_zpow

theorem Decimal.RoundsTo.pow_lt (hx : RoundsTo .double m e x) (h : Format.double.Holds m e)
    (hm : 0 < m) : (10 : ℚ) ^ (-400 : ℤ) < x := by
  have hge := hx.ge hm
  have hm : (1 : ℚ) ≤ m := by exact_mod_cast hm
  have he : (2 : ℚ) ^ (-1074 : ℤ) ≤ 2 ^ e := zpow_le_zpow_right₀ one_le_two h.2.1
  have hunit : (0 : ℚ) < 2 ^ e := by positivity
  calc (10 : ℚ) ^ (-400 : ℤ) = (10 ^ (400 : ℤ))⁻¹ := zpow_neg _ _
    _ < (2 ^ (1200 : ℤ))⁻¹ := inv_strictAnti₀ (by positivity) two_zpow_lt_ten_zpow
    _ = 2 ^ (-1200 : ℤ) := (zpow_neg _ _).symm
    _ ≤ 2 ^ (-1 + -1074 : ℤ) := zpow_le_zpow_right₀ one_le_two (by decide)
    _ = 2 ^ (-1 : ℤ) * 2 ^ (-1074 : ℤ) := zpow_add₀ two_ne_zero _ _
    _ ≤ 2 ^ (-1 : ℤ) * 2 ^ e := mul_le_mul_of_nonneg_left he (by positivity)
    _ ≤ x := by norm_num; nlinarith

theorem Double.ofDecimal_of_roundsTo (negative : Bool) (h : Format.double.Holds m e) (hm : 0 < m)
    (hx : RoundsTo .double m e (n * 10 ^ k)) :
    Double.ofDecimal negative n k = .finite negative m e h := by
  have hn : 0 < n := by
    by_contra hzero
    have hpos := hx.pos hm
    rw [Nat.eq_zero_of_not_pos hzero] at hpos
    simp at hpos
  obtain ⟨hlow, hhigh⟩ := size_bounds hn k
  have hlength : (Nat.toDigits 10 n).length = (Text.ofNat n).length := by simp [Text.ofNat]
  have hless : ((Text.ofNat n).length + k - 1 : ℤ) < 400 :=
    (zpow_lt_zpow_iff_right₀ (by norm_num)).1 (hlow.trans_lt (hx.lt_pow h))
  have hmore : (-400 : ℤ) < (Text.ofNat n).length + k :=
    (zpow_lt_zpow_iff_right₀ (by norm_num)).1 ((hx.pow_lt h hm).trans hhigh)
  unfold ofDecimal
  rw [hlength, if_neg (by omega), if_neg (by omega)]
  refine Format.round_of_roundsTo negative h hm (by positivity) (by positivity) ?_
  have hratio : ((n * 10 ^ k.toNat : ℕ) / (10 ^ (-k).toNat : ℕ) : ℚ) = n * 10 ^ k := by
    rw [ten_zpow_eq]
    push_cast
    ring
  rwa [hratio]

theorem Double.ofDecimal_zero (negative : Bool) (k : ℤ) :
    Double.ofDecimal negative 0 k = Format.double.zero negative := by
  unfold ofDecimal
  rw [if_pos (Or.inl rfl)]

theorem Decimal.roundsTo_of_onGrid? {F : Format} {d : Digits} (h : onGrid? F m e k = some d) :
    RoundsTo F m e (d.digits * 10 ^ d.exponent) := by
  unfold onGrid? at h
  dsimp only at h
  split_ifs at h with hnearest hbelow habove
  · obtain rfl := Option.some.inj h
    exact holds_iff.1 hnearest
  · obtain rfl := Option.some.inj h
    exact holds_iff.1 hbelow
  · obtain rfl := Option.some.inj h
    exact holds_iff.1 habove

theorem Decimal.roundsTo_of_near {F : Format} (hm : 0 < m) (hlow : (4 * m - 1) * 2 ^ e < 4 * x)
    (hhigh : 4 * x < (4 * m + 1) * 2 ^ e) : RoundsTo F m e x := by
  have hunit : (0 : ℚ) < 2 ^ e := by positivity
  have hlow' : ((interval F m e).low * 2 ^ e : ℚ) < 4 * x := by
    rcases low_cases (F := F) (e := e) hm with heq | ⟨-, -, heq⟩
    · rw [heq]
      nlinarith
    · rwa [heq]
  have hhigh' : (4 * x : ℚ) < (interval F m e).high * 2 ^ e := by
    rw [high_eq]
    nlinarith
  exact ⟨hlow'.le, hhigh'.le, fun _ => ⟨hlow', hhigh'⟩⟩

/-- On a grid that is fine enough the nearest place reads back. -/
theorem Decimal.exists_onGrid? {F : Format} (hm : 0 < m) (hk : (2 * 10 ^ k : ℚ) < 2 ^ e) :
    ∃ d, onGrid? F m e k = some d := by
  have hden : 0 < 2 ^ (-e).toNat * 10 ^ k.toNat := by positivity
  obtain ⟨hle, hge, -⟩ := roundDiv_near (m * 2 ^ e.toNat * 10 ^ (-k).toNat) hden
  unfold onGrid?
  dsimp only
  generalize roundDiv (m * 2 ^ e.toNat * 10 ^ (-k).toNat) (2 ^ (-e).toNat * 10 ^ k.toNat) =
    nearest at *
  have hle' : (2 * nearest * (2 ^ (-e).toNat * 10 ^ k.toNat) : ℚ) ≤
      2 * (m * 2 ^ e.toNat * 10 ^ (-k).toNat) + 2 ^ (-e).toNat * 10 ^ k.toNat := by
    exact_mod_cast hle
  have hge' : (2 * (m * 2 ^ e.toNat * 10 ^ (-k).toNat) : ℚ) ≤
      (2 * nearest + 1) * (2 ^ (-e).toNat * 10 ^ k.toNat) := by
    exact_mod_cast hge
  -- the unit and the step of the grid are both multiples of one positive number
  obtain ⟨s, hs, hunit, hstep⟩ : ∃ s : ℚ, 0 < s ∧
      (2 : ℚ) ^ e = 2 ^ e.toNat * 10 ^ (-k).toNat * s ∧
      (10 : ℚ) ^ k = 2 ^ (-e).toNat * 10 ^ k.toNat * s := by
    refine ⟨1 / (2 ^ (-e).toNat * 10 ^ (-k).toNat), by positivity, ?_, ?_⟩
    · rw [two_zpow_eq]
      field_simp
    · rw [ten_zpow_eq]
      field_simp
  have hbelow : 2 * nearest * (10 : ℚ) ^ k ≤ 2 * (m * 2 ^ e) + 10 ^ k := by
    rw [hunit, hstep]
    nlinarith
  have habove : 2 * (m * (2 : ℚ) ^ e) ≤ (2 * nearest + 1) * 10 ^ k := by
    rw [hunit, hstep]
    nlinarith
  have hreads : (interval F m e).holds (2 ^ e.toNat) (4 * 2 ^ (-e).toNat) nearest k = true :=
    holds_iff.2 (roundsTo_of_near hm (by linarith) (by linarith))
  rw [if_pos hreads]
  exact ⟨_, rfl⟩

theorem pow_guess : ∀ n < 1100, 10 ^ (n * 30103 / 100000) ≤ 10 * 2 ^ n ∧
    2 ^ n ≤ 10 ^ ((n * 30103 + 99999) / 100000 + 1) := by
  decide +kernel

theorem zpow_guess {l : ℤ} (hlow : -1100 < l) (hhigh : l < 1100) :
    (10 : ℚ) ^ (l * 30103 / 100000 - 1) ≤ 2 ^ l := by
  rcases le_total 0 l with h | h
  · obtain ⟨n, rfl⟩ := Int.eq_ofNat_of_zero_le h
    have hpow : ((10 ^ (n * 30103 / 100000) : ℕ) : ℚ) ≤ (10 * 2 ^ n : ℕ) := by
      exact_mod_cast (pow_guess n (by omega)).1
    have hguess : (n * 30103 / 100000 : ℤ) = (n * 30103 / 100000 : ℕ) := by omega
    push_cast at hpow
    rw [hguess, zpow_sub₀ (by norm_num), zpow_natCast, zpow_natCast, zpow_one,
      div_le_iff₀ (by norm_num)]
    linarith
  · obtain ⟨n, hn⟩ := Int.eq_ofNat_of_zero_le (neg_nonneg.mpr h)
    obtain rfl : l = -n := by omega
    have hpow : ((2 ^ n : ℕ) : ℚ) ≤ (10 ^ ((n * 30103 + 99999) / 100000 + 1) : ℕ) := by
      exact_mod_cast (pow_guess n (by omega)).2
    have hguess : (-n * 30103 / 100000 - 1 : ℤ) = -((n * 30103 + 99999) / 100000 + 1 : ℕ) := by
      omega
    push_cast at hpow
    rw [hguess, zpow_neg, zpow_neg, zpow_natCast, zpow_natCast]
    exact inv_anti₀ (by positivity) hpow

/-- The first digit of a number stands at least as high as its magnitude tells. -/
theorem Decimal.pow_magnitude_le {num den : ℕ} (hn : 0 < num) (hd : 0 < den)
    (hlow : -1100 < log2Ratio num den) (hhigh : log2Ratio num den < 1100) :
    (10 : ℚ) ^ (magnitude num den - 1) ≤ num / den := by
  have hdq : (0 : ℚ) < den := by exact_mod_cast hd
  have hfits : ∀ d : ℤ, ¬ num * 10 ^ (-d).toNat < den * 10 ^ d.toNat →
      (10 : ℚ) ^ d ≤ num / den := by
    intro d h
    have h' : (den * 10 ^ d.toNat : ℚ) ≤ num * 10 ^ (-d).toNat := by exact_mod_cast not_lt.1 h
    rw [ten_zpow_eq, div_le_div_iff₀ (by positivity) hdq]
    linarith
  unfold magnitude
  simp only [decide_eq_true_eq]
  split_ifs with h₁ h₂
  · exact (zpow_guess hlow hhigh).trans (log2Ratio_spec hn hd).1
  · rw [Int.add_sub_cancel]
    exact hfits _ h₁
  · have hback : log2Ratio num den * 30103 / 100000 + 2 - 1 =
        log2Ratio num den * 30103 / 100000 + 1 := by ring
    rw [hback]
    exact hfits _ h₂

theorem Decimal.shortestFrom_cases {F : Format} {top : ℤ} {fuel : ℕ}
    (h : ∃ j < fuel, ∃ d, onGrid? F m e (top - 1 - j) = some d) :
    RoundsTo F m e ((shortestFrom F m e top fuel).digits *
      10 ^ (shortestFrom F m e top fuel).exponent) := by
  induction fuel generalizing top with
  | zero =>
    obtain ⟨j, hj, -⟩ := h
    omega
  | succ fuel ih =>
    rw [shortestFrom]
    cases hgrid : onGrid? F m e (top - 1) with
    | some d => exact roundsTo_of_onGrid? hgrid
    | none =>
      obtain ⟨j, hj, d, hd⟩ := h
      cases j with
      | zero => simp [hgrid] at hd
      | succ j =>
        refine ih ⟨j, by omega, d, ?_⟩
        rw [← hd]
        congr 1
        push_cast
        ring

/-- The shortest decimal that is written for a double is read as that double. -/
theorem Decimal.roundsTo_shortest (h : Format.double.Holds m e) (hm : 0 < m) :
    RoundsTo .double m e
      ((shortest .double m e).digits * 10 ^ (shortest .double m e).exponent) := by
  have hnum : 0 < m * 2 ^ e.toNat := by positivity
  have hden : 0 < 2 ^ (-e).toNat := by positivity
  have hvalue : ((m * 2 ^ e.toNat : ℕ) / (2 ^ (-e).toNat : ℕ) : ℚ) = m * 2 ^ e := by
    rw [two_zpow_eq]
    push_cast
    ring
  have hm53 : (m : ℚ) < 2 ^ (53 : ℤ) := by exact_mod_cast h.1
  have hone : (1 : ℚ) ≤ m := by exact_mod_cast hm
  have hunit : (0 : ℚ) < 2 ^ e := by positivity
  obtain ⟨hlog, hlog'⟩ := log2Ratio_spec hnum hden
  rw [hvalue] at hlog hlog'
  have hupper : log2Ratio (m * 2 ^ e.toNat) (2 ^ (-e).toNat) < 53 + e := by
    rw [← zpow_lt_zpow_iff_right₀ (one_lt_two (α := ℚ)), zpow_add₀ two_ne_zero]
    exact hlog.trans_lt (mul_lt_mul_of_pos_right hm53 hunit)
  have hlower : e < log2Ratio (m * 2 ^ e.toNat) (2 ^ (-e).toNat) + 1 := by
    rw [← zpow_lt_zpow_iff_right₀ (one_lt_two (α := ℚ))]
    exact lt_of_le_of_lt (by nlinarith) hlog'
  obtain ⟨-, hmin, hmax, -⟩ := h
  have hmagnitude := pow_magnitude_le hnum hden (by simp [Format.double] at hmin; omega)
    (by simp [Format.double] at hmax; omega)
  rw [hvalue] at hmagnitude
  rw [shortest, if_neg hm.ne']
  refine shortestFrom_cases ⟨17, by decide, exists_onGrid? hm ?_⟩
  generalize magnitude (m * 2 ^ e.toNat) (2 ^ (-e).toNat) = top at *
  -- 2 ^ 53 is less than a tenth of 10 ^ 17
  calc (2 * 10 ^ (top - 1 - (17 : ℕ)) : ℚ) = 2 * (10 ^ (top - 1) / 10 ^ 17) := by
        rw [zpow_sub₀ (by norm_num), zpow_natCast]
    _ ≤ 2 * (m * 2 ^ e / 10 ^ 17) := by gcongr
    _ < 2 ^ e := by
        have hsmall : (2 : ℚ) ^ (53 : ℤ) < 10 ^ 16 := by norm_num
        have hscale : m * (2 : ℚ) ^ e < 10 ^ 16 * 2 ^ e :=
          mul_lt_mul_of_pos_right (hm53.trans hsmall) hunit
        rw [mul_div_assoc', div_lt_iff₀ (by positivity)]
        linarith

end Doubles

end EntityTagger
