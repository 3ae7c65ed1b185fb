import EntityTagger.Proofs.Number.Nonnegative
import EntityTagger.Proofs.Softmax.Order

/-! Integer logits. Their shifts are 64-bit differences, which wrap around where a logit is more
than `2 ^ 63` below the greatest one. Up to there the scores are those of exact differences, which
keep all laws; beyond, the shift is positive, and the logit has no smaller score than the greatest
one. -/
namespace EntityTagger

open Extended

/-! ### Differences of 64 bits -/

/-- A difference that is not positive is exact, or too great by `2 ^ 64` if it would be less than
the least integer. -/
theorem toInt_sub_of_le {x y : Int64} (h : x.toInt ≤ y.toInt) :
    (x - y).toInt =
      if y.toInt - x.toInt ≤ 2 ^ 63 then x.toInt - y.toInt else x.toInt - y.toInt + 2 ^ 64 := by
  have hx := Int64.le_toInt x
  have hy := Int64.toInt_lt y
  rw [Int64.toInt_sub, Int.bmod_def]
  split_ifs <;> omega

namespace Kernel

/-! ### Shifts without bounds -/

/-- Integer logits with exact shifts. -/
def unbounded : Kernel where
  Logit := Int64
  Shift := ℤ
  Score := Binary .single
  logits := integer.logits
  scores := integer.scores
  sub x y := x.toInt - y.toInt
  exp n := (Binary.ofInt .single n).exp
  zero := integer.zero
  add := integer.add
  div := integer.div

/-- What integer logits and their scores stand for. -/
def integerReading : integer.Reading := ElementType.integer.reading

def unboundedReading : unbounded.Reading where
  logit := integerReading.logit
  shift := fun n : ℤ => some (number n)
  score := integerReading.score

theorem score_exp (n : ℤ) :
    unboundedReading.score (unbounded.exp n) = (Binary.ofInt .single n).exp.level? := rfl

theorem reads_logits : integer.logits.Reads integerReading.logit where
  isNaN_iff x := by simp [integer, integerReading, ElementType.reading]
  lt_iff := by
    intro (x : Int64) (y : Int64) a b hx hy
    obtain rfl : number x.toInt = a := Option.some.inj hx
    obtain rfl : number y.toInt = b := Option.some.inj hy
    have hlt : x < y ↔ number x.toInt < number y.toInt := by
      rw [Int64.lt_iff_toInt_lt, ← not_le, ← not_le, number_le_number, Int.cast_le]
    simpa [integer] using hlt

theorem lawful_single : (floatingReading .single .single).Lawful :=
  lawful_floating ⟨by decide, by decide, by decide⟩

theorem lawful_unbounded : unboundedReading.Lawful where
  logits := reads_logits
  scores := lawful_single.scores
  sub_self := by
    intro (x : Int64) q hx
    show some (number ((x.toInt - x.toInt : ℤ) : ℚ)) = _
    rw [sub_self, Int.cast_zero]
  sub_self_none := by
    intro (x : Int64) hx
    exact absurd rfl (hx x.toInt)
  sub_nonpos := by
    intro (x : Int64) (y : Int64) a q hx hy hle
    obtain rfl : number x.toInt = a := Option.some.inj hx
    obtain rfl := number_inj.1 (Option.some.inj hy)
    refine ⟨number ((x.toInt - y.toInt : ℤ) : ℚ), rfl, ?_⟩
    have hxy : x.toInt ≤ y.toInt := by exact_mod_cast number_le_number.1 hle
    have hnonpos : x.toInt - y.toInt ≤ 0 := by omega
    exact number_le_number.2 (by exact_mod_cast hnonpos)
  exp_none := by
    intro (n : ℤ) hn
    exact absurd hn (Option.some_ne_none _)
  exp_zero := by
    intro (n : ℤ) hn
    obtain rfl : n = 0 := by exact_mod_cast number_inj.1 (Option.some.inj hn)
    rw [score_exp, Binary.ofInt_zero]
    exact Binary.level?_eq_number_iff.2
      (Binary.value_exp_of_value_zero (Binary.isFinite_zero _) (Binary.value_zero _))
  exp_share := by
    intro (n : ℤ) a hn hle
    obtain rfl : number n = a := Option.some.inj hn
    have hnonpos : n ≤ 0 := by exact_mod_cast number_le_number.1 hle
    exact isShare_level?.2
      (Binary.isShare_exp (Binary.isNaN_ofInt n) (Binary.level_ofInt_nonpos hnonpos))
  sum_none := lawful_single.sum_none
  sum_shares := lawful_single.sum_shares
  div_none := lawful_single.div_none
  div_share := lawful_single.div_share

theorem monotone_unbounded : unboundedReading.Monotone where
  sub_mono := by
    intro (x : Int64) (y : Int64) (z : Int64) p q r a b hx hy hz hle ha hb
    obtain rfl := number_inj.1 (Option.some.inj hx)
    obtain rfl := number_inj.1 (Option.some.inj hy)
    obtain rfl : number ((x.toInt - z.toInt : ℤ) : ℚ) = a := Option.some.inj ha
    obtain rfl : number ((y.toInt - z.toInt : ℤ) : ℚ) = b := Option.some.inj hb
    have hxy : x.toInt ≤ y.toInt := by exact_mod_cast hle
    exact number_le_number.2 (by exact_mod_cast Int.sub_le_sub_right hxy _)
  exp_mono := by
    intro (m : ℤ) (n : ℤ) a b p q hm hn hle hnonpos hp hq
    obtain rfl : number m = a := Option.some.inj hm
    obtain rfl : number n = b := Option.some.inj hn
    obtain ⟨-, hpl⟩ := Binary.level?_eq_some_iff.1 hp
    obtain ⟨-, hql⟩ := Binary.level?_eq_some_iff.1 hq
    have hmn : m ≤ n := by exact_mod_cast number_le_number.1 hle
    have hn0 : n ≤ 0 := by exact_mod_cast number_le_number.1 hnonpos
    have hmono := Binary.level_exp_mono (F := .single) (Binary.isNaN_ofInt m) (Binary.isNaN_ofInt n)
      (Binary.level_ofInt_mono hmn) (Binary.level_ofInt_nonpos hn0)
    exact number_le_number.1 (hpl ▸ hql ▸ hmono)
  div_mono := (monotone_floating (F := .single) (G := .single)
    ⟨by decide, by decide, by decide⟩).div_mono

end Kernel

namespace Softmax

open Kernel

variable {logits : List Int64} {first : ℕ} {top x : Int64}

/-! ### Slices without wrapping around -/

/-- No logit is further below another one than the least of the integers is below zero. -/
def IsNarrow (logits : List Int64) : Prop :=
  ∀ x ∈ logits, ∀ y ∈ logits, y.toInt - x.toInt ≤ 2 ^ 63

theorem isFinite_unbounded (logits : List Int64) :
    ∀ x ∈ logits, unboundedReading.IsFinite x :=
  fun x _ => ⟨(x.toInt : ℚ), rfl⟩

theorem toInt_le_of_best? (h : integer.logits.best? logits = some (first, top)) (hx : x ∈ logits) :
    x.toInt ≤ top.toInt := by
  have := reads_logits.lawful
  have habove := (Scale.isBest_of_best? h).none_above x hx
  obtain ⟨p, q, hp, hq, hle⟩ := reads_logits.atMost_of_not_above (p := x.toInt) (q := top.toInt)
    rfl rfl habove
  obtain rfl := number_inj.1 (Option.some.inj hp)
  obtain rfl := number_inj.1 (Option.some.inj hq)
  exact_mod_cast hle

theorem mem_of_best? (h : integer.logits.best? logits = some (first, top)) : top ∈ logits := by
  have := reads_logits.lawful
  exact List.mem_of_getElem? (Scale.isBest_of_best? h).at_place

theorem shifts_of_best? (h : integer.logits.best? logits = some (first, top)) :
    shifts integer logits = logits.map (· - top) := by
  simp only [shifts, h]
  rfl

theorem toInt_shifts (h : IsNarrow logits) :
    (shifts integer logits).map Int64.toInt = shifts unbounded logits := by
  cases hbest : integer.logits.best? logits with
  | none =>
    have hbest' : unbounded.logits.best? logits = none := hbest
    simp only [shifts, hbest, hbest']
    rfl
  | some best =>
    obtain ⟨first, top⟩ := best
    have hbest' : unbounded.logits.best? logits = some (first, top) := hbest
    rw [shifts_of_best? hbest, List.map_map]
    simp only [shifts, hbest']
    refine List.map_congr_left fun x hx => ?_
    have hexact := toInt_sub_of_le (toInt_le_of_best? hbest hx)
    rw [if_pos (h x hx top (mem_of_best? hbest))] at hexact
    exact hexact

/-- Where no shift wraps around the scores are those of exact shifts. -/
theorem slice_eq_unbounded (h : IsNarrow logits) : slice integer logits = slice unbounded logits := by
  have hweights : weights integer logits = weights unbounded logits := by
    have hexp : ∀ shifts : List Int64,
        shifts.map (fun shift => (Binary.ofInt .single shift.toInt).exp) =
          (shifts.map Int64.toInt).map fun n => (Binary.ofInt .single n).exp := by
      intro shifts
      rw [List.map_map]
      rfl
    exact (hexp (shifts integer logits)).trans
      (congrArg (List.map fun n : ℤ => (Binary.ofInt .single n).exp) (toInt_shifts h))
  have htotal : total integer logits = total unbounded logits :=
    congrArg (List.foldl Binary.add (Format.single.zero false)) hweights
  exact congrArg₂ (fun (scores : List (Binary .single)) (sum : Binary .single) =>
    scores.map (·.div sum)) hweights htotal

/-- What is meant by normalising a slice of integers: no shift is positive and one is zero, the
scores are numbers from 0 to 1 in the order of the logits, and the label that is selected has the
score of the greatest logit. -/
structure Normalises (logits : List Int64) : Prop where
  shift_nonpos : ∀ shift ∈ shifts integer logits, Int64.toInt shift ≤ 0
  zero_mem : (0 : Int64) ∈ shifts integer logits
  isShare : ∀ s ∈ slice integer logits, IsShare (integerReading.score s)
  keepsOrder : integerReading.KeepsOrder logits
  picksTop : ∀ best score, integer.scores.best? (slice integer logits) = some (best, score) →
    integerReading.PicksTop logits best score

theorem normalises_of_isNarrow (h : IsNarrow logits) (hne : logits ≠ []) : Normalises logits := by
  have := reads_logits.lawful
  have hslice := slice_eq_unbounded h
  have hfinite := isFinite_unbounded logits
  obtain ⟨first, top, hbest⟩ := Scale.exists_best? (S := integer.logits) hne
  constructor
  · intro shift hshift
    rw [shifts_of_best? hbest] at hshift
    obtain ⟨x, hx, rfl⟩ := List.mem_map.1 hshift
    have hle := toInt_le_of_best? hbest hx
    rw [toInt_sub_of_le hle, if_pos (h x hx top (mem_of_best? hbest))]
    omega
  · rw [shifts_of_best? hbest]
    exact List.mem_map.2 ⟨top, mem_of_best? hbest, Int64.sub_self top⟩
  · intro s hs
    rw [hslice] at hs
    exact (Reading.share_of_isFinite lawful_unbounded hne hfinite).2 s hs
  · unfold Reading.KeepsOrder
    rw [hslice]
    exact Reading.keepsOrder_of_isFinite lawful_unbounded monotone_unbounded hfinite
  · intro best score hscore
    rw [hslice] at hscore
    have hpicks := Reading.picksTop_of_best? lawful_unbounded monotone_unbounded hfinite hscore
    refine ⟨?_, ?_, ?_⟩
    · rw [hslice]
      exact hpicks.at_best
    · rw [hslice]
      exact hpicks.first_top
    · rw [hslice]
      exact hpicks.score_top

/-! ### Beyond -/

theorem toInt_shift_of_wide (h : integer.logits.best? logits = some (first, top)) (hx : x ∈ logits)
    (hwide : 2 ^ 63 < top.toInt - x.toInt) :
    (x - top).toInt = x.toInt - top.toInt + 2 ^ 64 ∧ 0 < (x - top).toInt := by
  have hshift := toInt_sub_of_le (toInt_le_of_best? h hx)
  rw [if_neg (not_le.2 hwide)] at hshift
  have hlow := Int64.le_toInt x
  have hhigh := Int64.toInt_lt top
  refine ⟨hshift, ?_⟩
  omega

theorem normalises_iff_isNarrow (hne : logits ≠ []) : Normalises logits ↔ IsNarrow logits := by
  refine ⟨fun h x hx y hy => ?_, fun h => normalises_of_isNarrow h hne⟩
  obtain ⟨first, (top : Int64), hbest⟩ := Scale.exists_best? (S := integer.logits) hne
  by_contra hwide
  have hle := toInt_le_of_best? hbest hy
  obtain ⟨-, hpos⟩ := toInt_shift_of_wide hbest hx (by omega)
  have hshift : x - top ∈ shifts integer logits := by
    rw [shifts_of_best? hbest]
    exact List.mem_map_of_mem hx
  have hnonpos := h.shift_nonpos _ hshift
  omega

theorem isNonneg_total (logits : List Int64) :
    Binary.IsNonneg (F := .single) (total integer logits) := by
  refine Binary.IsNonneg.foldl ?_ Binary.isNonneg_zero
  intro w hw
  obtain ⟨shift, -, rfl⟩ := List.mem_map.1 hw
  exact Binary.isNonneg_exp (Binary.isNaN_ofInt _)

/-- A logit that is too far below the greatest one scores no less than that, if both have scores. -/
theorem level_top_le_of_wide (h : integer.logits.best? logits = some (first, top)) {i : ℕ}
    (hx : logits[i]? = some x) (hwide : 2 ^ 63 < top.toInt - x.toInt) {s t : Binary .single}
    (hs : (slice integer logits)[i]? = some s) (ht : (slice integer logits)[first]? = some t)
    {a b : Extended} (ha : t.level? = some a) (hb : s.level? = some b) : a ≤ b := by
  have := reads_logits.lawful
  have hbest := Scale.isBest_of_best? h
  have hmem := List.mem_of_getElem? hx
  have hsx := Reading.eq_of_getElem?_slice h hx hs
  have htop := Reading.eq_of_getElem?_slice h hbest.at_place ht
  obtain ⟨-, hpos⟩ := toInt_shift_of_wide h hmem hwide
  obtain ⟨hnan, rfl⟩ := Binary.level?_eq_some_iff.1 hb
  obtain ⟨-, rfl⟩ := Binary.level?_eq_some_iff.1 ha
  have hzero : (top - top).toInt = 0 := by rw [Int64.sub_self]; rfl
  have hone : (Binary.ofInt .single (top - top).toInt).exp.isFinite = true ∧
      (Binary.ofInt .single (top - top).toInt).exp.value = 1 := by
    rw [hzero, Binary.ofInt_zero]
    exact Binary.value_exp_of_value_zero (Binary.isFinite_zero _) (Binary.value_zero _)
  obtain ⟨hxnan, hxone⟩ := Binary.one_le_level_exp (F := .single)
    ⟨Binary.isNaN_ofInt (x - top).toInt, Binary.zero_le_level_ofInt hpos.le⟩
  have hle : (Binary.ofInt .single (top - top).toInt).exp.level ≤
      (Binary.ofInt .single (x - top).toInt).exp.level := by
    rw [Binary.level_of_isFinite hone.1, hone.2]
    exact hxone
  rw [htop, hsx]
  rw [hsx] at hnan
  exact Binary.level_div_mono_of_pos hone.1 (hone.2 ▸ zero_lt_one) hxnan hle
    (isNonneg_total logits) hnan

end Softmax

end EntityTagger
