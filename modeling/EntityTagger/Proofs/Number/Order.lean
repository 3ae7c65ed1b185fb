import EntityTagger.Kernel
import EntityTagger.Proofs.Number.Rounding
import Mathlib.Order.WithBot
import Mathlib.Tactic.NormNum

/-! The order of binary numbers by value, with the infinities at its ends, and what rounding and
conversion keep of it. -/
namespace EntityTagger

abbrev Extended := WithBot (WithTop ℚ)

def Extended.number (q : ℚ) : Extended := ((q : WithTop ℚ) : Extended)

namespace Extended

@[simp] theorem number_le_number {p q : ℚ} : number p ≤ number q ↔ p ≤ q := by
  simp only [number, WithBot.coe_le_coe, WithTop.coe_le_coe]

@[simp] theorem number_inj {p q : ℚ} : number p = number q ↔ p = q := by
  simp only [number, WithBot.coe_inj, WithTop.coe_inj]

@[simp] theorem number_lt_top (q : ℚ) : number q < ⊤ :=
  WithBot.coe_lt_coe.2 (WithTop.coe_lt_top q)

@[simp] theorem bot_lt_number (q : ℚ) : ⊥ < number q := WithBot.bot_lt_coe _

theorem cases (a : Extended) : a = ⊥ ∨ a = ⊤ ∨ ∃ q, a = number q := by
  induction a using WithBot.recBotCoe with
  | bot => exact Or.inl rfl
  | coe a =>
    right
    induction a using WithTop.recTopCoe with
    | top => exact Or.inl rfl
    | coe q => exact Or.inr ⟨q, rfl⟩

end Extended

namespace Scale

variable {α : Type} {S : Scale α} {level? : α → Option Extended}

/-- A scale on which standing above is a strict weak order. -/
class Lawful (S : Scale α) : Prop where
  irrefl : ∀ x, S.above x x = false
  trans : ∀ {x y z}, S.above x y → S.above y z → S.above x z
  comparable : ∀ {x z} y, S.above x z → S.above x y ∨ S.above y z

/-- The scale compares by level, and what has no level is not a number. -/
structure Reads (S : Scale α) (level? : α → Option Extended) : Prop where
  isNaN_iff : ∀ x, S.isNaN x = true ↔ level? x = none
  lt_iff : ∀ {x y a b}, level? x = some a → level? y = some b → (S.lt x y = true ↔ a < b)

theorem Reads.isNaN_eq_false (h : S.Reads level?) {x : α} {a : Extended} (hx : level? x = some a) :
    S.isNaN x = false := by
  rw [← Bool.not_eq_true, h.isNaN_iff, hx]
  exact Option.some_ne_none a

theorem Reads.above_iff (h : S.Reads level?) (x y : α) : S.above x y = true ↔
    ∃ b, level? y = some b ∧ ∀ a, level? x = some a → b < a := by
  cases hy : level? y with
  | none =>
    have hnan := (h.isNaN_iff y).2 hy
    simp [above, hnan]
  | some b =>
    have hnum := h.isNaN_eq_false hy
    cases hx : level? x with
    | none =>
      have hnan := (h.isNaN_iff x).2 hx
      simp [above, hnum, hnan]
    | some a => simp [above, hnum, h.isNaN_eq_false hx, h.lt_iff hy hx]

theorem Reads.lawful (h : S.Reads level?) : S.Lawful where
  irrefl x := by
    rw [Bool.eq_false_iff, Ne, h.above_iff]
    rintro ⟨a, ha, hlt⟩
    exact lt_irrefl a (hlt a ha)
  trans := by
    intro x y z hxy hyz
    rw [h.above_iff] at *
    obtain ⟨b, hb, hx⟩ := hxy
    obtain ⟨c, hc, hy⟩ := hyz
    exact ⟨c, hc, fun a ha => (hy b hb).trans (hx a ha)⟩
  comparable := by
    intro x z y hxz
    simp only [h.above_iff] at *
    obtain ⟨c, hc, hx⟩ := hxz
    cases hy : level? y with
    | none => exact Or.inr ⟨c, hc, fun b hb => by simp at hb⟩
    | some b =>
      rcases lt_or_ge c b with hcb | hbc
      · right
        refine ⟨c, hc, ?_⟩
        rintro b' hb'
        rwa [← Option.some.inj hb']
      · exact Or.inl ⟨b, rfl, fun a ha => hbc.trans_lt (hx a ha)⟩

end Scale

namespace Binary

variable {F G : Format}

def value : Binary F → ℚ
  | .finite negative m e _ => if negative then -(m * 2 ^ e) else m * 2 ^ e
  | _ => 0

/-- The value of a number that is one, with the infinities at both ends. -/
def level : Binary F → Extended
  | .nan => ⊤
  | .infinity negative => if negative then ⊥ else ⊤
  | .finite negative m e holds => ((finite negative m e holds).value : WithTop ℚ)

def level? (x : Binary F) : Option Extended := if x.isNaN then none else some x.level

theorem level?_eq_none_iff {x : Binary F} : x.level? = none ↔ x.isNaN = true := by
  unfold level?
  split_ifs with h <;> simp [h]

theorem level?_eq_some_iff {x : Binary F} {a : Extended} :
    x.level? = some a ↔ x.isNaN = false ∧ x.level = a := by
  unfold level?
  split_ifs with h <;> simp [h]

theorem level?_eq_number_iff {x : Binary F} {q : ℚ} :
    x.level? = some (.number q) ↔ x.isFinite = true ∧ x.value = q := by
  rw [level?_eq_some_iff]
  cases x with
  | nan => simp [isNaN, isFinite]
  | infinity a => cases a <;> simp [level, isFinite, Extended.number, ← WithBot.coe_top]
  | finite a m e h => simp [isNaN, isFinite, level, Extended.number]

theorem value_eq_units (x : Binary F) : x.value = x.units * 2 ^ F.minExponent := by
  cases x with
  | nan => simp [value, units]
  | infinity => simp [value, units]
  | finite negative m e h =>
    have he : (2 : ℚ) ^ e = 2 ^ (e - F.minExponent).toNat * 2 ^ F.minExponent := by
      rw [← zpow_natCast, ← zpow_add₀ two_ne_zero]
      congr 1
      have := h.2.1
      omega
    cases negative <;> simp [value, units, he, mul_assoc]

theorem units_lt_units_iff (x y : Binary F) : x.units < y.units ↔ x.value < y.value := by
  rw [value_eq_units, value_eq_units, mul_lt_mul_iff_left₀ (by positivity)]
  exact_mod_cast Iff.rfl

theorem lt_iff {x y : Binary F} (hx : x.isNaN = false) (hy : y.isNaN = false) :
    x.lt y = true ↔ x.level < y.level := by
  cases x with
  | nan => simp [isNaN] at hx
  | infinity a =>
    cases y with
    | nan => simp [isNaN] at hy
    | infinity b => cases a <;> cases b <;> simp [lt, level]
    | finite b n f k => cases a <;> simp [lt, level, WithBot.bot_lt_coe]
  | finite a m e h =>
    cases y with
    | nan => simp [isNaN] at hy
    | infinity b =>
      cases b with
      | true => simp [lt, level]
      | false => simp [lt, level, ← WithBot.coe_top]
    | finite b n f k => simp [lt, level, units_lt_units_iff]

theorem reads_scale : (scale F).Reads level? where
  isNaN_iff x := level?_eq_none_iff.symm
  lt_iff hx hy := by
    obtain ⟨hxn, rfl⟩ := level?_eq_some_iff.1 hx
    obtain ⟨hyn, rfl⟩ := level?_eq_some_iff.1 hy
    exact lt_iff hxn hyn

instance : (scale F).Lawful := reads_scale.lawful

theorem isNaN_pack (negative : Bool) (m : ℕ) (e : ℤ) : (F.pack negative m e).isNaN = false := by
  unfold Format.pack
  split_ifs <;> rfl

theorem isNaN_round (negative : Bool) (num den : ℕ) :
    (F.round negative num den).isNaN = false := by
  unfold Format.round Format.zero
  dsimp only
  split_ifs <;> exact isNaN_pack ..

@[simp] theorem isNaN_convert (x : Binary F) : (x.convert G).isNaN = x.isNaN := by
  cases x <;> simp [convert, isNaN_round] <;> simp [isNaN]

theorem zero_eq [F.Regular] (negative : Bool) :
    ∃ h, F.zero negative = .finite negative 0 F.minExponent h := by
  have h : F.Holds 0 F.minExponent := ⟨by positivity, le_rfl,
    Format.Regular.minExponent_nonpos.trans Format.Regular.maxExponent_nonneg, Or.inr rfl⟩
  exact ⟨h, dif_pos h⟩

theorem neg_pack (m : ℕ) (e : ℤ) : (F.pack false m e).neg = F.pack true m e := by
  unfold Format.pack
  split_ifs <;> rfl

theorem round_true (num den : ℕ) : F.round true num den = (F.round false num den).neg := by
  unfold Format.round Format.zero
  dsimp only
  split_ifs <;> exact (neg_pack ..).symm

@[simp] theorem value_neg (x : Binary F) : x.neg.value = -x.value := by
  cases x with
  | finite negative m e h => cases negative <;> simp [neg, value]
  | _ => simp [neg, value]

@[simp] theorem isNaN_neg (x : Binary F) : x.neg.isNaN = x.isNaN := by cases x <;> rfl

theorem level_neg_le_neg {x y : Binary F} (hx : x.isNaN = false) (hy : y.isNaN = false)
    (h : x.level ≤ y.level) : y.neg.level ≤ x.neg.level := by
  cases x with
  | nan => simp [isNaN] at hx
  | infinity a =>
    cases y with
    | nan => simp [isNaN] at hy
    | infinity b => cases a <;> cases b <;> simp_all [level, neg]
    | finite b n f k => cases a <;> simp_all [level, neg, ← WithBot.coe_top]
  | finite a m e k =>
    cases y with
    | nan => simp [isNaN] at hy
    | infinity b => cases b <;> simp_all [level, neg]
    | finite b n f l =>
      have hv : (finite a m e k).value ≤ (finite b n f l).value := by simpa [level] using h
      have hv' : (finite b n f l).neg.value ≤ (finite a m e k).neg.value := by
        rw [value_neg, value_neg]
        exact neg_le_neg hv
      simpa [level, neg] using hv'

theorem zero_le_level_round [F.Regular] (num : ℕ) {den : ℕ} (hd : 0 < den) :
    ((0 : ℚ) : WithTop ℚ) ≤ (F.round false num den).level := by
  rcases num.eq_zero_or_pos with rfl | hn
  · obtain ⟨h, hz⟩ := zero_eq (F := F) false
    simp [Format.round, hz, level, value]
  · rcases F.round_cases false hn hd with ⟨-, m, e, h, hr, -⟩ | ⟨-, hr⟩
    · rw [hr]
      simp only [level, value, Bool.false_eq_true, if_false, WithBot.coe_le_coe, WithTop.coe_le_coe]
      positivity
    · simp [hr, level]

theorem level_round_le_zero [F.Regular] (num : ℕ) {den : ℕ} (hd : 0 < den) :
    (F.round true num den).level ≤ ((0 : ℚ) : WithTop ℚ) := by
  obtain ⟨h, hz⟩ := zero_eq (F := F) false
  have hneg := level_neg_le_neg (x := F.zero false) (by rw [hz]; rfl) (isNaN_round false num den)
    (by simpa [hz, level, value] using zero_le_level_round (F := F) num hd)
  rw [round_true]
  simpa [hz, neg, level, value] using hneg

/-- Rounding never turns the order of two ratios around. -/
theorem level_round_mono [F.Regular] {a b c d : ℕ} (hb : 0 < b) (hd : 0 < d)
    (h : (a / b : ℚ) ≤ c / d) : (F.round false a b).level ≤ (F.round false c d).level := by
  rcases a.eq_zero_or_pos with rfl | ha
  · obtain ⟨hz, hz'⟩ := zero_eq (F := F) false
    have h₀ : F.round false 0 b = F.zero false := by simp [Format.round]
    rw [h₀, hz']
    simpa [level, value] using zero_le_level_round (F := F) c hd
  · have hc : 0 < c := by
      by_contra hc
      obtain rfl : c = 0 := by omega
      have : (0 : ℚ) < a / b := by positivity
      simp at h
      linarith
    have hv := Format.gridValue_mono (F := F) ha hb hc hd h
    rcases F.round_cases false hc hd with ⟨hlt, n, f, k, hr, hnf⟩ | ⟨-, hr⟩
    · rcases F.round_cases false ha hb with ⟨-, m, e, l, hr', hme⟩ | ⟨hge, -⟩
      · rw [hr, hr']
        simpa [level, value, hme, hnf] using hv
      · exact absurd (hge.trans hv) (not_le.2 hlt)
    · simp [hr, level]

theorem finite_ratio (m : ℕ) (e : ℤ) :
    (((m * 2 ^ e.toNat : ℕ) : ℚ) / ((2 ^ (-e).toNat : ℕ) : ℚ)) = m * 2 ^ e := by
  rw [two_zpow_eq]
  push_cast
  ring

theorem level_convert_mono [G.Regular] {x y : Binary F} (hx : x.isNaN = false)
    (hy : y.isNaN = false) (h : x.level ≤ y.level) :
    (x.convert G).level ≤ (y.convert G).level := by
  cases x with
  | nan => simp [isNaN] at hx
  | infinity a =>
    cases y with
    | nan => simp [isNaN] at hy
    | infinity b => cases a <;> cases b <;> simp_all [level, convert]
    | finite b n f k => cases a <;> simp_all [level, convert, ← WithBot.coe_top]
  | finite a m e k =>
    cases y with
    | nan => simp [isNaN] at hy
    | infinity b => cases b <;> simp_all [level, convert]
    | finite b n f l =>
      have hv : (finite a m e k).value ≤ (finite b n f l).value := by simpa [level] using h
      simp only [convert]
      cases a <;> cases b <;>
        simp only [value, Bool.false_eq_true, if_false, if_true] at hv
      · exact level_round_mono (by positivity) (by positivity) (by simpa only [finite_ratio] using hv)
      · -- a positive number below a negative one: both are zero
        have h₁ : (0 : ℚ) ≤ m * 2 ^ e := by positivity
        have h₂ : (0 : ℚ) ≤ n * 2 ^ f := by positivity
        have hpos : ∀ k : ℤ, (2 : ℚ) ^ k ≠ 0 := fun k => zpow_ne_zero _ two_ne_zero
        obtain rfl : m = 0 := by
          have : (m : ℚ) * 2 ^ e = 0 := by linarith
          simpa [hpos] using this
        obtain rfl : n = 0 := by
          have : (n : ℚ) * 2 ^ f = 0 := by linarith
          simpa [hpos] using this
        obtain ⟨hz, hz'⟩ := zero_eq (F := G) false
        obtain ⟨hw, hw'⟩ := zero_eq (F := G) true
        simp [Format.round, hz', hw', level, value]
      · have hbelow := level_round_le_zero (F := G) (m * 2 ^ e.toNat)
          (show 0 < 2 ^ (-e).toNat by positivity)
        exact hbelow.trans (zero_le_level_round (F := G) (n * 2 ^ f.toNat) (by positivity))
      · rw [round_true, round_true]
        exact level_neg_le_neg (isNaN_round ..) (isNaN_round ..)
          (level_round_mono (by positivity) (by positivity)
            (by simpa only [finite_ratio] using neg_le_neg_iff.1 hv))

end Binary

end EntityTagger
