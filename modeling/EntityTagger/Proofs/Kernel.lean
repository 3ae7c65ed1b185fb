import EntityTagger.Proofs.Score
import EntityTagger.Proofs.Softmax

/-! Normalising with any arithmetic that keeps a few laws. A slice of logits has scores from 0 to 1,
unless one of its logits is not a number or infinitely great or all are infinitely small; then none
of its scores is a number. -/
namespace EntityTagger

namespace Extended

/-- The level of a number from 0 to 1. -/
def IsShare (a : Option Extended) : Prop := ∃ q : ℚ, a = some (number q) ∧ 0 ≤ q ∧ q ≤ 1

theorem IsShare.ne_none {a : Option Extended} (h : IsShare a) : a ≠ none := by
  obtain ⟨q, rfl, -⟩ := h
  exact Option.some_ne_none _

end Extended

namespace Kernel

open Extended

variable {K : Kernel}

/-- What the numbers that a kernel works on stand for. -/
structure Reading (K : Kernel) where
  logit : K.Logit → Option Extended
  shift : K.Shift → Option Extended
  score : K.Score → Option Extended

namespace Reading

/-- What is relied on of a kernel. Only finite logits have a shift from themselves, which is 0, and
what is not above them lies below. What is not a number spreads. The exponential is monotone, not
negative, and 1 at 0. A sum of shares does not overflow and reaches every one of its terms. -/
structure Lawful (R : K.Reading) : Prop where
  logits : K.logits.Reads R.logit
  scores : K.scores.Reads R.score
  sub_self : ∀ {x q}, R.logit x = some (number q) → R.shift (K.sub x x) = some (number 0)
  sub_self_none : ∀ {x}, (∀ q, R.logit x ≠ some (number q)) → R.shift (K.sub x x) = none
  sub_nonpos : ∀ {x y a q}, R.logit x = some a → R.logit y = some (number q) → a ≤ number q →
    ∃ b, R.shift (K.sub x y) = some b ∧ b ≤ number 0
  exp_none : ∀ {x}, R.shift x = none → R.score (K.exp x) = none
  exp_zero : ∀ {x}, R.shift x = some (number 0) → R.score (K.exp x) = some (number 1)
  exp_share : ∀ {x a}, R.shift x = some a → a ≤ number 0 → IsShare (R.score (K.exp x))
  sum_none : ∀ {weights : List K.Score} {w}, w ∈ weights → R.score w = none →
    R.score (weights.foldl K.add K.zero) = none
  sum_shares : ∀ {weights : List K.Score}, (∀ w ∈ weights, IsShare (R.score w)) →
    ∃ q, R.score (weights.foldl K.add K.zero) = some (number q) ∧
      ∀ w ∈ weights, ∀ p, R.score w = some (number p) → p ≤ q
  div_none : ∀ {x y}, R.score y = none → R.score (K.div x y) = none
  div_share : ∀ {x y p q}, R.score x = some (number p) → R.score y = some (number q) → 0 ≤ p →
    p ≤ q → 0 < q → IsShare (R.score (K.div x y))

def NoScores (R : K.Reading) (logits : List K.Logit) : Prop :=
  (∃ x ∈ logits, R.logit x = none ∨ R.logit x = some ⊤) ∨ ∀ x ∈ logits, R.logit x = some ⊥

variable {R : K.Reading}

theorem noScores_iff (h : K.logits.Reads R.logit) {logits : List K.Logit} {place : ℕ}
    {top : K.Logit} (hbest : K.logits.IsBest logits place top) :
    R.NoScores logits ↔ ∀ q, R.logit top ≠ some (number q) := by
  have hmem : top ∈ logits := List.mem_of_getElem? hbest.at_place
  constructor
  · rintro (⟨x, hx, hxl⟩ | hall) q hq
    · have habove : K.logits.above x top = true := by
        rw [h.above_iff]
        refine ⟨_, hq, fun a ha => ?_⟩
        rcases hxl with hnone | htop
        · simp [hnone] at ha
        · obtain rfl := Option.some.inj (htop.symm.trans ha)
          exact number_lt_top q
      simp [hbest.none_above x hx] at habove
    · have hbot := Option.some.inj ((hall top hmem).symm.trans hq)
      exact (bot_lt_number q).ne hbot
  · intro hnot
    cases htop : R.logit top with
    | none => exact Or.inl ⟨top, hmem, Or.inl htop⟩
    | some a =>
      rcases a.cases with rfl | rfl | ⟨q, rfl⟩
      · -- nothing stands above what is infinitely small
        right
        intro x hx
        have hnotabove := hbest.none_above x hx
        rw [← Bool.not_eq_true, h.above_iff] at hnotabove
        cases hxl : R.logit x with
        | none => exact absurd ⟨⊥, htop, fun a ha => by simp [hxl] at ha⟩ hnotabove
        | some b =>
          rcases eq_bot_or_bot_lt b with rfl | hb
          · rfl
          · refine absurd ⟨⊥, htop, fun a ha => ?_⟩ hnotabove
            rwa [← Option.some.inj (hxl.symm.trans ha)]
      · exact Or.inl ⟨top, hmem, Or.inr htop⟩
      · exact absurd htop (hnot q)

end Reading

end Kernel

namespace Softmax

open Kernel Extended

variable {K : Kernel} {R : K.Reading} {logits : List K.Logit}

def weights (K : Kernel) (logits : List K.Logit) : List K.Score := (shifts K logits).map K.exp

def total (K : Kernel) (logits : List K.Logit) : K.Score := (weights K logits).foldl K.add K.zero

theorem slice_eq_map (K : Kernel) (logits : List K.Logit) :
    slice K logits = (weights K logits).map (K.div · (total K logits)) := rfl

theorem weights_of_best? {place : ℕ} {top : K.Logit}
    (h : K.logits.best? logits = some (place, top)) :
    weights K logits = logits.map fun x => K.exp (K.sub x top) := by
  simp only [weights, shifts, h, List.map_map, Function.comp_def]

/-- Nothing is above the greatest logit: all are numbers, at a shift to below from it. -/
theorem isShare_weights (h : R.Lawful) {place : ℕ} {top : K.Logit} {q : ℚ}
    (hbest : K.logits.IsBest logits place top) (hq : R.logit top = some (number q)) :
    ∀ x ∈ logits, IsShare (R.score (K.exp (K.sub x top))) := by
  intro x hx
  have hnotabove := hbest.none_above x hx
  rw [← Bool.not_eq_true, h.logits.above_iff] at hnotabove
  cases hxl : R.logit x with
  | none => exact absurd ⟨_, hq, fun a ha => by simp [hxl] at ha⟩ hnotabove
  | some a =>
    have hle : a ≤ number q := by
      by_contra hlt
      refine hnotabove ⟨_, hq, fun b hb => ?_⟩
      rw [← Option.some.inj (hxl.symm.trans hb)]
      exact not_le.1 hlt
    obtain ⟨b, hb, hnonpos⟩ := h.sub_nonpos hxl hq hle
    exact h.exp_share hb hnonpos

/-- A slice without scores, or one of shares whose divisor is a number from 1 on. -/
theorem slice_cases (h : R.Lawful) (hne : logits ≠ []) :
    (R.NoScores logits ∧ ∀ s ∈ slice K logits, R.score s = none) ∨
    (¬ R.NoScores logits ∧
      (∃ q, R.score (total K logits) = some (number q) ∧ 1 ≤ q) ∧
      ∀ s ∈ slice K logits, IsShare (R.score s)) := by
  have := h.logits.lawful
  obtain ⟨place, top, htop⟩ := Scale.exists_best? (S := K.logits) hne
  have hbest := Scale.isBest_of_best? htop
  have hmem : K.exp (K.sub top top) ∈ weights K logits := by
    rw [weights_of_best? htop]
    exact List.mem_map.2 ⟨top, List.mem_of_getElem? hbest.at_place, rfl⟩
  rw [slice_eq_map]
  by_cases hno : R.NoScores logits
  · left
    refine ⟨hno, fun s hs => ?_⟩
    obtain ⟨w, -, rfl⟩ := List.mem_map.1 hs
    have hself := h.sub_self_none ((Reading.noScores_iff h.logits hbest).1 hno)
    exact h.div_none (h.sum_none hmem (h.exp_none hself))
  · right
    have hnumber := hno
    rw [Reading.noScores_iff h.logits hbest] at hnumber
    push Not at hnumber
    obtain ⟨q, hq⟩ := hnumber
    have hshare : ∀ w ∈ weights K logits, IsShare (R.score w) := by
      intro w hw
      rw [weights_of_best? htop] at hw
      obtain ⟨x, hx, rfl⟩ := List.mem_map.1 hw
      exact isShare_weights h hbest hq x hx
    obtain ⟨sum, hsum, hle⟩ := h.sum_shares hshare
    have hone : 1 ≤ sum := hle _ hmem 1 (h.exp_zero (h.sub_self hq))
    refine ⟨hno, ⟨sum, hsum, hone⟩, fun s hs => ?_⟩
    obtain ⟨w, hw, rfl⟩ := List.mem_map.1 hs
    obtain ⟨p, hp, hnonneg, -⟩ := hshare w hw
    exact h.div_share hp hsum hnonneg (hle w hw p hp) (zero_lt_one.trans_le hone)

end Softmax

end EntityTagger
