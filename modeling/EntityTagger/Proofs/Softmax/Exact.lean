import EntityTagger.Proofs.Kernel
import Mathlib.Algebra.BigOperators.Ring.List
import Mathlib.Algebra.Order.BigOperators.Group.List

/-! Normalising without rounding, in any ordered field and with any positive exponential that
increases strictly: the scores sum to 1, depend on the differences of the logits alone, and are
greatest where the logits are. -/
namespace EntityTagger

variable {𝕜 : Type} [LinearOrder 𝕜]

/-- A linear order, all of whose members are numbers. -/
def Scale.ordered (𝕜 : Type) [LinearOrder 𝕜] : Scale 𝕜 :=
  ⟨fun _ => false, fun x y => decide (x < y)⟩

/-- The lowest place of those that hold the greatest member. -/
def IsFirstGreatest (members : List 𝕜) (place : ℕ) : Prop :=
  ∃ top, members[place]? = some top ∧ (∀ x ∈ members, x ≤ top) ∧
    ∀ j < place, ∀ x, members[j]? = some x → x < top

namespace Scale

theorem ordered_above_iff {x y : 𝕜} : (ordered 𝕜).above x y = true ↔ y < x := by
  simp [above, ordered]

instance : (ordered 𝕜).Lawful where
  irrefl x := by simp [above, ordered]
  trans := by
    intro x y z hxy hyz
    exact ordered_above_iff.2 ((ordered_above_iff.1 hyz).trans (ordered_above_iff.1 hxy))
  comparable := by
    intro x z y hxz
    rw [ordered_above_iff] at *
    rcases lt_or_ge y x with hyx | hxy
    · exact Or.inl hyx
    · exact Or.inr (ordered_above_iff.2 (hxz.trans_le hxy))

theorem IsBest.isFirstGreatest {members : List 𝕜} {place : ℕ} {top : 𝕜}
    (h : (ordered 𝕜).IsBest members place top) : IsFirstGreatest members place := by
  refine ⟨top, h.at_place, ?_, ?_⟩
  · intro x hx
    by_contra hlt
    have habove := ordered_above_iff.2 (not_le.1 hlt)
    rw [h.none_above x hx] at habove
    exact Bool.false_ne_true habove
  · intro j hj x hx
    exact ordered_above_iff.1 (h.above_earlier j hj x hx)

theorem best?_map {α β : Type} {S : Scale α} {T : Scale β} {f : α → β}
    (h : ∀ x y, T.above (f x) (f y) = S.above x y) (members : List α) :
    T.best? (members.map f) = (S.best? members).map fun (place, top) => (place, f top) := by
  have hfrom : ∀ rest place top next, T.bestFrom place (f top) next (rest.map f) =
      ((S.bestFrom place top next rest).1, f (S.bestFrom place top next rest).2) := by
    intro rest
    induction rest with
    | nil =>
      intro place top next
      rfl
    | cons x rest ih =>
      intro place top next
      simp only [List.map_cons, bestFrom, h]
      split_ifs
      · exact ih next x (next + 1)
      · exact ih place top (next + 1)
  cases members with
  | nil => rfl
  | cons x rest => simp only [List.map_cons, best?, hfrom, Option.map_some]

end Scale

/-- Arithmetic without rounding. -/
abbrev Kernel.exact [Field 𝕜] (exp : 𝕜 → 𝕜) : Kernel where
  Logit := 𝕜
  Shift := 𝕜
  Score := 𝕜
  logits := Scale.ordered 𝕜
  scores := Scale.ordered 𝕜
  sub x y := x - y
  exp := exp
  zero := 0
  add x y := x + y
  div x y := x / y

namespace Softmax

variable [Field 𝕜] {exp : 𝕜 → 𝕜} {logits : List 𝕜} {place : ℕ} {top : 𝕜}

theorem total_exact (logits : List 𝕜) :
    total (Kernel.exact exp) logits = (weights (Kernel.exact exp) logits).sum :=
  List.sum_eq_foldl.symm

theorem weights_exact (h : (Scale.ordered 𝕜).best? logits = some (place, top)) :
    weights (Kernel.exact exp) logits = logits.map fun x => exp (x - top) :=
  weights_of_best? (K := Kernel.exact exp) h

variable [IsStrictOrderedRing 𝕜]

theorem slice_exact_add (logits : List 𝕜) (c : 𝕜) :
    slice (Kernel.exact exp) (logits.map (· + c)) = slice (Kernel.exact exp) logits := by
  have hweights : weights (Kernel.exact exp) (logits.map (· + c)) =
      weights (Kernel.exact exp) logits := by
    rcases eq_or_ne logits [] with rfl | hne
    · rfl
    · obtain ⟨place, top, htop⟩ := Scale.exists_best? (S := Scale.ordered 𝕜) hne
      have hmoved : (Scale.ordered 𝕜).best? (logits.map (· + c)) = some (place, top + c) := by
        rw [Scale.best?_map (S := Scale.ordered 𝕜), htop, Option.map_some]
        intro x y
        simp [Scale.above, Scale.ordered]
      rw [weights_exact htop, weights_exact hmoved, List.map_map]
      apply List.map_congr_left
      intro x _
      exact congrArg exp (add_sub_add_right_eq_sub x top c)
  rw [slice_eq_map, slice_eq_map, total, total, hweights]

variable (hpos : ∀ x, 0 < exp x)
include hpos

theorem total_exact_pos (hne : logits ≠ []) : 0 < total (Kernel.exact exp) logits := by
  obtain ⟨place, top, htop⟩ := Scale.exists_best? (S := Scale.ordered 𝕜) hne
  rw [total_exact, weights_exact htop]
  apply List.sum_pos
  · intro w hw
    obtain ⟨x, -, rfl⟩ := List.mem_map.1 hw
    exact hpos _
  · simpa using hne

theorem sum_slice_exact (hne : logits ≠ []) : (slice (Kernel.exact exp) logits).sum = (1 : 𝕜) := by
  have htotal := total_exact_pos hpos hne
  have hdiv : slice (Kernel.exact exp) logits = (weights (Kernel.exact exp) logits).map
      fun w : 𝕜 => w * (total (Kernel.exact exp) logits)⁻¹ := by
    rw [slice_eq_map]
    apply List.map_congr_left
    intro w _
    exact div_eq_mul_inv (G := 𝕜) w _
  rw [hdiv, List.sum_map_mul_right, List.map_id', ← total_exact]
  exact mul_inv_cancel₀ htotal.ne'

theorem best?_slice_exact (hmono : StrictMono exp) (hne : logits ≠ []) :
    ∃ best score, (Scale.ordered 𝕜).best? (slice (Kernel.exact exp) logits) = some (best, score) ∧
      IsFirstGreatest logits best := by
  obtain ⟨place, top, htop⟩ := Scale.exists_best? (S := Scale.ordered 𝕜) hne
  have htotal := total_exact_pos hpos hne
  have hslice : slice (Kernel.exact exp) logits =
      logits.map fun x => exp (x - top) / total (Kernel.exact exp) logits := by
    rw [slice_eq_map, weights_exact htop, List.map_map]
    rfl
  refine ⟨place, exp (top - top) / total (Kernel.exact exp) logits, ?_,
    (Scale.isBest_of_best? htop).isFirstGreatest⟩
  rw [hslice, Scale.best?_map (S := Scale.ordered 𝕜), htop, Option.map_some]
  intro x y
  have hiff : exp (y - top) / total (Kernel.exact exp) logits <
      exp (x - top) / total (Kernel.exact exp) logits ↔ y < x := by
    rw [div_lt_div_iff_of_pos_right htotal, hmono.lt_iff_lt, sub_lt_sub_iff_right]
  rw [Bool.eq_iff_iff, Scale.ordered_above_iff, Scale.ordered_above_iff]
  exact hiff

end Softmax

end EntityTagger
