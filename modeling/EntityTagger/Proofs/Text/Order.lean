import EntityTagger.Text
import Mathlib.Data.List.Lex

/-! The order of texts by code points, and the distinct texts of a list in that order. -/
namespace EntityTagger

theorem Text.le_iff {a b : Text} : Text.le a b = true ↔ List.Lex (· < ·) a b ∨ a = b := by
  induction a generalizing b with
  | nil => cases b <;> simp [Text.le]
  | cons c s ih =>
    cases b with
    | nil => simp [Text.le]
    | cons d t =>
      simp only [Text.le, Bool.or_eq_true, decide_eq_true_eq, Bool.and_eq_true, beq_iff_eq, ih,
        List.cons_lex_cons_iff, List.cons.injEq]
      tauto

theorem Text.le_iff_le {a b : Text} : Text.le a b = true ↔ a ≤ b := by
  rw [Text.le_iff, le_iff_lt_or_eq]
  exact Iff.rfl

section EraseReps

variable {α : Type} [BEq α]

theorem eraseReps_loop (a : α) (rest kept : List α) :
    List.eraseRepsBy.loop (· == ·) a rest kept = kept.reverse ++ (a :: rest).eraseReps := by
  induction rest generalizing a kept with
  | nil => simp [List.eraseReps, List.eraseRepsBy, List.eraseRepsBy.loop]
  | cons b rest ih =>
    rw [List.eraseReps, List.eraseRepsBy, List.eraseRepsBy.loop, List.eraseRepsBy.loop]
    cases a == b with
    | true => simp only [ih, List.reverse_nil, List.nil_append]
    | false => simp [ih]

variable [LawfulBEq α]

theorem eraseReps_cons_self (a : α) (rest : List α) :
    (a :: a :: rest).eraseReps = (a :: rest).eraseReps := by
  rw [List.eraseReps, List.eraseRepsBy, List.eraseRepsBy.loop, BEq.rfl, eraseReps_loop]
  rfl

theorem eraseReps_cons_of_ne {a b : α} (h : a ≠ b) (rest : List α) :
    (a :: b :: rest).eraseReps = a :: (b :: rest).eraseReps := by
  rw [List.eraseReps, List.eraseRepsBy, List.eraseRepsBy.loop, beq_false_of_ne h]
  exact eraseReps_loop b rest [a]

theorem mem_eraseReps {x : α} {items : List α} : x ∈ items.eraseReps ↔ x ∈ items := by
  match items with
  | [] => exact Iff.rfl
  | [a] => exact Iff.rfl
  | a :: b :: rest =>
    have ih : x ∈ (b :: rest).eraseReps ↔ x ∈ b :: rest := mem_eraseReps
    by_cases h : a = b
    · subst h
      rw [eraseReps_cons_self, ih]
      simp
    · rw [eraseReps_cons_of_ne h, List.mem_cons, ih, List.mem_cons (b := a)]

end EraseReps

theorem pairwise_lt_eraseReps {items : List Text} (h : items.Pairwise (· ≤ ·)) :
    items.eraseReps.Pairwise (· < ·) := by
  match items with
  | [] => exact List.Pairwise.nil
  | [a] => exact List.pairwise_singleton _ a
  | a :: b :: rest =>
    have hrest := (List.pairwise_cons.1 h).2
    have ih := pairwise_lt_eraseReps hrest
    by_cases hab : a = b
    · subst hab
      rwa [eraseReps_cons_self]
    · rw [eraseReps_cons_of_ne hab, List.pairwise_cons]
      refine ⟨fun x hx => ?_, ih⟩
      have hlt : a < b := lt_of_le_of_ne ((List.pairwise_cons.1 h).1 b (by simp)) hab
      rcases List.mem_cons.1 (mem_eraseReps.1 hx) with rfl | hx
      · exact hlt
      · exact lt_of_lt_of_le hlt ((List.pairwise_cons.1 hrest).1 x hx)

theorem pairwise_lex_sortedDistinct (texts : List Text) :
    (sortedDistinct texts).Pairwise (List.Lex (· < ·)) := by
  have hsorted : (texts.mergeSort Text.le).Pairwise fun a b => Text.le a b = true := by
    refine List.pairwise_mergeSort ?_ ?_ texts
    · intro a b c hab hbc
      rw [Text.le_iff_le] at hab hbc ⊢
      exact hab.trans hbc
    · intro a b
      simpa [Text.le_iff_le] using le_total a b
  exact pairwise_lt_eraseReps (hsorted.imp Text.le_iff_le.1)

theorem mem_sortedDistinct {t : Text} {texts : List Text} :
    t ∈ sortedDistinct texts ↔ t ∈ texts := by
  rw [sortedDistinct, mem_eraseReps, List.mem_mergeSort]

end EntityTagger
