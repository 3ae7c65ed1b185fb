import EntityTagger.Proofs.Number.Order
import Mathlib.Data.List.Basic

/-! The best of some scores is the first above which no other stands: the lowest that no other
exceeds, or the very first if none is a number. -/
namespace EntityTagger

namespace Scale

variable {α : Type} {S : Scale α}

/-- Both are numbers, and the second does not exceed the first. -/
def atLeast (S : Scale α) (x y : α) : Bool := !S.isNaN x && !S.isNaN y && !S.lt x y

/-- The lowest place of a score that no other exceeds; 0 if there is none, as among scores that are
not numbers. -/
def lowestBest (S : Scale α) (scores : List α) : ℕ :=
  (scores.findIdx? fun x => scores.all (S.atLeast x)).getD 0

/-- The first member above which no other stands, with its place. -/
structure IsBest (S : Scale α) (members : List α) (place : ℕ) (top : α) : Prop where
  at_place : members[place]? = some top
  none_above : ∀ x ∈ members, S.above x top = false
  above_earlier : ∀ j < place, ∀ x, members[j]? = some x → S.above top x = true

theorem isBest_single (S : Scale α) [S.Lawful] (x : α) : S.IsBest [x] 0 x where
  at_place := rfl
  none_above y hy := by
    obtain rfl := List.mem_singleton.1 hy
    exact Lawful.irrefl y
  above_earlier j hj := absurd hj (Nat.not_lt_zero j)

theorem IsBest.snoc [S.Lawful] {seen : List α} {place : ℕ} {top x : α}
    (h : S.IsBest seen place top) :
    if S.above x top then S.IsBest (seen ++ [x]) seen.length x
    else S.IsBest (seen ++ [x]) place top := by
  have hplace : place < seen.length := (List.getElem?_eq_some_iff.1 h.at_place).1
  split_ifs with hx
  · refine ⟨by simp, ?_, ?_⟩
    · intro y hy
      rcases List.mem_append.1 hy with hy | hy
      · by_contra hyx
        have hyx : S.above y x = true := by simpa using hyx
        have := h.none_above y hy
        simp [Lawful.trans hyx hx] at this
      · obtain rfl := List.mem_singleton.1 hy
        exact Lawful.irrefl y
    · intro j hj y hy
      rw [List.getElem?_append_left hj] at hy
      have hmem := List.mem_of_getElem? hy
      rcases Lawful.comparable y hx with hxy | hyt
      · exact hxy
      · simp [h.none_above y hmem] at hyt
  · refine ⟨by rw [List.getElem?_append_left hplace, h.at_place], ?_, ?_⟩
    · intro y hy
      rcases List.mem_append.1 hy with hy | hy
      · exact h.none_above y hy
      · obtain rfl := List.mem_singleton.1 hy
        simpa using hx
    · intro j hj y hy
      rw [List.getElem?_append_left (by omega)] at hy
      exact h.above_earlier j hj y hy

theorem isBest_bestFrom [S.Lawful] (rest : List α) {seen : List α} {place : ℕ} {top : α}
    (h : S.IsBest seen place top) :
    S.IsBest (seen ++ rest) (S.bestFrom place top seen.length rest).1
      (S.bestFrom place top seen.length rest).2 := by
  induction rest generalizing seen place top with
  | nil => simpa [bestFrom] using h
  | cons x rest ih =>
    have hsnoc := h.snoc (x := x)
    rw [bestFrom, List.append_cons]
    split_ifs at hsnoc ⊢ with hx
    · simpa using ih hsnoc
    · simpa using ih hsnoc

theorem isBest_of_best? [S.Lawful] {members : List α} {place : ℕ} {top : α}
    (h : S.best? members = some (place, top)) : S.IsBest members place top := by
  cases members with
  | nil => simp [best?] at h
  | cons x rest =>
    have hb := isBest_bestFrom rest (isBest_single S x)
    simp only [best?, Option.some.injEq] at h
    simpa [h] using hb

theorem IsBest.atLeast {scores : List α} {place : ℕ} {top : α} (h : S.IsBest scores place top)
    (hn : ∀ x ∈ scores, S.isNaN x = false) : ∀ x ∈ scores, S.atLeast top x = true := by
  intro x hx
  have habove := h.none_above x hx
  have htop := hn top (List.mem_of_getElem? h.at_place)
  simp_all [above, Scale.atLeast]

theorem exists_best? {members : List α} (h : members ≠ []) :
    ∃ place top, S.best? members = some (place, top) := by
  cases members with
  | nil => exact absurd rfl h
  | cons x rest => exact ⟨_, _, rfl⟩

/-- Among numbers, the best one stands at the lowest place of those that no other exceeds. -/
theorem lowestBest_of_numbers [S.Lawful] {scores : List α} {place : ℕ} {top : α}
    (h : S.IsBest scores place top) (hn : ∀ x ∈ scores, S.isNaN x = false) :
    S.lowestBest scores = place := by
  obtain ⟨hlt, htop⟩ := List.getElem?_eq_some_iff.1 h.at_place
  have hmem : top ∈ scores := List.mem_of_getElem? h.at_place
  have hfind : scores.findIdx? (fun x => scores.all (S.atLeast x)) = some place := by
    rw [List.findIdx?_eq_some_iff_getElem]
    refine ⟨hlt, ?_, ?_⟩
    · rw [htop, List.all_eq_true]
      intro x hx
      have := h.none_above x hx
      simp_all [above, atLeast]
    · intro j hj hall
      have hj' : j < scores.length := hj.trans hlt
      have habove := h.above_earlier j hj scores[j] (List.getElem?_eq_getElem hj')
      have := List.all_eq_true.1 hall top hmem
      simp_all [above, atLeast]
  simp [lowestBest, hfind]

theorem lowestBest_of_nan [S.Lawful] {scores : List α} {place : ℕ} {top : α}
    (h : S.IsBest scores place top) (hn : ∀ x ∈ scores, S.isNaN x = true) :
    place = 0 ∧ S.lowestBest scores = 0 := by
  have hlt := (List.getElem?_eq_some_iff.1 h.at_place).1
  constructor
  · by_contra hp
    have hx := List.getElem?_eq_getElem (show 0 < scores.length by omega)
    have := h.above_earlier 0 (Nat.pos_of_ne_zero hp) _ hx
    simp [above, hn _ (List.mem_of_getElem? hx)] at this
  · have hfind : scores.findIdx? (fun x => scores.all (S.atLeast x)) = none := by
      rw [List.findIdx?_eq_none_iff]
      intro x hx
      by_contra hall
      have := List.all_eq_true.1 (by simpa using hall) x hx
      simp [atLeast, hn x hx] at this
    simp [lowestBest, hfind]

end Scale

end EntityTagger
