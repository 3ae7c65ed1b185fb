import EntityTagger.Proofs.Tensor.Reduction
import EntityTagger.Softmax

/-! Softmax along an axis of an array gives every slice the scores that it has on its own: what is
subtracted and what is divided by is spread back to the cells that it was made from. -/
namespace EntityTagger.Softmax

open Tensor

variable {K : Kernel} {rank axis : ℕ} {dim : ℤ} {t : Tensor K.Logit} {coordinates : List ℕ}

/-! ### A single slice -/

/-- The shifts of a slice from its greatest logit, which is not a number if one of them is. -/
def shifts (K : Kernel) (slice : List K.Logit) : List K.Shift :=
  match K.logits.best? slice with
  | none => []
  | some (_, top) => slice.map (K.sub · top)

/-- The scores of a slice: its shifts are exponentiated and divided by the sum of the results. -/
def slice (K : Kernel) (logits : List K.Logit) : List K.Score :=
  let weights := (shifts K logits).map K.exp
  let total := weights.foldl K.add K.zero
  weights.map (K.div · total)

theorem length_shifts (K : Kernel) (logits : List K.Logit) :
    (shifts K logits).length = logits.length := by
  cases logits <;> simp [shifts, Scale.best?]

@[simp] theorem length_slice (K : Kernel) (logits : List K.Logit) :
    (slice K logits).length = logits.length := by
  simp [slice, length_shifts]

/-! ### Names of axes -/

/-- A number names an axis, counted from the first one or back from behind the last one. A single
cell without axes counts as having one. -/
structure NamesAxis (rank : ℕ) (dim : ℤ) (axis : ℕ) : Prop where
  axis_lt : axis < max rank 1
  dim_eq : dim = axis ∨ dim = axis - max rank 1

def OutOfRange (rank : ℕ) (dim : ℤ) : Prop := dim < -max rank 1 ∨ max rank 1 ≤ dim

theorem axis?_eq_some_iff : axis? rank dim = some axis ↔ NamesAxis rank dim axis := by
  constructor
  · intro h
    unfold axis? at h
    dsimp only at h
    split_ifs at h with hfirst hlast
    · obtain rfl := Option.some.inj h
      exact ⟨by omega, by omega⟩
    · obtain rfl := Option.some.inj h
      exact ⟨by omega, by omega⟩
  · rintro ⟨hlt, hdim⟩
    unfold axis?
    dsimp only
    split_ifs with hfirst hlast
    · rw [Option.some.injEq]
      omega
    · rw [Option.some.injEq]
      omega
    · omega

theorem axis?_eq_none_iff : axis? rank dim = none ↔ OutOfRange rank dim := by
  unfold axis? OutOfRange
  dsimp only
  split_ifs <;> simp <;> omega

/-! ### The steps on a whole array -/

def ofSlices (K : Kernel) (axis : ℕ) (t : Tensor K.Logit) : Tensor K.Score :=
  t.changeAxis (slice K) (length_slice K) axis

theorem tops?_of_empty (h : t.shape[axis]? = some 0) : tops? K axis t = none := if_pos h

theorem exists_tops? (hsize : t.shape[axis]? ≠ some 0) :
    ∃ tops, tops? K axis t = some tops ∧ tops.shape = t.shape.set axis 1 ∧
      ∀ coordinates, List.Forall₂ (· < ·) coordinates t.shape →
        tops.cell? (coordinates.set axis 0) =
          (K.logits.best? (t.through axis coordinates)).map (·.2) := by
  rw [tops?, if_neg hsize]
  apply exists_values?_reduce hsize
  intro coordinates h
  cases hslice : t.through axis coordinates with
  | nil =>
    obtain ⟨x, hx⟩ := exists_cell? t h
    rw [← getElem?_through_self h axis, hslice] at hx
    exact absurd hx.symm (Option.some_ne_none x)
  | cons x rest => exact ⟨_, rfl⟩

theorem getElem?_shifts (logits : List K.Logit) (i : ℕ) : (shifts K logits)[i]? =
    logits[i]?.bind fun x => ((K.logits.best? logits).map (·.2)).map (K.sub x) := by
  rw [shifts]
  cases K.logits.best? logits with
  | none => cases logits[i]? <;> rfl
  | some best => cases h : logits[i]? <;> simp [h]

/-- Less the greatest logits, spread along the axis, an array is left with the shifts of its
slices. -/
theorem combine?_tops (haxis : axis < max t.rank 1) (hsize : t.shape[axis]? ≠ some 0) :
    ((tops? K axis t).bind fun tops => combine? K.sub t tops) =
      some (t.changeAxis (shifts K) (length_shifts K) axis) := by
  obtain ⟨tops, htops, hshape, hcell⟩ := exists_tops? (K := K) hsize
  obtain ⟨shifted, hshifted, hsame, hshift⟩ := exists_combine? K.sub hshape
  rw [htops, Option.bind_some, hshifted, Option.some.injEq]
  apply eq_changeAxis haxis hsame
  intro coordinates h
  rw [hshift coordinates h, hcell coordinates h, getElem?_shifts, getElem?_through_self h]

/-- Divided by their sums, spread along the axis, the weights are the scores of their slices. -/
theorem combine?_totals (weights : Tensor K.Score) (haxis : axis < max weights.rank 1) :
    combine? K.div weights (weights.reduce (·.foldl K.add K.zero) axis) =
      some (weights.changeAxis (fun slice => slice.map (K.div · (slice.foldl K.add K.zero)))
        (fun _ => List.length_map ..) axis) := by
  obtain ⟨scores, hscores, hsame, hscore⟩ := exists_combine? K.div
    (show (weights.reduce (·.foldl K.add K.zero) axis).shape = weights.shape.set axis 1 from rfl)
  rw [hscores, Option.some.injEq]
  apply eq_changeAxis haxis hsame
  intro coordinates h
  rw [hscore coordinates h, cell?_reduce _ axis h, List.getElem?_map, getElem?_through_self h]
  cases weights.cell? coordinates <;> rfl

theorem changeAxis_shifts (haxis : axis < max t.rank 1) :
    ((t.changeAxis (shifts K) (length_shifts K) axis).map K.exp).changeAxis
        (fun slice => slice.map (K.div · (slice.foldl K.add K.zero)))
        (fun _ => List.length_map ..) axis = ofSlices K axis t := by
  refine eq_changeAxis (t := t) haxis ?_ ?_
  · rfl
  · intro coordinates h
    rw [cell?_changeAxis (t := (t.changeAxis (shifts K) _ axis).map K.exp) haxis h, through_map,
      through_changeAxis haxis h]
    rfl

theorem along_eq_ok (h : NamesAxis t.rank dim axis) (hsize : t.shape[axis]? ≠ some 0) :
    along K dim t = .ok (ofSlices K axis t) := by
  have htops := combine?_tops (K := K) h.axis_lt hsize
  obtain ⟨tops, htop, hshifted⟩ := Option.bind_eq_some_iff.1 htops
  have htotals := combine?_totals ((t.changeAxis (shifts K) (length_shifts K) axis).map K.exp)
    h.axis_lt
  have halong : along? K dim t = some (ofSlices K axis t) := by
    simp only [along?, axis?_eq_some_iff.2 h, htop, hshifted, htotals, changeAxis_shifts h.axis_lt,
      Option.bind_eq_bind, Option.bind_some]
  rw [along, halong]

theorem along_eq_error (h : axis? t.rank dim = none ∨
    ∃ axis, axis? t.rank dim = some axis ∧ t.shape[axis]? = some 0) :
    along K dim t = .error (.misuse .outOfRange) := by
  have halong : along? K dim t = none := by
    rcases h with hnone | ⟨axis, haxis, hempty⟩
    · simp only [along?, hnone, Option.bind_eq_bind, Option.bind_none]
    · simp only [along?, haxis, tops?_of_empty hempty, Option.bind_eq_bind, Option.bind_some,
        Option.bind_none]
  rw [along, halong]

theorem namesAxis_last : NamesAxis 3 (-1) 2 := ⟨by decide, Or.inr rfl⟩

end EntityTagger.Softmax
