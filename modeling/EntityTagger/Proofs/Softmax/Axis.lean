import EntityTagger.ElementType
import EntityTagger.Proofs.Softmax

/-! Softmax along any axis of an array of any rank: every slice is normalised on its own. -/
namespace EntityTagger.Softmax

open Tensor

variable {K : Kernel} {rank axis : ℕ} {dim : ℤ} {t : Tensor K.Logit}

theorem along_eq_error_iff {e : Error} : along K dim t = .error e ↔ e = .misuse .outOfRange ∧
    (OutOfRange t.rank dim ∨ ∃ axis, NamesAxis t.rank dim axis ∧ t.shape[axis]? = some 0) := by
  cases haxis : axis? t.rank dim with
  | none =>
    have hout := axis?_eq_none_iff.1 haxis
    simp [along_eq_error (Or.inl haxis), hout, eq_comm]
  | some axis =>
    have hnames := axis?_eq_some_iff.1 haxis
    have hin : ¬ OutOfRange t.rank dim := by
      rw [← axis?_eq_none_iff, haxis]
      exact Option.some_ne_none axis
    have honly : ∀ other, NamesAxis t.rank dim other → other = axis := by
      intro other hother
      rw [← axis?_eq_some_iff, haxis] at hother
      exact (Option.some.inj hother).symm
    have hiff : (∃ axis, NamesAxis t.rank dim axis ∧ t.shape[axis]? = some 0) ↔
        t.shape[axis]? = some 0 := by
      constructor
      · rintro ⟨other, hother, hsize⟩
        rwa [← honly other hother]
      · intro hsize
        exact ⟨axis, hnames, hsize⟩
    rw [hiff]
    by_cases hsize : t.shape[axis]? = some 0
    · simp [along_eq_error (Or.inr ⟨axis, haxis, hsize⟩), hsize, eq_comm]
    · simp [along_eq_ok hnames hsize, hin, hsize]

theorem along_line (logits : List K.Logit) (hne : logits ≠ []) :
    along K 0 (line logits) = .ok (line (slice K logits)) := by
  have hnames : NamesAxis (line logits).rank 0 0 := ⟨lt_max_of_lt_right Nat.zero_lt_one, Or.inl rfl⟩
  have hsize : (line logits).shape[0]? ≠ some 0 := by simpa [line] using hne
  rw [along_eq_ok hnames hsize]
  refine congrArg _ (eq_of_cells ?_ ?_)
  · show [logits.length] = [(slice K logits).length]
    rw [length_slice]
  · exact mapAxis_single (length_slice K) logits

/-- What normalising along an axis makes of an array: the scores of every slice on its own. -/
structure NormalisesAlong (K : Kernel) (axis : ℕ) (t : Tensor K.Logit) (scores : Tensor K.Score) :
    Prop where
  shape_eq : scores.shape = t.shape
  slice_eq : ∀ coordinates, List.Forall₂ (· < ·) coordinates t.shape → ∀ i,
    (t.through axis coordinates)[i]? =
      if i < t.shape.getD axis 1 then t.cell? (coordinates.set axis i) else none
  cell_eq : ∀ coordinates, List.Forall₂ (· < ·) coordinates t.shape → ∃ s,
    scores.cell? coordinates = some s ∧
      (slice K (t.through axis coordinates))[coordinates.getD axis 0]? = some s
  one_axis : ∀ coordinates, List.Forall₂ (· < ·) coordinates t.shape →
    along K 0 (line (t.through axis coordinates)) =
      .ok (line (slice K (t.through axis coordinates)))
  moved : along K (-1) (t.moveLast axis) = .ok (scores.moveLast axis)
  cell_moved : ∀ coordinates, List.Forall₂ (· < ·) coordinates t.shape →
    (t.moveLast axis).cell? (toLast axis coordinates) = t.cell? coordinates ∧
      (scores.moveLast axis).cell? (toLast axis coordinates) = scores.cell? coordinates

theorem cell?_ofSlices (haxis : axis < max t.rank 1) {coordinates : List ℕ}
    (h : List.Forall₂ (· < ·) coordinates t.shape) : (ofSlices K axis t).cell? coordinates =
      (slice K (t.through axis coordinates))[coordinates.getD axis 0]? :=
  getElem?_mapAxis (length_slice K) t.length_cells haxis h

/-- Moving the axis behind all others first comes to the same as moving it there in the end. -/
theorem ofSlices_moveLast (haxis : axis < max t.rank 1) :
    ofSlices K (t.rank - 1) (t.moveLast axis) = (ofSlices K axis t).moveLast axis :=
  eq_of_cells rfl (mapAxis_moveCells (length_slice K) t.length_cells haxis)

theorem normalisesAlong_ofSlices (haxis : axis < max t.rank 1) (hsize : t.shape[axis]? ≠ some 0) :
    NormalisesAlong K axis t (ofSlices K axis t) where
  shape_eq := rfl
  slice_eq := by
    intro coordinates h i
    exact getElem?_through h axis i
  cell_eq := by
    intro coordinates h
    obtain ⟨s, hs⟩ := exists_cell? (ofSlices K axis t) h
    exact ⟨s, hs, (cell?_ofSlices haxis h).symm.trans hs⟩
  one_axis := by
    intro coordinates h
    apply along_line
    intro hnil
    obtain ⟨s, hs⟩ := exists_cell? (ofSlices K axis t) h
    rw [cell?_ofSlices haxis h, hnil] at hs
    simp [slice, shifts, Scale.best?] at hs
  moved := by
    have hrank : (t.moveLast axis).rank = t.rank := length_toLast axis t.shape
    have hlast : t.rank - 1 < max t.rank 1 := by omega
    have hnames : NamesAxis (t.moveLast axis).rank (-1) (t.rank - 1) := by
      rw [hrank]
      exact ⟨hlast, by omega⟩
    have hsize' : (t.moveLast axis).shape[t.rank - 1]? ≠ some 0 := by
      have hget : (toLast axis t.shape)[t.rank - 1]? = t.shape[axis]? := getElem?_toLast haxis
      rwa [← hget] at hsize
    rw [along_eq_ok hnames hsize', ofSlices_moveLast haxis]
  cell_moved := by
    intro coordinates h
    exact ⟨cell?_moveLast h axis, cell?_moveLast (t := ofSlices K axis t) h axis⟩

/-- Softmax along an axis has scores if and only if that axis is there and is not empty, and only
the lack of such an axis is reported. Every slice along it then has its own scores, whatever stands
in the others; so moving the axis behind all others turns it into softmax along the last one. Scores
are double for double logits and single for all others. -/
theorem along_slices (K : Kernel) (t : Tensor K.Logit) (dim : ℤ) :
    (∀ e, along K dim t = .error e ↔ e = .misuse .outOfRange ∧
      (OutOfRange t.rank dim ∨ ∃ axis, NamesAxis t.rank dim axis ∧ t.shape[axis]? = some 0)) ∧
    (∀ axis, NamesAxis t.rank dim axis → t.shape[axis]? ≠ some 0 →
      ∃ scores, along K dim t = .ok scores ∧ NormalisesAlong K axis t scores ∧
        ∀ other others coordinates, other.shape = t.shape → along K dim other = .ok others →
          List.Forall₂ (· < ·) coordinates t.shape →
            (∀ i < t.shape.getD axis 1,
              other.cell? (coordinates.set axis i) = t.cell? (coordinates.set axis i)) →
              others.cell? coordinates = scores.cell? coordinates) ∧
    ∀ e : ElementType, e.kernel.Score = Binary (if e = .double then .double else .single) := by
  refine ⟨fun e => along_eq_error_iff, ?_, ?_⟩
  · intro axis hnames hsize
    refine ⟨ofSlices K axis t, along_eq_ok hnames hsize,
      normalisesAlong_ofSlices hnames.axis_lt hsize, ?_⟩
    intro other others coordinates hshape hother h hsame
    have hrank : other.rank = t.rank := congrArg List.length hshape
    have hnames' : NamesAxis other.rank dim axis := hrank ▸ hnames
    rw [along_eq_ok hnames' (hshape ▸ hsize)] at hother
    obtain rfl := Except.ok.inj hother
    rw [cell?_ofSlices hnames'.axis_lt (hshape ▸ h), cell?_ofSlices hnames.axis_lt h,
      through_congr hshape h hsame]
  · intro e
    cases e <;> rfl

instance : DecidableEq ElementType.single.kernel.Score :=
  inferInstanceAs (DecidableEq (Binary .single))

def twoRows : Tensor ElementType.single.kernel.Logit :=
  ⟨[2, 3], [0, 1, 7, 0, 1, 7].map (Binary.ofInt .single), rfl⟩

def halves : List ElementType.single.kernel.Score :=
  List.replicate 6 (Format.single.round false 1 2)

/-- Down the columns both logits are the same, along the rows they differ. -/
theorem along_slices_twoRows :
    ∃ scores, along ElementType.single.kernel (-2) twoRows = .ok scores ∧
      NormalisesAlong ElementType.single.kernel 0 twoRows scores ∧ scores.cells = halves := by
  have hnames : NamesAxis twoRows.rank (-2) 0 := ⟨by decide, Or.inr rfl⟩
  obtain ⟨scores, hscores, hnormalised, -⟩ :=
    (along_slices ElementType.single.kernel twoRows (-2)).2.1 0 hnames (by decide)
  refine ⟨scores, hscores, hnormalised, ?_⟩
  have hcells : (along ElementType.single.kernel (-2) twoRows).toOption.map (·.cells) =
      some halves := by decide +kernel
  rw [hscores] at hcells
  exact Option.some.inj hcells

end EntityTagger.Softmax
