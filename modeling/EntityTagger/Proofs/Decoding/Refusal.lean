import EntityTagger.Proofs.Decoding.Stacked

/-! When decoding fails, and with what: first for the shape of the logits, then for that of the mask,
and only then for a label without a name; of the cells with such labels the first one is reported. -/
namespace EntityTagger

namespace Tensor

variable {α : Type} {source target : List ℕ} {t : Tensor α}

/-- A shape can be spread to another one that has as many axes or more: counted from the last, each
of its axes has the size of the other's, or 1. -/
def SpreadsTo (source target : List ℕ) : Prop :=
  source.length ≤ target.length ∧ List.Forall₂ (fun n m => n = m ∨ n = 1) source
    (target.drop (target.length - source.length))

theorem fits_iff_forall₂ :
    fits source target = true ↔ List.Forall₂ (fun n m => n = m ∨ n = 1) source target := by
  induction source generalizing target with
  | nil => cases target <;> simp [fits]
  | cons n source ih => cases target <;> simp [fits, ih]

theorem fits_replicate_append {k : ℕ} (h : k ≤ target.length) :
    fits (List.replicate k 1 ++ source) target = fits source (target.drop k) := by
  induction k generalizing target with
  | zero => rfl
  | succ k ih =>
    cases target with
    | nil => simp at h
    | cons m target =>
      rw [List.replicate_succ, List.cons_append, fits, List.drop_succ_cons,
        ih (Nat.le_of_succ_le_succ h)]
      simp

theorem exists_broadcastTo?_iff :
    (∃ result, t.broadcastTo? target = some result) ↔ SpreadsTo t.shape target := by
  have hfits : fits (List.replicate (target.length - t.rank) 1 ++ t.shape) target = true ↔
      SpreadsTo t.shape target := by
    rw [fits_replicate_append (Nat.sub_le _ _), fits_iff_forall₂, SpreadsTo, rank]
    refine (and_iff_right_of_imp fun h => ?_).symm
    have hlength := h.length_eq
    rw [List.length_drop] at hlength
    omega
  rw [← hfits]
  constructor
  · rintro ⟨result, hresult⟩
    exact (broadcastTo?_eq_some_iff.1 hresult).1
  · intro h
    have hlength := length_spread h (t.length_cells.trans (size_replicate_append _ _).symm)
    exact ⟨⟨target, _, hlength⟩, broadcastTo?_eq_some_iff.2 ⟨h, rfl, rfl⟩⟩

end Tensor

section Reports

/-- How a message names some ids: from the least to the greatest. -/
inductive Spans (ids : List ℤ) : Text → Prop
  | empty (hempty : ids = []) : Spans ids (text "<empty>")
  | range {least greatest : ℤ} (hleast : least ∈ ids ∧ ∀ id ∈ ids, least ≤ id)
      (hgreatest : greatest ∈ ids ∧ ∀ id ∈ ids, id ≤ greatest) :
      Spans ids (Text.ofInt least ++ text ".." ++ Text.ofInt greatest)

/-- What is told about an id that a mapping has no name for. -/
structure ConfigurationFault.Reports (fault : ConfigurationFault) (labels : LabelMapping) (id : ℤ) :
    Prop where
  labelId_eq : fault.labelId? = some id
  knownIds_eq : ∃ known, fault.knownIds? = some known ∧ (∀ k, k ∈ known ↔ k ∈ labels.ids) ∧
    (labels.ids.Nodup → known.Pairwise (· < ·))
  message_eq : ∃ domain, Spans labels.ids domain ∧ fault.message =
    text "Predicted label id " ++ Text.ofInt id ++ text " is not in the label mapping (mapped ids: " ++
      domain ++ text ", " ++ Text.ofNat labels.length ++ text " labels)"

variable (ids : List ℤ)

theorem perm_sortedIds : (sortedIds ids).Perm ids := List.mergeSort_perm _ _

theorem pairwise_sortedIds : (sortedIds ids).Pairwise (· ≤ ·) := by
  have hsorted := @List.pairwise_mergeSort ℤ (fun a b => decide (a ≤ b))
    (by simpa using fun a b c => Int.le_trans) (by simpa using Int.le_total) ids
  simpa [sortedIds] using hsorted

theorem spans_domain_sortedIds : Spans ids (ConfigurationFault.domain (sortedIds ids)) := by
  have hperm := perm_sortedIds ids
  have hsorted := pairwise_sortedIds ids
  rcases List.eq_nil_or_concat (sortedIds ids) with hnil | ⟨init, greatest, hlast⟩
  · rw [hnil] at hperm ⊢
    exact .empty hperm.nil_eq.symm
  · obtain ⟨least, rest, hfirst⟩ := List.exists_cons_of_ne_nil
      (show sortedIds ids ≠ [] by simp [hlast])
    have hdomain : ConfigurationFault.domain (sortedIds ids) =
        Text.ofInt least ++ text ".." ++ Text.ofInt greatest := by
      have hhead : (sortedIds ids).head? = some least := by rw [hfirst]; rfl
      have hgetLast : (sortedIds ids).getLast? = some greatest := by rw [hlast]; simp
      rw [ConfigurationFault.domain, hhead, hgetLast]
    rw [hdomain]
    refine .range ⟨hperm.mem_iff.1 (by simp [hfirst]), fun id hid => ?_⟩
      ⟨hperm.mem_iff.1 (by simp [hlast]), fun id hid => ?_⟩
    · have hmem := hperm.mem_iff.2 hid
      rw [hfirst] at hsorted hmem
      rcases List.mem_cons.1 hmem with rfl | hmem
      · exact Int.le_refl _
      · exact (List.pairwise_cons.1 hsorted).1 id hmem
    · have hmem := hperm.mem_iff.2 hid
      rw [hlast, List.concat_eq_append] at hsorted hmem
      rcases List.mem_append.1 hmem with hmem | hmem
      · exact (List.pairwise_append.1 hsorted).2.2 id hmem greatest (List.mem_singleton_self _)
      · exact (List.mem_singleton.1 hmem).le

theorem reports_unmapped (labels : LabelMapping) (id : ℤ) :
    (ConfigurationFault.unmapped id labels.ids).Reports labels id where
  labelId_eq := rfl
  knownIds_eq := by
    refine ⟨_, rfl, fun k => (perm_sortedIds _).mem_iff, fun hdistinct => ?_⟩
    have hnodup : (sortedIds labels.ids).Nodup := (perm_sortedIds _).nodup_iff.2 hdistinct
    exact (pairwise_sortedIds _).imp₂ (fun _ _ hle hne => lt_of_le_of_ne hle hne) hnodup
  message_eq := by
    refine ⟨_, spans_domain_sortedIds _, ?_⟩
    rw [ConfigurationFault.message, LabelMapping.ids, List.length_map]

end Reports

namespace Decoder

open Tensor

variable {e : ElementType} {labels : LabelMapping} {logits : Tensor e.kernel.Logit}
  {mask : Option (Tensor Bool)} {batches positions count : ℕ} {x : ℕ × ℕ}

/-- A cell that the mask keeps, with a label for entities that has no name. -/
structure IsUnnamed (labels : LabelMapping) (logits : Tensor e.kernel.Logit)
    (mask : Option (Tensor Bool)) (batches positions : ℕ) (x : ℕ × ℕ) : Prop where
  batch_lt : x.1 < batches
  position_lt : x.2 < positions
  isKept : IsKept mask x.1 x.2
  is_entity : bestAt e.kernel logits x.1 x.2 ≠ LabelMapping.nonEntity
  unnamed : (bestAt e.kernel logits x.1 x.2 : ℤ) ∉ labels.ids

theorem lookup_eq_error_iff {id : ℤ} {err : Error} : labels.lookup id = .error err ↔
    id ∉ labels.ids ∧ err = .configuration (.unmapped id labels.ids) := by
  have hget : id ∉ labels.ids ↔ Association.get? id labels = none := by
    rw [LabelMapping.ids, ← Association.exists_get?_iff]
    cases Association.get? id labels <;> simp
  rw [hget, LabelMapping.lookup]
  cases Association.get? id labels <;> simp [eq_comm]

theorem predictAt_eq_error_iff (he : e ≠ .integer)
    (hshape : logits.shape = [batches, positions, count]) (hcount : 0 < count)
    (hx : x ∈ chosen e.kernel logits mask batches positions) {err : Error} :
    predictAt e.kernel labels logits x = .error err ↔
      IsUnnamed labels logits mask batches positions x ∧
        err = .configuration (.unmapped (bestAt e.kernel logits x.1 x.2) labels.ids) := by
  obtain ⟨hin, hentity, hkept⟩ := (mem_chosen_iff he hshape hcount).1 hx
  rw [predictAt, Traversal.map_eq_error_iff, (best_cellAt he hshape hcount hin).1,
    lookup_eq_error_iff]
  exact and_congr_left fun _ => ⟨fun h => ⟨hin.1, hin.2, hkept, hentity, h⟩, (·.unnamed)⟩

theorem IsUnnamed.mem_chosen (he : e ≠ .integer)
    (hshape : logits.shape = [batches, positions, count]) (hcount : 0 < count)
    (h : IsUnnamed labels logits mask batches positions x) :
    x ∈ chosen e.kernel logits mask batches positions :=
  (mem_chosen_iff he hshape hcount).2 ⟨⟨h.batch_lt, h.position_lt⟩, h.is_entity, h.isKept⟩

theorem pairwise_chosen {K : Kernel} (logits : Tensor K.Logit) (mask : Option (Tensor Bool))
    (batches positions : ℕ) : (chosen K logits mask batches positions).Pairwise Precedes :=
  (pairwise_places batches positions).sublist List.filter_sublist

theorem Precedes.irrefl (x : ℕ × ℕ) : ¬ Precedes x x := by
  rintro (h | ⟨-, h⟩)
  · exact lt_irrefl _ h
  · exact lt_irrefl _ h

theorem Precedes.asymm {x y : ℕ × ℕ} (h : Precedes x y) : ¬ Precedes y x := by
  unfold Precedes at *
  omega

theorem exists_kept (hmask : ∀ m ∈ mask, SpreadsTo m.shape [batches, positions]) (count : ℕ) :
    ∃ keep, kept [batches, positions, count] mask = .ok keep := by
  cases mask with
  | none => exact ⟨_, rfl⟩
  | some m =>
    obtain ⟨spread, hspread⟩ := exists_broadcastTo?_iff.2 (hmask m rfl)
    exact ⟨spread.cells, by simp [kept, hspread]⟩

theorem kept_of_not_spreadsTo {m : Tensor Bool} (h : ¬ SpreadsTo m.shape [batches, positions])
    (count : ℕ) : kept [batches, positions, count] (some m) = .error (.misuse .mismatch) := by
  have hnone : m.broadcastTo? [batches, positions] = none := by
    rw [Option.eq_none_iff_forall_not_mem]
    exact fun result hresult => h (exists_broadcastTo?_iff.1 ⟨result, hresult⟩)
  simp [kept, hnone]

/-- The first of the cells whose labels have no name. -/
structure IsFirstUnnamed (labels : LabelMapping) (logits : Tensor e.kernel.Logit)
    (mask : Option (Tensor Bool)) (batches positions : ℕ) (x : ℕ × ℕ) : Prop where
  isUnnamed : IsUnnamed labels logits mask batches positions x
  first : ∀ y, Precedes y x → ¬ IsUnnamed labels logits mask batches positions y

/-- Decoding stops at the first of the cells whose labels have no name. -/
theorem decode_eq_error_iff (he : e ≠ .integer)
    (hshape : logits.shape = [batches, positions, count]) (hcount : 0 < count)
    (hmask : ∀ m ∈ mask, SpreadsTo m.shape [batches, positions]) {err : Error} :
    decode e.kernel labels logits mask = .error err ↔
      ∃ x, IsFirstUnnamed labels logits mask batches positions x ∧
        err = .configuration (.unmapped (bestAt e.kernel logits x.1 x.2) labels.ids) := by
  obtain ⟨keep, hkeep⟩ := exists_kept hmask count
  have hordered := pairwise_chosen logits mask batches positions
  rw [decode_eq_mapM labels hshape hcount, hkeep]
  show List.mapM _ _ = _ ↔ _
  rw [Traversal.mapM_eq_error_iff]
  constructor
  · rintro ⟨before, x, after, hsplit, hbefore, herror⟩
    have hmem : ∀ y ∈ before ++ x :: after, y ∈ chosen e.kernel logits mask batches positions :=
      fun y hy => hsplit ▸ hy
    obtain ⟨hunnamed, rfl⟩ :=
      (predictAt_eq_error_iff he hshape hcount (hmem x (by simp))).1 herror
    refine ⟨x, ⟨hunnamed, fun y hlt hy => ?_⟩, rfl⟩
    have hchosen := hy.mem_chosen he hshape hcount
    rw [hsplit] at hordered hchosen
    rcases List.mem_append.1 hchosen with hin | hin
    · obtain ⟨p, hp⟩ := hbefore y hin
      have hfails := (predictAt_eq_error_iff he hshape hcount (hmem y (by simp [hin]))).2 ⟨hy, rfl⟩
      simp [hp] at hfails
    · rcases List.mem_cons.1 hin with rfl | hin
      · exact hlt.irrefl
      · have hafter := List.pairwise_cons.1 (List.pairwise_append.1 hordered).2.1
        exact hlt.asymm (hafter.1 y hin)
  · rintro ⟨x, ⟨hunnamed, hfirst⟩, rfl⟩
    obtain ⟨before, after, hsplit⟩ :=
      List.append_of_mem (hunnamed.mem_chosen he hshape hcount)
    have hmem : ∀ y ∈ before ++ x :: after, y ∈ chosen e.kernel logits mask batches positions :=
      fun y hy => hsplit ▸ hy
    refine ⟨before, x, after, hsplit, fun y hy => ?_, ?_⟩
    · rw [hsplit] at hordered
      have hlt := (List.pairwise_append.1 hordered).2.2 y hy x (List.mem_cons_self ..)
      cases hpredict : predictAt e.kernel labels logits y with
      | ok p => exact ⟨p, rfl⟩
      | error err =>
        have hy := (predictAt_eq_error_iff he hshape hcount (hmem y (by simp [hy]))).1 hpredict
        exact absurd hy.1 (hfirst y hlt)
    · exact (predictAt_eq_error_iff he hshape hcount (hmem x (by simp))).2 ⟨hunnamed, rfl⟩

theorem exists_error_of_isUnnamed (he : e ≠ .integer)
    (hshape : logits.shape = [batches, positions, count]) (hcount : 0 < count)
    (hmask : ∀ m ∈ mask, SpreadsTo m.shape [batches, positions])
    (hx : IsUnnamed labels logits mask batches positions x) :
    ∃ err, decode e.kernel labels logits mask = .error err := by
  obtain ⟨keep, hkeep⟩ := exists_kept hmask count
  cases hdecode : decode e.kernel labels logits mask with
  | error err => exact ⟨err, rfl⟩
  | ok predictions =>
    rw [decode_eq_mapM labels hshape hcount, hkeep] at hdecode
    obtain ⟨p, hp⟩ := Traversal.ok_of_mapM_eq_ok hdecode (hx.mem_chosen he hshape hcount)
    have hfails := (predictAt_eq_error_iff he hshape hcount
      (hx.mem_chosen he hshape hcount)).2 ⟨hx, rfl⟩
    simp [hp] at hfails

theorem bestAt_lt (he : e ≠ .integer) (hshape : logits.shape = [batches, positions, count])
    (hcount : 0 < count) (hx : x.1 < batches ∧ x.2 < positions) :
    bestAt e.kernel logits x.1 x.2 < count := by
  have hscore := (best_cellAt he hshape hcount hx).2.1
  have hlt := (List.getElem?_eq_some_iff.1 hscore).1
  rwa [Softmax.length_slice, length_sliceAt hshape hx.1 hx.2] at hlt

theorem scores_of_rank_ne {K : Kernel} {logits : Tensor K.Logit} (h : logits.rank ≠ 3) :
    scores K logits = .error (.input (.logitsRank logits.shape)) := if_pos h

theorem scores_of_no_labels {K : Kernel} {logits : Tensor K.Logit}
    (h : logits.shape = [batches, positions, 0]) :
    scores K logits = .error (.misuse .outOfRange) := by
  have hrank : logits.rank = 3 := by rw [rank, h]; rfl
  have haxis : Softmax.axis? logits.rank (-1) = some 2 := hrank ▸ rfl
  have hempty : logits.shape[2]? = some 0 := by rw [h]; rfl
  rw [scores, if_neg (not_not.2 hrank)]
  exact Softmax.along_eq_error (Or.inr ⟨2, haxis, hempty⟩)

/-- Decoding fails for logits without three axes or without labels, and for a mask that cannot be
spread over the cells, whatever the labels are called. Otherwise it fails exactly if a cell that is
kept has a label for entities without a name. The first such cell is reported, with the ids that
have names; so names for all labels but that for no entity are enough. -/
theorem decode_refuses (he : e ≠ .integer) (logits : Tensor e.kernel.Logit)
    (mask : Option (Tensor Bool)) (labels : LabelMapping) :
    (logits.rank ≠ 3 →
      decode e.kernel labels logits mask = .error (.input (.logitsRank logits.shape))) ∧
    ∀ batches positions count, logits.shape = [batches, positions, count] →
      (count = 0 → decode e.kernel labels logits mask = .error (.misuse .outOfRange)) ∧
      (0 < count → (∃ m ∈ mask, ¬ SpreadsTo m.shape [batches, positions]) →
        decode e.kernel labels logits mask = .error (.misuse .mismatch)) ∧
      (0 < count → (∀ m ∈ mask, SpreadsTo m.shape [batches, positions]) →
        ((∃ fault, decode e.kernel labels logits mask = .error (.configuration fault)) ↔
          ∃ x, IsUnnamed labels logits mask batches positions x) ∧
        (∀ err, decode e.kernel labels logits mask = .error err → ∃ x fault,
          IsFirstUnnamed labels logits mask batches positions x ∧ err = .configuration fault ∧
            fault.Reports labels (bestAt e.kernel logits x.1 x.2)) ∧
        ((∀ id, 0 < id → id < count → (id : ℤ) ∈ labels.ids) →
          ∃ predictions, decode e.kernel labels logits mask = .ok predictions)) := by
  refine ⟨fun hrank => by rw [decode, scores_of_rank_ne hrank]; rfl, ?_⟩
  intro batches positions count hshape
  refine ⟨?_, ?_, ?_⟩
  · rintro rfl
    rw [decode, scores_of_no_labels hshape]
    rfl
  · rintro hcount ⟨m, hm, hnot⟩
    obtain rfl : mask = some m := hm
    rw [decode_eq_mapM labels hshape hcount, kept_of_not_spreadsTo hnot]
    rfl
  · intro hcount hmask
    have hfails : ∀ err, decode e.kernel labels logits mask = .error err ↔ _ := fun err =>
      decode_eq_error_iff he hshape hcount hmask
    refine ⟨⟨?_, ?_⟩, ?_, ?_⟩
    · rintro ⟨fault, hfault⟩
      obtain ⟨x, hx, -⟩ := (hfails _).1 hfault
      exact ⟨x, hx.isUnnamed⟩
    · rintro ⟨x, hx⟩
      obtain ⟨err, herr⟩ := exists_error_of_isUnnamed he hshape hcount hmask hx
      obtain ⟨y, -, rfl⟩ := (hfails err).1 herr
      exact ⟨_, herr⟩
    · intro err herr
      obtain ⟨x, hx, rfl⟩ := (hfails err).1 herr
      exact ⟨x, _, hx, rfl, reports_unmapped labels _⟩
    · intro hall
      cases hdecode : decode e.kernel labels logits mask with
      | ok predictions => exact ⟨predictions, rfl⟩
      | error err =>
        obtain ⟨x, ⟨hx, -⟩, -⟩ := (hfails err).1 hdecode
        have hlt := bestAt_lt he hshape hcount ⟨hx.batch_lt, hx.position_lt⟩
        exact absurd (hall _ (Nat.pos_of_ne_zero hx.is_entity) hlt) hx.unnamed

def secondColumn : Tensor Bool := ⟨[1, 2], [false, true], rfl⟩

/-- The second cells of both rows have a label without a name, and that of the first row is
reported. -/
theorem decode_refuses_fourCells :
    (∀ m ∈ some secondColumn, SpreadsTo m.shape [2, 2]) ∧
    IsFirstUnnamed [(7, text "OFF"), (-2, text "ON")] fourCells (some secondColumn) 2 2 (0, 1) ∧
    ∃ fault, decode ElementType.single.kernel [(7, text "OFF"), (-2, text "ON")] fourCells
        (some secondColumn) = .error (.configuration fault) ∧
      fault.Reports [(7, text "OFF"), (-2, text "ON")] 1 := by
  have hspread : ∀ m ∈ some secondColumn, SpreadsTo m.shape [2, 2] := by
    rintro m ⟨⟩
    exact ⟨by decide, .cons (Or.inr rfl) (.cons (Or.inl rfl) .nil)⟩
  have hbest : bestAt ElementType.single.kernel fourCells 0 1 = 1 := by decide +kernel
  have hunnamed : IsUnnamed [(7, text "OFF"), (-2, text "ON")] fourCells (some secondColumn) 2 2
      (0, 1) :=
    ⟨by decide, by decide, by decide, by rw [hbest]; decide, by rw [hbest]; decide⟩
  obtain ⟨hiff, hfirst, -⟩ := ((decode_refuses (show ElementType.single ≠ .integer by decide)
    fourCells (some secondColumn) [(7, text "OFF"), (-2, text "ON")]).2 2 2 2 rfl).2.2
      (by decide) hspread
  obtain ⟨fault, hfault⟩ := hiff.2 ⟨(0, 1), hunnamed⟩
  obtain ⟨⟨i, p⟩, fault', hx, heq, hreports⟩ := hfirst _ hfault
  have hplace : ∀ i < 2, ∀ p < 2, IsKept (some secondColumn) i p →
      i = 0 ∧ p = 1 ∨ i = 1 ∧ p = 1 := by decide
  obtain ⟨rfl, rfl⟩ : i = 0 ∧ p = 1 := by
    refine (hplace i hx.isUnnamed.batch_lt p hx.isUnnamed.position_lt
      hx.isUnnamed.isKept).resolve_right ?_
    rintro ⟨rfl, rfl⟩
    exact hx.first (0, 1) (Or.inl Nat.zero_lt_one) hunnamed
  rw [hbest] at hreports
  obtain rfl : fault = fault' := by simpa using heq
  exact ⟨hspread, hx, fault, hfault, hreports⟩

end Decoder

end EntityTagger
