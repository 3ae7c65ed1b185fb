import EntityTagger.Entity
import Mathlib.Data.Int.Notation
import Mathlib.Data.List.Basic

/-! Items scattered into groups one after the other: each group grows by the items whose index means
it, and the first index that means no group ends it. -/
namespace EntityTagger.Entity

variable {α β : Type} {count place : ℕ} {index : ℤ} {item : α} {groups : List (List α)}
  {pairs : List (ℤ × α)}

/-- An index means a place, counted from the start or from the end. -/
def Means (count place : ℕ) (index : ℤ) : Prop := index = place ∨ index = place - count

instance : Decidable (Means count place index) := inferInstanceAs (Decidable (_ ∨ _))

def InRange (count : ℕ) (index : ℤ) : Prop := -(count : ℤ) ≤ index ∧ index < count

instance : Decidable (InRange count index) := inferInstanceAs (Decidable (_ ∧ _))

theorem place?_eq_some_iff :
    place? count index = some place ↔ place < count ∧ Means count place index := by
  unfold place? Means
  split_ifs <;> simp only [Option.some.injEq, false_iff] <;> omega

theorem place?_eq_none_iff : place? count index = none ↔ ¬ InRange count index := by
  unfold place? InRange
  split_ifs <;> simp only [false_iff, true_iff] <;> omega

theorem exists_place?_iff : (∃ place, place? count index = some place) ↔ InRange count index := by
  rw [← not_iff_not, ← place?_eq_none_iff, Option.eq_none_iff_forall_ne_some, not_exists]

theorem Means.unique {other : ℕ} (hplace : place < count) (hother : other < count)
    (h : Means count place index) (h' : Means count other index) : place = other := by
  unfold Means at h h'
  omega

/-- The items whose index means a place, in order. -/
def itemsAt (count place : ℕ) (pairs : List (ℤ × α)) : List α :=
  (pairs.filter fun pair => Means count place pair.1).map Prod.snd

theorem itemsAt_cons_of_means (h : Means count place index) (rest : List (ℤ × α)) :
    itemsAt count place ((index, item) :: rest) = item :: itemsAt count place rest := by
  rw [itemsAt, List.filter_cons_of_pos (by simpa using h)]
  rfl

theorem itemsAt_cons_of_not_means (h : ¬ Means count place index) (rest : List (ℤ × α)) :
    itemsAt count place ((index, item) :: rest) = itemsAt count place rest := by
  rw [itemsAt, List.filter_cons_of_neg (by simpa using h)]
  rfl

theorem scatter_cons_of_some (h : place? groups.length index = some place)
    (rest : List (ℤ × α)) :
    scatter groups ((index, item) :: rest) = scatter (groups.modify place (· ++ [item])) rest := by
  simp only [scatter, h]

theorem scatter_cons_of_none (h : place? groups.length index = none) (rest : List (ℤ × α)) :
    scatter groups ((index, item) :: rest) = .error (.misuse .outOfRange) := by
  simp only [scatter, h]

/-- The group of the first item has it before all the items that are still to come, and the others
are as they were. -/
theorem mapIdx_modify (h : place? groups.length index = some place) (rest : List (ℤ × α)) :
    (groups.modify place (· ++ [item])).mapIdx
      (fun input group => group ++ itemsAt groups.length input rest) =
    groups.mapIdx fun input group => group ++ itemsAt groups.length input ((index, item) :: rest) := by
  obtain ⟨hplace, hmeans⟩ := place?_eq_some_iff.1 h
  refine List.ext_getElem (by simp) fun other hother _ => ?_
  rw [List.getElem_mapIdx, List.getElem_mapIdx, List.getElem_modify]
  split_ifs with hsame
  · subst hsame
    rw [itemsAt_cons_of_means hmeans, List.append_assoc, List.singleton_append]
  · have hlt : other < groups.length := by simpa using hother
    rw [itemsAt_cons_of_not_means fun hothers => hsame (hmeans.unique hplace hlt hothers)]

/-- Each group keeps what it has and gets the items whose index means it. -/
theorem scatter_eq_ok (h : ∀ pair ∈ pairs, InRange groups.length pair.1) :
    scatter groups pairs =
      .ok (groups.mapIdx fun place group => group ++ itemsAt groups.length place pairs) := by
  induction pairs generalizing groups with
  | nil =>
    refine congrArg Except.ok (List.ext_getElem (by simp) fun place _ _ => ?_)
    simp [itemsAt]
  | cons pair rest ih =>
    obtain ⟨index, item⟩ := pair
    obtain ⟨place, hplace⟩ := exists_place?_iff.2 (h _ (List.mem_cons_self ..))
    have hlength : (groups.modify place (· ++ [item])).length = groups.length := by simp
    rw [scatter_cons_of_some hplace, ih, hlength, mapIdx_modify hplace]
    intro pair hpair
    rw [hlength]
    exact h pair (List.mem_cons_of_mem _ hpair)

theorem scatter_eq_error_iff {e : Error} :
    scatter groups pairs = .error e ↔
      e = .misuse .outOfRange ∧ ∃ pair ∈ pairs, ¬ InRange groups.length pair.1 := by
  induction pairs generalizing groups with
  | nil => simp [scatter]
  | cons pair rest ih =>
    obtain ⟨index, item⟩ := pair
    cases hplace : place? groups.length index with
    | none =>
      have hout := place?_eq_none_iff.1 hplace
      rw [scatter_cons_of_none hplace, Except.error.injEq, eq_comm]
      exact ⟨fun he => ⟨he, _, List.mem_cons_self .., hout⟩, And.left⟩
    | some place =>
      have hin := exists_place?_iff.1 ⟨place, hplace⟩
      rw [scatter_cons_of_some hplace, ih, List.length_modify, List.exists_mem_cons_iff]
      simp only [hin, not_true_eq_false, false_or]

section Group

variable {indices : List ℤ} {items : List α}

theorem group_eq_ok (h : ∀ pair ∈ indices.zip items, InRange count pair.1) :
    group indices items count =
      .ok ((List.range count).map fun place => itemsAt count place (indices.zip items)) := by
  rw [group, scatter_eq_ok (by simpa using h), List.length_replicate]
  exact congrArg Except.ok (List.ext_getElem (by simp) fun place _ _ => by simp)

theorem group_eq_error_iff {e : Error} :
    group indices items count = .error e ↔
      e = .misuse .outOfRange ∧ ∃ pair ∈ indices.zip items, ¬ InRange count pair.1 := by
  rw [group, scatter_eq_error_iff, List.length_replicate]

theorem group_map {items : List α} {place : α → ℕ} {f : α → β}
    (h : ∀ x ∈ items, place x < count) :
    group (items.map fun x => (place x : ℤ)) (items.map f) count =
      .ok ((List.range count).map fun input => (items.filter (place · = input)).map f) := by
  rw [group_eq_ok, List.zip_map']
  · refine congrArg Except.ok (List.map_congr_left fun input hinput => ?_)
    rw [itemsAt, List.filter_map, List.map_map]
    refine congrArg (List.map f) (List.filter_congr fun x hx => ?_)
    have hplace := h x hx
    have hlt := List.mem_range.1 hinput
    have hmeans : Means count input (place x : ℤ) ↔ place x = input := by
      unfold Means
      omega
    exact decide_eq_decide.2 hmeans
  · rw [List.zip_map']
    intro pair hpair
    obtain ⟨x, hx, rfl⟩ := List.mem_map.1 hpair
    have hplace := h x hx
    unfold InRange
    dsimp only
    omega

end Group

end EntityTagger.Entity
