import EntityTagger.Proofs.Grouping

/-! Grouping is a stable partition: whatever the indices and however many there are, the groups hold
every item that has an index once, in the order of the items, or one of the indices means no
group. -/
namespace EntityTagger.Entity

variable {α : Type} {count place : ℕ} {groups : List (List α)} {pairs : List (ℤ × α)}

/-! ### Nothing is lost and nothing doubled -/

theorem perm_flatten_modify (h : place < groups.length) (item : α) :
    (groups.modify place (· ++ [item])).flatten.Perm (groups.flatten ++ [item]) := by
  have hsplit : groups = groups.take place ++ groups[place] :: groups.drop (place + 1) := by
    rw [List.cons_getElem_drop_succ, List.take_append_drop]
  have hmodify : groups.modify place (· ++ [item]) =
      groups.take place ++ (groups[place] ++ [item]) :: groups.drop (place + 1) :=
    List.modify_eq_take_cons_drop h
  have hgroups : groups.flatten =
      (groups.take place).flatten ++ (groups[place] ++ (groups.drop (place + 1)).flatten) := by
    conv_lhs => rw [hsplit, List.flatten_append, List.flatten_cons]
  rw [hmodify, hgroups, List.flatten_append, List.flatten_cons, List.append_assoc,
    List.append_assoc, List.append_assoc]
  apply List.Perm.append_left
  apply List.Perm.append_left
  exact List.perm_append_comm

theorem perm_flatten_of_scatter {result : List (List α)} (h : scatter groups pairs = .ok result) :
    result.flatten.Perm (groups.flatten ++ pairs.map Prod.snd) := by
  induction pairs generalizing groups with
  | nil =>
    obtain rfl := Except.ok.inj h
    simp
  | cons pair rest ih =>
    obtain ⟨index, item⟩ := pair
    cases hplace : place? groups.length index with
    | none => simp [scatter_cons_of_none hplace] at h
    | some place =>
      rw [scatter_cons_of_some hplace] at h
      have hlt := (place?_eq_some_iff.1 hplace).1
      calc result.flatten.Perm
            ((groups.modify place (· ++ [item])).flatten ++ rest.map Prod.snd) := ih h
        _ |>.Perm ((groups.flatten ++ [item]) ++ rest.map Prod.snd) :=
            (perm_flatten_modify hlt item).append_right _
        _ = groups.flatten ++ ((index, item) :: rest).map Prod.snd := by
            rw [List.append_assoc, List.map_cons, List.singleton_append]

/-! ### The order of the items -/

/-- Where the indices are counted from the start and never go back, the groups one after the other
are the items as they came. -/
theorem flatten_itemsAt (hrange : ∀ pair ∈ pairs, InRange count pair.1)
    (hnonneg : ∀ pair ∈ pairs, 0 ≤ pair.1) (hordered : pairs.Pairwise fun a b => a.1 ≤ b.1) :
    ((List.range count).map fun place => itemsAt count place pairs).flatten =
      pairs.map Prod.snd := by
  have hkeys : pairs.Pairwise fun a b => a.1.toNat ≤ b.1.toNat :=
    hordered.imp fun hle => Int.toNat_le_toNat hle
  have hlt : ∀ pair ∈ pairs, pair.1.toNat < count := by
    intro pair hpair
    have hbelow := (hrange pair hpair).2
    have := hnonneg pair hpair
    omega
  have hitems : ∀ place ∈ List.range count, itemsAt count place pairs =
      (pairs.filter fun pair => pair.1.toNat = place).map Prod.snd := by
    intro place hplace
    refine congrArg (List.map Prod.snd) (List.filter_congr fun pair hpair => ?_)
    have hin := hlt pair hpair
    have hpos := hnonneg pair hpair
    have hplace := List.mem_range.1 hplace
    have hmeans : Means count place pair.1 ↔ pair.1.toNat = place := by
      unfold Means
      omega
    exact decide_eq_decide.2 hmeans
  rw [List.map_congr_left hitems]
  conv_rhs => rw [← flatten_groups hkeys hlt, List.map_flatten, List.map_map]
  rfl

/-! ### Groups of items with indices -/

variable {indices : List ℤ} {items : List α}

def paired (indices : List ℤ) (items : List α) : ℕ := min indices.length items.length

theorem map_fst_zip_eq (indices : List ℤ) (items : List α) :
    (indices.zip items).map Prod.fst = indices.take (paired indices items) := by
  rw [List.zip_eq_zip_take_min]
  exact List.map_fst_zip (by simp)

theorem map_snd_zip_eq (indices : List ℤ) (items : List α) :
    (indices.zip items).map Prod.snd = items.take (paired indices items) := by
  rw [List.zip_eq_zip_take_min]
  exact List.map_snd_zip (by simp)

theorem forall_zip_iff {P : ℤ → Prop} : (∀ pair ∈ indices.zip items, P pair.1) ↔
    ∀ index ∈ indices.take (paired indices items), P index := by
  rw [← map_fst_zip_eq, List.forall_mem_map]

/-- Every item that has an index stands once in the groups: in the group that its index means,
counted from the start or from the end, and there in the order of the items. -/
structure IsPartition (indices : List ℤ) (items : List α) (count : ℕ) (groups : List (List α)) :
    Prop where
  length_eq : groups.length = count
  group_eq : ∀ place < count, groups[place]? = some (((indices.zip items).filter
    fun pair => pair.1 = (place : ℤ) ∨ pair.1 = (place : ℤ) - count).map Prod.snd)
  perm : groups.flatten.Perm (items.take (paired indices items))
  in_order : (∀ index ∈ indices.take (paired indices items), 0 ≤ index) →
    (indices.take (paired indices items)).Pairwise (· ≤ ·) →
      groups.flatten = items.take (paired indices items)

theorem isPartition_itemsAt (h : ∀ pair ∈ indices.zip items, InRange count pair.1) :
    IsPartition indices items count
      ((List.range count).map fun place => itemsAt count place (indices.zip items)) where
  length_eq := by simp
  group_eq place hplace := by
    rw [List.getElem?_map, List.getElem?_range hplace, Option.map_some]
    rfl
  perm := by
    have hperm := perm_flatten_of_scatter (group_eq_ok h)
    rwa [map_snd_zip_eq, List.flatten_replicate_nil, List.nil_append] at hperm
  in_order hnonneg hordered := by
    rw [← map_fst_zip_eq, List.pairwise_map] at hordered
    rw [← map_snd_zip_eq]
    exact flatten_itemsAt h (forall_zip_iff.2 hnonneg) hordered

/-- For all indices and items, the shorter list of which decides how many are paired, grouping fails
exactly if some paired index means none of the groups, with that error, and gives a stable partition
of the paired items if all mean one. -/
theorem group_partitions (indices : List ℤ) (items : List α) (count : ℕ) :
    (group indices items count = .error (.misuse .outOfRange) ↔
      ∃ index ∈ indices.take (paired indices items),
        ¬ (-(count : ℤ) ≤ index ∧ index < count)) ∧
    ((∀ index ∈ indices.take (paired indices items), -(count : ℤ) ≤ index ∧ index < count) →
      ∃ groups, group indices items count = .ok groups ∧
        IsPartition indices items count groups) := by
  constructor
  · rw [group_eq_error_iff, ← not_iff_not]
    push Not
    exact ⟨fun h => forall_zip_iff.1 (h rfl), fun h _ => forall_zip_iff.2 h⟩
  · intro h
    have hrange : ∀ pair ∈ indices.zip items, InRange count pair.1 := forall_zip_iff.2 h
    exact ⟨_, group_eq_ok hrange, isPartition_itemsAt hrange⟩

/-- Five indices, repeated, out of order and negative, for six items; and one that means no
group. -/
theorem group_partitions_sixItems :
    (∀ index ∈ [2, -3, 0, 2, -1].take 5, -((3 : ℕ) : ℤ) ≤ index ∧ index < (3 : ℕ)) ∧
    (∃ groups, group [2, -3, 0, 2, -1] ['a', 'b', 'c', 'd', 'e', 'f'] 3 = .ok groups ∧
      IsPartition [2, -3, 0, 2, -1] ['a', 'b', 'c', 'd', 'e', 'f'] 3 groups ∧
      groups = [['b', 'c'], [], ['a', 'd', 'e']]) ∧
    group [0, -4] ['a', 'b'] 3 = .error (.misuse .outOfRange) := by
  have hrange : ∀ index ∈ [2, -3, 0, 2, -1].take 5, -((3 : ℕ) : ℤ) ≤ index ∧ index < (3 : ℕ) := by
    decide
  obtain ⟨groups, hgroup, hpartition⟩ :=
    (group_partitions [2, -3, 0, 2, -1] ['a', 'b', 'c', 'd', 'e', 'f'] 3).2 hrange
  refine ⟨hrange, ⟨groups, hgroup, hpartition, ?_⟩, ?_⟩
  · exact (Except.ok.inj (hgroup.symm.trans rfl))
  · exact (group_partitions [0, -4] ['a', 'b'] 3).1.2 ⟨-4, by decide, by decide⟩

end EntityTagger.Entity
