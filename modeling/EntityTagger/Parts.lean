/-!
Lists cut into parts of one size, the last of which may be shorter.
-/

namespace EntityTagger

variable {α : Type} {size : Nat}

/-- Cuts a list into parts of a positive size. -/
def parts (size : Nat) (items : List α) : List (List α) :=
  (List.range ((items.length + size - 1) / size)).map fun k => (items.drop (k * size)).take size

theorem parts_nil (hs : 0 < size) : parts size ([] : List α) = [] := by
  have hcount : (0 + size - 1) / size = 0 := Nat.div_eq_of_lt (by omega)
  rw [parts, List.length_nil, hcount]
  rfl

theorem parts_of_ne_nil (hs : 0 < size) {items : List α} (hne : items ≠ []) :
    parts size items = items.take size :: parts size (items.drop size) := by
  have hpos : 0 < items.length := List.length_pos_iff.2 hne
  have hcount : (items.length + size - 1) / size = (items.length - size + size - 1) / size + 1 := by
    rcases Nat.lt_or_ge items.length size with hlt | hge
    · have hzero : items.length - size = 0 := by omega
      rw [hzero, Nat.div_eq_of_lt (show 0 + size - 1 < size by omega), Nat.zero_add]
      exact Nat.div_eq_of_lt_le (by omega) (by omega)
    · rw [show items.length + size - 1 = items.length - 1 + size by omega,
        Nat.add_div_right _ hs, show items.length - size + size - 1 = items.length - 1 by omega]
  rw [parts, parts, List.length_drop, hcount, List.range_succ_eq_map, List.map_cons, List.map_map]
  congr 1
  · simp
  · refine List.map_congr_left fun k _ => ?_
    simp only [Function.comp_apply, List.drop_drop, Nat.succ_mul, Nat.add_comm]

theorem flatten_parts (hs : 0 < size) (items : List α) : (parts size items).flatten = items := by
  by_cases hne : items = []
  · rw [hne, parts_nil hs, List.flatten_nil]
  · have hpos : 0 < items.length := List.length_pos_iff.2 hne
    rw [parts_of_ne_nil hs hne, List.flatten_cons, flatten_parts hs (items.drop size),
      List.take_append_drop]
termination_by items.length
decreasing_by rw [List.length_drop]; omega

theorem length_le_of_mem_parts {items part : List α} (h : part ∈ parts size items) :
    part.length ≤ size := by
  obtain ⟨k, -, rfl⟩ := List.mem_map.1 h
  exact List.length_take_le _ _

theorem ne_nil_of_mem_parts (hs : 0 < size) {items part : List α} (h : part ∈ parts size items) :
    part ≠ [] := by
  by_cases hne : items = []
  · simp [hne, parts_nil hs] at h
  · have hpos : 0 < items.length := List.length_pos_iff.2 hne
    rw [parts_of_ne_nil hs hne] at h
    rcases List.mem_cons.1 h with rfl | hrest
    · refine List.ne_nil_of_length_pos ?_
      rw [List.length_take]
      omega
    · exact ne_nil_of_mem_parts hs hrest
termination_by items.length
decreasing_by rw [List.length_drop]; omega

end EntityTagger
