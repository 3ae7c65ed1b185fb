import EntityTagger.Association
import Mathlib.Data.List.Nodup

/-! Association lists with distinct keys: assigning keeps them distinct, collecting entries gives
them, and entries whose keys are distinct already are kept as they are. -/
namespace EntityTagger.Association

variable {κ α : Type} [DecidableEq κ] {key : κ} {value : α} {entries dict : List (κ × α)}

theorem put_eq_self (h : get? key dict = some value) : put key value dict = dict := by
  induction dict with
  | nil => simp at h
  | cons entry rest ih =>
    obtain ⟨k, v⟩ := entry
    by_cases hk : k = key
    · obtain rfl : v = value := by simpa [get?, hk] using h
      simp [put, hk]
    · have hrest : get? key rest = some value := by simpa [get?, hk] using h
      simp [put, hk, ih hrest]

theorem put_append_of_not_mem (value : α) (h : key ∉ dict.map Prod.fst) :
    put key value dict = dict ++ [(key, value)] := by
  induction dict with
  | nil => rfl
  | cons entry rest ih =>
    rw [List.map_cons, List.mem_cons, not_or] at h
    rw [put, if_neg (Ne.symm h.1), ih h.2, List.cons_append]

theorem nodup_put (h : (dict.map Prod.fst).Nodup) : ((put key value dict).map Prod.fst).Nodup := by
  rw [map_fst_put]
  split_ifs with hmem
  · exact h
  · rw [List.nodup_append]
    refine ⟨h, List.nodup_singleton key, ?_⟩
    intro other hother last hlast heq
    obtain rfl := List.mem_singleton.1 hlast
    exact hmem (heq ▸ hother)

theorem nodup_foldl_put (h : (dict.map Prod.fst).Nodup) :
    ((entries.foldl (fun dict entry => put entry.1 entry.2 dict) dict).map Prod.fst).Nodup := by
  induction entries generalizing dict with
  | nil => exact h
  | cons entry rest ih => exact ih (nodup_put h)

theorem nodup_ofList (entries : List (κ × α)) : ((ofList entries).map Prod.fst).Nodup :=
  nodup_foldl_put List.nodup_nil

theorem mem_foldl_put {entry : κ × α}
    (h : entry ∈ entries.foldl (fun dict entry => put entry.1 entry.2 dict) dict) :
    entry ∈ entries ∨ entry ∈ dict := by
  induction entries generalizing dict with
  | nil => exact Or.inr h
  | cons first rest ih =>
    rcases ih h with hrest | hput
    · exact Or.inl (List.mem_cons_of_mem _ hrest)
    · rcases mem_put hput with rfl | hdict
      · exact Or.inl (List.mem_cons_self ..)
      · exact Or.inr hdict

theorem mem_of_mem_ofList {entry : κ × α} (h : entry ∈ ofList entries) : entry ∈ entries :=
  (mem_foldl_put h).resolve_right List.not_mem_nil

theorem foldl_put_of_nodup (h : ((dict ++ entries).map Prod.fst).Nodup) :
    entries.foldl (fun dict entry => put entry.1 entry.2 dict) dict = dict ++ entries := by
  induction entries generalizing dict with
  | nil => exact (List.append_nil dict).symm
  | cons entry rest ih =>
    have hsplit : dict ++ entry :: rest = (dict ++ [entry]) ++ rest := by simp
    have hnew : entry.1 ∉ dict.map Prod.fst := by
      intro hmem
      rw [List.map_append, List.nodup_append] at h
      exact h.2.2 entry.1 hmem entry.1 (by simp) rfl
    rw [List.foldl_cons, put_append_of_not_mem _ hnew, hsplit]
    exact ih (hsplit ▸ h)

theorem put_ne_nil (key : κ) (value : α) (dict : List (κ × α)) : put key value dict ≠ [] := by
  cases dict with
  | nil => simp [put]
  | cons entry rest => rw [put]; split_ifs <;> simp

theorem ofList_ne_nil (h : entries ≠ []) : ofList entries ≠ [] := by
  rcases List.eq_nil_or_concat entries with rfl | ⟨init, last, rfl⟩
  · exact absurd rfl h
  · rw [ofList, List.concat_eq_append, List.foldl_append]
    exact put_ne_nil last.1 last.2 _

theorem get?_eq_none_iff : get? key dict = none ↔ key ∉ dict.map Prod.fst := by
  rw [← exists_get?_iff, Option.eq_none_iff_forall_ne_some, not_exists]

theorem get?_eq_some_iff (h : (dict.map Prod.fst).Nodup) :
    get? key dict = some value ↔ (key, value) ∈ dict := by
  refine ⟨mem_of_get?, fun hmem => ?_⟩
  induction dict with
  | nil => simp at hmem
  | cons entry rest ih =>
    obtain ⟨k, v⟩ := entry
    obtain ⟨hnew, hrest⟩ := List.nodup_cons.1 h
    rcases List.mem_cons.1 hmem with heq | hmem
    · obtain ⟨rfl, rfl⟩ := Prod.mk.inj heq
      exact if_pos rfl
    · have hne : k ≠ key := by
        rintro rfl
        exact hnew (List.mem_map.2 ⟨_, hmem, rfl⟩)
      rw [get?, if_neg hne, ih hrest hmem]

theorem get?_append_of_some {more : List (κ × α)} (h : get? key dict = some value) :
    get? key (dict ++ more) = some value := by
  induction dict with
  | nil => simp at h
  | cons entry rest ih =>
    obtain ⟨k, v⟩ := entry
    by_cases hk : k = key
    · rw [get?, if_pos hk] at h
      rw [List.cons_append, get?, if_pos hk, h]
    · rw [get?, if_neg hk] at h
      rw [List.cons_append, get?, if_neg hk, ih h]

theorem ofList_of_nodup (h : (entries.map Prod.fst).Nodup) : ofList entries = entries :=
  foldl_put_of_nodup (by simpa using h)

end EntityTagger.Association
