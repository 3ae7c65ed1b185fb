/-!
Association lists that keep the order of first insertion: assigning to a key that is present changes
its value and leaves it in its place.
-/

namespace EntityTagger.Association

variable {κ : Type} {α : Type} [DecidableEq κ]

def get? (key : κ) : List (κ × α) → Option α
  | [] => none
  | (k, v) :: rest => if k = key then some v else get? key rest

/-- Assigns to a key: in its place if it is present, at the end otherwise. -/
def put (key : κ) (value : α) : List (κ × α) → List (κ × α)
  | [] => [(key, value)]
  | (k, v) :: rest => if k = key then (k, value) :: rest else (k, v) :: put key value rest

def ofList (entries : List (κ × α)) : List (κ × α) :=
  entries.foldl (fun dict entry => put entry.1 entry.2 dict) []

@[simp] theorem get?_nil (key : κ) : get? key ([] : List (κ × α)) = none := rfl

@[simp] theorem get?_put_self (key : κ) (value : α) (dict : List (κ × α)) :
    get? key (put key value dict) = some value := by
  induction dict with
  | nil => simp [put, get?]
  | cons entry rest ih =>
    obtain ⟨k, v⟩ := entry
    by_cases h : k = key <;> simp [put, get?, h, ih]

theorem mem_of_get? {key : κ} {value : α} {dict : List (κ × α)} (h : get? key dict = some value) :
    (key, value) ∈ dict := by
  induction dict with
  | nil => simp at h
  | cons entry rest ih =>
    obtain ⟨k, v⟩ := entry
    by_cases hk : k = key
    · simp_all [get?]
    · exact List.mem_cons_of_mem _ (ih (by simpa [get?, hk] using h))

theorem exists_get?_iff {key : κ} {dict : List (κ × α)} :
    (∃ value, get? key dict = some value) ↔ key ∈ dict.map (·.1) := by
  induction dict with
  | nil => simp
  | cons entry rest ih =>
    obtain ⟨k, v⟩ := entry
    by_cases hk : k = key
    · simp [get?, hk]
    · simpa [get?, hk, Ne.symm hk] using ih

theorem get?_put_of_ne {key other : κ} (h : other ≠ key) (value : α) (dict : List (κ × α)) :
    get? other (put key value dict) = get? other dict := by
  induction dict with
  | nil => simp [put, get?, Ne.symm h]
  | cons entry rest ih =>
    obtain ⟨k, v⟩ := entry
    by_cases hk : k = key
    · subst hk; simp [put, get?, Ne.symm h]
    · by_cases ho : k = other
      · subst ho; simp [put, get?, h]
      · simp [put, get?, hk, ho, ih]

theorem get?_filter (keep : κ → Bool) {key : κ} (h : keep key = true) (dict : List (κ × α)) :
    get? key (dict.filter fun entry => keep entry.1) = get? key dict := by
  induction dict with
  | nil => rfl
  | cons entry rest ih =>
    by_cases hk : entry.1 = key
    · simp [hk, h, get?]
    · cases hkeep : keep entry.1 <;> simp [hkeep, get?, hk, ih]

theorem filter_put (keep : κ → Bool) {key : κ} (h : keep key = false) (value : α)
    (dict : List (κ × α)) :
    (put key value dict).filter (fun entry => keep entry.1) =
      dict.filter fun entry => keep entry.1 := by
  induction dict with
  | nil => simp [put, h]
  | cons entry rest ih =>
    by_cases hk : entry.1 = key
    · have hkeep : keep entry.1 = false := by rw [hk]; exact h
      simp [put, hk, h]
    · simp [put, hk, List.filter_cons, ih]

/-- A key that is present keeps its place. -/
theorem map_fst_put (key : κ) (value : α) (dict : List (κ × α)) :
    (put key value dict).map Prod.fst =
      if key ∈ dict.map Prod.fst then dict.map Prod.fst else dict.map Prod.fst ++ [key] := by
  induction dict with
  | nil => simp [put]
  | cons entry rest ih =>
    by_cases hk : entry.1 = key
    · simp [put, hk]
    · simp only [put, hk, if_false, List.map_cons, ih, List.mem_cons, Ne.symm hk, false_or]
      split <;> rfl

theorem mem_put {key : κ} {value : α} {dict : List (κ × α)} {entry : κ × α}
    (h : entry ∈ put key value dict) : entry = (key, value) ∨ entry ∈ dict := by
  induction dict with
  | nil => exact Or.inl (by simpa [put] using h)
  | cons first rest ih =>
    by_cases hk : first.1 = key
    · rcases List.mem_cons.1 (by simpa [put, hk] using h) with rfl | hrest
      · exact Or.inl rfl
      · exact Or.inr (List.mem_cons_of_mem _ hrest)
    · rcases List.mem_cons.1 (by simpa [put, hk] using h) with rfl | hrest
      · exact Or.inr (List.mem_cons_self ..)
      · rcases ih hrest with heq | hmem
        · exact Or.inl heq
        · exact Or.inr (List.mem_cons_of_mem _ hmem)

end EntityTagger.Association
