import Mathlib.Data.List.Forall2

/-! Traversals of a list that stop at the first failure: when they succeed, with which failure they
stop, and how they pass over lists of lists. -/
namespace EntityTagger.Traversal

variable {α β γ ε : Type}

theorem mapM_congr {m : Type → Type} [Monad m] [LawfulMonad m] {f g : α → m β} {items : List α}
    (h : ∀ x ∈ items, f x = g x) : items.mapM f = items.mapM g := by
  induction items with
  | nil => rfl
  | cons x rest ih =>
    rw [List.mapM_cons, List.mapM_cons, h x (List.mem_cons_self ..),
      ih fun y hy => h y (List.mem_cons_of_mem _ hy)]

theorem mapM_eq_pure {m : Type → Type} [Monad m] [LawfulMonad m] {f : α → m β} {g : α → β}
    {items : List α} (h : ∀ x ∈ items, f x = pure (g x)) :
    items.mapM f = pure (items.map g) := by
  induction items with
  | nil => rfl
  | cons x rest ih =>
    rw [List.mapM_cons, h x (List.mem_cons_self ..), pure_bind,
      ih fun y hy => h y (List.mem_cons_of_mem _ hy), pure_bind, List.map_cons]

theorem mapM_cons_ok {f : α → Except ε β} {x : α} {y : β} (h : f x = .ok y) (rest : List α) :
    (x :: rest).mapM f = (rest.mapM f).map (y :: ·) := by
  rw [List.mapM_cons, h]
  cases rest.mapM f <;> rfl

theorem mapM_cons_error {f : α → Except ε β} {x : α} {e : ε} (h : f x = .error e)
    (rest : List α) : (x :: rest).mapM f = .error e := by
  rw [List.mapM_cons, h]
  rfl

theorem map_eq_ok_iff {x : Except ε α} {f : α → β} {b : β} :
    x.map f = .ok b ↔ ∃ a, x = .ok a ∧ f a = b := by
  cases x <;> simp [Except.map]

theorem map_eq_error_iff {x : Except ε α} {f : α → β} {e : ε} :
    x.map f = .error e ↔ x = .error e := by
  cases x <;> simp [Except.map]

theorem bind_eq_ok_iff {x : Except ε α} {f : α → Except ε β} {b : β} :
    x.bind f = .ok b ↔ ∃ a, x = .ok a ∧ f a = .ok b := by
  cases x <;> simp [Except.bind]

theorem mapError_eq_ok_iff {ε' : Type} {x : Except ε α} {f : ε → ε'} {a : α} :
    x.mapError f = .ok a ↔ x = .ok a := by
  cases x <;> simp [Except.mapError]

theorem mapError_eq_error_iff {ε' : Type} {x : Except ε α} {f : ε → ε'} {e : ε'} :
    x.mapError f = .error e ↔ ∃ fault, x = .error fault ∧ f fault = e := by
  cases x <;> simp [Except.mapError]

theorem isSome_toOption_iff {x : Except ε α} : x.toOption.isSome = true ↔ ∃ a, x = .ok a := by
  cases x <;> simp [Except.toOption]

theorem toOption_eq_some_iff {x : Except ε α} {a : α} : x.toOption = some a ↔ x = .ok a := by
  cases x <;> simp [Except.toOption]

theorem mapM_eq_ok_iff {f : α → Except ε β} {items : List α} {results : List β} :
    items.mapM f = .ok results ↔ List.Forall₂ (fun x y => f x = .ok y) items results := by
  induction items generalizing results with
  | nil => simp [pure, Except.pure, eq_comm]
  | cons x rest ih =>
    cases hx : f x with
    | error e => simp [mapM_cons_error hx, List.forall₂_cons_left_iff, hx]
    | ok y =>
      rw [mapM_cons_ok hx, map_eq_ok_iff, List.forall₂_cons_left_iff]
      constructor
      · rintro ⟨others, hrest, rfl⟩
        exact ⟨y, others, hx, ih.1 hrest, rfl⟩
      · rintro ⟨y', others, hy', hrest, rfl⟩
        rw [hx, Except.ok.injEq] at hy'
        exact ⟨others, ih.2 hrest, by rw [hy']⟩

theorem exists_forall₂ {R : α → β → Prop} {items : List α} (h : ∀ x ∈ items, ∃ y, R x y) :
    ∃ results, List.Forall₂ R items results := by
  induction items with
  | nil => exact ⟨[], .nil⟩
  | cons x rest ih =>
    obtain ⟨y, hy⟩ := h x (List.mem_cons_self ..)
    obtain ⟨results, hresults⟩ := ih fun other hother => h other (List.mem_cons_of_mem x hother)
    exact ⟨y :: results, .cons hy hresults⟩

theorem ok_of_mapM_eq_ok {f : α → Except ε β} {items : List α} {results : List β}
    (h : items.mapM f = .ok results) {x : α} (hx : x ∈ items) : ∃ y, f x = .ok y := by
  induction items generalizing results with
  | nil => simp at hx
  | cons z rest ih =>
    cases hz : f z with
    | error e => simp [mapM_cons_error hz] at h
    | ok y =>
      rw [mapM_cons_ok hz] at h
      obtain ⟨others, hrest, -⟩ := map_eq_ok_iff.1 h
      rcases List.mem_cons.1 hx with rfl | hx
      · exact ⟨y, hz⟩
      · exact ih hrest hx

theorem exists_of_mem_mapM {f : α → Except ε β} {items : List α} {results : List β}
    (h : items.mapM f = .ok results) {y : β} (hy : y ∈ results) : ∃ x ∈ items, f x = .ok y := by
  have hall := mapM_eq_ok_iff.1 h
  clear h
  induction hall with
  | nil => simp at hy
  | cons hx _ ih =>
    rcases List.mem_cons.1 hy with rfl | hy
    · exact ⟨_, List.mem_cons_self .., hx⟩
    · obtain ⟨x, hmem, hx⟩ := ih hy
      exact ⟨x, List.mem_cons_of_mem _ hmem, hx⟩

/-- A traversal fails as the first item does that fails. -/
theorem mapM_eq_error_iff {f : α → Except ε β} {items : List α} {e : ε} :
    items.mapM f = .error e ↔ ∃ before x after, items = before ++ x :: after ∧
      (∀ y ∈ before, ∃ b, f y = .ok b) ∧ f x = .error e := by
  induction items with
  | nil => simp [pure, Except.pure]
  | cons x rest ih =>
    cases hx : f x with
    | error e' =>
      rw [mapM_cons_error hx, Except.error.injEq]
      constructor
      · rintro rfl
        exact ⟨[], x, rest, rfl, by simp, hx⟩
      · rintro ⟨before, z, after, hsplit, hbefore, hz⟩
        cases before with
        | nil =>
          obtain ⟨rfl, rfl⟩ := List.cons.inj hsplit
          exact Except.error.inj (hx.symm.trans hz)
        | cons y before =>
          obtain ⟨rfl, -⟩ := List.cons.inj hsplit
          obtain ⟨b, hb⟩ := hbefore x (List.mem_cons_self ..)
          simp [hx] at hb
    | ok y =>
      rw [mapM_cons_ok hx, map_eq_error_iff, ih]
      constructor
      · rintro ⟨before, z, after, rfl, hbefore, hz⟩
        refine ⟨x :: before, z, after, rfl, ?_, hz⟩
        intro w hw
        rcases List.mem_cons.1 hw with rfl | hw
        · exact ⟨y, hx⟩
        · exact hbefore w hw
      · rintro ⟨before, z, after, hsplit, hbefore, hz⟩
        cases before with
        | nil =>
          obtain ⟨rfl, rfl⟩ := List.cons.inj hsplit
          simp [hx] at hz
        | cons w before =>
          obtain ⟨rfl, rfl⟩ := List.cons.inj hsplit
          exact ⟨before, z, after, rfl, fun v hv => hbefore v (List.mem_cons_of_mem _ hv), hz⟩

/-- What is computed beside the step that may fail can be computed afterwards. -/
theorem mapM_map {f : α → Except ε β} {g : α → β → γ} {items : List α} :
    (items.mapM fun x => (f x).map (g x)) = (items.mapM f).map (List.zipWith g items) := by
  induction items with
  | nil => rfl
  | cons x rest ih =>
    cases hx : f x with
    | error e =>
      have hstep : (f x).map (g x) = .error e := by rw [hx]; rfl
      rw [mapM_cons_error hx, mapM_cons_error (f := fun x => (f x).map (g x)) hstep]
      rfl
    | ok y =>
      have hstep : (f x).map (g x) = .ok (g x y) := by rw [hx]; rfl
      rw [mapM_cons_ok hx, mapM_cons_ok (f := fun x => (f x).map (g x)) hstep, ih]
      cases rest.mapM f <;> rfl

theorem mapM_step_map {f : α → Except ε β} {g : β → γ} {items : List α} :
    (items.mapM fun x => (f x).map g) = (items.mapM f).map (List.map g) := by
  induction items with
  | nil => rfl
  | cons x rest ih =>
    cases hx : f x with
    | error e =>
      have hstep : (f x).map g = .error e := by rw [hx]; rfl
      rw [mapM_cons_error hx, mapM_cons_error (f := fun x => (f x).map g) hstep]
      rfl
    | ok y =>
      have hstep : (f x).map g = .ok (g y) := by rw [hx]; rfl
      rw [mapM_cons_ok hx, mapM_cons_ok (f := fun x => (f x).map g) hstep, ih]
      cases rest.mapM f <;> rfl

theorem mapM_append {f : α → Except ε β} {first second : List α} :
    (first ++ second).mapM f =
      (first.mapM f).bind fun xs => (second.mapM f).map (xs ++ ·) := by
  rw [List.mapM_append]
  cases first.mapM f with
  | error e => rfl
  | ok xs => cases second.mapM f <;> rfl

theorem mapM_flatMap {f : β → Except ε γ} {g : α → List β} {items : List α} :
    (items.flatMap g).mapM f = (items.mapM fun x => (g x).mapM f).map List.flatten := by
  induction items with
  | nil => rfl
  | cons x rest ih =>
    rw [List.flatMap_cons, mapM_append, ih]
    cases hx : (g x).mapM f with
    | error e =>
      rw [mapM_cons_error (f := fun x => (g x).mapM f) hx]
      rfl
    | ok ys =>
      rw [mapM_cons_ok (f := fun x => (g x).mapM f) hx]
      cases rest.mapM fun x => (g x).mapM f <;> rfl

end EntityTagger.Traversal
