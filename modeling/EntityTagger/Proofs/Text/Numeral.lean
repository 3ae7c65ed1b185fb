import EntityTagger.Text
import Mathlib.Data.List.Induction
import Mathlib.Tactic.Ring

/-! Decimal numerals: the number that digits denote, and the digits of a number. -/
namespace EntityTagger.Text

def AllDigits (t : Text) : Prop := ∀ c ∈ t, isDigit c = true

section Digits

variable {s t : Text} {c : ℕ}

theorem AllDigits.append (hs : AllDigits s) (ht : AllDigits t) : AllDigits (s ++ t) := by
  intro c hc
  rcases List.mem_append.1 hc with hc | hc
  · exact hs c hc
  · exact ht c hc

theorem AllDigits.of_subset (hs : AllDigits s) (h : t ⊆ s) : AllDigits t := fun c hc => hs c (h hc)

theorem allDigits_cons_iff : AllDigits (c :: t) ↔ isDigit c = true ∧ AllDigits t :=
  List.forall_mem_cons

theorem allDigits_zeros (n : ℕ) : AllDigits (List.replicate n 48) := by
  intro c hc
  rw [List.eq_of_mem_replicate hc]
  rfl

theorem digitsValue_append (s t : Text) :
    digitsValue (s ++ t) = digitsValue s * 10 ^ t.length + digitsValue t := by
  induction t using List.reverseRecOn with
  | nil => simp [digitsValue]
  | append_singleton t c ih =>
    have hlast : ∀ u : Text, digitsValue (u ++ [c]) = 10 * digitsValue u + (c - 48) := by
      intro u
      simp [digitsValue]
    rw [← List.append_assoc, hlast, hlast, ih, List.length_append, List.length_singleton]
    ring

theorem digitsValue_cons (c : ℕ) (t : Text) :
    digitsValue (c :: t) = (c - 48) * 10 ^ t.length + digitsValue t := by
  have happend := digitsValue_append [c] t
  simpa [digitsValue] using happend

theorem digitsValue_zeros (n : ℕ) : digitsValue (List.replicate n 48) = 0 := by
  induction n with
  | zero => rfl
  | succ n ih => rw [List.replicate_succ, digitsValue_cons, ih]; simp

theorem digitsValue_lt (ht : AllDigits t) : digitsValue t < 10 ^ t.length := by
  induction t with
  | nil => decide
  | cons c t ih =>
    obtain ⟨hc, ht⟩ := allDigits_cons_iff.1 ht
    simp only [isDigit, Bool.and_eq_true, decide_eq_true_eq] at hc
    have hhead : (c - 48) * 10 ^ t.length ≤ 9 * 10 ^ t.length :=
      Nat.mul_le_mul_right _ (by omega)
    have hrest := ih ht
    rw [digitsValue_cons, List.length_cons, Nat.pow_succ]
    omega

end Digits

section Numerals

variable {n : ℕ}

theorem ofNat_eq (n : ℕ) : ofNat n = (if n < 10 then [] else ofNat (n / 10)) ++ [48 + n % 10] := by
  have hdigit : ∀ d < 10, (Nat.digitChar d).toNat = 48 + d := by decide
  rw [ofNat, Nat.toDigits_eq_if (by decide)]
  split_ifs with hn
  · rw [Nat.mod_eq_of_lt hn]
    simp [hdigit n hn]
  · rw [List.map_append]
    simp [ofNat, hdigit (n % 10) (Nat.mod_lt n (by decide))]

theorem ofNat_ne_nil (n : ℕ) : ofNat n ≠ [] := by
  rw [ofNat_eq]
  simp

theorem allDigits_ofNat (n : ℕ) : AllDigits (ofNat n) := by
  induction n using Nat.strongRecOn with
  | ind n ih =>
    have hlast : AllDigits [48 + n % 10] := by
      intro c hc
      obtain rfl := List.mem_singleton.1 hc
      simp only [isDigit, Bool.and_eq_true, decide_eq_true_eq]
      omega
    rw [ofNat_eq]
    split_ifs with hn
    · exact hlast
    · exact (ih (n / 10) (by omega)).append hlast

theorem digitsValue_ofNat (n : ℕ) : digitsValue (ofNat n) = n := by
  induction n using Nat.strongRecOn with
  | ind n ih =>
    rw [ofNat_eq, digitsValue_append]
    split_ifs with hn
    · simp [digitsValue]
      omega
    · rw [ih (n / 10) (by omega)]
      simp [digitsValue]
      omega

theorem exists_ofNat_eq_cons (hn : 0 < n) :
    ∃ c t, ofNat n = c :: t ∧ isDigit c = true ∧ c ≠ 48 := by
  induction n using Nat.strongRecOn with
  | ind n ih =>
    rw [ofNat_eq]
    split_ifs with hlow
    · refine ⟨48 + n % 10, [], rfl, ?_, by omega⟩
      simp only [isDigit, Bool.and_eq_true, decide_eq_true_eq]
      omega
    · obtain ⟨c, t, ht, hc, hzero⟩ := ih (n / 10) (by omega) (by omega)
      exact ⟨c, t ++ [48 + n % 10], by rw [ht]; rfl, hc, hzero⟩

theorem pow_le_of_ofNat (hn : 0 < n) : 10 ^ ((ofNat n).length - 1) ≤ n := by
  obtain ⟨c, t, ht, hc, hzero⟩ := exists_ofNat_eq_cons hn
  have hvalue := digitsValue_ofNat n
  simp only [isDigit, Bool.and_eq_true, decide_eq_true_eq] at hc
  rw [ht, digitsValue_cons] at hvalue
  have hhead : 1 * 10 ^ t.length ≤ (c - 48) * 10 ^ t.length := Nat.mul_le_mul_right _ (by omega)
  rw [ht, List.length_cons, Nat.add_sub_cancel]
  omega

theorem lt_pow_length_ofNat (n : ℕ) : n < 10 ^ (ofNat n).length := by
  have hlt := digitsValue_lt (allDigits_ofNat n)
  rwa [digitsValue_ofNat] at hlt

end Numerals

end EntityTagger.Text
