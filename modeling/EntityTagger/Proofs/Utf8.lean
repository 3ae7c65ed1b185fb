import EntityTagger.Row
import EntityTagger.Proofs.Json

/-! Texts that have a form in UTF-8, and what of some lines reaches a file: all of them, or those
before the first one that has no such form. -/
namespace EntityTagger

/-- A text without surrogates that stand alone. -/
def Text.IsUnicode (t : Text) : Prop := ∀ c ∈ t, c < 0x110000 ∧ isSurrogate c = false

instance (t : Text) : Decidable t.IsUnicode :=
  inferInstanceAs (Decidable (∀ c ∈ t, c < 0x110000 ∧ Text.isSurrogate c = false))

theorem Json.isUnicode_write {j : Json} (h : j.characters.IsUnicode) : j.write.IsUnicode := by
  intro c hc
  rcases writtenFrom_write j c hc with hp | ⟨-, hc⟩
  · simp only [Text.isPrintable, Bool.and_eq_true, decide_eq_true_eq] at hp
    refine ⟨by omega, ?_⟩
    simp only [Text.isSurrogate, Bool.and_eq_false_iff, decide_eq_false_iff_not]
    omega
  · exact h c hc

theorem Json.lineFeed_not_mem_write (j : Json) : 10 ∉ j.write := by
  intro h
  rcases writtenFrom_write j 10 h with hp | ⟨hlow, -⟩
  · simp [Text.isPrintable] at hp
  · omega

namespace Utf8

/-- The bytes of a code point; none for what UTF-8 has no form for. -/
def bytesOfCode (c : ℕ) : List UInt8 := (encodeCode c).getD []

/-- The bytes of the code points of a text that have some. -/
def bytesOf (t : Text) : List UInt8 := t.flatMap bytesOfCode

theorem encodeCode_of_isUnicode {c : ℕ} (hc : c < 0x110000) (hs : Text.isSurrogate c = false) :
    encodeCode c = some (bytesOfCode c) := by
  unfold bytesOfCode encodeCode
  rw [hs]
  split_ifs <;> first | rfl | omega

theorem encodeFrom_of_isUnicode {t : Text} (h : t.IsUnicode) (position : ℕ) :
    encodeFrom position t = .ok (bytesOf t) := by
  induction t generalizing position with
  | nil => rfl
  | cons c rest ih =>
    obtain ⟨hc, hs⟩ := h c (List.mem_cons_self ..)
    have hrest := ih (fun d hd => h d (List.mem_cons_of_mem _ hd)) (position + 1)
    rw [encodeFrom, encodeCode_of_isUnicode hc hs, hrest]
    rfl

theorem encode_of_isUnicode {t : Text} (h : t.IsUnicode) : encode t = .ok (bytesOf t) :=
  encodeFrom_of_isUnicode h 0

theorem eq_bytesOf_of_encodeFrom {t : Text} {position : ℕ} {bytes : List UInt8}
    (h : encodeFrom position t = .ok bytes) : bytes = bytesOf t := by
  induction t generalizing position bytes with
  | nil => exact (Except.ok.inj h).symm
  | cons c rest ih =>
    rw [encodeFrom] at h
    cases hc : encodeCode c with
    | none => simp [hc] at h
    | some first =>
      cases hrest : encodeFrom (position + 1) rest with
      | error e => simp [hc, hrest, Except.map] at h
      | ok more =>
        rw [hc, hrest] at h
        have hbytes : first ++ more = bytes := Except.ok.inj h
        rw [← hbytes, ih hrest, bytesOf, bytesOf, List.flatMap_cons, bytesOfCode, hc]
        rfl

theorem lineFeed_not_mem_map {numbers : List ℕ} (h : ∀ n ∈ numbers, n < 256 ∧ n ≠ 10) :
    10 ∉ numbers.map Nat.toUInt8 := by
  intro hmem
  obtain ⟨n, hn, heq⟩ := List.mem_map.1 hmem
  obtain ⟨hlt, hne⟩ := h n hn
  have hmod : n % 256 = 10 := by simpa using congrArg UInt8.toNat heq
  omega

/-- The byte of a line feed occurs in the form of no other character. -/
theorem lineFeed_not_mem_bytesOfCode {c : ℕ} (hc : c ≠ 10) : 10 ∉ bytesOfCode c := by
  unfold bytesOfCode encodeCode
  split_ifs with h₁ h₂ h₃ h₄ h₅
  · refine @lineFeed_not_mem_map [c] ?_
    simp only [List.forall_mem_cons, List.not_mem_nil, false_imp_iff, implies_true, and_true]
    omega
  · refine @lineFeed_not_mem_map [0xC0 + c / 64, 0x80 + c % 64] ?_
    simp only [List.forall_mem_cons, List.not_mem_nil, false_imp_iff, implies_true, and_true]
    omega
  · exact List.not_mem_nil
  · refine @lineFeed_not_mem_map [0xE0 + c / 4096, 0x80 + c / 64 % 64, 0x80 + c % 64] ?_
    simp only [List.forall_mem_cons, List.not_mem_nil, false_imp_iff, implies_true, and_true]
    omega
  · refine @lineFeed_not_mem_map
      [0xF0 + c / 262144, 0x80 + c / 4096 % 64, 0x80 + c / 64 % 64, 0x80 + c % 64] ?_
    simp only [List.forall_mem_cons, List.not_mem_nil, false_imp_iff, implies_true, and_true]
    omega
  · exact List.not_mem_nil

theorem count_bytesOf (t : Text) : (bytesOf t).count 10 = t.count 10 := by
  induction t with
  | nil => rfl
  | cons c rest ih =>
    have hcode : (bytesOfCode c).count 10 = if c = 10 then 1 else 0 := by
      split_ifs with hc
      · subst hc; rfl
      · exact List.count_eq_zero.2 (lineFeed_not_mem_bytesOfCode hc)
    rw [bytesOf, List.flatMap_cons, List.count_append, ← bytesOf, ih, hcode, List.count_cons]
    simp [Nat.add_comm]

end Utf8

namespace Row

theorem encodeLines_of_isUnicode {lines : List Text} (h : ∀ line ∈ lines, line.IsUnicode) :
    encodeLines lines = (Utf8.bytesOf lines.flatten, none) := by
  induction lines with
  | nil => rfl
  | cons line rest ih =>
    rw [encodeLines, Utf8.encode_of_isUnicode (h line (List.mem_cons_self ..)),
      ih fun l hl => h l (List.mem_cons_of_mem _ hl)]
    simp [Utf8.bytesOf]

theorem encodeLines_cases (lines : List Text) :
    encodeLines lines = (Utf8.bytesOf lines.flatten, none) ∨
    ∃ k error, k < lines.length ∧
      encodeLines lines = (Utf8.bytesOf (lines.take k).flatten, some error) := by
  induction lines with
  | nil => exact Or.inl rfl
  | cons line rest ih =>
    rw [encodeLines]
    cases hline : Utf8.encode line with
    | error error => exact Or.inr ⟨0, error, by simp, rfl⟩
    | ok bytes =>
      obtain rfl := Utf8.eq_bytesOf_of_encodeFrom hline
      rcases ih with hrest | ⟨k, error, hk, hrest⟩
      · left
        simp [hrest, Utf8.bytesOf]
      · right
        refine ⟨k + 1, error, by simpa using hk, ?_⟩
        simp [hrest, Utf8.bytesOf]

end Row

end EntityTagger
