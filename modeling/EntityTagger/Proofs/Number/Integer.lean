import EntityTagger.Number.Integer
import EntityTagger.Proofs.Number.Order
import EntityTagger.Proofs.Text.Numeral
import Mathlib.Data.List.TakeWhile
import Mathlib.Data.Rat.Floor

/-! The integers that texts and numbers denote: the grammar of the texts, of which the reader takes
exactly the words, and the integer part of a floating-point number. -/
namespace EntityTagger

namespace Text

variable {p : ℕ → Bool} {before middle after t : Text}

theorem dropWhile_eq_self (h : ∀ c ∈ t.head?, p c = false) : t.dropWhile p = t := by
  cases t with
  | nil => rfl
  | cons c rest => rw [List.dropWhile_cons, if_neg (by simp [h c rfl])]

theorem trim_append (hbefore : ∀ c ∈ before, p c = true) (hafter : ∀ c ∈ after, p c = true)
    (hfirst : ∀ c ∈ middle.head?, p c = false) (hlast : ∀ c ∈ middle.getLast?, p c = false) :
    trim p (before ++ middle ++ after) = middle := by
  rw [trim, List.append_assoc, List.dropWhile_append_of_pos hbefore]
  cases middle with
  | nil => rw [List.nil_append, List.dropWhile_eq_nil_iff.2 hafter]; rfl
  | cons c rest =>
    have hfront : ((c :: rest) ++ after).dropWhile p = (c :: rest) ++ after :=
      dropWhile_eq_self (by simpa using hfirst)
    have hback : (c :: rest).reverse.dropWhile p = (c :: rest).reverse :=
      dropWhile_eq_self (by rwa [List.head?_reverse])
    rw [hfront, List.reverse_append, List.dropWhile_append_of_pos (by simpa using hafter), hback,
      List.reverse_reverse]

theorem exists_trim (p : ℕ → Bool) (t : Text) : ∃ before after, t = before ++ trim p t ++ after ∧
    (∀ c ∈ before, p c = true) ∧ ∀ c ∈ after, p c = true := by
  refine ⟨t.takeWhile p, ((t.dropWhile p).reverse.takeWhile p).reverse, ?_, ?_, ?_⟩
  · rw [trim, List.append_assoc, ← List.reverse_append, List.takeWhile_append_dropWhile,
      List.reverse_reverse, List.takeWhile_append_dropWhile]
  · exact fun c hc => List.mem_takeWhile_imp hc
  · exact fun c hc => List.mem_takeWhile_imp (List.mem_reverse.1 hc)

end Text

namespace Integer

open Text

/-- Digits, with or without a single underscore between two of them, and the digits alone. -/
inductive Grouped : Text → Text → Prop
  | digit {c : ℕ} (hc : isDigit c = true) : Grouped [c] [c]
  | next {c : ℕ} {numeral digits : Text} (hc : isDigit c = true) (h : Grouped numeral digits) :
      Grouped (c :: numeral) (c :: digits)
  | underscore {c : ℕ} {numeral digits : Text} (hc : isDigit c = true)
      (h : Grouped numeral digits) : Grouped (c :: 95 :: numeral) (c :: digits)

/-- A sign, and whether it is the one of negative numbers. -/
inductive Sign : Text → Bool → Prop
  | none : Sign [] false
  | plus : Sign [43] false
  | minus : Sign [45] true

/-- The texts that denote an integer: in their ASCII form a numeral of bounded length, with a sign
or without, between blanks. -/
inductive Spells (t : Text) : ℤ → Prop
  | numeral {before sign numeral digits after : Text} {negative : Bool}
      (ht : t.map toAscii = before ++ (sign ++ numeral) ++ after)
      (hbefore : ∀ c ∈ before, isAsciiBlank c = true) (hsign : Sign sign negative)
      (hnumeral : Grouped numeral digits) (hlength : digits.length ≤ maxDigits)
      (hafter : ∀ c ∈ after, isAsciiBlank c = true) : Spells t (ofDigits negative digits)

section Grouped

variable {c : ℕ} {t sign numeral digits : Text} {negative : Bool}

theorem grouped_of_allDigits (h : AllDigits t) (hne : t ≠ []) : Grouped t t := by
  induction t with
  | nil => exact absurd rfl hne
  | cons c rest ih =>
    obtain ⟨hc, hrest⟩ := allDigits_cons_iff.1 h
    cases rest with
    | nil => exact .digit hc
    | cons d rest => exact .next hc (ih hrest (by simp))

def Continues (t digits : Text) : Prop :=
  (t = [] ∧ digits = []) ∨ Grouped t digits ∨ ∃ rest, t = 95 :: rest ∧ Grouped rest digits

theorem grouped_cons_iff : Grouped (c :: t) digits ↔
    isDigit c = true ∧ ∃ rest, digits = c :: rest ∧ Continues t rest := by
  constructor
  · intro h
    cases h with
    | digit hc => exact ⟨hc, [], rfl, .inl ⟨rfl, rfl⟩⟩
    | next hc h => exact ⟨hc, _, rfl, .inr (.inl h)⟩
    | underscore hc h => exact ⟨hc, _, rfl, .inr (.inr ⟨_, rfl, h⟩)⟩
  · rintro ⟨hc, rest, rfl, ⟨rfl, rfl⟩ | h | ⟨u, rfl, h⟩⟩
    · exact .digit hc
    · exact .next hc h
    · exact .underscore hc h

theorem continues_cons_iff : Continues (c :: t) digits ↔
    Grouped (c :: t) digits ∨ c = 95 ∧ Grouped t digits := by
  simp [Continues]

/-- Both states of the reader at once: behind a digit the text may end or go on with an
underscore. -/
theorem groupedDigits?_eq_some_iff (t digits : Text) :
    (groupedDigits? false t = some digits ↔ Grouped t digits) ∧
    (groupedDigits? true t = some digits ↔ Continues t digits) := by
  induction t generalizing digits with
  | nil =>
    have hnone : ¬ Grouped [] digits := by rintro ⟨⟩
    simp [groupedDigits?, Continues, hnone, @eq_comm _ _ digits]
  | cons c rest ih =>
    rw [continues_cons_iff, grouped_cons_iff]
    by_cases hc : isDigit c = true
    · have hne : c ≠ 95 := by rintro rfl; exact absurd hc (by decide)
      have hstep : ∀ after, groupedDigits? after (c :: rest) = some digits ↔
          ∃ others, digits = c :: others ∧ Continues rest others := by
        intro after
        rw [groupedDigits?, if_pos hc, Option.map_eq_some_iff]
        simp only [(ih _).2, and_comm, @eq_comm _ digits]
      simp [hstep, hc, hne]
    · by_cases hunderscore : c = 95
      · subst hunderscore
        simp [groupedDigits?, show isDigit 95 = false from rfl, (ih _).1]
      · simp [groupedDigits?, hc, hunderscore]

theorem Grouped.head_isDigit (h : Grouped numeral digits) :
    ∃ c rest, numeral = c :: rest ∧ isDigit c = true := by
  cases h with
  | digit hc => exact ⟨_, _, rfl, hc⟩
  | next hc => exact ⟨_, _, rfl, hc⟩
  | underscore hc => exact ⟨_, _, rfl, hc⟩

theorem Grouped.last_isDigit (h : Grouped numeral digits) :
    ∃ front c, numeral = front ++ [c] ∧ isDigit c = true := by
  induction h with
  | digit hc => exact ⟨[], _, rfl, hc⟩
  | next hc h ih =>
    obtain ⟨front, d, rfl, hd⟩ := ih
    exact ⟨_ :: front, d, rfl, hd⟩
  | underscore hc h ih =>
    obtain ⟨front, d, rfl, hd⟩ := ih
    exact ⟨_ :: 95 :: front, d, rfl, hd⟩

theorem isAsciiBlank_of_isDigit (h : isDigit c = true) : isAsciiBlank c = false := by
  simp only [isDigit, Bool.and_eq_true, decide_eq_true_eq] at h
  simp only [isAsciiBlank, Bool.or_eq_false_iff, Bool.and_eq_false_iff, decide_eq_false_iff_not]
  omega

theorem exists_sign (t : Text) : ∃ sign, Sign sign (splitSign t).1 ∧ t = sign ++ (splitSign t).2 := by
  unfold splitSign
  split
  · exact ⟨[43], .plus, rfl⟩
  · exact ⟨[45], .minus, rfl⟩
  · exact ⟨[], .none, rfl⟩

theorem Sign.splitSign_append (hsign : Sign sign negative) (h : Grouped numeral digits) :
    splitSign (sign ++ numeral) = (negative, numeral) := by
  cases hsign with
  | none =>
    obtain ⟨c, rest, rfl, hc⟩ := h.head_isDigit
    unfold splitSign
    split
    · next heq => obtain ⟨rfl, -⟩ := List.cons.inj heq; exact absurd hc (by decide)
    · next heq => obtain ⟨rfl, -⟩ := List.cons.inj heq; exact absurd hc (by decide)
    · rfl
  | plus => rfl
  | minus => rfl

theorem Sign.trim_append (hsign : Sign sign negative) (h : Grouped numeral digits)
    {before after : Text} (hbefore : ∀ c ∈ before, isAsciiBlank c = true)
    (hafter : ∀ c ∈ after, isAsciiBlank c = true) :
    trim isAsciiBlank (before ++ (sign ++ numeral) ++ after) = sign ++ numeral := by
  refine Text.trim_append hbefore hafter ?_ ?_
  · obtain ⟨c, rest, rfl, hc⟩ := h.head_isDigit
    cases hsign with
    | none => simpa using isAsciiBlank_of_isDigit hc
    | plus => simp [isAsciiBlank]
    | minus => simp [isAsciiBlank]
  · obtain ⟨front, c, rfl, hc⟩ := h.last_isDigit
    simpa [← List.append_assoc] using isAsciiBlank_of_isDigit hc

end Grouped

/-- The reader takes the texts that denote an integer, and finds the integer that they denote. -/
theorem read?_eq_some_iff {t : Text} {n : ℤ} : read? t = some n ↔ Spells t n := by
  constructor
  · intro h
    obtain ⟨before, after, ht, hbefore, hafter⟩ := exists_trim isAsciiBlank (t.map toAscii)
    obtain ⟨sign, hsign, hsplit⟩ := exists_sign (trimmed t)
    cases hdigits : groupedDigits? false (splitSign (trimmed t)).2 with
    | none => simp [read?, hdigits] at h
    | some digits =>
      simp only [read?, hdigits, Option.ite_none_right_eq_some, Option.some.injEq] at h
      obtain ⟨hlength, rfl⟩ := h
      exact .numeral (by rwa [← hsplit]) hbefore hsign
        ((groupedDigits?_eq_some_iff _ _).1.1 hdigits) hlength hafter
  · rintro ⟨ht, hbefore, hsign, hnumeral, hlength, hafter⟩
    simp only [read?, trimmed, ht, hsign.trim_append hnumeral hbefore hafter,
      hsign.splitSign_append hnumeral, (groupedDigits?_eq_some_iff _ _).1.2 hnumeral, if_pos hlength]

theorem Spells.unique {t : Text} {m n : ℤ} (hm : Spells t m) (hn : Spells t n) : m = n :=
  Option.some.inj ((read?_eq_some_iff.2 hm).symm.trans (read?_eq_some_iff.2 hn))

theorem spells_ofInt {n : ℤ} (h : (ofNat n.natAbs).length ≤ maxDigits) : Spells (ofInt n) n := by
  have hgrouped := grouped_of_allDigits (allDigits_ofNat n.natAbs) (ofNat_ne_nil _)
  have hascii : (ofNat n.natAbs).map toAscii = ofNat n.natAbs := by
    refine (List.map_congr_left ?_).trans (List.map_id _)
    intro c hc
    have hdigit := allDigits_ofNat n.natAbs c hc
    simp only [isDigit, Bool.and_eq_true, decide_eq_true_eq] at hdigit
    exact if_pos (by omega)
  by_cases hn : n < 0
  · have ht : (ofInt n).map toAscii = [] ++ ([45] ++ ofNat n.natAbs) ++ [] := by
      simp [ofInt, hn, hascii, toAscii]
    have hvalue : ofDigits true (ofNat n.natAbs) = n := by
      rw [ofDigits, digitsValue_ofNat, if_pos rfl]
      omega
    have hspells := Spells.numeral ht (by simp) .minus hgrouped h (by simp)
    rwa [hvalue] at hspells
  · have ht : (ofInt n).map toAscii = [] ++ ([] ++ ofNat n.natAbs) ++ [] := by
      simp [ofInt, hn, hascii]
    have hvalue : ofDigits false (ofNat n.natAbs) = n := by
      rw [ofDigits, digitsValue_ofNat, if_neg (by simp)]
      omega
    have hspells := Spells.numeral ht (by simp) .none hgrouped h (by simp)
    rwa [hvalue] at hspells

/-- The integer part of a number: the nearest integer on the way to zero. -/
def part (q : ℚ) : ℤ := if 0 ≤ q then ⌊q⌋ else ⌈q⌉

@[simp] theorem part_intCast (n : ℤ) : part n = n := by simp [part]

theorem part_neg (q : ℚ) : part (-q) = -part q := by
  unfold part
  rcases lt_trichotomy q 0 with hq | rfl | hq
  · rw [if_pos (by linarith), if_neg (by linarith), Int.floor_neg]
  · simp
  · rw [if_neg (by linarith), if_pos hq.le, Int.ceil_neg]

end Integer

namespace Binary

variable {F : Format}

theorem truncate?_eq_some_iff {x : Binary F} {n : ℤ} :
    x.truncate? = some n ↔ x.isFinite = true ∧ Integer.part x.value = n := by
  cases x with
  | nan => simp [truncate?, isFinite]
  | infinity => simp [truncate?, isFinite]
  | finite negative m e h =>
    have hsize : Integer.part (m * 2 ^ e) = (m * 2 ^ e.toNat / 2 ^ (-e).toNat : ℕ) := by
      rw [Integer.part, if_pos (by positivity), ← finite_ratio]
      exact Rat.floor_intCast_div_natCast _ _
    cases negative with
    | false => simp only [truncate?, isFinite, value, hsize, Bool.false_eq_true, if_false,
        Option.some.injEq, true_and]
    | true => simp only [truncate?, isFinite, value, Integer.part_neg, hsize, if_true,
        Option.some.injEq, true_and]

end Binary

end EntityTagger
