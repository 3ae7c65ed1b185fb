import EntityTagger.Json.Reader
import EntityTagger.Json.Writer
import EntityTagger.Proofs.Number.Shortest
import Mathlib.Data.List.TakeWhile

/-! Numbers of JSON as they are written, read back: a written numeral is read to its end, and the
number it denotes is the one that was written. -/
namespace EntityTagger.Json

open Text

def NoDigit (t : Text) : Prop := ∀ c ∈ t.head?, isDigit c = false

/-- Nothing stands first that a numeral can go on with. -/
def EndsNumeral (t : Text) : Prop :=
  ∀ c ∈ t.head?, isDigit c = false ∧ c ≠ 46 ∧ c ≠ 101 ∧ c ≠ 69

section Scanning

variable {d t rest : Text} {c : ℕ}

theorem EndsNumeral.noDigit (h : EndsNumeral t) : NoDigit t := fun c hc => (h c hc).1

theorem noDigit_cons (hc : isDigit c = false) : NoDigit (c :: t) := by
  intro d hd
  obtain rfl : c = d := by simpa using hd
  exact hc

theorem spanDigits_append (hd : AllDigits d) (hrest : NoDigit rest) :
    spanDigits (d ++ rest) = (d, rest) := by
  have hstop : rest.takeWhile isDigit = [] ∧ rest.dropWhile isDigit = rest := by
    cases rest with
    | nil => exact ⟨rfl, rfl⟩
    | cons c rest => simp [hrest c rfl]
  rw [spanDigits, List.takeWhile_append_of_pos hd, List.dropWhile_append_of_pos hd, hstop.1,
    hstop.2, List.append_nil]

def IsWhole (t : Text) : Prop := AllDigits t ∧ (t = [48] ∨ ∃ c s, t = c :: s ∧ c ≠ 48)

theorem readWhole?_append (ht : IsWhole t) (hrest : NoDigit rest) :
    readWhole? (t ++ rest) = some (t, rest) := by
  obtain ⟨hdigits, rfl | ⟨c, s, rfl, hc⟩⟩ := ht
  · rfl
  · have hdigit := (allDigits_cons_iff.1 hdigits).1
    have hspan := spanDigits_append hdigits hrest
    rw [List.cons_append] at hspan ⊢
    rw [readWhole?, if_neg hc, if_pos hdigit, hspan]

theorem readFraction_append (ht : AllDigits t) (hne : t ≠ []) (hrest : NoDigit rest) :
    readFraction (46 :: t ++ rest) = (t, rest) := by
  obtain ⟨c, s, rfl⟩ := List.exists_cons_of_ne_nil hne
  have hdigit := (allDigits_cons_iff.1 ht).1
  have hspan := spanDigits_append ht hrest
  rw [List.cons_append] at hspan
  rw [List.cons_append, List.cons_append, readFraction, if_pos hdigit, hspan]

theorem readFraction_eq (h : ∀ c ∈ rest.head?, c ≠ 46) : readFraction rest = ([], rest) := by
  unfold readFraction
  split
  · exact absurd rfl (h 46 rfl)
  · rfl

theorem readExponent_append (negative : Bool) (ht : AllDigits t) (hne : t ≠ [])
    (hrest : NoDigit rest) :
    readExponent (101 :: (if negative then 45 else 43) :: t ++ rest) =
      (some (if negative then -(digitsValue t : ℤ) else digitsValue t), rest) := by
  have hspan := spanDigits_append ht hrest
  obtain ⟨c, s, rfl⟩ := List.exists_cons_of_ne_nil hne
  rw [List.cons_append] at hspan
  cases negative <;> simp [readExponent, hspan]

theorem readExponent_eq (h : ∀ c ∈ rest.head?, c ≠ 101 ∧ c ≠ 69) :
    readExponent rest = (none, rest) := by
  cases rest with
  | nil => rfl
  | cons c rest =>
    obtain ⟨he, hE⟩ := h c rfl
    unfold readExponent
    simp [he, hE]

end Scanning

/-- The spellings of an exponent: none at all, or a sign and digits. -/
inductive SpellsExponent : Option ℤ → Text → Prop
  | none : SpellsExponent none []
  | some (negative : Bool) {digits : Text} (hdigits : AllDigits digits) (hne : digits ≠ []) :
      SpellsExponent (some (if negative then -(digitsValue digits : ℤ) else digitsValue digits))
        (101 :: (if negative then 45 else 43) :: digits)

def fractionText (fraction : Text) : Text := if fraction = [] then [] else 46 :: fraction

def Spells (n : Numeral) (t : Text) : Prop :=
  IsWhole n.whole ∧ AllDigits n.fraction ∧
    ∃ exponent, SpellsExponent n.exponent exponent ∧
      t = n.whole ++ fractionText n.fraction ++ exponent

section Numerals

variable {n : Numeral} {t rest : Text}

theorem readExponent_of_spells {exponent : Option ℤ} (h : SpellsExponent exponent t)
    (hrest : EndsNumeral rest) : readExponent (t ++ rest) = (exponent, rest) := by
  cases h with
  | none => exact readExponent_eq fun c hc => (hrest c hc).2.2
  | some negative hdigits hne => exact readExponent_append negative hdigits hne hrest.noDigit

theorem head_exponent {exponent : Option ℤ} (h : SpellsExponent exponent t)
    (hrest : EndsNumeral rest) : ∀ c ∈ (t ++ rest).head?, isDigit c = false ∧ c ≠ 46 := by
  intro c hc
  cases h with
  | none => exact ⟨(hrest c hc).1, (hrest c hc).2.1⟩
  | some negative hdigits hne =>
    obtain rfl : 101 = c := by simpa using hc
    decide

theorem readNumeral?_of_spells (h : Spells n t) (hrest : EndsNumeral rest) :
    readNumeral? ((if n.negative then [45] else []) ++ t ++ rest) = some (n, rest) := by
  obtain ⟨hwhole, hfraction, exponent, hexponent, rfl⟩ := h
  obtain ⟨negative, whole, fraction, power⟩ := n
  dsimp only at *
  have hhead := head_exponent hexponent hrest
  have hread : readWhole? (whole ++ (fractionText fraction ++ (exponent ++ rest))) =
      some (whole, fractionText fraction ++ (exponent ++ rest)) := by
    refine readWhole?_append hwhole ?_
    unfold fractionText
    split_ifs
    · exact fun c hc => (hhead c hc).1
    · exact noDigit_cons rfl
  have hfractions : readFraction (fractionText fraction ++ (exponent ++ rest)) =
      (fraction, exponent ++ rest) := by
    unfold fractionText
    split_ifs with hnil
    · rw [hnil]
      exact readFraction_eq fun c hc => (hhead c hc).2
    · exact readFraction_append hfraction hnil fun c hc => (hhead c hc).1
  have hexponents := readExponent_of_spells hexponent hrest
  obtain ⟨hdigits, hcases⟩ := hwhole
  obtain ⟨c, s, rfl⟩ : ∃ c s, whole = c :: s := by
    rcases hcases with rfl | ⟨c, s, rfl, -⟩
    · exact ⟨48, [], rfl⟩
    · exact ⟨c, s, rfl⟩
  have hminus : c ≠ 45 := by
    rintro rfl
    exact absurd (allDigits_cons_iff.1 hdigits).1 (by decide)
  simp only [List.cons_append] at hread
  cases negative with
  | true => simp [readNumeral?, hread, hfractions, hexponents]
  | false => simp [readNumeral?, hminus, hread, hfractions, hexponents]

end Numerals

section Scalars

variable {t rest : Text}

theorem find_literals_of_digit (negative : Bool) {c : ℕ} (hc : isDigit c = true) :
    (literals.find? fun entry =>
      entry.1.isPrefixOf ((if negative then [45] else []) ++ c :: t)) = none := by
  simp only [isDigit, Bool.and_eq_true, decide_eq_true_eq] at hc
  rw [List.find?_eq_none]
  intro entry hentry
  simp only [literals, List.mem_cons, List.not_mem_nil, or_false] at hentry
  rcases hentry with rfl | rfl | rfl | rfl | rfl | rfl <;> cases negative <;> simp [text] <;>
    intro heq <;> omega

theorem IsWhole.exists_cons (h : IsWhole t) : ∃ c s, t = c :: s ∧ isDigit c = true := by
  obtain ⟨hdigits, rfl | ⟨c, s, rfl, -⟩⟩ := h
  · exact ⟨48, [], rfl, rfl⟩
  · exact ⟨c, s, rfl, (allDigits_cons_iff.1 hdigits).1⟩

theorem readScalar_of_spells {n : Numeral} (h : Spells n t) (hrest : EndsNumeral rest) :
    readScalar ((if n.negative then [45] else []) ++ t ++ rest) = n.value.map (·, rest) := by
  have hread := readNumeral?_of_spells h hrest
  obtain ⟨hwhole, -, exponent, -, rfl⟩ := h
  obtain ⟨c, s, hcons, hc⟩ := hwhole.exists_cons
  unfold readScalar
  rw [hread]
  rw [hcons]
  simp only [List.append_assoc, List.cons_append]
  rw [find_literals_of_digit n.negative hc]

theorem isWhole_ofNat (n : ℕ) : IsWhole (Text.ofNat n) := by
  refine ⟨allDigits_ofNat n, ?_⟩
  rcases Nat.eq_zero_or_pos n with rfl | hn
  · exact Or.inl rfl
  · obtain ⟨c, s, hcons, -, hc⟩ := exists_ofNat_eq_cons hn
    exact Or.inr ⟨c, s, hcons, hc⟩

/-- A text is the spelling of a number, with its sign. -/
def IsNumeral (t : Text) (value : Json) : Prop :=
  ∃ n s, t = (if n.negative then [45] else []) ++ s ∧ Spells n s ∧ n.value = .ok value

theorem IsNumeral.readScalar {value : Json} (h : IsNumeral t value) (hrest : EndsNumeral rest) :
    readScalar (t ++ rest) = .ok (value, rest) := by
  obtain ⟨n, s, rfl, hspells, hvalue⟩ := h
  rw [readScalar_of_spells hspells hrest, hvalue]
  rfl

theorem IsNumeral.exists_cons {value : Json} (h : IsNumeral t value) :
    ∃ c s, t = c :: s ∧ (c = 45 ∨ isDigit c = true) := by
  obtain ⟨n, s, rfl, ⟨hwhole, -, exponent, -, rfl⟩, -⟩ := h
  obtain ⟨c, u, hcons, hc⟩ := hwhole.exists_cons
  by_cases hnegative : n.negative
  · exact ⟨45, _, by rw [if_pos hnegative]; rfl, Or.inl rfl⟩
  · exact ⟨c, _, by rw [if_neg hnegative, hcons]; rfl, Or.inr hc⟩

theorem isNumeral_ofInt {n : ℤ} (hn : (Text.ofNat n.natAbs).length ≤ maxDigits) :
    IsNumeral (Text.ofInt n) (.int n) := by
  refine ⟨⟨decide (n < 0), Text.ofNat n.natAbs, [], none⟩, Text.ofNat n.natAbs, ?_, ?_, ?_⟩
  · by_cases hneg : n < 0 <;> simp [Text.ofInt, hneg]
  · exact ⟨isWhole_ofNat _, List.forall_mem_nil _, [], .none, by simp [fractionText]⟩
  · simp only [Numeral.value, and_self, if_true, if_neg (not_lt.2 hn), digitsValue_ofNat]
    by_cases hneg : n < 0
    · have habs : -(n.natAbs : ℤ) = n := by omega
      simp only [hneg, decide_true, if_true, habs]
    · have habs : (n.natAbs : ℤ) = n := by omega
      simp only [hneg, decide_false, Bool.false_eq_true, if_false, habs]

end Scalars

section Decimals

open Decimal

theorem exists_significant {n : ℕ} (hn : 0 < n) :
    ∃ zeros, ((ofNat n).reverse.dropWhile (· == 48)).reverse ++ List.replicate zeros 48 = ofNat n ∧
      ∃ c s, ((ofNat n).reverse.dropWhile (· == 48)).reverse = c :: s ∧ c ≠ 48 := by
  have hzeros : ∀ c ∈ (ofNat n).reverse.takeWhile (· == 48), c = 48 := by
    intro c hc
    simpa using List.mem_takeWhile_imp hc
  have hsplit : ((ofNat n).reverse.dropWhile (· == 48)).reverse ++
      List.replicate ((ofNat n).reverse.takeWhile (· == 48)).length 48 = ofNat n := by
    rw [← List.reverse_inj, List.reverse_append, List.reverse_reverse, List.reverse_replicate,
      ← List.eq_replicate_length.2 hzeros, List.takeWhile_append_dropWhile]
  refine ⟨_, hsplit, ?_⟩
  obtain ⟨c, s, hcons, -, hc⟩ := exists_ofNat_eq_cons hn
  generalize ((ofNat n).reverse.dropWhile (· == 48)).reverse = significant at *
  rw [hcons] at hsplit
  cases significant with
  | nil =>
    -- a numeral of zeros only would begin with one
    rw [List.nil_append] at hsplit
    have hmem : c ∈ c :: s := List.mem_cons_self ..
    rw [← hsplit] at hmem
    exact absurd (List.eq_of_mem_replicate hmem) hc
  | cons d t =>
    obtain ⟨rfl, -⟩ := List.cons.inj hsplit
    exact ⟨d, t, rfl, hc⟩

theorem digitsValue_zeros_append (n : ℕ) (t : Text) :
    digitsValue (List.replicate n 48 ++ t) = digitsValue t := by
  rw [digitsValue_append, digitsValue_zeros, Nat.zero_mul, Nat.zero_add]

theorem isWhole_cons {c : ℕ} {t : Text} (ht : AllDigits (c :: t)) (hc : c ≠ 48) :
    IsWhole (c :: t) := ⟨ht, Or.inr ⟨c, t, rfl, hc⟩⟩

theorem spellsExponent_write (e : ℤ) (zeros : ℕ) :
    SpellsExponent (some e) ((if e < 0 then text "e-" else text "e+") ++
      List.replicate zeros 48 ++ ofNat e.natAbs) := by
  have hdigits : AllDigits (List.replicate zeros 48 ++ ofNat e.natAbs) :=
    (allDigits_zeros zeros).append (allDigits_ofNat _)
  have hspells := SpellsExponent.some (decide (e < 0)) hdigits (by simp [ofNat_ne_nil])
  rw [digitsValue_zeros_append, digitsValue_ofNat] at hspells
  by_cases he : e < 0
  · simpa [he, abs_of_neg he, text] using hspells
  · simpa [he, abs_of_nonneg (not_lt.1 he), text] using hspells

/-- The spellings of a number that are not read as integers. -/
def SpellsNumber (x : ℚ) (t : Text) : Prop :=
  ∃ n : Numeral, Spells n t ∧ ¬ (n.fraction = [] ∧ n.exponent = none) ∧
    (digitsValue (n.whole ++ n.fraction) * 10 ^ (n.exponent.getD 0 - n.fraction.length) : ℚ) = x

section Layouts

variable {c : ℕ} {s : Text} {point : ℤ}

/-- All digits stand behind the point, and zeros before them. -/
theorem spellsNumber_small (hS : AllDigits (c :: s)) (hpoint : point ≤ 0) :
    SpellsNumber (digitsValue (c :: s) * 10 ^ (point - (c :: s).length))
      (text "0." ++ List.replicate (-point).toNat 48 ++ (c :: s)) := by
  refine ⟨⟨false, [48], List.replicate (-point).toNat 48 ++ (c :: s), none⟩, ?_, ?_, ?_⟩
  · refine ⟨isWhole_ofNat 0, (allDigits_zeros _).append hS, [], .none, ?_⟩
    simp [fractionText, text]
  · simp
  · have hvalue : digitsValue ([48] ++ (List.replicate (-point).toNat 48 ++ (c :: s))) =
        digitsValue (c :: s) := by
      rw [← digitsValue_zeros_append ((-point).toNat + 1) (c :: s), List.replicate_succ]
      rfl
    rw [hvalue]
    congr 2
    simp only [Option.getD_none, List.length_append, List.length_replicate]
    push_cast
    omega

/-- All digits stand before the point, and zeros after them. -/
theorem spellsNumber_large (hS : AllDigits (c :: s)) (hc : c ≠ 48)
    (hpoint : (c :: s).length ≤ point.toNat) :
    SpellsNumber (digitsValue (c :: s) * 10 ^ (point - (c :: s).length))
      ((c :: s) ++ List.replicate (point.toNat - (c :: s).length) 48 ++ text ".0") := by
  refine ⟨⟨false, (c :: s) ++ List.replicate (point.toNat - (c :: s).length) 48, [48], none⟩,
    ?_, ?_, ?_⟩
  · refine ⟨isWhole_cons (hS.append (allDigits_zeros _)) hc, allDigits_zeros 1, [], .none, ?_⟩
    simp [fractionText, text]
  · simp
  · have hvalue : digitsValue ((c :: s) ++ List.replicate (point.toNat - (c :: s).length) 48 ++
        [48]) = digitsValue (c :: s) * 10 ^ (point.toNat - (c :: s).length + 1) := by
      rw [List.append_assoc, digitsValue_append, ← List.replicate_succ', digitsValue_zeros,
        List.length_replicate, Nat.add_zero]
    have hone : 1 ≤ (c :: s).length := Nat.succ_pos _
    rw [hvalue]
    push_cast
    rw [mul_assoc, ← zpow_natCast, ← zpow_add₀ (by norm_num)]
    congr 2
    simp only [Option.getD_none, List.length_singleton]
    push_cast
    omega

/-- The point stands between the digits. -/
theorem spellsNumber_split (hS : AllDigits (c :: s)) (hc : c ≠ 48) (hpos : 0 < point)
    (hpoint : point.toNat < (c :: s).length) :
    SpellsNumber (digitsValue (c :: s) * 10 ^ (point - (c :: s).length))
      ((c :: s).take point.toNat ++ text "." ++ (c :: s).drop point.toNat) := by
  obtain ⟨k, hk⟩ : ∃ k, point.toNat = k + 1 := ⟨point.toNat - 1, by omega⟩
  rw [List.length_cons] at hpoint
  have hdrop : s.drop k ≠ [] := by
    rw [ne_eq, List.drop_eq_nil_iff]
    omega
  rw [hk, List.take_succ_cons, List.drop_succ_cons]
  refine ⟨⟨false, c :: s.take k, s.drop k, none⟩, ?_, ?_, ?_⟩
  · refine ⟨isWhole_cons (hS.of_subset ?_) hc, hS.of_subset ?_, [], .none, ?_⟩
    · exact List.cons_subset_cons c (List.take_subset k s)
    · exact List.subset_cons_of_subset c (List.drop_subset k s)
    · simp [fractionText, hdrop, text]
  · simp [hdrop]
  · have hvalue : (c :: s.take k) ++ s.drop k = c :: s := by simp
    rw [hvalue]
    congr 2
    simp only [Option.getD_none, List.length_drop, List.length_cons]
    omega

/-- One digit stands before the point, and an exponent behind the others. -/
theorem spellsNumber_exponent (hS : AllDigits (c :: s)) (hc : c ≠ 48) (zeros : ℕ) :
    SpellsNumber (digitsValue (c :: s) * 10 ^ (point - (c :: s).length))
      ((c :: s).take 1 ++ (if (c :: s).length ≤ 1 then [] else text "." ++ (c :: s).drop 1) ++
        (if point - 1 < 0 then text "e-" else text "e+") ++ List.replicate zeros 48 ++
        ofNat (point - 1).natAbs) := by
  have hexponent := spellsExponent_write (point - 1) zeros
  refine ⟨⟨false, [c], s, some (point - 1)⟩, ?_, by simp, ?_⟩
  · refine ⟨isWhole_cons (hS.of_subset (by simp)) hc, (allDigits_cons_iff.1 hS).2, _, hexponent, ?_⟩
    cases s <;> simp [fractionText, text]
  · rw [List.singleton_append]
    congr 2
    simp only [Option.getD_some, List.length_cons]
    push_cast
    ring

end Layouts

/-- Every layout of a decimal number spells it, and none is read as an integer. -/
theorem spells_write (style : Style) {d : Digits} (hd : 0 < d.digits) :
    SpellsNumber (d.digits * 10 ^ d.exponent) (d.write style) := by
  obtain ⟨zeros, hsplit, c, s, hcons, hc⟩ := exists_significant hd
  have hdigits := allDigits_ofNat d.digits
  have hvalue := digitsValue_ofNat d.digits
  unfold Digits.write
  dsimp only
  rw [hcons]
  rw [hcons] at hsplit
  rw [← hsplit] at hdigits hvalue ⊢
  have hS : AllDigits (c :: s) := hdigits.of_subset (List.subset_append_left _ _)
  rw [digitsValue_append, digitsValue_zeros, List.length_replicate, Nat.add_zero] at hvalue
  -- the value by the place of the point and the significant digits
  have hpoint : (d.digits * 10 ^ d.exponent : ℚ) = digitsValue (c :: s) *
      10 ^ (((c :: s) ++ List.replicate zeros 48).length + d.exponent - (c :: s).length : ℤ) := by
    have hexponent : (((c :: s) ++ List.replicate zeros 48).length + d.exponent -
        (c :: s).length : ℤ) = zeros + d.exponent := by
      simp only [List.length_append, List.length_replicate]
      push_cast
      ring
    rw [hexponent, ← hvalue, zpow_add₀ (by norm_num), zpow_natCast]
    push_cast
    ring
  have hne : ¬ (c :: s).isEmpty = true := by simp
  rw [hpoint, if_neg hne, if_neg hd.ne']
  generalize (((c :: s) ++ List.replicate zeros 48).length + d.exponent : ℤ) = point at *
  by_cases hpositional : style.positionalFrom ≤ point - 1 ∧ point - 1 < style.positionalBelow
  · rw [if_pos hpositional]
    by_cases hsmall : point ≤ 0
    · rw [if_pos hsmall]
      exact spellsNumber_small hS hsmall
    · rw [if_neg hsmall]
      by_cases hlarge : (c :: s).length ≤ point.toNat
      · rw [if_pos hlarge]
        exact spellsNumber_large hS hc hlarge
      · rw [if_neg hlarge]
        exact spellsNumber_split hS hc (not_le.1 hsmall) (not_le.1 hlarge)
  · rw [if_neg hpositional]
    exact spellsNumber_exponent hS hc _

theorem shortest_pos {m : ℕ} {e : ℤ} (h : Format.double.Holds m e) (hm : 0 < m) :
    0 < (shortest .double m e).digits := by
  have hpos := (roundsTo_shortest h hm).pos hm
  by_contra hzero
  rw [Nat.eq_zero_of_not_pos hzero] at hpos
  simp at hpos

theorem isNumeral_write (negative : Bool) {m : ℕ} {e : ℤ} (h : Format.double.Holds m e) :
    IsNumeral (Decimal.write floatStyle (.finite negative m e h : Double))
      (.float (.finite negative m e h)) := by
  rcases Nat.eq_zero_or_pos m with rfl | hm
  · -- 0.0 and -0.0
    obtain rfl : e = Format.double.minExponent := by
      rcases h.2.2.2 with hlong | hleast
      · exact absurd hlong (by decide)
      · exact hleast
    refine ⟨⟨negative, [48], [48], none⟩, text "0.0", rfl, ?_, ?_⟩
    · exact ⟨isWhole_ofNat 0, allDigits_zeros 1, [], .none, rfl⟩
    · have hzero : digitsValue ([48] ++ [48]) = 0 := rfl
      rw [Numeral.value, if_neg (by simp), hzero, Double.ofDecimal_zero, Format.zero,
        Format.pack, dif_pos h]
  · obtain ⟨n, hspells, hfloat, hvalue⟩ := spells_write floatStyle (shortest_pos h hm)
    have hrounds := roundsTo_shortest h hm
    rw [← hvalue] at hrounds
    refine ⟨{ n with negative := negative }, _, rfl, hspells, ?_⟩
    rw [Numeral.value, if_neg hfloat]
    exact congrArg (fun x => Except.ok (Json.float x))
      (Double.ofDecimal_of_roundsTo negative h hm hrounds)

end Decimals

end EntityTagger.Json
