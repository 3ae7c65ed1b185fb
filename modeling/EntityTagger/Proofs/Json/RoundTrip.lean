import EntityTagger.Proofs.Json.Readable

/-! Written JSON, read back: a string is read up to its closing quote, a value up to its end, and
what is read is what was written. -/
namespace EntityTagger.Json

open Text

section Strings

theorem exists_hex_of_control : ∀ c < 32, ∃ a b : ℕ, ofNatHex 4 c = [48, 48, a, b] ∧
    hex4? 48 48 a b = some c := by
  have hdigits : ∀ c < 32, ofNatHex 4 c = [48, 48, (Nat.digitChar (c / 16)).toNat,
      (Nat.digitChar (c % 16)).toNat] ∧
      hex4? 48 48 (Nat.digitChar (c / 16)).toNat (Nat.digitChar (c % 16)).toNat = some c := by
    decide
  exact fun c hc => ⟨_, _, hdigits c hc⟩

variable {opening : ℕ} {rest : Text}

theorem readString_writeChar (c : ℕ) (hrest : rest ≠ []) :
    readString opening 0 (writeChar c ++ rest) =
      (readString opening 0 rest).map fun read => (c :: read.1, read.2) := by
  have hshort : ∀ letter code : ℕ, letter ≠ 117 → shortEscape? letter = some code →
      readString opening 0 ([92, letter] ++ rest) =
        (readString opening 0 rest).map fun read => (code :: read.1, read.2) := by
    intro letter code hletter hcode
    have hescape : readEscape opening (letter :: rest) = .ok (code, 1) := by
      unfold readEscape
      simp [hletter, hcode]
    simp only [List.cons_append, List.nil_append, readString, hescape]
    cases readString opening 0 rest <;> simp [Except.map]
  unfold writeChar
  split_ifs with h₁ h₂ h₃ h₄ h₅ h₆ h₇ h₈
  · exact h₁ ▸ hshort 34 34 (by decide) rfl
  · exact h₂ ▸ hshort 92 92 (by decide) rfl
  · exact h₃ ▸ hshort 110 10 (by decide) rfl
  · exact h₄ ▸ hshort 114 13 (by decide) rfl
  · exact h₅ ▸ hshort 116 9 (by decide) rfl
  · exact h₆ ▸ hshort 98 8 (by decide) rfl
  · exact h₇ ▸ hshort 102 12 (by decide) rfl
  · obtain ⟨a, b, htext, hcode⟩ := exists_hex_of_control c h₈
    obtain ⟨e, more, rfl⟩ := List.exists_cons_of_ne_nil hrest
    have hescape : readEscape opening (117 :: 48 :: 48 :: a :: b :: e :: more) = .ok (c, 5) := by
      have hlow : ¬ (0xD800 ≤ c ∧ c ≤ 0xDBFF) := by omega
      simp only [readEscape, hcode, if_neg hlow]
    have hmark : text "\\u" = [92, 117] := rfl
    rw [htext, hmark]
    simp only [List.cons_append, List.nil_append]
    have hskip : readString opening 5 (117 :: 48 :: 48 :: a :: b :: e :: more) =
        readString opening 0 (e :: more) := rfl
    rw [readString, if_neg (by decide), if_pos rfl, hescape]
    simp only [hskip]
    cases readString opening 0 (e :: more) <;> rfl
  · rw [List.singleton_append, readString, if_neg h₁, if_neg h₂, if_neg h₈]
    cases readString opening 0 rest <;> simp [Except.map]

theorem readString_write (s : Text) (opening : ℕ) (rest : Text) :
    readString opening 0 (s.flatMap writeChar ++ 34 :: rest) = .ok (s, rest) := by
  induction s with
  | nil => rfl
  | cons c s ih =>
    rw [List.flatMap_cons, List.append_assoc, readString_writeChar c (by simp), ih]
    rfl

end Strings

section Heads

theorem skipSpace_cons {c : ℕ} (hc : isSpace c = false) (t : Text) :
    skipSpace (c :: t) = c :: t := by
  rw [skipSpace, List.dropWhile_cons_of_neg (by simp [hc])]

/-- How a written value begins: in ASCII, with no blank, and with no bracket that closes. -/
theorem exists_cons_write {j : Json} (h : IsReadable j) :
    ∃ c t, write j = c :: t ∧ isSpace c = false ∧ c ≠ 93 ∧ c < 128 := by
  have hnumeral : ∀ {t value}, IsNumeral t value →
      ∃ c s, t = c :: s ∧ isSpace c = false ∧ c ≠ 93 ∧ c < 128 := by
    intro t value ht
    obtain ⟨c, s, rfl, hc⟩ := ht.exists_cons
    refine ⟨c, s, rfl, ?_⟩
    simp only [isDigit, Bool.and_eq_true, decide_eq_true_eq] at hc
    simp only [isSpace, Bool.or_eq_false_iff, decide_eq_false_iff_not]
    omega
  cases j with
  | null => exact ⟨110, _, rfl, rfl, by decide⟩
  | bool value => cases value <;> exact ⟨_, _, rfl, rfl, by decide⟩
  | int n => exact hnumeral (isNumeral_ofInt h)
  | float x =>
    cases x with
    | nan => exact ⟨78, _, rfl, rfl, by decide⟩
    | infinity negative => cases negative <;> exact ⟨_, _, rfl, rfl, by decide⟩
    | finite negative m e hfinite => exact hnumeral (isNumeral_write negative hfinite)
  | str s => exact ⟨34, _, rfl, rfl, by decide⟩
  | arr items => cases items <;> exact ⟨91, _, rfl, rfl, by decide⟩
  | obj members => cases members <;> exact ⟨123, _, rfl, rfl, by decide⟩

end Heads

section Values

variable {rest : Text}

theorem endsNumeral_cons {c : ℕ} (hc : isDigit c = false ∧ c ≠ 46 ∧ c ≠ 101 ∧ c ≠ 69) (t : Text) :
    EndsNumeral (c :: t) := by
  intro d hd
  obtain rfl : c = d := by simpa using hd
  exact hc

/-- Whatever stands behind a value in an array or an object, no numeral goes on with it. -/
theorem endsNumeral_writeItems (items : List Json) (rest : Text) :
    EndsNumeral (writeItems items ++ rest) := by
  cases items <;> exact endsNumeral_cons (by decide) _

theorem endsNumeral_writeMembers (members : List (Text × Json)) (rest : Text) :
    EndsNumeral (writeMembers members ++ rest) := by
  cases members <;> exact endsNumeral_cons (by decide) _

theorem readValue_of_scalar {fuel c : ℕ} {t : Text} (hc : c ≠ 34 ∧ c ≠ 91 ∧ c ≠ 123) :
    readValue (fuel + 1) (c :: t) = readScalar (c :: t) := by
  rw [readValue, if_neg hc.1, if_neg hc.2.1, if_neg hc.2.2]

theorem readValue_of_isNumeral {fuel : ℕ} {t : Text} {value : Json} (h : IsNumeral t value)
    (hrest : EndsNumeral rest) : readValue (fuel + 1) (t ++ rest) = .ok (value, rest) := by
  have hread := h.readScalar hrest
  obtain ⟨c, s, rfl, hc⟩ := h.exists_cons
  simp only [isDigit, Bool.and_eq_true, decide_eq_true_eq] at hc
  rw [List.cons_append] at hread ⊢
  rw [readValue_of_scalar (by omega), hread]

theorem skipSpace_write {j : Json} (h : IsReadable j) (rest : Text) :
    skipSpace (32 :: (write j ++ rest)) = write j ++ rest := by
  obtain ⟨c, s, hcons, hc, -⟩ := exists_cons_write h
  rw [hcons, List.cons_append, skipSpace, List.dropWhile_cons_of_pos (by rfl), ← skipSpace,
    skipSpace_cons hc]

theorem readItems_of_readValue {fuel : ℕ} {t : Text} {item : Json} {items : List Json}
    (hitem : ∀ rest, EndsNumeral rest → readValue fuel (t ++ rest) = .ok (item, rest))
    (hreadable : AreReadable items)
    (hitems : ∀ next others, items = next :: others →
      readItems fuel (write next ++ writeItems others ++ rest) = .ok (items, rest)) :
    readItems (fuel + 1) (t ++ writeItems items ++ rest) = .ok (item :: items, rest) := by
  rw [List.append_assoc, readItems, hitem _ (endsNumeral_writeItems items rest)]
  cases items with
  | nil => rfl
  | cons next others =>
    have htext : writeItems (next :: others) ++ rest =
        44 :: 32 :: (write next ++ (writeItems others ++ rest)) := by
      simp [writeItems, text]
    have hnext := hitems next others rfl
    rw [List.append_assoc] at hnext
    rw [htext]
    simp only [skipSpace_cons (c := 44) rfl, skipSpace_write hreadable.1, hnext]

def writeMember (m : Text × Json) : Text := writeString m.1 ++ text ": " ++ write m.2

theorem writeMember_append (m : Text × Json) (rest : Text) : writeMember m ++ rest =
    34 :: (m.1.flatMap writeChar ++ 34 :: 58 :: 32 :: (write m.2 ++ rest)) := by
  simp [writeMember, writeString, text]

theorem readMembers_of_readValue {fuel : ℕ} {m : Text × Json} {members : List (Text × Json)}
    (hreadable : IsReadable m.2)
    (hvalue : ∀ rest, EndsNumeral rest → readValue fuel (write m.2 ++ rest) = .ok (m.2, rest))
    (hmembers : ∀ next others, members = next :: others →
      readMembers fuel (writeMember next ++ writeMembers others ++ rest) = .ok (members, rest)) :
    readMembers (fuel + 1) (writeMember m ++ writeMembers members ++ rest) =
      .ok (m :: members, rest) := by
  rw [List.append_assoc, writeMember_append, readMembers, readString_write]
  simp only [skipSpace_cons (c := 58) rfl, skipSpace_write hreadable,
    hvalue _ (endsNumeral_writeMembers members rest)]
  cases members with
  | nil => rfl
  | cons next others =>
    have htext : writeMembers (next :: others) ++ rest =
        44 :: 32 :: (writeMember next ++ (writeMembers others ++ rest)) := by
      simp [writeMembers, writeMember, text]
    have hnext := hmembers next others rfl
    rw [List.append_assoc, writeMember_append] at hnext
    have hskip : ∀ t, skipSpace (32 :: 34 :: t) = 34 :: t := fun t => rfl
    rw [htext, writeMember_append]
    simp only [skipSpace_cons (c := 44) rfl, hskip, hnext]

theorem length_write_pos {j : Json} (h : IsReadable j) : 0 < (write j).length := by
  obtain ⟨c, s, hcons, -⟩ := exists_cons_write h
  rw [hcons]
  exact Nat.succ_pos _

theorem readValue_of_readItems {fuel : ℕ} {item : Json} {items : List Json} (h : IsReadable item)
    (hitems : readItems fuel (write item ++ writeItems items ++ rest) = .ok (item :: items, rest)) :
    readValue (fuel + 1) (write (.arr (item :: items)) ++ rest) =
      .ok (.arr (item :: items), rest) := by
  obtain ⟨c, s, hcons, hc, hclose, -⟩ := exists_cons_write h
  have htext : write (.arr (item :: items)) ++ rest =
      91 :: (write item ++ writeItems items ++ rest) := by
    simp [write]
  rw [htext, readValue, if_neg (by decide), if_pos rfl]
  rw [hcons] at hitems ⊢
  simp only [List.cons_append] at hitems ⊢
  rw [skipSpace_cons hc]
  split
  · next hbracket => exact absurd (List.cons.inj hbracket).1 hclose
  · rw [hitems]

theorem readValue_of_readMembers {fuel : ℕ} {m : Text × Json} {members : List (Text × Json)}
    (hnames : ((m :: members).map Prod.fst).Nodup)
    (hmembers : readMembers fuel (writeMember m ++ writeMembers members ++ rest) =
      .ok (m :: members, rest)) :
    readValue (fuel + 1) (write (.obj (m :: members)) ++ rest) =
      .ok (.obj (m :: members), rest) := by
  have htext : write (.obj (m :: members)) ++ rest =
      123 :: (writeMember m ++ (writeMembers members ++ rest)) := by
    simp [write, writeMember]
  have hskip : ∀ t, skipSpace (34 :: t) = 34 :: t := fun t => rfl
  rw [List.append_assoc, writeMember_append] at hmembers
  rw [htext, writeMember_append, readValue, if_neg (by decide), if_neg (by decide), if_pos rfl,
    hskip]
  simp only [hmembers, Association.ofList_of_nodup hnames]

mutual

/-- A written value is read up to its end. -/
theorem readValue_write : ∀ {j : Json}, IsReadable j → ∀ {fuel : ℕ} {rest : Text},
    2 * (write j).length ≤ fuel → EndsNumeral rest →
    readValue fuel (write j ++ rest) = .ok (j, rest)
  | .null, _, fuel + 1, rest, _, _ => rfl
  | .bool true, _, fuel + 1, rest, _, _ => rfl
  | .bool false, _, fuel + 1, rest, _, _ => rfl
  | .int n, h, fuel + 1, rest, _, hrest => readValue_of_isNumeral (isNumeral_ofInt h) hrest
  | .float .nan, _, fuel + 1, rest, _, _ => rfl
  | .float (.infinity true), _, fuel + 1, rest, _, _ => rfl
  | .float (.infinity false), _, fuel + 1, rest, _, _ => rfl
  | .float (.finite negative m e h), _, fuel + 1, rest, _, hrest =>
    readValue_of_isNumeral (isNumeral_write negative h) hrest
  | .str s, _, fuel + 1, rest, _, _ => by
    have htext : write (.str s) ++ rest = 34 :: (s.flatMap writeChar ++ 34 :: rest) := by
      simp [write, writeString]
    rw [htext, readValue, if_pos rfl, readString_write]
  | .arr [], _, fuel + 1, rest, _, _ => rfl
  | .arr (item :: items), h, fuel + 1, rest, hfuel, _ => by
    have hlength : (write (.arr (item :: items))).length =
        1 + (write item).length + (writeItems items).length := by
      simp [write]
      omega
    obtain ⟨fuel, rfl⟩ : ∃ k, fuel = k + 1 := ⟨fuel - 1, by omega⟩
    refine readValue_of_readItems h.1 ?_
    exact readItems_write h.2 (fun _ hrest => readValue_write h.1 (by omega) hrest) (by omega)
  | .obj [], _, fuel + 1, rest, _, _ => rfl
  | .obj ((name, value) :: members), h, fuel + 1, rest, hfuel, _ => by
    have hlength : 1 + (write value).length + (writeMembers members).length ≤
        (write (.obj ((name, value) :: members))).length := by
      simp [write]
      omega
    obtain ⟨fuel, rfl⟩ : ∃ k, fuel = k + 1 := ⟨fuel - 1, by omega⟩
    refine readValue_of_readMembers h.1 ?_
    exact readMembers_write h.2.2 h.2.1 (fun _ hrest => readValue_write h.2.1 (by omega) hrest)
      (by omega)
  | j, h, 0, rest, hfuel, _ => absurd (length_write_pos h) (by omega)

theorem readItems_write : ∀ {items : List Json}, AreReadable items →
    ∀ {t rest : Text} {item : Json} {fuel : ℕ},
    (∀ rest, EndsNumeral rest → readValue fuel (t ++ rest) = .ok (item, rest)) →
    2 * (writeItems items).length ≤ fuel →
    readItems (fuel + 1) (t ++ writeItems items ++ rest) = .ok (item :: items, rest)
  | [], h, t, rest, item, fuel, hitem, _ => readItems_of_readValue hitem h (by simp)
  | next :: others, h, t, rest, item, 0, hitem, hfuel => by simp [writeItems, text] at hfuel
  | next :: others, h, t, rest, item, fuel + 1, hitem, hfuel => by
    have hlength : (writeItems (next :: others)).length =
        2 + (write next).length + (writeItems others).length := by
      simp [writeItems, text]
      omega
    refine readItems_of_readValue hitem h ?_
    rintro _ _ ⟨⟩
    exact readItems_write h.2 (fun _ hrest => readValue_write h.1 (by omega) hrest) (by omega)

theorem readMembers_write : ∀ {members : List (Text × Json)}, MembersReadable members →
    ∀ {m : Text × Json} {rest : Text} {fuel : ℕ}, IsReadable m.2 →
    (∀ rest, EndsNumeral rest → readValue fuel (write m.2 ++ rest) = .ok (m.2, rest)) →
    2 * (writeMembers members).length ≤ fuel →
    readMembers (fuel + 1) (writeMember m ++ writeMembers members ++ rest) =
      .ok (m :: members, rest)
  | [], h, m, rest, fuel, hreadable, hvalue, _ =>
    readMembers_of_readValue hreadable hvalue (by simp)
  | next :: others, h, m, rest, 0, hreadable, hvalue, hfuel => by
    simp [writeMembers, text] at hfuel
  | (name, value) :: others, h, m, rest, fuel + 1, hreadable, hvalue, hfuel => by
    have hlength : (write value).length + (writeMembers others).length + 2 ≤
        (writeMembers ((name, value) :: others)).length := by
      simp [writeMembers, text]
      omega
    refine readMembers_of_readValue hreadable hvalue ?_
    rintro _ _ ⟨⟩
    exact readMembers_write h.2 h.1 (fun _ hrest => readValue_write h.1 (by omega) hrest) (by omega)

end

theorem read_write {j : Json} (h : IsReadable j) : read (write j) = .ok j := by
  obtain ⟨c, s, hcons, hc, -, hascii⟩ := exists_cons_write h
  have hvalue : readValue (2 * (write j).length + 1) (write j ++ []) = .ok (j, []) :=
    readValue_write h (by omega) (by simp [EndsNumeral])
  rw [List.append_nil] at hvalue
  have hall : readAll (write j) = .ok j := by
    unfold readAll
    rw [hcons, skipSpace_cons hc, ← hcons]
    split
    · next hmark =>
      have hhead : c = 0xFEFF := (List.cons.inj (hcons.symm.trans hmark)).1
      omega
    · simp [hvalue, skipSpace]
  rw [read, hall]

end Values

end EntityTagger.Json
