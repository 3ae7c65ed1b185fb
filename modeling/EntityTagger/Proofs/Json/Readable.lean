import EntityTagger.Proofs.Association
import EntityTagger.Proofs.Json.Numeral

/-! What JSON texts denote: in every value that is read integers are not too long, and no name
stands twice in an object. -/
namespace EntityTagger

namespace Json

mutual

/-- What a text can denote. -/
def IsReadable : Json → Prop
  | .int n => (Text.ofNat n.natAbs).length ≤ maxDigits
  | .arr items => AreReadable items
  | .obj members => (members.map Prod.fst).Nodup ∧ MembersReadable members
  | _ => True

def AreReadable : List Json → Prop
  | [] => True
  | item :: rest => IsReadable item ∧ AreReadable rest

def MembersReadable : List (Text × Json) → Prop
  | [] => True
  | (_, value) :: rest => IsReadable value ∧ MembersReadable rest

end

theorem areReadable_iff {items : List Json} :
    AreReadable items ↔ ∀ item ∈ items, IsReadable item := by
  induction items with
  | nil => simp [AreReadable]
  | cons item rest ih => rw [AreReadable, ih, List.forall_mem_cons]

theorem membersReadable_iff {members : List (Text × Json)} :
    MembersReadable members ↔ ∀ m ∈ members, IsReadable m.2 := by
  induction members with
  | nil => simp [MembersReadable]
  | cons m rest ih => rw [MembersReadable, ih, List.forall_mem_cons]

section Scalars

open Text

variable {t rest : Text}

theorem length_ofNat_digitsValue_le (ht : AllDigits t) (hne : t ≠ []) :
    (ofNat (digitsValue t)).length ≤ t.length := by
  have hlength : 0 < t.length := List.length_pos_iff.2 hne
  rcases Nat.eq_zero_or_pos (digitsValue t) with hzero | hpos
  · rw [hzero]
    exact hlength
  · have hpow : 10 ^ ((ofNat (digitsValue t)).length - 1) < 10 ^ t.length :=
      (pow_le_of_ofNat hpos).trans_lt (digitsValue_lt ht)
    have := (Nat.pow_lt_pow_iff_right (by decide)).1 hpow
    omega

theorem allDigits_of_readWhole? {whole : Text} (h : readWhole? t = some (whole, rest)) :
    AllDigits whole ∧ whole ≠ [] := by
  cases t with
  | nil => simp [readWhole?] at h
  | cons c s =>
    rw [readWhole?] at h
    split_ifs at h with hzero hdigit
    · obtain ⟨rfl, -⟩ := Prod.mk.inj (Option.some.inj h)
      exact ⟨allDigits_zeros 1, by simp⟩
    · obtain ⟨rfl, -⟩ := Prod.mk.inj (Option.some.inj h)
      refine ⟨fun d hd => List.mem_takeWhile_imp hd, ?_⟩
      rw [List.takeWhile_cons_of_pos hdigit]
      exact List.cons_ne_nil _ _

theorem allDigits_of_readNumeral? {n : Numeral} (h : readNumeral? t = some (n, rest)) :
    AllDigits n.whole ∧ n.whole ≠ [] := by
  unfold readNumeral? at h
  dsimp only at h
  split at h
  · simp at h
  · next whole after hwhole =>
    obtain ⟨rfl, -⟩ := Prod.mk.inj (Option.some.inj h)
    exact allDigits_of_readWhole? hwhole

theorem isReadable_of_value {n : Numeral} {value : Json} (hdigits : AllDigits n.whole)
    (hne : n.whole ≠ []) (h : n.value = .ok value) : IsReadable value := by
  unfold Numeral.value at h
  have hlength := length_ofNat_digitsValue_le hdigits hne
  split_ifs at h with hwhole hlong hnegative
  · obtain rfl := Except.ok.inj h
    rw [IsReadable, Int.natAbs_neg, Int.natAbs_natCast]
    exact hlength.trans (not_lt.1 hlong)
  · obtain rfl := Except.ok.inj h
    rw [IsReadable, Int.natAbs_natCast]
    exact hlength.trans (not_lt.1 hlong)
  · obtain rfl := Except.ok.inj h
    trivial

theorem isReadable_of_readScalar {value : Json} (h : readScalar t = .ok (value, rest)) :
    IsReadable value := by
  unfold readScalar at h
  split at h
  · next word literal hfind =>
    obtain ⟨rfl, -⟩ := Prod.mk.inj (Except.ok.inj h)
    have hmem := List.mem_of_find?_eq_some hfind
    simp only [literals, List.mem_cons, Prod.mk.injEq, List.not_mem_nil, or_false] at hmem
    rcases hmem with ⟨-, rfl⟩ | ⟨-, rfl⟩ | ⟨-, rfl⟩ | ⟨-, rfl⟩ | ⟨-, rfl⟩ | ⟨-, rfl⟩ <;> trivial
  · split at h
    · simp at h
    · next n after hnumeral =>
      obtain ⟨hdigits, hne⟩ := allDigits_of_readNumeral? hnumeral
      cases hvalue : n.value with
      | error stop => simp [hvalue, Except.map] at h
      | ok value =>
        rw [hvalue] at h
        obtain ⟨rfl, -⟩ := Prod.mk.inj (Except.ok.inj h)
        exact isReadable_of_value hdigits hne hvalue

end Scalars

section Step

variable {fuel : ℕ} {t rest : Text}

theorem isReadable_of_readValue {value : Json}
    (hitems : ∀ {t items rest}, readItems fuel t = .ok (items, rest) → AreReadable items)
    (hmembers : ∀ {t members rest}, readMembers fuel t = .ok (members, rest) →
      MembersReadable members)
    (h : readValue (fuel + 1) t = .ok (value, rest)) : IsReadable value := by
  cases t with
  | nil => simp [readValue] at h
  | cons c t =>
    rw [readValue] at h
    split_ifs at h
    · split at h
      · simp at h
      · obtain ⟨rfl, -⟩ := Prod.mk.inj (Except.ok.inj h)
        trivial
    · split at h
      · obtain ⟨rfl, -⟩ := Prod.mk.inj (Except.ok.inj h)
        trivial
      · split at h
        · simp at h
        · next hread =>
          obtain ⟨rfl, -⟩ := Prod.mk.inj (Except.ok.inj h)
          exact hitems hread
    · split at h
      · obtain ⟨rfl, -⟩ := Prod.mk.inj (Except.ok.inj h)
        exact ⟨List.nodup_nil, trivial⟩
      · split at h
        · simp at h
        · next hread =>
          obtain ⟨rfl, -⟩ := Prod.mk.inj (Except.ok.inj h)
          refine ⟨Association.nodup_ofList _, membersReadable_iff.2 fun m hm => ?_⟩
          exact membersReadable_iff.1 (hmembers hread) m (Association.mem_of_mem_ofList hm)
    · exact isReadable_of_readScalar h

theorem areReadable_of_readItems {items : List Json}
    (hvalue : ∀ {t value rest}, readValue fuel t = .ok (value, rest) → IsReadable value)
    (hitems : ∀ {t items rest}, readItems fuel t = .ok (items, rest) → AreReadable items)
    (h : readItems (fuel + 1) t = .ok (items, rest)) : AreReadable items := by
  rw [readItems] at h
  split at h
  · simp at h
  · next hread =>
    split at h
    · obtain ⟨rfl, -⟩ := Prod.mk.inj (Except.ok.inj h)
      exact ⟨hvalue hread, trivial⟩
    · split at h
      · simp at h
      · next hmore =>
        obtain ⟨rfl, -⟩ := Prod.mk.inj (Except.ok.inj h)
        exact ⟨hvalue hread, hitems hmore⟩
    · simp at h

theorem membersReadable_of_readMembers {members : List (Text × Json)}
    (hvalue : ∀ {t value rest}, readValue fuel t = .ok (value, rest) → IsReadable value)
    (hmembers : ∀ {t members rest}, readMembers fuel t = .ok (members, rest) →
      MembersReadable members)
    (h : readMembers (fuel + 1) t = .ok (members, rest)) : MembersReadable members := by
  rw [readMembers.eq_def] at h
  dsimp only at h
  split at h
  · split at h
    · simp at h
    · split at h
      · split at h
        · simp at h
        · next hread =>
          split at h
          · obtain ⟨rfl, -⟩ := Prod.mk.inj (Except.ok.inj h)
            exact ⟨hvalue hread, trivial⟩
          · split at h
            · simp at h
            · next hmore =>
              obtain ⟨rfl, -⟩ := Prod.mk.inj (Except.ok.inj h)
              exact ⟨hvalue hread, hmembers hmore⟩
          · simp at h
      · simp at h
  · simp at h

end Step

/-- Whatever the reader returns is readable, values, items and members alike. -/
theorem isReadable_of_fuel (fuel : ℕ) :
    (∀ {t value rest}, readValue fuel t = .ok (value, rest) → IsReadable value) ∧
    (∀ {t items rest}, readItems fuel t = .ok (items, rest) → AreReadable items) ∧
    ∀ {t members rest}, readMembers fuel t = .ok (members, rest) → MembersReadable members := by
  induction fuel with
  | zero => simp [readValue, readItems, readMembers]
  | succ fuel ih =>
    obtain ⟨hvalue, hitems, hmembers⟩ := ih
    refine ⟨?_, ?_, ?_⟩
    · exact isReadable_of_readValue hitems hmembers
    · exact areReadable_of_readItems hvalue hitems
    · exact membersReadable_of_readMembers hvalue hmembers

theorem isReadable_of_read {t : Text} {value : Json} (h : read t = .ok value) :
    IsReadable value := by
  unfold read readAll at h
  split at h
  · next hall =>
    obtain rfl := Except.ok.inj h
    split at hall
    · simp at hall
    · split at hall
      · simp at hall
      · next hvalue =>
        split at hall
        · obtain rfl := Except.ok.inj hall
          exact (isReadable_of_fuel _).1 hvalue
        · simp at hall
  · simp at h
  · simp at h

end Json

end EntityTagger
