import EntityTagger.Proofs.Utf8.Decoding

/-! Files that are read piece by piece. Where the pieces are cut makes no difference to a file
without faults: a sequence that is cut in two is held back until its second half is there. -/
namespace EntityTagger.Utf8

variable {t codes : Text} {bytes : List UInt8} {held left : List ℕ}

theorem step_append_of_faulty {lead length : ℕ} {rest : List ℕ} {fault : Fault}
    (h : step lead rest = .faulty fault length) (hfault : fault ≠ .unexpectedEnd) (more : List ℕ) :
    step lead (rest ++ more) = .faulty fault length := by
  rw [step.eq_def] at h ⊢
  split_ifs at h ⊢ with h₁ h₂ h₃ h₄ h₅
  · exact h
  · rcases rest with _ | ⟨b, after⟩
    · cases h
      exact absurd rfl hfault
    · exact h
  · rcases rest with _ | ⟨b, _ | ⟨c, after⟩⟩
    · cases h
      exact absurd rfl hfault
    · dsimp only [List.cons_append, List.nil_append] at h ⊢
      split_ifs at h ⊢
      · exact h
      · cases h
        exact absurd rfl hfault
    · exact h
  · rcases rest with _ | ⟨b, _ | ⟨c, _ | ⟨d, after⟩⟩⟩
    · cases h
      exact absurd rfl hfault
    · dsimp only [List.cons_append, List.nil_append] at h ⊢
      split_ifs at h ⊢
      · exact h
      · cases h
        exact absurd rfl hfault
    · dsimp only [List.cons_append, List.nil_append] at h ⊢
      split_ifs at h ⊢
      · exact h
      · exact h
      · cases h
        exact absurd rfl hfault
    · exact h
  · exact h

/-- Behind the form of a text there is the form of another one exactly where both together are. -/
theorem exists_rest_iff (h : codes.IsUnicode) :
    (∃ s : Text, t = codes ++ s ∧ s.IsUnicode ∧ left = (bytesOf s).map UInt8.toNat) ↔
      t.IsUnicode ∧ (bytesOf codes).map UInt8.toNat ++ left = (bytesOf t).map UInt8.toNat := by
  constructor
  · rintro ⟨s, rfl, hs, rfl⟩
    refine ⟨List.forall_mem_append.2 ⟨h, hs⟩, ?_⟩
    rw [bytesOf, bytesOf, bytesOf, List.flatMap_append, List.map_append]
  · rintro ⟨ht, hleft⟩
    have hscan : scan 0 0 ((bytesOf codes).map UInt8.toNat ++ left) = (t, none) :=
      scan_eq_none_iff.2 ⟨ht, hleft⟩
    rw [scan_bytesOf_append h] at hscan
    obtain ⟨hcodes, hnone⟩ := Prod.mk.inj hscan
    exact ⟨_, hcodes.symm, scan_eq_none_iff.1 (Prod.ext rfl hnone)⟩

theorem append_eq_iff {decoded : Text × Option DecodeError} :
    (codes ++ decoded.1, decoded.2) = (t, none) ↔ ∃ s, t = codes ++ s ∧ decoded = (s, none) := by
  obtain ⟨more, error⟩ := decoded
  constructor
  · rintro ⟨⟩
    exact ⟨more, rfl, rfl⟩
  · rintro ⟨s, rfl, ⟨⟩⟩
    rfl

theorem decodePieces_eq_iff {pieces : List (List ℕ)} : decodePieces held pieces = (t, none) ↔
    t.IsUnicode ∧ held ++ pieces.flatten = (bytesOf t).map UInt8.toNat := by
  induction pieces generalizing held t with
  | nil => rw [decodePieces, List.flatten_nil, List.append_nil, scan_eq_none_iff]
  | cons piece rest ih =>
    obtain ⟨codes, error, hscan⟩ : ∃ codes error, scan 0 0 (held ++ piece) = (codes, error) :=
      ⟨_, _, rfl⟩
    obtain ⟨hcodes, left, hleft, hstops⟩ := exists_left_of_scan hscan
    rw [decodePieces, hscan, List.flatten_cons, ← List.append_assoc, hleft, List.append_assoc,
      ← exists_rest_iff hcodes]
    cases hstops with
    | behind =>
      show (codes ++ (decodePieces [] rest).1, (decodePieces [] rest).2) = (t, none) ↔ _
      simp only [append_eq_iff, ih, List.nil_append]
    | @before lead length after fault hstep =>
      have hdrop : ((bytesOf codes).map UInt8.toNat ++ lead :: after).drop
          (0 + (bytesOf codes).length) = lead :: after :=
        List.drop_left' (by rw [List.length_map, Nat.zero_add])
      simp only [hdrop]
      split_ifs with hcut
      · show (codes ++ (decodePieces (lead :: after) rest).1, _) = (t, none) ↔ _
        simp only [append_eq_iff, ih]
      · -- the sequence is at fault whatever comes next
        have hfault : fault ≠ .unexpectedEnd := by
          rintro rfl
          exact hcut rfl
        simp only [Prod.mk.injEq, reduceCtorEq, and_false, false_iff]
        rintro ⟨s, -, hs, hbytes⟩
        have hread : scan 0 0 (lead :: (after ++ rest.flatten)) = (s, none) :=
          scan_eq_none_iff.2 ⟨hs, hbytes⟩
        rw [scan, step_append_of_faulty hstep hfault] at hread
        exact absurd (congrArg Prod.snd hread) (Option.some_ne_none _)

theorem decodeStream_eq_iff : decodeStream bytes = (t, none) ↔ encode t = .ok bytes := by
  rw [decodeStream, decodePieces_eq_iff, flatten_parts (by decide), List.nil_append,
    encode_eq_ok_iff, (List.map_injective_iff.2 fun _ _ => UInt8.toNat_inj.1).eq_iff]

theorem decodeStream_bytesOf (h : t.IsUnicode) : decodeStream (bytesOf t) = (t, none) :=
  decodeStream_eq_iff.2 (encode_of_isUnicode h)

end EntityTagger.Utf8
