import EntityTagger.Proofs.Utf8

/-! Texts with a form in UTF-8 are read back from it, and only such texts reach a file whole. -/
namespace EntityTagger

namespace Utf8

section Steps

variable {c : ℕ} {rest : List ℕ}

theorem map_toNat_map_toUInt8 {numbers : List ℕ} (h : ∀ n ∈ numbers, n < 256) :
    (numbers.map Nat.toUInt8).map UInt8.toNat = numbers := by
  rw [List.map_map]
  refine (List.map_congr_left fun n hn => ?_).trans (List.map_id numbers)
  have hn := h n hn
  simp [Nat.mod_eq_of_lt hn]

theorem step_one (hc : c < 0x80) : step c rest = .character c 1 := by
  rw [step.eq_def, if_pos hc]

theorem step_two (hlow : 0x80 ≤ c) (hhigh : c < 0x800) :
    step (0xC0 + c / 64) ((0x80 + c % 64) :: rest) = .character c 2 := by
  have hcontinuation : isContinuation (0x80 + c % 64) = true := by
    simp only [isContinuation, Bool.and_eq_true, decide_eq_true_eq]
    omega
  have hcode : (0xC0 + c / 64 - 0xC0) * 64 + payload (0x80 + c % 64) = c := by
    unfold payload
    omega
  rw [step.eq_def, if_neg (by omega), if_neg (by omega), if_pos (by omega)]
  simp only [hcontinuation, if_true, hcode]

theorem step_three (hlow : 0x800 ≤ c) (hhigh : c < 0x10000) (hs : Text.isSurrogate c = false) :
    step (0xE0 + c / 4096) ((0x80 + c / 64 % 64) :: (0x80 + c % 64) :: rest) = .character c 3 := by
  simp only [Text.isSurrogate, Bool.and_eq_false_iff, decide_eq_false_iff_not] at hs
  -- the second byte after E0 begins at A0, and the one after ED ends at 9F
  have hsecond : isSecond (0xE0 + c / 4096) (0x80 + c / 64 % 64) = true := by
    simp only [isSecond, isContinuation, Bool.and_eq_true, Bool.or_eq_true, bne_iff_ne, ne_eq,
      decide_eq_true_eq]
    omega
  have hcontinuation : isContinuation (0x80 + c % 64) = true := by
    simp only [isContinuation, Bool.and_eq_true, decide_eq_true_eq]
    omega
  have hcode : (0xE0 + c / 4096 - 0xE0) * 4096 + payload (0x80 + c / 64 % 64) * 64 +
      payload (0x80 + c % 64) = c := by
    unfold payload
    omega
  rw [step.eq_def, if_neg (by omega), if_neg (by omega), if_neg (by omega), if_pos (by omega)]
  simp only [hsecond, Bool.not_true, Bool.false_eq_true, if_false, hcontinuation, if_true, hcode]

theorem step_four (hlow : 0x10000 ≤ c) (hhigh : c < 0x110000) :
    step (0xF0 + c / 262144)
      ((0x80 + c / 4096 % 64) :: (0x80 + c / 64 % 64) :: (0x80 + c % 64) :: rest) =
        .character c 4 := by
  have hsecond : isSecond (0xF0 + c / 262144) (0x80 + c / 4096 % 64) = true := by
    simp only [isSecond, isContinuation, Bool.and_eq_true, Bool.or_eq_true, bne_iff_ne, ne_eq,
      decide_eq_true_eq]
    omega
  have hcontinuation : ∀ n, isContinuation (0x80 + n % 64) = true := by
    intro n
    simp only [isContinuation, Bool.and_eq_true, decide_eq_true_eq]
    omega
  have hcode : (0xF0 + c / 262144 - 0xF0) * 262144 + payload (0x80 + c / 4096 % 64) * 4096 +
      payload (0x80 + c / 64 % 64) * 64 + payload (0x80 + c % 64) = c := by
    unfold payload
    omega
  rw [step.eq_def, if_neg (by omega), if_neg (by omega), if_neg (by omega), if_neg (by omega),
    if_pos (by omega)]
  simp only [hsecond, Bool.not_true, Bool.false_eq_true, if_false, hcontinuation, if_true, hcode]

section Forms

theorem toNat_bytesOfCode {numbers : List ℕ} (hsmall : ∀ n ∈ numbers, n < 256)
    (hcode : encodeCode c = some (numbers.map Nat.toUInt8)) :
    (bytesOfCode c).map UInt8.toNat = numbers := by
  rw [bytesOfCode, hcode, Option.getD_some, map_toNat_map_toUInt8 hsmall]

theorem toNat_bytesOfCode_one (hc : c < 0x80) : (bytesOfCode c).map UInt8.toNat = [c] := by
  apply toNat_bytesOfCode
  · simp only [List.forall_mem_cons, List.not_mem_nil, false_imp_iff, implies_true, and_true]
    omega
  · rw [encodeCode, if_pos hc]
    rfl

theorem toNat_bytesOfCode_two (hlow : 0x80 ≤ c) (hhigh : c < 0x800) :
    (bytesOfCode c).map UInt8.toNat = [0xC0 + c / 64, 0x80 + c % 64] := by
  apply toNat_bytesOfCode
  · simp only [List.forall_mem_cons, List.not_mem_nil, false_imp_iff, implies_true, and_true]
    omega
  · rw [encodeCode, if_neg (by omega), if_pos hhigh]
    rfl

theorem toNat_bytesOfCode_three (hlow : 0x800 ≤ c) (hhigh : c < 0x10000)
    (hs : Text.isSurrogate c = false) : (bytesOfCode c).map UInt8.toNat =
      [0xE0 + c / 4096, 0x80 + c / 64 % 64, 0x80 + c % 64] := by
  apply toNat_bytesOfCode
  · simp only [List.forall_mem_cons, List.not_mem_nil, false_imp_iff, implies_true, and_true]
    omega
  · rw [encodeCode, if_neg (by omega), if_neg (by omega), hs, if_neg (by decide), if_pos hhigh]
    rfl

theorem toNat_bytesOfCode_four (hlow : 0x10000 ≤ c) (hhigh : c < 0x110000) :
    (bytesOfCode c).map UInt8.toNat =
      [0xF0 + c / 262144, 0x80 + c / 4096 % 64, 0x80 + c / 64 % 64, 0x80 + c % 64] := by
  have hs : Text.isSurrogate c = false := by
    simp only [Text.isSurrogate, Bool.and_eq_false_iff, decide_eq_false_iff_not]
    omega
  apply toNat_bytesOfCode
  · simp only [List.forall_mem_cons, List.not_mem_nil, false_imp_iff, implies_true, and_true]
    omega
  · rw [encodeCode, if_neg (by omega), if_neg (by omega), hs, if_neg (by decide),
      if_neg (by omega), if_pos hhigh]
    rfl

end Forms

theorem exists_step (hc : c < 0x110000) (hs : Text.isSurrogate c = false) :
    ∃ lead more, (bytesOfCode c).map UInt8.toNat = lead :: more ∧
      ∀ rest, step lead (more ++ rest) = .character c (more.length + 1) := by
  by_cases h₁ : c < 0x80
  · exact ⟨_, _, toNat_bytesOfCode_one h₁, fun _ => step_one h₁⟩
  by_cases h₂ : c < 0x800
  · exact ⟨_, _, toNat_bytesOfCode_two (by omega) h₂, fun _ => step_two (by omega) h₂⟩
  by_cases h₃ : c < 0x10000
  · exact ⟨_, _, toNat_bytesOfCode_three (by omega) h₃ hs, fun _ => step_three (by omega) h₃ hs⟩
  · exact ⟨_, _, toNat_bytesOfCode_four (by omega) hc, fun _ => step_four (by omega) hc⟩

/-- A step reads the bytes of a character and nothing else. -/
structure ReadsCode (lead : ℕ) (rest : List ℕ) (code length : ℕ) : Prop where
  code_lt : code < 0x110000
  not_surrogate : Text.isSurrogate code = false
  bytes : ∃ more after, rest = more ++ after ∧ length = more.length + 1 ∧
    (bytesOfCode code).map UInt8.toNat = lead :: more

theorem isContinuation_iff {b : ℕ} : isContinuation b = true ↔ 0x80 ≤ b ∧ b ≤ 0xBF := by
  simp [isContinuation]

theorem isSecond_iff {lead b : ℕ} : isSecond lead b = true ↔ (0x80 ≤ b ∧ b ≤ 0xBF) ∧
    (lead = 0xE0 → 0xA0 ≤ b) ∧ (lead = 0xED → b ≤ 0x9F) ∧
    (lead = 0xF0 → 0x90 ≤ b) ∧ (lead = 0xF4 → b ≤ 0x8F) := by
  simp only [isSecond, Bool.and_eq_true, Bool.or_eq_true, bne_iff_ne, decide_eq_true_eq,
    isContinuation_iff, ne_eq, ← imp_iff_not_or, and_assoc]

theorem payload_eq (b : ℕ) : payload b = b - 0x80 := rfl

theorem readsCode_two {lead b code : ℕ} (hlow : 0xC2 ≤ lead) (hhigh : lead < 0xE0)
    (hb : isContinuation b = true) (after : List ℕ)
    (hcode : (lead - 0xC0) * 64 + payload b = code) : ReadsCode lead (b :: after) code 2 := by
  rw [isContinuation_iff] at hb
  have hpayload := payload_eq b
  have hs : Text.isSurrogate code = false := by
    simp only [Text.isSurrogate, Bool.and_eq_false_iff, decide_eq_false_iff_not]
    omega
  have hbytes := toNat_bytesOfCode_two (show 0x80 ≤ code by omega) (by omega)
  have hfirst : 0xC0 + code / 64 = lead := by omega
  have hlast : 0x80 + code % 64 = b := by omega
  rw [hfirst, hlast] at hbytes
  exact ⟨by omega, hs, [b], after, rfl, rfl, hbytes⟩

theorem readsCode_three {lead b c code : ℕ} (hlow : 0xE0 ≤ lead) (hhigh : lead < 0xF0)
    (hb : isSecond lead b = true) (hc : isContinuation c = true) (after : List ℕ)
    (hcode : (lead - 0xE0) * 4096 + payload b * 64 + payload c = code) :
    ReadsCode lead (b :: c :: after) code 3 := by
  rw [isSecond_iff] at hb
  rw [isContinuation_iff] at hc
  have hpayload := payload_eq b
  have hpayload' := payload_eq c
  have hs : Text.isSurrogate code = false := by
    simp only [Text.isSurrogate, Bool.and_eq_false_iff, decide_eq_false_iff_not]
    omega
  have hbytes := toNat_bytesOfCode_three (show 0x800 ≤ code by omega) (by omega) hs
  have hfirst : 0xE0 + code / 4096 = lead := by omega
  have hsecond : 0x80 + code / 64 % 64 = b := by omega
  have hlast : 0x80 + code % 64 = c := by omega
  rw [hfirst, hsecond, hlast] at hbytes
  exact ⟨by omega, hs, [b, c], after, rfl, rfl, hbytes⟩

theorem readsCode_four {lead b c d code : ℕ} (hlow : 0xF0 ≤ lead) (hhigh : lead < 0xF5)
    (hb : isSecond lead b = true) (hc : isContinuation c = true) (hd : isContinuation d = true)
    (after : List ℕ)
    (hcode : (lead - 0xF0) * 262144 + payload b * 4096 + payload c * 64 + payload d = code) :
    ReadsCode lead (b :: c :: d :: after) code 4 := by
  rw [isSecond_iff] at hb
  rw [isContinuation_iff] at hc hd
  have hpayload := payload_eq b
  have hpayload' := payload_eq c
  have hpayload'' := payload_eq d
  have hs : Text.isSurrogate code = false := by
    simp only [Text.isSurrogate, Bool.and_eq_false_iff, decide_eq_false_iff_not]
    omega
  have hbytes := toNat_bytesOfCode_four (show 0x10000 ≤ code by omega) (by omega)
  have hfirst : 0xF0 + code / 262144 = lead := by omega
  have hsecond : 0x80 + code / 4096 % 64 = b := by omega
  have hthird : 0x80 + code / 64 % 64 = c := by omega
  have hlast : 0x80 + code % 64 = d := by omega
  rw [hfirst, hsecond, hthird, hlast] at hbytes
  exact ⟨by omega, hs, [b, c, d], after, rfl, rfl, hbytes⟩

theorem readsCode_of_step {lead code length : ℕ} {rest : List ℕ}
    (h : step lead rest = .character code length) : ReadsCode lead rest code length := by
  rw [step.eq_def] at h
  split_ifs at h with h₁ h₂ h₃ h₄ h₅
  · cases h
    refine ⟨by omega, ?_, [], rest, rfl, rfl, toNat_bytesOfCode_one h₁⟩
    simp only [Text.isSurrogate, Bool.and_eq_false_iff, decide_eq_false_iff_not]
    omega
  · rcases rest with _ | ⟨b, after⟩
    · cases h
    · dsimp only at h
      split_ifs at h with hb
      obtain ⟨hcode, rfl⟩ := Step.character.inj h
      exact readsCode_two (by omega) h₃ hb after hcode
  · rcases rest with _ | ⟨b, _ | ⟨c, after⟩⟩
    · cases h
    · dsimp only at h
      split_ifs at h
    · dsimp only at h
      split_ifs at h with hb hc
      obtain ⟨hcode, rfl⟩ := Step.character.inj h
      exact readsCode_three (by omega) h₄ (by simpa using hb) hc after hcode
  · rcases rest with _ | ⟨b, _ | ⟨c, _ | ⟨d, after⟩⟩⟩
    · cases h
    · dsimp only at h
      split_ifs at h
    · dsimp only at h
      split_ifs at h
    · dsimp only at h
      split_ifs at h with hb hc hd
      obtain ⟨hcode, rfl⟩ := Step.character.inj h
      exact readsCode_four (by omega) h₅ (by simpa using hb) (by simpa using hc) hd after hcode

end Steps

theorem scan_skip (more rest : List ℕ) (position : ℕ) :
    scan more.length position (more ++ rest) = scan 0 (position + more.length) rest := by
  induction more generalizing position with
  | nil => rfl
  | cons b more ih =>
    rw [List.length_cons, List.cons_append, scan, ih]
    congr 1
    omega

/-- The form of a text is read as that text, whatever comes behind it. -/
theorem scan_bytesOf_append {t : Text} (h : t.IsUnicode) (position : ℕ) (left : List ℕ) :
    scan 0 position ((bytesOf t).map UInt8.toNat ++ left) =
      (t ++ (scan 0 (position + (bytesOf t).length) left).1,
        (scan 0 (position + (bytesOf t).length) left).2) := by
  induction t generalizing position with
  | nil => rfl
  | cons c t ih =>
    obtain ⟨hc, hs⟩ := h c (List.mem_cons_self ..)
    obtain ⟨lead, more, hbytes, hstep⟩ := exists_step hc hs
    have hrest := ih (fun d hd => h d (List.mem_cons_of_mem c hd)) (position + 1 + more.length)
    have hsplit : (bytesOf (c :: t)).map UInt8.toNat ++ left =
        lead :: (more ++ ((bytesOf t).map UInt8.toNat ++ left)) := by
      rw [bytesOf, List.flatMap_cons, List.map_append, hbytes, List.append_assoc]
      rfl
    have hlength : position + (bytesOf (c :: t)).length =
        position + 1 + more.length + (bytesOf t).length := by
      rw [bytesOf, List.flatMap_cons, List.length_append, ← List.length_map UInt8.toNat, hbytes,
        List.length_cons, bytesOf]
      omega
    simp only [hsplit, scan, hstep, Nat.add_sub_cancel, scan_skip, hrest, hlength, List.cons_append]

theorem scan_bytesOf {t : Text} (h : t.IsUnicode) (position : ℕ) :
    scan 0 position ((bytesOf t).map UInt8.toNat) = (t, none) := by
  have hscan := scan_bytesOf_append h position []
  rwa [List.append_nil, scan, List.append_nil] at hscan

theorem decode_bytesOf {t : Text} (h : t.IsUnicode) : decode (bytesOf t) = .ok t := by
  rw [decode, scan_bytesOf h]

theorem isUnicode_of_encodeFrom {t : Text} {position : ℕ} {bytes : List UInt8}
    (h : encodeFrom position t = .ok bytes) : t.IsUnicode := by
  induction t generalizing position bytes with
  | nil => exact List.forall_mem_nil _
  | cons c t ih =>
    rw [encodeFrom] at h
    cases hcode : encodeCode c with
    | none => simp [hcode] at h
    | some first =>
      cases hrest : encodeFrom (position + 1) t with
      | error e => simp [hcode, hrest, Except.map] at h
      | ok more =>
        intro d hd
        rcases List.mem_cons.1 hd with rfl | hd
        · unfold encodeCode at hcode
          split_ifs at hcode with h₁ h₂ h₃ h₄ h₅ <;>
            simp only [Text.isSurrogate, Bool.and_eq_true, Bool.and_eq_false_iff,
              decide_eq_true_eq, decide_eq_false_iff_not] at * <;> omega
        · exact ih hrest d hd

theorem encode_eq_ok_iff {t : Text} {bytes : List UInt8} :
    encode t = .ok bytes ↔ t.IsUnicode ∧ bytes = bytesOf t := by
  constructor
  · intro h
    exact ⟨isUnicode_of_encodeFrom h, eq_bytesOf_of_encodeFrom h⟩
  · rintro ⟨h, rfl⟩
    exact encode_of_isUnicode h

/-- Where reading stops: behind all bytes, or before a sequence at fault. -/
inductive StopsAt (position : ℕ) : List ℕ → Option DecodeError → Prop
  | behind : StopsAt position [] none
  | before {lead length : ℕ} {rest : List ℕ} {fault : Fault}
      (h : step lead rest = .faulty fault length) :
      StopsAt position (lead :: rest) (some ⟨fault, lead, position, length⟩)

/-- What is read before reading stops is the form of what comes out. -/
theorem exists_left_of_scan {t : Text} {position : ℕ} {numbers : List ℕ}
    {error : Option DecodeError} (h : scan 0 position numbers = (t, error)) :
    t.IsUnicode ∧ ∃ left, numbers = (bytesOf t).map UInt8.toNat ++ left ∧
      StopsAt (position + (bytesOf t).length) left error := by
  -- the rest behind a character is shorter, but by up to four bytes
  induction hcount : numbers.length using Nat.strongRecOn generalizing numbers t position with
  | ind count ih =>
    cases numbers with
    | nil =>
      obtain ⟨rfl, rfl⟩ := Prod.mk.inj h
      exact ⟨List.forall_mem_nil _, [], rfl, .behind⟩
    | cons lead rest =>
      rw [scan] at h
      cases hstep : step lead rest with
      | faulty fault length =>
        rw [hstep] at h
        obtain ⟨rfl, rfl⟩ := Prod.mk.inj h
        exact ⟨List.forall_mem_nil _, lead :: rest, rfl, .before hstep⟩
      | character code length =>
        obtain ⟨hlt, hs, more, after, rfl, rfl, hbytes⟩ := readsCode_of_step hstep
        rw [hstep] at h
        simp only [Nat.add_sub_cancel, scan_skip] at h
        obtain ⟨codes, later, hrest⟩ : ∃ codes later,
          scan 0 (position + 1 + more.length) after = (codes, later) := ⟨_, _, rfl⟩
        rw [hrest] at h
        obtain ⟨rfl, rfl⟩ := Prod.mk.inj h
        have hshort : after.length < count := by
          rw [← hcount, List.length_cons, List.length_append]
          omega
        obtain ⟨hunicode, left, hafter, hstops⟩ := ih after.length hshort hrest rfl
        have hsplit : (bytesOf (code :: codes)).map UInt8.toNat =
            lead :: more ++ (bytesOf codes).map UInt8.toNat := by
          rw [bytesOf, List.flatMap_cons, List.map_append, hbytes, bytesOf]
        have hlength : position + (bytesOf (code :: codes)).length =
            position + 1 + more.length + (bytesOf codes).length := by
          rw [← List.length_map UInt8.toNat, hsplit, List.length_append, List.length_cons,
            List.length_map]
          omega
        refine ⟨List.forall_mem_cons.2 ⟨⟨hlt, hs⟩, hunicode⟩, left, ?_, hlength ▸ hstops⟩
        rw [hsplit, List.append_assoc, List.cons_append, hafter]

theorem scan_eq_none_iff {t : Text} {position : ℕ} {numbers : List ℕ} :
    scan 0 position numbers = (t, none) ↔
      t.IsUnicode ∧ numbers = (bytesOf t).map UInt8.toNat := by
  constructor
  · intro h
    obtain ⟨hunicode, left, hleft, hstops⟩ := exists_left_of_scan h
    cases hstops
    exact ⟨hunicode, hleft.trans (List.append_nil _)⟩
  · rintro ⟨h, rfl⟩
    exact scan_bytesOf h position

end Utf8

theorem Row.isUnicode_of_encodeLines {lines : List Text} {bytes : List UInt8}
    (h : encodeLines lines = (bytes, none)) : ∀ line ∈ lines, line.IsUnicode := by
  induction lines generalizing bytes with
  | nil => exact List.forall_mem_nil _
  | cons line rest ih =>
    rw [encodeLines] at h
    cases hline : Utf8.encode line with
    | error error => simp [hline] at h
    | ok first =>
      rw [hline] at h
      obtain ⟨more, fault, hmore⟩ : ∃ more fault, encodeLines rest = (more, fault) := ⟨_, _, rfl⟩
      rw [hmore] at h
      obtain ⟨-, rfl⟩ := Prod.mk.inj h
      intro other hother
      rcases List.mem_cons.1 hother with rfl | hother
      · exact Utf8.isUnicode_of_encodeFrom hline
      · exact ih hmore other hother

end EntityTagger
