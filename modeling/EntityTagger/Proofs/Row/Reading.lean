import EntityTagger.Proofs.Json.Readable
import EntityTagger.Proofs.Traversal
import EntityTagger.Row

/-! The rows of a file: what each line holds, which files hold none, and what reading those fails
with. -/
namespace EntityTagger

namespace Row

/-- What a line that holds no JSON fails with. -/
def lineError : Json.ReadError → Error
  | .malformed error => .json error
  | .tooManyDigits => .misuse .badValue

/-- The lines that are read before the end of a file is reached, or a fault in its bytes. -/
def linesBefore (content : Text) : Option Utf8.DecodeError → List Text
  | none => content.lines
  | some _ => (Text.cutLines (if content.getLast? = some 13 then content.dropLast else content)).1

def entries (lines : List Text) : List Text := (lines.map Text.strip).filter (!·.isEmpty)

/-- The contents that hold no rows, and what reading them fails with: some line holds no JSON, or
there is a fault in the bytes behind the lines that were read. -/
inductive HoldsNone (bytes : List UInt8) : Error → Prop
  | badLine {content : Text} {fault : Option Utf8.DecodeError} {before after : List Text}
      {line : Text} {error : Json.ReadError} (hbytes : Utf8.decodeStream bytes = (content, fault))
      (hlines : entries (linesBefore content fault) = before ++ line :: after)
      (hbefore : ∀ l ∈ before, ∃ row, Json.read l = .ok row)
      (hline : Json.read line = .error error) : HoldsNone bytes (lineError error)
  | notUtf8 {content : Text} {error : Utf8.DecodeError}
      (hbytes : Utf8.decodeStream bytes = (content, some error))
      (hlines : ∀ l ∈ entries (linesBefore content (some error)), ∃ row, Json.read l = .ok row) :
      HoldsNone bytes (.decoding error)

theorem ofLines_eq_mapM (lines : List Text) :
    ofLines lines = (entries lines).mapM fun line => (Json.read line).mapError lineError := by
  refine Traversal.mapM_congr fun line _ => ?_
  cases Json.read line with
  | ok row => rfl
  | error error => cases error <;> rfl

theorem ofLines_eq_error_iff {lines : List Text} {e : Error} :
    ofLines lines = .error e ↔ ∃ before line after error, entries lines = before ++ line :: after ∧
      (∀ l ∈ before, ∃ row, Json.read l = .ok row) ∧ Json.read line = .error error ∧
      lineError error = e := by
  rw [ofLines_eq_mapM, Traversal.mapM_eq_error_iff]
  simp only [Traversal.mapError_eq_error_iff, Traversal.mapError_eq_ok_iff]
  constructor
  · rintro ⟨before, line, after, hsplit, hbefore, error, hline, he⟩
    exact ⟨before, line, after, error, hsplit, hbefore, hline, he⟩
  · rintro ⟨before, line, after, error, hsplit, hbefore, hline, he⟩
    exact ⟨before, line, after, hsplit, hbefore, error, hline, he⟩

theorem exists_ofLines_iff {lines : List Text} :
    (∃ rows, ofLines lines = .ok rows) ↔ ∀ l ∈ entries lines, ∃ row, Json.read l = .ok row := by
  rw [ofLines_eq_mapM]
  constructor
  · rintro ⟨rows, hrows⟩ l hl
    obtain ⟨row, hrow⟩ := Traversal.ok_of_mapM_eq_ok hrows hl
    exact ⟨row, Traversal.mapError_eq_ok_iff.1 hrow⟩
  · intro h
    obtain ⟨rows, hrows⟩ := Traversal.exists_forall₂ h
    refine ⟨rows, Traversal.mapM_eq_ok_iff.2 (hrows.imp fun _ _ hrow => ?_)⟩
    exact Traversal.mapError_eq_ok_iff.2 hrow

theorem ofBytes_eq {bytes : List UInt8} {content : Text} {fault : Option Utf8.DecodeError}
    (h : Utf8.decodeStream bytes = (content, fault)) :
    ofBytes bytes = (ofLines (linesBefore content fault)).bind fun rows =>
      match fault with
      | none => .ok rows
      | some error => .error (.decoding error) := by
  rw [ofBytes, h]
  cases fault with
  | none => cases h : ofLines content.lines <;> simp [linesBefore, h, Except.bind]
  | some error => rfl

theorem ofBytes_eq_ok_iff {bytes : List UInt8} {rows : List Json} :
    ofBytes bytes = .ok rows ↔ ∃ content, Utf8.decodeStream bytes = (content, none) ∧
      ofLines content.lines = .ok rows := by
  obtain ⟨content, fault, hbytes⟩ : ∃ content fault, Utf8.decodeStream bytes = (content, fault) :=
    ⟨_, _, rfl⟩
  rw [ofBytes_eq hbytes, hbytes]
  cases fault with
  | none =>
    cases h : ofLines content.lines <;> simp [linesBefore, h, Except.bind]
  | some error =>
    cases h : ofLines (linesBefore content (some error)) <;> simp [Except.bind]

theorem isReadable_of_ofBytes {bytes : List UInt8} {rows : List Json}
    (h : ofBytes bytes = .ok rows) : ∀ row ∈ rows, row.IsReadable := by
  intro row hrow
  obtain ⟨content, -, hlines⟩ := ofBytes_eq_ok_iff.1 h
  rw [ofLines_eq_mapM] at hlines
  obtain ⟨line, -, hline⟩ := Traversal.exists_of_mem_mapM hlines hrow
  exact Json.isReadable_of_read (Traversal.mapError_eq_ok_iff.1 hline)

theorem ofBytes_eq_error_iff {bytes : List UInt8} {e : Error} :
    ofBytes bytes = .error e ↔ HoldsNone bytes e := by
  constructor
  · intro h
    obtain ⟨content, fault, hbytes⟩ : ∃ content fault, Utf8.decodeStream bytes = (content, fault) :=
      ⟨_, _, rfl⟩
    rw [ofBytes_eq hbytes] at h
    cases hlines : ofLines (linesBefore content fault) with
    | error found =>
      rw [hlines] at h
      obtain rfl : found = e := Except.error.inj h
      obtain ⟨before, line, after, error, hsplit, hbefore, hline, rfl⟩ :=
        ofLines_eq_error_iff.1 hlines
      exact .badLine hbytes hsplit hbefore hline
    | ok rows =>
      cases fault with
      | none => simp [hlines, Except.bind] at h
      | some error =>
        rw [hlines] at h
        obtain rfl : Error.decoding error = e := Except.error.inj h
        exact .notUtf8 hbytes (exists_ofLines_iff.1 ⟨rows, hlines⟩)
  · intro h
    cases h with
    | badLine hbytes hsplit hbefore hline =>
      have hlines := ofLines_eq_error_iff.2 ⟨_, _, _, _, hsplit, hbefore, hline, rfl⟩
      rw [ofBytes_eq hbytes, hlines]
      rfl
    | notUtf8 hbytes hlines =>
      obtain ⟨rows, hrows⟩ := exists_ofLines_iff.2 hlines
      rw [ofBytes_eq hbytes, hrows]
      rfl

end Row

end EntityTagger
