import EntityTagger.Field
import EntityTagger.Proofs.ElementType
import EntityTagger.Proofs.Traversal

/-! What the fields of a record are read as. -/
namespace EntityTagger

namespace Field

variable {α β : Type}

theorem both_eq_ok_iff {f : Except (List Violation) (α → β)} {x : Except (List Violation) α}
    {b : β} : both f x = .ok b ↔ ∃ g a, f = .ok g ∧ x = .ok a ∧ g a = b := by
  cases f <;> cases x <;> simp [both]

theorem optional_eq_ok_iff {fields : Record} {name : Text} {default a : α}
    {read : Value → Except Rule α} :
    optional fields name default read = .ok a ↔
      (Value.entry? name fields = none ∧ a = default) ∨
        ∃ value, Value.entry? name fields = some value ∧ read value = .ok a := by
  rw [optional]
  cases Value.entry? name fields with
  | none => simp [eq_comm]
  | some value => simp [Traversal.mapError_eq_ok_iff]

theorem required_eq_ok_iff {fields : Record} {name : Text} {a : α}
    {read : Value → Except Rule α} : required fields name read = .ok a ↔
      ∃ value, Value.entry? name fields = some value ∧ read value = .ok a := by
  rw [required]
  cases Value.entry? name fields with
  | none => simp
  | some value => simp [Traversal.mapError_eq_ok_iff]

theorem le_of_readIntFrom {bound : ℕ} {value : Value} {n : ℤ}
    (h : readIntFrom bound value = .ok n) : (bound : ℤ) ≤ n := by
  rw [readIntFrom] at h
  obtain ⟨m, -, hm⟩ := Traversal.bind_eq_ok_iff.1 h
  split_ifs at hm with hle
  obtain rfl := Except.ok.inj hm
  exact hle

theorem isFinite_of_le {F : Format} {lower x upper : Binary F} (hlower : lower.isFinite = true)
    (hupper : upper.isFinite = true) (hle : lower.le x = true) (hge : x.le upper = true) :
    x.isFinite = true := by
  cases x with
  | finite => rfl
  | nan => simp [Binary.le, Binary.lt, Binary.beqValue] at hge
  | infinity negative =>
    cases negative with
    | true => cases lower <;> simp_all [Binary.isFinite, Binary.le, Binary.lt, Binary.beqValue]
    | false => cases upper <;> simp_all [Binary.isFinite, Binary.le, Binary.lt, Binary.beqValue]

theorem isFinite_of_readFraction {value : Value} {x : Double} (h : readFraction value = .ok x) :
    x.isFinite = true := by
  rw [readFraction] at h
  obtain ⟨y, -, hy⟩ := Traversal.bind_eq_ok_iff.1 h
  split_ifs at hy with hone hzero
  obtain rfl := Except.ok.inj hy
  apply isFinite_of_le Double.ofInt_zero.1 Double.ofInt_one.1
  · simpa using hzero
  · simpa using hone

end Field

end EntityTagger
