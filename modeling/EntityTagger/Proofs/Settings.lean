import EntityTagger.Proofs.Failure
import EntityTagger.Proofs.Field
import EntityTagger.Settings

/-! The fields of settings: what a record has to hold for them, and with which violations it is
refused. -/
namespace EntityTagger

namespace Settings

/-- A rule that the value of a field breaks. Paths break none: they are checked before. -/
inductive Breaks : Text → Value → Rule → Prop
  | string {name : Text} {value : Value} {rule : Rule}
      (hname : name = text "model_name" ∨ name = text "device")
      (hread : Field.readString value = .error rule) : Breaks name value rule
  | size {name : Text} {value : Value} {rule : Rule}
      (hname : name = text "max_length" ∨ name = text "batch_size")
      (hread : Field.readIntFrom 1 value = .error rule) : Breaks name value rule

/-- Violations that a record is refused with: there are some, and each of them names a field and
the rule that its value breaks. -/
structure Charges (fields : Field.Record) (violations : List Violation) : Prop where
  ne_nil : violations ≠ []
  breaks : ∀ v ∈ violations, ∃ name value, Value.entry? name fields = some value ∧
    v.place = [.field name] ∧ Breaks name value v.rule

section Charges

variable {α β : Type} {fields : Field.Record}

theorem Charges.append {first second : List Violation} (hfirst : Charges fields first)
    (hsecond : Charges fields second) : Charges fields (first ++ second) := by
  refine ⟨by simp [hfirst.ne_nil], fun v hv => ?_⟩
  rcases List.mem_append.1 hv with hv | hv
  · exact hfirst.breaks v hv
  · exact hsecond.breaks v hv

theorem failsWith_both {f : Except (List Violation) (α → β)} {x : Except (List Violation) α}
    (hf : FailsWith (Charges fields) f) (hx : FailsWith (Charges fields) x) :
    FailsWith (Charges fields) (Field.both f x) := by
  cases f with
  | ok g =>
    cases x with
    | ok a => exact .ok _
    | error second => exact .error (hx second rfl)
  | error first =>
    cases x with
    | ok a => exact .error (hf first rfl)
    | error second => exact .error ((hf first rfl).append (hx second rfl))

theorem failsWith_optional {name : Text} {default : α} {read : Value → Except Rule α}
    (h : ∀ value, Value.entry? name fields = some value →
      FailsWith (Breaks name value) (read value)) :
    FailsWith (Charges fields) (Field.optional fields name default read) := by
  rw [Field.optional]
  cases hentry : Value.entry? name fields with
  | none => exact .ok _
  | some value =>
    intro violations hviolations
    obtain ⟨rule, hrule, rfl⟩ := Traversal.mapError_eq_error_iff.1 hviolations
    refine ⟨List.cons_ne_nil _ _, fun v hv => ?_⟩
    obtain rfl := List.mem_singleton.1 hv
    exact ⟨name, value, hentry, rfl, h value hentry rule hrule⟩

end Charges

variable {fields : Field.Record} {readPath : Value → Except Rule (Option Path)}

/-- Each field of settings is what the record has for it, or the default. -/
theorem fieldwise_eq_ok_iff {s : Settings} : fieldwise readPath fields = .ok s ↔
    Field.optional fields (text "model_name") defaultModelName Field.readString = .ok s.modelName ∧
    Field.optional fields (text "vocab_path") none readPath = .ok s.vocabularyPath ∧
    Field.optional fields (text "config_path") none readPath = .ok s.configurationPath ∧
    Field.optional fields (text "weights_path") none readPath = .ok s.weightsPath ∧
    Field.optional fields (text "device") defaultDevice Field.readString = .ok s.device ∧
    Field.optional fields (text "max_length") (Batch.defaultMaxLength : ℤ) (Field.readIntFrom 1) =
      .ok s.maxLength ∧
    Field.optional fields (text "batch_size") (defaultBatchSize : ℤ) (Field.readIntFrom 1) =
      .ok s.batchSize := by
  simp only [fieldwise, Field.both_eq_ok_iff]
  constructor
  · rintro ⟨_, batchSize, ⟨_, maxLength, ⟨_, device, ⟨_, weights, ⟨_, configuration,
      ⟨_, vocabulary, ⟨_, name, ⟨rfl⟩, hname, rfl⟩, hvocabulary, rfl⟩, hconfiguration, rfl⟩,
      hweights, rfl⟩, hdevice, rfl⟩, hlength, rfl⟩, hsize, rfl⟩
    exact ⟨hname, hvocabulary, hconfiguration, hweights, hdevice, hlength, hsize⟩
  · rintro ⟨hname, hvocabulary, hconfiguration, hweights, hdevice, hlength, hsize⟩
    exact ⟨_, _, ⟨_, _, ⟨_, _, ⟨_, _, ⟨_, _, ⟨_, _, ⟨_, _, rfl, hname, rfl⟩, hvocabulary, rfl⟩,
      hconfiguration, rfl⟩, hweights, rfl⟩, hdevice, rfl⟩, hlength, rfl⟩, hsize, rfl⟩

theorem sizes_pos_of_fieldwise {s : Settings} (h : fieldwise readPath fields = .ok s) :
    1 ≤ s.maxLength ∧ 1 ≤ s.batchSize := by
  obtain ⟨-, -, -, -, -, hlength, hsize⟩ := fieldwise_eq_ok_iff.1 h
  constructor
  · rcases Field.optional_eq_ok_iff.1 hlength with ⟨-, hdefault⟩ | ⟨value, -, hread⟩
    · rw [hdefault]
      decide
    · exact Field.le_of_readIntFrom hread
  · rcases Field.optional_eq_ok_iff.1 hsize with ⟨-, hdefault⟩ | ⟨value, -, hread⟩
    · rw [hdefault]
      decide
    · exact Field.le_of_readIntFrom hread

theorem failsWith_fieldwise
    (hpaths : ∀ name ∈ pathFields, ∀ value, Value.entry? name fields = some value →
      ∃ path, readPath value = .ok path) :
    FailsWith (Charges fields) (fieldwise readPath fields) := by
  have hpath : ∀ name ∈ pathFields,
      FailsWith (Charges fields) (Field.optional fields name none readPath) := by
    intro name hname
    refine failsWith_optional fun value hvalue => ?_
    obtain ⟨path, hread⟩ := hpaths name hname value hvalue
    rw [hread]
    exact .ok path
  have hstring : ∀ (name default : Text), name = text "model_name" ∨ name = text "device" →
      FailsWith (Charges fields) (Field.optional fields name default Field.readString) :=
    fun name default hname => failsWith_optional fun value _ rule hrule => .string hname hrule
  have hsize : ∀ (name : Text) (default : ℤ), name = text "max_length" ∨ name = text "batch_size" →
      FailsWith (Charges fields) (Field.optional fields name default (Field.readIntFrom 1)) :=
    fun name default hname => failsWith_optional fun value _ rule hrule => .size hname hrule
  refine failsWith_both (failsWith_both (failsWith_both (failsWith_both (failsWith_both
    (failsWith_both (failsWith_both (.ok _) ?_) ?_) ?_) ?_) ?_) ?_) ?_
  · exact hstring _ _ (Or.inl rfl)
  · exact hpath _ (by decide)
  · exact hpath _ (by decide)
  · exact hpath _ (by decide)
  · exact hstring _ _ (Or.inr rfl)
  · exact hsize _ _ (Or.inl rfl)
  · exact hsize _ _ (Or.inr rfl)

end Settings

end EntityTagger
