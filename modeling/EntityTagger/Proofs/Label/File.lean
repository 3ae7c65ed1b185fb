import EntityTagger.Label.File
import EntityTagger.Proofs.Traversal
import Mathlib.Data.Int.Notation

/-! How reading the label mapping of a configuration file ends: with a mapping, with an error of the
file or of what it says about labels, and for three kinds of contents in neither of these ways. -/
namespace EntityTagger

namespace Value

theorem entry?_ofMembers (name : Text) (members : List (Text × Json)) :
    entry? name (ofMembers members) = (Association.get? name members).map ofJson := by
  induction members with
  | nil => rfl
  | cons member rest ih =>
    obtain ⟨key, value⟩ := member
    by_cases hkey : key = name <;> simp [ofMembers, entry?, Association.get?, hkey, ih]

theorem isEmpty_ofMembers (members : List (Text × Json)) :
    (ofMembers members).isEmpty = members.isEmpty := by
  cases members <;> rfl

end Value

namespace LabelMapping

theorem mem_ids_put {id other : ℤ} {name : Text} {labels : LabelMapping} :
    other ∈ ids (Association.put id name labels) ↔ other = id ∨ other ∈ ids labels := by
  show other ∈ (Association.put id name labels).map Prod.fst ↔
    other = id ∨ other ∈ labels.map Prod.fst
  rw [Association.map_fst_put]
  split_ifs with hmem
  · constructor
    · exact Or.inr
    · rintro (rfl | hother)
      · exact hmem
      · exact hother
  · rw [List.mem_append, List.mem_singleton, or_comm]

theorem addEntries_ofMembers (labels : LabelMapping) (entries : List (Text × Json)) :
    (∃ result, addEntries labels (Value.ofMembers entries) = .ok result ∧
      (∀ entry ∈ entries, ∃ id, Integer.read? entry.1 = some id) ∧
      ∀ id, id ∈ ids result ↔
        id ∈ ids labels ∨ ∃ entry ∈ entries, Integer.read? entry.1 = some id) ∨
    ∃ entry ∈ entries, Integer.read? entry.1 = none ∧
      addEntries labels (Value.ofMembers entries) =
        .error (.configuration (.notAnInteger (.str entry.1))) := by
  induction entries generalizing labels with
  | nil => exact Or.inl ⟨labels, rfl, by simp, by simp⟩
  | cons entry rest ih =>
    obtain ⟨key, name⟩ := entry
    cases hread : Integer.read? key with
    | none =>
      refine Or.inr ⟨(key, name), List.mem_cons_self .., hread, ?_⟩
      simp [Value.ofMembers, addEntries, idOfKey, hread]
    | some id =>
      have hstep : addEntries labels (Value.ofMembers ((key, name) :: rest)) = addEntries
          (Association.put id (Literal.display (Value.ofJson name)) labels)
          (Value.ofMembers rest) := by
        simp [Value.ofMembers, addEntries, idOfKey, hread]
      rw [hstep]
      rcases ih (Association.put id (Literal.display (Value.ofJson name)) labels) with
        ⟨result, hresult, hall, hids⟩ | ⟨entry, hentry, hnone, herror⟩
      · refine Or.inl ⟨result, hresult, ?_, ?_⟩
        · simpa [hread] using hall
        · intro other
          rw [hids, mem_ids_put, List.exists_mem_cons_iff, hread, Option.some.injEq, or_assoc,
            or_left_comm, eq_comm]
      · exact Or.inr ⟨entry, List.mem_cons_of_mem _ hentry, hnone, herror⟩

def Holds (fs : FileSystem) (path : Path) (value : Json) : Prop :=
  ∃ bytes content, fs.readBytes path = .ok bytes ∧ Utf8.decode bytes = .ok content ∧
    Json.read content.unifyLineEnds = .ok value

theorem Holds.read_eq {fs : FileSystem} {path : Path} {value : Json} (h : Holds fs path value)
    {bytes : List UInt8} {content : Text} (hbytes : fs.readBytes path = .ok bytes)
    (hcontent : Utf8.decode bytes = .ok content) : Json.read content.unifyLineEnds = .ok value := by
  obtain ⟨bytes', content', hbytes', hcontent', hread⟩ := h
  obtain rfl := Except.ok.inj (hbytes.symm.trans hbytes')
  obtain rfl := Except.ok.inj (hcontent.symm.trans hcontent')
  exact hread

def given? (members : List (Text × Json)) : Option Json :=
  Association.get? (text "id2label") members

/-- Names for labels, under keys that all denote integers. -/
def IsUsable (entries : List (Text × Json)) : Prop :=
  entries ≠ [] ∧ ∀ entry ∈ entries, ∃ id, Integer.read? entry.1 = some id

/-- The ways in which reading a label mapping is meant to end: with a name for each integer that is
a key, with an error of the file where that holds no object, or with one of the configuration where
the object says nothing usable about labels. -/
inductive Settles (fs : FileSystem) (path : Path) : Except Error LabelMapping → Prop
  | labels {members entries : List (Text × Json)} {labels : LabelMapping}
      (hobject : Holds fs path (.obj members)) (hgiven : given? members = some (.obj entries))
      (husable : IsUsable entries) (hne : labels ≠ [])
      (hids : ∀ id, id ∈ labels.ids ↔ ∃ entry ∈ entries, Integer.read? entry.1 = some id) :
      Settles fs path (.ok labels)
  | resource {fault : ResourceFault} (hobject : ∀ members, ¬ Holds fs path (.obj members)) :
      Settles fs path (.error (.resource ⟨.configuration, some path.toText, fault⟩))
  | configuration {members : List (Text × Json)} {fault : ConfigurationFault}
      (hobject : Holds fs path (.obj members))
      (hgiven : ∀ entries, given? members = some (.obj entries) → ¬ IsUsable entries) :
      Settles fs path (.error (.configuration fault))

/-- The contents of a file with which reading ends otherwise, and how it does: they are not UTF-8,
hold an integer that is too long, or have something else than an object for the labels. -/
inductive Escapes : List UInt8 → Error → Prop
  | notUtf8 {bytes : List UInt8} {error : Utf8.DecodeError}
      (hbytes : Utf8.decode bytes = .error error) : Escapes bytes (.decoding error)
  | tooManyDigits {bytes : List UInt8} {content : Text} (hbytes : Utf8.decode bytes = .ok content)
      (hread : Json.read content.unifyLineEnds = .error .tooManyDigits) :
      Escapes bytes (.misuse .badValue)
  | notMapping {bytes : List UInt8} {content : Text} {members : List (Text × Json)} {given : Json}
      (hbytes : Utf8.decode bytes = .ok content)
      (hread : Json.read content.unifyLineEnds = .ok (.obj members))
      (hgiven : given? members = some given) (hholds : (Value.ofJson given).holds = true)
      (hnot : ∀ entries, given ≠ .obj entries) : Escapes bytes (.misuse .noSuchAttribute)

section Load

variable {fs : FileSystem} {path : Path}

theorem Settles.ne_decoding {result : Except Error LabelMapping} (h : Settles fs path result)
    (error : Utf8.DecodeError) : result ≠ .error (.decoding error) := by
  cases h <;> simp

theorem Settles.ne_misuse {result : Except Error LabelMapping} (h : Settles fs path result)
    (kind : Misuse) : result ≠ .error (.misuse kind) := by
  cases h <;> simp

theorem Escapes.not_settles {bytes : List UInt8} {e : Error} (h : Escapes bytes e) :
    ¬ Settles fs path (.error e) := by
  intro hsettles
  cases h with
  | notUtf8 => exact hsettles.ne_decoding _ rfl
  | tooManyDigits => exact hsettles.ne_misuse _ rfl
  | notMapping => exact hsettles.ne_misuse _ rfl

theorem ofConfiguration_obj (members : List (Text × Json)) :
    ofConfiguration (Value.ofJson (.obj members)) =
      match ((given? members).map Value.ofJson).getD .none with
      | .dict entries => if entries.isEmpty then .error (.configuration .missingMapping)
          else addEntries [] entries
      | given => if given.holds then .error (.misuse .noSuchAttribute)
          else .error (.configuration .missingMapping) := by
  have hentry : Value.entry? (text "id2label") (Value.ofMembers members) =
      (given? members).map Value.ofJson := Value.entry?_ofMembers _ _
  rw [Value.ofJson, ofConfiguration]
  simp only [hentry]
  cases ((given? members).map Value.ofJson).getD .none with
  | dict entries => cases entries <;> rfl
  | _ => rfl

theorem Escapes.load_eq {bytes : List UInt8} {e : Error} (h : Escapes bytes e)
    (hbytes : fs.readBytes path = .ok bytes) : load fs path = .error e := by
  cases h with
  | notUtf8 hcontent => simp only [load, readConfiguration, hbytes, hcontent, Except.bind]
  | tooManyDigits hcontent hread =>
    simp only [load, readConfiguration, hbytes, hcontent, hread, Except.bind]
  | @notMapping content members given hcontent hread hgiven hholds hnot =>
    simp only [load, readConfiguration, hbytes, hcontent, hread, Except.bind, ofConfiguration_obj,
      hgiven, Option.map_some, Option.getD_some]
    cases given with
    | obj entries => exact absurd rfl (hnot entries)
    | _ => exact if_pos hholds

theorem load_of_holds {members : List (Text × Json)} (hholds : Holds fs path (.obj members)) :
    load fs path = ofConfiguration (Value.ofJson (.obj members)) := by
  obtain ⟨bytes, content, hbytes, hcontent, hread⟩ := hholds
  simp only [load, readConfiguration, hbytes, hcontent, hread, Except.bind]

theorem ofConfiguration_cases {bytes : List UInt8} {content : Text} {members : List (Text × Json)}
    (hbytes : fs.readBytes path = .ok bytes) (hcontent : Utf8.decode bytes = .ok content)
    (hread : Json.read content.unifyLineEnds = .ok (.obj members)) :
    Settles fs path (ofConfiguration (Value.ofJson (.obj members))) ∨ ∃ e, Escapes bytes e := by
  have hobject : Holds fs path (.obj members) := ⟨bytes, content, hbytes, hcontent, hread⟩
  rw [ofConfiguration_obj]
  cases hgiven : given? members with
  | none => exact Or.inl (.configuration hobject (by simp [hgiven]))
  | some given =>
    have hunusable : (∀ entries, given = .obj entries → ¬ IsUsable entries) →
        ∀ entries, given? members = some (.obj entries) → ¬ IsUsable entries := by
      intro h entries hentries
      exact h entries (Option.some.inj (hgiven.symm.trans hentries))
    rw [Option.map_some, Option.getD_some]
    cases given with
    | obj entries =>
      left
      simp only [Value.ofJson, Value.isEmpty_ofMembers]
      by_cases hempty : entries = []
      · rw [if_pos (by simpa using hempty)]
        refine .configuration hobject (hunusable ?_)
        rintro _ ⟨⟩ husable
        exact husable.1 hempty
      rw [if_neg (by simpa using hempty)]
      rcases addEntries_ofMembers [] entries with
        ⟨labels, hlabels, hall, hids⟩ | ⟨entry, hentry, hnone, herror⟩
      · rw [hlabels]
        refine .labels hobject hgiven ⟨hempty, hall⟩ ?_ (by simpa [ids] using hids)
        rintro rfl
        obtain ⟨entry, hentry⟩ := List.exists_mem_of_ne_nil _ hempty
        obtain ⟨id, hid⟩ := hall entry hentry
        simpa [ids] using (hids id).2 (Or.inr ⟨entry, hentry, hid⟩)
      · rw [herror]
        refine .configuration hobject (hunusable ?_)
        rintro _ ⟨⟩ ⟨-, hall⟩
        obtain ⟨id, hid⟩ := hall entry hentry
        simp [hnone] at hid
    | _ =>
      simp only [Value.ofJson]
      split_ifs with hholds
      · exact Or.inr ⟨_, .notMapping hcontent hread hgiven hholds (by simp)⟩
      · exact Or.inl (.configuration hobject (hunusable (by simp)))

theorem load_cases (fs : FileSystem) (path : Path) :
    Settles fs path (load fs path) ∨
    ∃ bytes e, fs.readBytes path = .ok bytes ∧ Escapes bytes e := by
  have hnone : ∀ {fault : ResourceFault}, (∀ value, ¬ Holds fs path value) →
      Settles fs path (.error (.resource ⟨.configuration, some path.toText, fault⟩)) :=
    fun h => .resource fun members => h (.obj members)
  cases hbytes : fs.readBytes path with
  | error error =>
    left
    have hfile : ∀ value, ¬ Holds fs path value := by
      rintro value ⟨bytes, content, hok, -⟩
      simp [hbytes] at hok
    obtain ⟨fault, place⟩ := error
    cases fault <;> simp only [load, readConfiguration, hbytes, Except.bind] <;> exact hnone hfile
  | ok bytes =>
    cases hcontent : Utf8.decode bytes with
    | error error =>
      exact Or.inr ⟨bytes, .decoding error, rfl, .notUtf8 hcontent⟩
    | ok content =>
      cases hread : Json.read content.unifyLineEnds with
      | error error =>
        cases error with
        | malformed error =>
          left
          simp only [load, readConfiguration, hbytes, hcontent, hread, Except.bind]
          exact hnone fun value h => by simp [h.read_eq hbytes hcontent] at hread
        | tooManyDigits =>
          exact Or.inr ⟨bytes, .misuse .badValue, rfl, .tooManyDigits hcontent hread⟩
      | ok value =>
        by_cases hobject : ∃ members, value = .obj members
        · obtain ⟨members, rfl⟩ := hobject
          rw [load_of_holds ⟨bytes, content, hbytes, hcontent, hread⟩]
          refine (ofConfiguration_cases hbytes hcontent hread).imp_right ?_
          rintro ⟨e, he⟩
          exact ⟨bytes, e, rfl, he⟩
        · left
          have hnot : ∀ members, ¬ Holds fs path (.obj members) := by
            intro members h
            exact hobject ⟨members, Except.ok.inj (hread.symm.trans (h.read_eq hbytes hcontent))⟩
          cases value with
          | obj members => exact absurd ⟨members, rfl⟩ hobject
          | _ =>
            simp only [load, readConfiguration, hbytes, hcontent, hread, Except.bind]
            exact .resource hnot

/-- Reading a label mapping ends as it is meant to exactly for the contents that do not let another
error escape, and with that error for those that do. -/
theorem settles_load_iff (fs : FileSystem) (path : Path) :
    (Settles fs path (load fs path) ↔
      ∀ bytes, fs.readBytes path = .ok bytes → ∀ e, ¬ Escapes bytes e) ∧
    ∀ bytes e, fs.readBytes path = .ok bytes → Escapes bytes e → load fs path = .error e := by
  refine ⟨⟨?_, ?_⟩, fun bytes e hbytes he => he.load_eq hbytes⟩
  · intro hsettles bytes hbytes e he
    exact he.not_settles (he.load_eq hbytes ▸ hsettles)
  · intro hnone
    rcases load_cases fs path with hsettles | ⟨bytes, e, hbytes, he⟩
    · exact hsettles
    · exact absurd he (hnone bytes hbytes e)

example : Escapes [0xFF] (.decoding ⟨.invalidStart, 0xFF, 0, 1⟩) := .notUtf8 rfl

end Load

end LabelMapping

end EntityTagger
