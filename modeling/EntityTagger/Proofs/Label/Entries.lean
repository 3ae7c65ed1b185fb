import EntityTagger.Label
import EntityTagger.Proofs.Association
import EntityTagger.Proofs.Number.Integer
import EntityTagger.Proofs.Traversal

/-! How collecting the entries of a label mapping ends: with every entry under the integer that its
key denotes or with an error of the configuration, but for infinities, fractions, and keys that
denote the same integer. -/
namespace EntityTagger.LabelMapping

/-- The integer that a key denotes. A text, or bytes that are one, denotes what it spells, and a
floating-point number only its own value. -/
inductive Denotes : Value → ℤ → Prop
  | int (n : ℤ) : Denotes (.int n) n
  | bool (b : Bool) : Denotes (.bool b) (if b then 1 else 0)
  | float {x : Double} {n : ℤ} (hfinite : x.isFinite = true) (hvalue : x.value = n) :
      Denotes (.float x) n
  | str {t : Text} {n : ℤ} (h : Integer.Spells t n) : Denotes (.str t) n
  | bytes {b : List UInt8} {n : ℤ} (hascii : ∀ c ∈ b, c.toNat < 128)
      (h : Integer.Spells (b.map UInt8.toNat) n) : Denotes (.bytes b) n

/-- The integer for which a key is taken: what it denotes, and a fraction for its integer part. -/
inductive TakenAs : Value → ℤ → Prop
  | denoted {key : Value} {n : ℤ} (h : Denotes key n) : TakenAs key n
  | cut {x : Double} (hfinite : x.isFinite = true) : TakenAs (.float x) (Integer.part x.value)

section Keys

variable {key : Value} {n : ℤ}

theorem takenAs_float_iff {x : Double} :
    TakenAs (.float x) n ↔ x.truncate? = some n := by
  rw [Binary.truncate?_eq_some_iff]
  constructor
  · intro h
    cases h with
    | denoted h =>
      cases h with | float hfinite hvalue => exact ⟨hfinite, by rw [hvalue, Integer.part_intCast]⟩
    | cut hfinite => exact ⟨hfinite, rfl⟩
  · rintro ⟨hfinite, rfl⟩
    exact .cut hfinite

theorem takenAs_str_iff {t : Text} : TakenAs (.str t) n ↔ Integer.read? t = some n := by
  rw [Integer.read?_eq_some_iff]
  constructor
  · intro h
    cases h with
    | denoted h => cases h with | str h => exact h
  · exact fun h => .denoted (.str h)

theorem takenAs_bytes_iff {b : List UInt8} : TakenAs (.bytes b) n ↔
    (b.map UInt8.toNat).all (· < 128) = true ∧ Integer.read? (b.map UInt8.toNat) = some n := by
  rw [Integer.read?_eq_some_iff]
  constructor
  · intro h
    cases h with
    | denoted h => cases h with | bytes hascii h => exact ⟨by simpa using hascii, h⟩
  · rintro ⟨hascii, h⟩
    exact .denoted (.bytes (by simpa using hascii) h)

theorem idOfKey_eq_ok_iff : idOfKey key = .ok n ↔ TakenAs key n := by
  cases key with
  | int m =>
    constructor
    · rintro ⟨⟩
      exact .denoted (.int n)
    · rintro ⟨⟨⟩⟩
      rfl
  | bool b =>
    constructor
    · rintro ⟨⟩
      exact .denoted (.bool b)
    · rintro ⟨⟨⟩⟩
      rfl
  | float x =>
    rw [takenAs_float_iff]
    cases x <;> simp [idOfKey, Binary.truncate?]
  | str t =>
    rw [takenAs_str_iff]
    cases hread : Integer.read? t <;> simp [idOfKey, hread]
  | bytes b =>
    rw [takenAs_bytes_iff]
    by_cases hascii : (b.map UInt8.toNat).all (· < 128) = true
    · cases hread : Integer.read? (b.map UInt8.toNat) <;> simp [idOfKey, hascii, hread]
    · simp [idOfKey, hascii]
  | _ =>
    constructor
    · rintro ⟨⟩
    · rintro ⟨⟨⟩⟩

/-- A key that is taken for no integer is refused, unless it is an infinity. -/
theorem idOfKey_cases (key : Value) : (∃ n, idOfKey key = .ok n) ∨
    (∃ negative, key = .float (.infinity negative)) ∨
    idOfKey key = .error (.configuration (.notAnInteger key)) := by
  cases key with
  | int n => exact Or.inl ⟨n, rfl⟩
  | bool b => exact Or.inl ⟨_, rfl⟩
  | float x =>
    cases x with
    | nan => exact Or.inr (Or.inr rfl)
    | infinity negative => exact Or.inr (Or.inl ⟨negative, rfl⟩)
    | finite => exact Or.inl ⟨_, rfl⟩
  | str t => cases hread : Integer.read? t <;> simp [idOfKey, hread]
  | bytes b =>
    simp only [idOfKey]
    split_ifs
    · cases Integer.read? (b.map UInt8.toNat) <;> simp
    · exact Or.inr (Or.inr rfl)
  | _ => exact Or.inr (Or.inr rfl)

end Keys

/-- An entry under the integer that its key denotes, with the text of its name. -/
def Carries (entry : Value × Value) (label : ℤ × Text) : Prop :=
  Denotes entry.1 label.1 ∧ label.2 = Literal.display entry.2

/-- An entry under the integer for which its key is taken. -/
def Takes (entry : Value × Value) (label : ℤ × Text) : Prop :=
  TakenAs entry.1 label.1 ∧ label.2 = Literal.display entry.2

/-- The ways in which collecting the entries of a mapping is meant to end: with each of them, in
order, where their keys denote different integers, and with an error of the configuration where
there are none, where a key denotes no integer and where two denote the same. -/
inductive Collects (entries : List (Value × Value)) : Except Error LabelMapping → Prop
  | labels {labels : LabelMapping} (hne : entries ≠ [])
      (hcarries : List.Forall₂ Carries entries labels) (hids : labels.ids.Nodup) :
      Collects entries (.ok labels)
  | empty (hentries : entries = []) : Collects entries (.error (.configuration .emptyMapping))
  | noInteger {entry : Value × Value} (hentry : entry ∈ entries)
      (hkey : ∀ n, ¬ Denotes entry.1 n) :
      Collects entries (.error (.configuration (.notAnInteger entry.1)))
  | sameId {labels : LabelMapping} {fault : ConfigurationFault}
      (hcarries : List.Forall₂ Carries entries labels) (hids : ¬ labels.ids.Nodup) :
      Collects entries (.error (.configuration fault))

/-- The entries with which it ends otherwise: an infinity is the first key that is refused, a
fraction is taken for its integer part, or two keys are taken for the same integer, of which the
first keeps its place and the last its name. -/
inductive Misreads (entries : List (Value × Value)) : Except Error LabelMapping → Prop
  | overflow {before after : List (Value × Value)} {negative : Bool} {name : Value}
      (hentries : entries = before ++ (.float (.infinity negative), name) :: after)
      (hbefore : ∀ entry ∈ before, ∃ n, TakenAs entry.1 n) :
      Misreads entries (.error (.misuse .overflow))
  | cut {read : LabelMapping} {entry : Value × Value} (hread : List.Forall₂ Takes entries read)
      (hentry : entry ∈ entries) (hkey : ∀ n, ¬ Denotes entry.1 n) :
      Misreads entries (.ok (Association.ofList read))
  | merged {read : LabelMapping} (hread : List.Forall₂ Takes entries read)
      (hids : ¬ read.ids.Nodup) : Misreads entries (.ok (Association.ofList read))

section Entries

variable {entries : List (Value × Value)} {labels read : LabelMapping}
  {result : Except Error LabelMapping}

def readEntry (entry : Value × Value) : Except Error (ℤ × Text) :=
  (idOfKey entry.1).map fun n => (n, Literal.display entry.2)

theorem readEntry_eq_ok_iff {entry : Value × Value} {label : ℤ × Text} :
    readEntry entry = .ok label ↔ Takes entry label := by
  obtain ⟨n, name⟩ := label
  simp only [readEntry, Traversal.map_eq_ok_iff, idOfKey_eq_ok_iff, Takes, Prod.mk.injEq]
  constructor
  · rintro ⟨n, htaken, rfl, rfl⟩
    exact ⟨htaken, rfl⟩
  · rintro ⟨htaken, rfl⟩
    exact ⟨n, htaken, rfl, rfl⟩

/-- What is collected does not depend on whether all keys are read first. -/
theorem addEntries_eq_mapM (labels : LabelMapping) (entries : List (Value × Value)) :
    addEntries labels entries = (entries.mapM readEntry).map fun read =>
      read.foldl (fun dict entry => Association.put entry.1 entry.2 dict) labels := by
  induction entries generalizing labels with
  | nil => rfl
  | cons entry rest ih =>
    obtain ⟨key, name⟩ := entry
    cases hid : idOfKey key with
    | error e =>
      have hentry : readEntry (key, name) = .error e := by simp [readEntry, hid, Except.map]
      rw [Traversal.mapM_cons_error hentry]
      simp [addEntries, hid, Except.map]
    | ok n =>
      have hentry : readEntry (key, name) = .ok (n, Literal.display name) := by
        simp [readEntry, hid, Except.map]
      rw [Traversal.mapM_cons_ok hentry]
      simp only [addEntries, hid, ih]
      cases rest.mapM readEntry <;> rfl

theorem ofEntries_eq_mapM (h : entries ≠ []) :
    ofEntries entries = (entries.mapM readEntry).map Association.ofList := by
  rw [ofEntries, if_neg (by simpa using h), addEntries_eq_mapM]
  rfl

theorem mapM_readEntry_eq_ok_iff :
    entries.mapM readEntry = .ok read ↔ List.Forall₂ Takes entries read := by
  simp only [Traversal.mapM_eq_ok_iff, readEntry_eq_ok_iff]

theorem ofEntries_of_takes (h : entries ≠ []) (hread : List.Forall₂ Takes entries read) :
    ofEntries entries = .ok (Association.ofList read) := by
  rw [ofEntries_eq_mapM h, mapM_readEntry_eq_ok_iff.2 hread]
  rfl

theorem takes_of_carries (h : List.Forall₂ Carries entries labels) :
    List.Forall₂ Takes entries labels :=
  h.imp fun _ _ hcarries => ⟨.denoted hcarries.1, hcarries.2⟩

theorem denotes_of_carries (h : List.Forall₂ Carries entries labels) :
    ∀ entry ∈ entries, ∃ n, Denotes entry.1 n :=
  ((List.forall₂_and_left _ _).1 (h.imp fun _ label hcarries => ⟨⟨label.1, hcarries.1⟩, hcarries⟩)).1

theorem eq_of_takes (h : List.Forall₂ Takes entries labels)
    (hread : List.Forall₂ Takes entries read) : labels = read :=
  Except.ok.inj ((mapM_readEntry_eq_ok_iff.2 h).symm.trans (mapM_readEntry_eq_ok_iff.2 hread))

theorem carries_of_takes (hread : List.Forall₂ Takes entries read)
    (hkeys : ∀ entry ∈ entries, ∃ n, Denotes entry.1 n) : List.Forall₂ Carries entries read := by
  refine ((List.forall₂_and_left _ _).2 ⟨hkeys, hread⟩).imp ?_
  rintro entry label ⟨⟨n, hn⟩, htaken, hname⟩
  obtain rfl := Except.ok.inj
    ((idOfKey_eq_ok_iff.2 (.denoted hn)).symm.trans (idOfKey_eq_ok_iff.2 htaken))
  exact ⟨hn, hname⟩

theorem Misreads.ne_nil (h : Misreads entries result) : entries ≠ [] := by
  rintro rfl
  cases h with
  | overflow hentries => simp at hentries
  | cut _ hentry => simp at hentry
  | merged hread hids =>
    obtain rfl := List.forall₂_nil_left_iff.1 hread
    exact hids List.nodup_nil

theorem Misreads.ofEntries_eq (h : Misreads entries result) : ofEntries entries = result := by
  have hne := h.ne_nil
  cases h with
  | @overflow before after negative name hentries hbefore =>
    have hfails : readEntry (.float (.infinity negative), name) = .error (.misuse .overflow) := rfl
    have htaken : ∀ entry ∈ before, ∃ label, readEntry entry = .ok label := by
      intro entry hentry
      obtain ⟨n, hn⟩ := hbefore entry hentry
      exact ⟨(n, Literal.display entry.2), readEntry_eq_ok_iff.2 ⟨hn, rfl⟩⟩
    rw [ofEntries_eq_mapM hne, Traversal.map_eq_error_iff, Traversal.mapM_eq_error_iff]
    exact ⟨before, _, after, hentries, htaken, hfails⟩
  | cut hread => exact ofEntries_of_takes hne hread
  | merged hread => exact ofEntries_of_takes hne hread

theorem Misreads.not_collects (h : Misreads entries result) : ¬ Collects entries result := by
  intro hcollects
  cases h with
  | overflow => cases hcollects
  | cut _ hentry hkey =>
    cases hcollects with
    | labels _ hcarries =>
      obtain ⟨n, hn⟩ := denotes_of_carries hcarries _ hentry
      exact hkey n hn
  | merged hread hids =>
    cases hcollects with
    | labels _ hcarries hnodup =>
      have heq := eq_of_takes (takes_of_carries hcarries) hread
      exact hids (heq ▸ hnodup)

/-- Collecting the entries ends as it is meant to, unless they are misread. -/
theorem collects_or_misreads (entries : List (Value × Value)) :
    Collects entries (ofEntries entries) ∨ ∃ result, Misreads entries result := by
  by_cases hne : entries = []
  · exact Or.inl (hne ▸ .empty rfl)
  cases hread : entries.mapM readEntry with
  | ok read =>
    have htakes := mapM_readEntry_eq_ok_iff.1 hread
    by_cases hkeys : ∀ entry ∈ entries, ∃ n, Denotes entry.1 n
    · by_cases hids : (ids read).Nodup
      · left
        rw [ofEntries_of_takes hne htakes, Association.ofList_of_nodup hids]
        exact .labels hne (carries_of_takes htakes hkeys) hids
      · exact Or.inr ⟨_, .merged htakes hids⟩
    · push Not at hkeys
      obtain ⟨entry, hentry, hkey⟩ := hkeys
      exact Or.inr ⟨_, .cut htakes hentry hkey⟩
  | error e =>
    obtain ⟨before, ⟨key, name⟩, after, hentries, hbefore, hkey⟩ :=
      Traversal.mapM_eq_error_iff.1 hread
    have hid : idOfKey key = .error e := Traversal.map_eq_error_iff.1 hkey
    rcases idOfKey_cases key with ⟨n, hn⟩ | ⟨negative, rfl⟩ | hrefused
    · simp [hn] at hid
    · right
      refine ⟨_, .overflow hentries ?_⟩
      intro entry hentry
      obtain ⟨label, hlabel⟩ := hbefore entry hentry
      exact ⟨label.1, (readEntry_eq_ok_iff.1 hlabel).1⟩
    · left
      obtain rfl := Except.error.inj (hid.symm.trans hrefused)
      rw [ofEntries_eq_mapM hne, hread]
      have hentry : (key, name) ∈ entries := by simp [hentries]
      refine .noInteger hentry ?_
      intro n hn
      simp [idOfKey_eq_ok_iff.2 (.denoted hn)] at hid

/-- The entries of a mapping are collected as they are meant to be exactly where none of them is
misread, and end as the misreading says where one is. -/
theorem collects_ofEntries_iff (entries : List (Value × Value)) :
    (Collects entries (ofEntries entries) ↔ ∀ result, ¬ Misreads entries result) ∧
    ∀ result, Misreads entries result → ofEntries entries = result := by
  refine ⟨⟨?_, ?_⟩, fun result h => h.ofEntries_eq⟩
  · intro hcollects result h
    exact h.not_collects (h.ofEntries_eq ▸ hcollects)
  · intro hnone
    rcases collects_or_misreads entries with hcollects | ⟨result, h⟩
    · exact hcollects
    · exact absurd h (hnone result)

example : ofEntries [(.str [49], .str [65]), (.str [48, 49], .str [66])] = .ok [(1, [66])] := rfl

end Entries

end EntityTagger.LabelMapping
