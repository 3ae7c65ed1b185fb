import EntityTagger.Proofs.Path.Normal
import EntityTagger.Proofs.Settings.File
import Mathlib

/-! What loaded settings are: each field is what its own entry says, or the default. Settings that
are written down as they were loaded are loaded again. -/
namespace EntityTagger.Settings

variable {fs : FileSystem} {env : Environment} {asked : Option Path} {root path : Path}
  {document value : Value} {fields others made : Field.Record} {name : Text} {s : Settings}
  {found : Option Path}

/-- The settings file that is used: the one that is asked for, or else a configured one, or else the
one of the project. -/
inductive Uses (env : Environment) : Option Path → Path → Prop
  | asked (path : Path) : Uses env (some path) path
  | configured (hne : env.configured ≠ []) : Uses env none (Path.ofText env.configured)
  | own (hempty : env.configured = []) :
      Uses env none (env.root.append ⟨.relative, [text "configs", text "config.yaml"]⟩)

theorem uses_settingsPath (env : Environment) (asked : Option Path) :
    Uses env asked (env.settingsPath asked) := by
  cases asked with
  | some path => exact .asked path
  | none =>
    by_cases hempty : env.configured = []
    · rw [Environment.settingsPath, if_pos (List.isEmpty_iff.2 hempty)]
      exact .own hempty
    · rw [Environment.settingsPath, if_neg fun h => hempty (List.isEmpty_iff.1 h)]
      exact .configured hempty

/-! ### Fields -/

/-- What an entry says, or the default where there is none. -/
def ReadsField {α : Type} (fields : Field.Record) (name : Text) (default : α)
    (read : Value → Except Rule α) (a : α) : Prop :=
  (Value.entry? name fields = none ∧ a = default) ∨
    ∃ value, Value.entry? name fields = some value ∧ read value = .ok a

/-- The path that an entry says: none if it is missing or says nothing, and otherwise one from the
root of the project. -/
inductive ReadsPath (root : Path) (fields : Field.Record) (name : Text) : Option Path → Prop
  | missing (hentry : Value.entry? name fields = none) : ReadsPath root fields name none
  | nothing {value : Value} (hentry : Value.entry? name fields = some value)
      (hholds : value.holds = false) : ReadsPath root fields name none
  | absolute {t : Text} (hentry : Value.entry? name fields = some (.str t)) (hne : t ≠ [])
      (habsolute : (Path.ofText t).isAbsolute = true) :
      ReadsPath root fields name (some (Path.ofText t))
  | relative {t : Text} (hentry : Value.entry? name fields = some (.str t)) (hne : t ≠ [])
      (hrelative : (Path.ofText t).isAbsolute = false) :
      ReadsPath root fields name (some (root.append (Path.ofText t)))

/-- Settings of which each field is what its own entry says. -/
structure Reads (root : Path) (fields : Field.Record) (s : Settings) : Prop where
  modelName : ReadsField fields (text "model_name") defaultModelName Field.readString s.modelName
  vocabularyPath : ReadsPath root fields (text "vocab_path") s.vocabularyPath
  configurationPath : ReadsPath root fields (text "config_path") s.configurationPath
  weightsPath : ReadsPath root fields (text "weights_path") s.weightsPath
  device : ReadsField fields (text "device") defaultDevice Field.readString s.device
  maxLength : ReadsField fields (text "max_length") (Batch.defaultMaxLength : ℤ)
    (Field.readIntFrom 1) s.maxLength
  batchSize : ReadsField fields (text "batch_size") (defaultBatchSize : ℤ) (Field.readIntFrom 1)
    s.batchSize

def fieldNames : List Text :=
  [text "model_name", text "vocab_path", text "config_path", text "weights_path", text "device",
    text "max_length", text "batch_size"]

theorem ReadsField.congr {α : Type} {default a : α} {read : Value → Except Rule α}
    (h : ReadsField fields name default read a)
    (hsame : Value.entry? name others = Value.entry? name fields) :
    ReadsField others name default read a := by
  rw [ReadsField, hsame]
  exact h

theorem ReadsPath.congr (h : ReadsPath root fields name found)
    (hsame : Value.entry? name others = Value.entry? name fields) :
    ReadsPath root others name found := by
  cases h with
  | missing hentry => exact .missing (hsame.trans hentry)
  | nothing hentry hholds => exact .nothing (hsame.trans hentry) hholds
  | absolute hentry hne habsolute => exact .absolute (hsame.trans hentry) hne habsolute
  | relative hentry hne hrelative => exact .relative (hsame.trans hentry) hne hrelative

theorem Reads.congr (h : Reads root fields s)
    (hsame : ∀ name ∈ fieldNames, Value.entry? name others = Value.entry? name fields) :
    Reads root others s where
  modelName := h.modelName.congr (hsame _ (by decide))
  vocabularyPath := h.vocabularyPath.congr (hsame _ (by decide))
  configurationPath := h.configurationPath.congr (hsame _ (by decide))
  weightsPath := h.weightsPath.congr (hsame _ (by decide))
  device := h.device.congr (hsame _ (by decide))
  maxLength := h.maxLength.congr (hsame _ (by decide))
  batchSize := h.batchSize.congr (hsame _ (by decide))

theorem ReadsPath.of_some (hnormal : root.IsNormal) (habsolute : root.isAbsolute = true)
    (h : ReadsPath root fields name (some path)) :
    path.IsNormal ∧ path.isAbsolute = true := by
  cases h with
  | absolute hentry hne hfull => exact ⟨Path.isNormal_ofText _, hfull⟩
  | relative hentry hne hrelative =>
    exact ⟨hnormal.append (Path.isNormal_ofText _), Path.isAbsolute_append habsolute _⟩

theorem optional_iff_readsField {α : Type} {default a : α} {read : Value → Except Rule α}
    (habsolute : List.Forall₂ IsAbsolute fields made) (hname : name ∉ pathFields) :
    Field.optional made name default read = .ok a ↔ ReadsField fields name default read a := by
  rw [Field.optional_eq_ok_iff, entry?_of_isAbsolute habsolute hname]
  rfl

theorem entry?_withAbsolutePaths (h : withAbsolutePaths root fields = .ok made)
    (hname : name ∈ pathFields) :
    Option.Rel (fun value path => absolutePath root value = .ok path) (Value.entry? name fields)
      (Value.entry? name made) := by
  have hmade := Traversal.mapM_eq_ok_iff.1 h
  clear h
  induction hmade with
  | nil => exact .none
  | @cons entry made fields others hentry _ ih =>
    obtain ⟨key, value⟩ := entry
    cases key with
    | str other =>
      by_cases hother : other = name
      · subst hother
        rw [absoluteEntry_path hname, Traversal.map_eq_ok_iff] at hentry
        obtain ⟨path, hpath, rfl⟩ := hentry
        simp only [Value.entry?, if_true]
        exact .some hpath
      · have hkey : ∃ changed, made = (.str other, changed) := by
          rcases absoluteEntry_cases root (.str other, value) with ⟨result, hresult, habsolute⟩ | hnot
          · obtain rfl := Except.ok.inj (hresult.symm.trans hentry)
            exact ⟨result.2, Prod.ext habsolute.key rfl⟩
          · simp [absoluteEntry_of_notPath hnot] at hentry
        obtain ⟨changed, rfl⟩ := hkey
        simp only [Value.entry?, if_neg hother]
        exact ih
    | _ =>
      obtain rfl := Except.ok.inj hentry
      simpa only [Value.entry?] using ih

theorem takePath?_absolutePath_iff (hnormal : root.IsNormal) {written : Value}
    (h : absolutePath root value = .ok written) : Field.takePath? written = .ok found ↔
      (value.holds = false ∧ found = none) ∨
        ∃ t, value = .str t ∧ t ≠ [] ∧ found = some (root.append (Path.ofText t)) := by
  by_cases hholds : value.holds = true
  · by_cases htext : ∃ t, value = .str t
    · obtain ⟨t, rfl⟩ := htext
      have hwritten : absolutePath root (.str t) =
          .ok (.str (root.append (Path.ofText t)).toText) := if_pos hholds
      obtain rfl := Except.ok.inj (hwritten.symm.trans h)
      have hne : t ≠ [] := by
        rintro rfl
        simp [Value.holds] at hholds
      rw [Field.takePath?, (hnormal.append (Path.isNormal_ofText t)).ofText_toText, hholds]
      constructor
      · intro hfound
        exact Or.inr ⟨t, rfl, hne, (Except.ok.inj hfound).symm⟩
      · rintro (⟨hnot, -⟩ | ⟨other, hother, -, rfl⟩)
        · simp at hnot
        · obtain rfl := Value.str.inj hother
          rfl
    · rw [absolutePath_of_not_text hholds fun t ht => htext ⟨t, ht⟩] at h
      simp at h
  · have hwritten : absolutePath root value = .ok .none := if_neg hholds
    obtain rfl := Except.ok.inj (hwritten.symm.trans h)
    constructor
    · intro hfound
      exact Or.inl ⟨Bool.not_eq_true _ ▸ hholds, (Except.ok.inj hfound).symm⟩
    · rintro (⟨-, rfl⟩ | ⟨t, rfl, hne, -⟩)
      · rfl
      · cases t with
        | nil => exact absurd rfl hne
        | cons c rest => simp [Value.holds] at hholds

theorem readsPath_iff_append : ReadsPath root fields name found ↔
    (Value.entry? name fields = none ∧ found = none) ∨
      ∃ value, Value.entry? name fields = some value ∧
        ((value.holds = false ∧ found = none) ∨
          ∃ t, value = .str t ∧ t ≠ [] ∧ found = some (root.append (Path.ofText t))) := by
  constructor
  · intro h
    cases h with
    | missing hentry => exact Or.inl ⟨hentry, rfl⟩
    | nothing hentry hholds => exact Or.inr ⟨_, hentry, Or.inl ⟨hholds, rfl⟩⟩
    | absolute hentry hne habsolute =>
      refine Or.inr ⟨_, hentry, Or.inr ⟨_, rfl, hne, ?_⟩⟩
      rw [Path.append_of_isAbsolute habsolute]
    | relative hentry hne hrelative => exact Or.inr ⟨_, hentry, Or.inr ⟨_, rfl, hne, rfl⟩⟩
  · rintro (⟨hentry, rfl⟩ | ⟨value, hentry, ⟨hholds, rfl⟩ | ⟨t, rfl, hne, rfl⟩⟩)
    · exact .missing hentry
    · exact .nothing hentry hholds
    · cases hroot : (Path.ofText t).isAbsolute with
      | true =>
        rw [Path.append_of_isAbsolute hroot]
        exact .absolute hentry hne hroot
      | false => exact .relative hentry hne hroot

/-- A path field is read as what its entry said before it was made absolute. -/
theorem optional_iff_readsPath (hnormal : root.IsNormal)
    (hmade : withAbsolutePaths root fields = .ok made) (hname : name ∈ pathFields) :
    Field.optional made name none Field.takePath? = .ok found ↔
      ReadsPath root fields name found := by
  have hrel := entry?_withAbsolutePaths hmade hname
  rw [Field.optional_eq_ok_iff, readsPath_iff_append]
  generalize Value.entry? name made = entry at hrel ⊢
  cases hvalue : Value.entry? name fields with
  | none =>
    rw [hvalue] at hrel
    cases hrel
    simp
  | some value =>
    rw [hvalue] at hrel
    cases hrel with
    | some hpath =>
      simp only [reduceCtorEq, false_and, false_or, Option.some.injEq, exists_eq_left',
        takePath?_absolutePath_iff hnormal hpath]

/-! ### Documents -/

/-- Fields that can be looked at: all have names, and what says something about a path is a text. -/
def AreNamed (fields : Field.Record) : Prop :=
  ∀ entry ∈ fields, (∃ t, entry.1 = .str t) ∧ ¬ NotPath entry

theorem ofDocument_of_not_areNamed (hfields : HasFields document fields)
    (h : ¬ AreNamed fields) (path : Path) :
    ofDocument root path document = .error (.misuse .wrongType) := by
  rw [AreNamed] at h
  push Not at h
  obtain ⟨entry, hentry, hnot⟩ := h
  by_cases hkey : ∃ t, entry.1 = .str t
  · exact Unfit.ofDocument_eq (.notPath hfields hentry (hnot hkey))
  · exact Unfit.ofDocument_eq (.notText hfields hentry fun t ht => hkey ⟨t, ht⟩)

theorem ofDocument_eq_ok_iff (hnormal : root.IsNormal) (hfields : HasFields document fields) :
    ofDocument root path document = .ok s ↔ AreNamed fields ∧ Reads root fields s := by
  by_cases hnamed : AreNamed fields
  · obtain ⟨made, hmade, habsolute⟩ := (withAbsolutePaths_cases root fields).resolve_right
      fun ⟨entry, hentry, hnot⟩ => (hnamed entry hentry).2 hnot
    have hkeys := (all_isText_iff fields).2 fun entry hentry => (hnamed entry hentry).1
    rw [ofDocument_of_fields hfields hmade habsolute, if_pos hkeys, Traversal.mapError_eq_ok_iff,
      fieldwise_eq_ok_iff, optional_iff_readsField habsolute (by decide),
      optional_iff_readsPath hnormal hmade (by decide),
      optional_iff_readsPath hnormal hmade (by decide),
      optional_iff_readsPath hnormal hmade (by decide),
      optional_iff_readsField habsolute (by decide), optional_iff_readsField habsolute (by decide),
      optional_iff_readsField habsolute (by decide)]
    constructor
    · rintro ⟨hname, hvocabulary, hconfiguration, hweights, hdevice, hlength, hsize⟩
      exact ⟨hnamed, hname, hvocabulary, hconfiguration, hweights, hdevice, hlength, hsize⟩
    · rintro ⟨-, hname, hvocabulary, hconfiguration, hweights, hdevice, hlength, hsize⟩
      exact ⟨hname, hvocabulary, hconfiguration, hweights, hdevice, hlength, hsize⟩
  · rw [ofDocument_of_not_areNamed hfields hnamed]
    simp [hnamed]

/-! ### Settings written down -/

def writtenPath : Option Path → Value
  | none => .none
  | some path => .str path.toText

def toFields (s : Settings) : Field.Record :=
  [(.str (text "model_name"), .str s.modelName),
    (.str (text "vocab_path"), writtenPath s.vocabularyPath),
    (.str (text "config_path"), writtenPath s.configurationPath),
    (.str (text "weights_path"), writtenPath s.weightsPath),
    (.str (text "device"), .str s.device), (.str (text "max_length"), .int s.maxLength),
    (.str (text "batch_size"), .int s.batchSize)]

theorem nodup_keys_toFields (s : Settings) : (s.toFields.map Prod.fst).Nodup := by
  have hkeys : s.toFields.map Prod.fst = fieldNames.map .str := rfl
  have hnames : fieldNames.Nodup := by decide
  rw [hkeys]
  exact hnames.map fun a b hab => Value.str.inj hab

theorem entry?_of_mem (hkeys : (fields.map Prod.fst).Nodup) (hmem : (.str name, value) ∈ fields) :
    Value.entry? name fields = some value := by
  induction fields with
  | nil => simp at hmem
  | cons entry rest ih =>
    rw [List.map_cons, List.nodup_cons] at hkeys
    rcases List.mem_cons.1 hmem with rfl | hrest
    · simp [Value.entry?]
    · have hne : entry.1 ≠ .str name := fun heq =>
        hkeys.1 (heq ▸ List.mem_map_of_mem (f := Prod.fst) hrest)
      obtain ⟨key, first⟩ := entry
      cases key with
      | str other =>
        have hother : other ≠ name := fun heq => hne (congrArg _ heq)
        simpa only [Value.entry?, if_neg hother] using ih hkeys.2 hrest
      | _ => simpa only [Value.entry?] using ih hkeys.2 hrest

theorem entry?_of_perm (hperm : others.Perm s.toFields) (hmem : (.str name, value) ∈ s.toFields) :
    Value.entry? name others = some value := by
  apply entry?_of_mem
  · exact (hperm.map Prod.fst).nodup_iff.2 s.nodup_keys_toFields
  · exact hperm.mem_iff.2 hmem

theorem not_notPath_of_not_holds (h : value.holds = false) : ¬ NotPath (.str name, value) := by
  rintro ⟨-, hholds, -⟩
  simp [h] at hholds

theorem not_notPath_of_text (t : Text) : ¬ NotPath (.str name, .str t) := by
  rintro ⟨-, -, hnot⟩
  exact hnot t rfl

theorem not_notPath_of_name (hname : name ∉ pathFields) : ¬ NotPath (.str name, value) := by
  rintro ⟨⟨other, hother, heq⟩, -, -⟩
  obtain rfl := Value.str.inj heq
  exact hname hother

theorem not_notPath_writtenPath (found : Option Path) :
    ¬ NotPath (.str name, writtenPath found) := by
  cases found with
  | none => exact not_notPath_of_not_holds rfl
  | some path => exact not_notPath_of_text _

theorem areNamed_toFields (s : Settings) : AreNamed s.toFields := by
  intro entry hentry
  simp only [toFields, List.mem_cons, List.not_mem_nil, or_false] at hentry
  rcases hentry with rfl | rfl | rfl | rfl | rfl | rfl | rfl
  · exact ⟨⟨_, rfl⟩, not_notPath_of_text _⟩
  · exact ⟨⟨_, rfl⟩, not_notPath_writtenPath _⟩
  · exact ⟨⟨_, rfl⟩, not_notPath_writtenPath _⟩
  · exact ⟨⟨_, rfl⟩, not_notPath_writtenPath _⟩
  · exact ⟨⟨_, rfl⟩, not_notPath_of_text _⟩
  · exact ⟨⟨_, rfl⟩, not_notPath_of_name (by decide)⟩
  · exact ⟨⟨_, rfl⟩, not_notPath_of_name (by decide)⟩

theorem ReadsPath.again (hnormal : root.IsNormal) (habsolute : root.isAbsolute = true)
    (h : ReadsPath root fields name found)
    (hentry : Value.entry? name others = some (writtenPath found)) :
    ReadsPath root others name found := by
  cases found with
  | none => exact .nothing hentry rfl
  | some path =>
    obtain ⟨hpath, hfull⟩ := h.of_some hnormal habsolute
    have hne : path.toText ≠ [] := by
      intro hempty
      have hread := hpath.ofText_toText
      rw [hempty] at hread
      rw [← hread] at hfull
      exact absurd hfull (by decide)
    have hagain := hpath.ofText_toText
    rw [← hagain]
    exact .absolute hentry hne (hagain.symm ▸ hfull)

theorem le_of_readsField {default n : ℤ} (hdefault : 1 ≤ default)
    (h : ReadsField fields name default (Field.readIntFrom 1) n) : 1 ≤ n := by
  rcases h with ⟨-, rfl⟩ | ⟨value, -, hread⟩
  · exact hdefault
  · exact Field.le_of_readIntFrom hread

theorem Reads.sizes_pos (h : Reads root fields s) : 1 ≤ s.maxLength ∧ 1 ≤ s.batchSize :=
  ⟨le_of_readsField (by decide) h.maxLength, le_of_readsField (by decide) h.batchSize⟩

theorem readIntFrom_int {n : ℤ} (h : 1 ≤ n) : Field.readIntFrom 1 (.int n) = .ok n := by
  rw [Field.readIntFrom]
  exact if_pos h

/-- Settings are read from what they are written as. -/
theorem Reads.again (hnormal : root.IsNormal) (habsolute : root.isAbsolute = true)
    (h : Reads root fields s) (hperm : others.Perm s.toFields) : Reads root others s where
  modelName := Or.inr ⟨.str s.modelName, entry?_of_perm hperm (by simp [toFields]), rfl⟩
  vocabularyPath := h.vocabularyPath.again hnormal habsolute
    (entry?_of_perm hperm (by simp [toFields]))
  configurationPath := h.configurationPath.again hnormal habsolute
    (entry?_of_perm hperm (by simp [toFields]))
  weightsPath := h.weightsPath.again hnormal habsolute (entry?_of_perm hperm (by simp [toFields]))
  device := Or.inr ⟨.str s.device, entry?_of_perm hperm (by simp [toFields]), rfl⟩
  maxLength := Or.inr ⟨_, entry?_of_perm hperm (by simp [toFields]),
    readIntFrom_int h.sizes_pos.1⟩
  batchSize := Or.inr ⟨_, entry?_of_perm hperm (by simp [toFields]),
    readIntFrom_int h.sizes_pos.2⟩

theorem reads_default (root : Path) : Reads root [] default where
  modelName := Or.inl ⟨rfl, rfl⟩
  vocabularyPath := .missing rfl
  configurationPath := .missing rfl
  weightsPath := .missing rfl
  device := Or.inl ⟨rfl, rfl⟩
  maxLength := Or.inl ⟨rfl, rfl⟩
  batchSize := Or.inl ⟨rfl, rfl⟩

/-! ### Settings files -/

def HoldsFields (fs : FileSystem) (path : Path) (fields : Field.Record) : Prop :=
  ∃ document, HoldsDocument fs path document ∧ HasFields document fields

theorem HoldsFields.isPresent (h : HoldsFields fs path fields) : fs.isPresent path = true := by
  obtain ⟨document, ⟨content, hcontent, -⟩, -⟩ := h
  exact hcontent.isPresent

/-- Settings are loaded from a file exactly if they are what its fields say. -/
theorem outcome_load_eq_ok_iff (hnormal : env.root.IsNormal)
    (h : HoldsFields fs (env.settingsPath asked) fields) :
    (load fs env asked).outcome = .ok s ↔ AreNamed fields ∧ Reads env.root fields s := by
  have hpresent := h.isPresent
  obtain ⟨document, ⟨content, hcontent, hread⟩, hfields⟩ := h
  rw [outcome_load_of_present hpresent, hcontent.readDocument_eq, hread]
  exact ofDocument_eq_ok_iff hnormal hfields

theorem exists_holdsFields (hpresent : fs.isPresent (env.settingsPath asked) = true)
    (hok : (load fs env asked).outcome = .ok s) :
    ∃ fields, HoldsFields fs (env.settingsPath asked) fields := by
  obtain ⟨hsettles, hescapes⟩ := settles_iff_not_escapes fs env asked
  have hnone : ∀ e, ¬ Escapes fs (env.settingsPath asked) e := by
    intro e he
    simp [hescapes e he] at hok
  have hended := hsettles.2 hnone
  rw [hok] at hended
  cases hended with
  | missing habsent => simp [hpresent] at habsent
  | settings hdocument hfields hlength hsize => exact ⟨_, _, hdocument, hfields⟩

/-- Settings that are loaded are the defaults where no file is, and else what the fields in the file
say, each what its own entry says. Sizes are positive and paths absolute. What other entries say
makes no difference, and settings that are written down are loaded again. -/
theorem load_reads (hnormal : env.root.IsNormal) (habsolute : env.root.isAbsolute = true)
    (hok : (load fs env asked).outcome = .ok s) :
    ∃ path fields, Uses env asked path ∧
      (fs.isPresent path = false → fields = [] ∧ s = default) ∧
      (fs.isPresent path = true → HoldsFields fs path fields) ∧
      Reads env.root fields s ∧ 1 ≤ s.maxLength ∧ 1 ≤ s.batchSize ∧
      (∀ p, s.vocabularyPath = some p ∨ s.configurationPath = some p ∨ s.weightsPath = some p →
        p.isAbsolute = true) ∧
      (s.usesLocalFiles = true ↔
        s.vocabularyPath ≠ none ∧ s.configurationPath ≠ none ∧ s.weightsPath ≠ none) ∧
      (∀ fs' env' asked' others, env'.root = env.root →
        HoldsFields fs' (env'.settingsPath asked') others → AreNamed others →
        (∀ name ∈ fieldNames, Value.entry? name others = Value.entry? name fields) →
          (load fs' env' asked').outcome = .ok s) ∧
      ∀ fs' env' asked' others, env'.root = env.root →
        HoldsFields fs' (env'.settingsPath asked') others → others.Perm s.toFields →
          (load fs' env' asked').outcome = .ok s := by
  have hreads : ∃ fields, (fs.isPresent (env.settingsPath asked) = false →
      fields = [] ∧ s = default) ∧
      (fs.isPresent (env.settingsPath asked) = true →
        HoldsFields fs (env.settingsPath asked) fields) ∧ Reads env.root fields s := by
    cases hpresent : fs.isPresent (env.settingsPath asked) with
    | false =>
      rw [outcome_load_of_absent hpresent] at hok
      obtain rfl := Except.ok.inj hok
      exact ⟨[], fun _ => ⟨rfl, rfl⟩, nofun, reads_default env.root⟩
    | true =>
      obtain ⟨fields, hfields⟩ := exists_holdsFields hpresent hok
      exact ⟨fields, nofun, fun _ => hfields,
        ((outcome_load_eq_ok_iff hnormal hfields).1 hok).2⟩
  obtain ⟨fields, habsent, hpresent, hreads⟩ := hreads
  obtain ⟨hlength, hsize⟩ := hreads.sizes_pos
  refine ⟨env.settingsPath asked, fields, uses_settingsPath env asked, habsent, hpresent, hreads,
    hlength, hsize, ?_, ?_, ?_, ?_⟩
  · rintro p (hp | hp | hp)
    · exact ((hp ▸ hreads.vocabularyPath).of_some hnormal habsolute).2
    · exact ((hp ▸ hreads.configurationPath).of_some hnormal habsolute).2
    · exact ((hp ▸ hreads.weightsPath).of_some hnormal habsolute).2
  · simp only [usesLocalFiles, Bool.and_eq_true, Option.isSome_iff_ne_none, and_assoc]
  · intro fs' env' asked' others hroot hothers hnamed hsame
    rw [outcome_load_eq_ok_iff (hroot.symm ▸ hnormal) hothers, hroot]
    exact ⟨hnamed, hreads.congr hsame⟩
  · intro fs' env' asked' others hroot hothers hperm
    rw [outcome_load_eq_ok_iff (hroot.symm ▸ hnormal) hothers, hroot]
    refine ⟨fun entry hentry => ?_, hreads.again hnormal habsolute hperm⟩
    exact areNamed_toFields s entry (hperm.mem_iff.1 hentry)

/-- Settings of which some are missing, one is empty and one unknown. -/
def projectText : Text :=
  text "'ner':\n  'vocab_path': 'v.txt'\n  'weights_path': '/w'\n" ++
    text "  'config_path': ''\n  'batch_size': '8'\n  'other': ''"

def projectFields : Field.Record :=
  [(.str (text "vocab_path"), .str (text "v.txt")), (.str (text "weights_path"), .str (text "/w")),
    (.str (text "config_path"), .str []), (.str (text "batch_size"), .str (text "8")),
    (.str (text "other"), .str [])]

def projectFiles : FileSystem :=
  ⟨[([], .directory 0), ([text "p"], .directory 0), ([text "p", text "configs"], .directory 0),
    ([text "p", text "configs", text "config.yaml"],
      .file (.bytes (projectText.map Nat.toUInt8)) 0)]⟩

def projectEnvironment : Environment := ⟨⟨.absolute, [text "p"]⟩, []⟩

def projectSettings : Settings :=
  { default with
    vocabularyPath := some ⟨.absolute, [text "p", text "v.txt"]⟩
    weightsPath := some ⟨.absolute, [text "w"]⟩
    batchSize := 8 }

theorem outcome_load_projectFiles :
    (load projectFiles projectEnvironment none).outcome = .ok projectSettings := by
  have hcontent : HoldsText projectFiles (projectEnvironment.settingsPath none) projectText :=
    ⟨projectText.map Nat.toUInt8, Traversal.toOption_eq_some_iff.1 (by decide +kernel),
      by decide +kernel⟩
  have hread : Yaml.read projectText.unifyLineEnds =
      .ok (.dict [(.str (text "ner"), .dict projectFields)]) := by cbv
  rw [outcome_load_of_present hcontent.isPresent, hcontent.readDocument_eq, hread]
  exact Traversal.toOption_eq_some_iff.1 (by decide +kernel)

/-- The settings of a project are loaded, and loaded again from what they are written as. -/
theorem load_projectSettings :
    (load projectFiles projectEnvironment none).outcome = .ok projectSettings ∧
    (∃ fields, HoldsFields projectFiles projectEnvironment.ownPath fields ∧
      Reads ⟨.absolute, [text "p"]⟩ fields projectSettings) ∧
    ∀ fs others, HoldsFields fs projectEnvironment.ownPath others →
      others.Perm projectSettings.toFields →
        (load fs projectEnvironment none).outcome = .ok projectSettings := by
  obtain ⟨path, fields, huses, -, hpresent, hreads, -, -, -, -, -, hagain⟩ :=
    load_reads (by decide +kernel) rfl outcome_load_projectFiles
  have hpath : path = projectEnvironment.ownPath := by
    cases huses with
    | configured hne => exact absurd rfl hne
    | own hempty => decide +kernel
  refine ⟨outcome_load_projectFiles, ⟨fields, hpath ▸ hpresent ?_, hreads⟩,
    fun fs others => hagain fs _ none others rfl⟩
  rw [hpath]
  decide +kernel

end EntityTagger.Settings
