import EntityTagger.Proofs.Files
import EntityTagger.Proofs.Settings
import EntityTagger.Settings.File

/-! How loading settings ends: with settings, or with an error of the configuration; and for some
contents of the file in neither of these ways. -/
namespace EntityTagger.Settings

section Dictionary

variable {entries : Field.Record} {item value : Value} {items : List Value} {kind : Misuse}

def IsPair (item : Value) (pair : Value × Value) : Prop :=
  item.members? = some [pair.1, pair.2] ∧ pair.1.isKey = true

/-- What keeps an item from being a key with its content, and the kind of failure that this is. -/
inductive NotPair (item : Value) : Misuse → Prop
  | noMembers (hmembers : item.members? = none) : NotPair item .wrongType
  | notTwo {parts : List Value} (hmembers : item.members? = some parts)
      (hcount : parts.length ≠ 2) : NotPair item .badValue
  | noKey {key content : Value} (hmembers : item.members? = some [key, content])
      (hkey : key.isKey = false) : NotPair item .wrongType

theorem assignItem_of_isPair {pair : Value × Value} (h : IsPair item pair) :
    assignItem entries item = .ok (Value.putEntry pair.1 pair.2 entries) := by
  obtain ⟨hmembers, hkey⟩ := h
  simp only [assignItem, hmembers, hkey, if_true]

theorem assignItem_of_notPair (h : NotPair item kind) : assignItem entries item = .error kind := by
  cases h with
  | noMembers hmembers => simp only [assignItem, hmembers]
  | @notTwo parts hmembers hcount =>
    match parts, hcount with
    | [], _ => simp only [assignItem, hmembers]
    | [_], _ => simp only [assignItem, hmembers]
    | [_, _], hcount => exact absurd rfl hcount
    | _ :: _ :: _ :: _, _ => simp only [assignItem, hmembers]
  | noKey hmembers hkey => simp [assignItem, hmembers, hkey]

theorem isPair_or_notPair (item : Value) :
    (∃ pair, IsPair item pair) ∨ ∃ kind, NotPair item kind := by
  cases hmembers : item.members? with
  | none => exact Or.inr ⟨_, .noMembers hmembers⟩
  | some parts =>
    by_cases hcount : parts.length = 2
    · obtain ⟨key, content, rfl⟩ := List.length_eq_two.1 hcount
      cases hkey : key.isKey with
      | true => exact Or.inl ⟨(key, content), hmembers, hkey⟩
      | false => exact Or.inr ⟨_, .noKey hmembers hkey⟩
    · exact Or.inr ⟨_, .notTwo hmembers hcount⟩

theorem foldlM_assignItem_of_pairs {pairs : List (Value × Value)}
    (h : List.Forall₂ IsPair items pairs) (entries : Field.Record) :
    items.foldlM assignItem entries =
      .ok (pairs.foldl (fun entries pair => Value.putEntry pair.1 pair.2 entries) entries) := by
  induction h generalizing entries with
  | nil => rfl
  | cons hpair _ ih =>
    rw [List.foldlM_cons, assignItem_of_isPair hpair]
    exact ih _

theorem foldlM_assignItem_of_notPair {before after : List Value}
    (hbefore : ∀ b ∈ before, ∃ pair, IsPair b pair) (hitem : NotPair item kind)
    (entries : Field.Record) :
    (before ++ item :: after).foldlM assignItem entries = .error kind := by
  induction before generalizing entries with
  | nil =>
    rw [List.nil_append, List.foldlM_cons, assignItem_of_notPair hitem]
    rfl
  | cons b before ih =>
    obtain ⟨pair, hpair⟩ := hbefore b (List.mem_cons_self ..)
    rw [List.cons_append, List.foldlM_cons, assignItem_of_isPair hpair]
    exact ih (fun c hc => hbefore c (List.mem_cons_of_mem _ hc)) _

theorem forall₂_isPair_or (items : List Value) :
    (∃ pairs, List.Forall₂ IsPair items pairs) ∨
    ∃ before item after kind, items = before ++ item :: after ∧
      (∀ b ∈ before, ∃ pair, IsPair b pair) ∧ NotPair item kind := by
  induction items with
  | nil => exact Or.inl ⟨[], .nil⟩
  | cons item rest ih =>
    rcases isPair_or_notPair item with ⟨pair, hpair⟩ | ⟨kind, hnot⟩
    · rcases ih with ⟨pairs, hpairs⟩ | ⟨before, other, after, kind, rfl, hbefore, hnot⟩
      · exact Or.inl ⟨pair :: pairs, .cons hpair hpairs⟩
      · refine Or.inr ⟨item :: before, other, after, kind, rfl, ?_, hnot⟩
        exact List.forall_mem_cons.2 ⟨⟨pair, hpair⟩, hbefore⟩
    · exact Or.inr ⟨[], item, rest, kind, rfl, by simp, hnot⟩

/-- The entries of a value that is a dictionary, or can be turned into one. -/
inductive IsDictionary : Value → Field.Record → Prop
  | dict (entries : Field.Record) : IsDictionary (.dict entries) entries
  | pairs {value : Value} {items : List Value} {pairs : List (Value × Value)}
      (hnot : ∀ entries, value ≠ .dict entries) (hmembers : value.members? = some items)
      (hpairs : List.Forall₂ IsPair items pairs) : IsDictionary value
        (pairs.foldl (fun entries pair => Value.putEntry pair.1 pair.2 entries) [])

/-- What keeps a value from being turned into a dictionary: it cannot be gone through, or some item
in it is no pair. -/
inductive NotDictionary : Value → Misuse → Prop
  | noMembers {value : Value} (hmembers : value.members? = none) : NotDictionary value .wrongType
  | badItem {value : Value} {before after : List Value} {item : Value} {kind : Misuse}
      (hnot : ∀ entries, value ≠ .dict entries)
      (hmembers : value.members? = some (before ++ item :: after))
      (hbefore : ∀ b ∈ before, ∃ pair, IsPair b pair) (hitem : NotPair item kind) :
      NotDictionary value kind

theorem dictionary_of_members (hnot : ∀ entries, value ≠ .dict entries)
    (hmembers : value.members? = some items) : dictionary value = items.foldlM assignItem [] := by
  cases value with
  | dict entries => exact absurd rfl (hnot entries)
  | _ => simp only [dictionary, hmembers]

theorem dictionary_of_isDictionary (h : IsDictionary value entries) :
    dictionary value = .ok entries := by
  cases h with
  | dict => rfl
  | pairs hnot hmembers hpairs =>
    rw [dictionary_of_members hnot hmembers]
    exact foldlM_assignItem_of_pairs hpairs []

theorem dictionary_of_notDictionary (h : NotDictionary value kind) :
    dictionary value = .error kind := by
  cases h with
  | noMembers hmembers =>
    cases value with
    | dict entries => simp [Value.members?] at hmembers
    | _ => simp only [dictionary, hmembers]
  | badItem hnot hmembers hbefore hitem =>
    rw [dictionary_of_members hnot hmembers]
    exact foldlM_assignItem_of_notPair hbefore hitem []

theorem isDictionary_or_notDictionary (value : Value) :
    (∃ entries, IsDictionary value entries) ∨ ∃ kind, NotDictionary value kind := by
  by_cases hdict : ∃ entries, value = .dict entries
  · obtain ⟨entries, rfl⟩ := hdict
    exact Or.inl ⟨entries, .dict entries⟩
  · have hnot : ∀ entries, value ≠ .dict entries := fun entries h => hdict ⟨entries, h⟩
    cases hmembers : value.members? with
    | none => exact Or.inr ⟨_, .noMembers hmembers⟩
    | some items =>
      rcases forall₂_isPair_or items with
        ⟨pairs, hpairs⟩ | ⟨before, item, after, kind, rfl, hbefore, hitem⟩
      · exact Or.inl ⟨_, .pairs hnot hmembers hpairs⟩
      · exact Or.inr ⟨kind, .badItem hnot hmembers hbefore hitem⟩

end Dictionary

/-! ### Documents -/

section Document

variable {root : Path} {document value : Value} {fields made : Field.Record} {kind : Misuse}
  {entry : Value × Value}

def given : Value → Value
  | .dict entries => (Value.entry? (text "ner") entries).getD .none
  | _ => .none

/-- The fields that a document has for the settings: none if it says nothing about them. -/
inductive HasFields (document : Value) : Field.Record → Prop
  | none (hholds : (given document).holds = false) : HasFields document []
  | some {fields : Field.Record} (hholds : (given document).holds = true)
      (hdictionary : IsDictionary (given document) fields) : HasFields document fields

/-- A field for a path that says something and is no text. -/
def NotPath (entry : Value × Value) : Prop :=
  (∃ name ∈ pathFields, entry.1 = .str name) ∧ entry.2.holds = true ∧ ∀ t, entry.2 ≠ .str t

/-- What keeps a document from being looked at as settings, and the kind of failure that this is:
what it has for them is no dictionary, a path in it is no path, or a key is no text. -/
inductive Unfit (document : Value) : Misuse → Prop
  | notDictionary {kind : Misuse} (hholds : (given document).holds = true)
      (hnot : NotDictionary (given document) kind) : Unfit document kind
  | notPath {fields : Field.Record} {entry : Value × Value} (hfields : HasFields document fields)
      (hentry : entry ∈ fields) (hnot : NotPath entry) : Unfit document .wrongType
  | notText {fields : Field.Record} {entry : Value × Value} (hfields : HasFields document fields)
      (hentry : entry ∈ fields) (hnot : ∀ t, entry.1 ≠ .str t) : Unfit document .wrongType

theorem sectionOf_eq (document : Value) : sectionOf document =
    if (given document).holds then dictionary (given document) else .ok [] := by
  cases document <;> rfl

theorem sectionOf_of_hasFields (h : HasFields document fields) :
    sectionOf document = .ok fields := by
  rw [sectionOf_eq]
  cases h with
  | none hholds => rw [hholds]; rfl
  | some hholds hdictionary => rw [if_pos hholds, dictionary_of_isDictionary hdictionary]

theorem hasFields_or_unfit (document : Value) :
    (∃ fields, HasFields document fields) ∨
    ∃ kind, (given document).holds = true ∧ NotDictionary (given document) kind := by
  cases hholds : (given document).holds with
  | false => exact Or.inl ⟨[], .none hholds⟩
  | true =>
    rcases isDictionary_or_notDictionary (given document) with ⟨fields, hfields⟩ | ⟨kind, hnot⟩
    · exact Or.inl ⟨fields, .some hholds hfields⟩
    · exact Or.inr ⟨kind, rfl, hnot⟩

/-- An entry whose value was made absolute if it is one for a path. -/
structure IsAbsolute (entry made : Value × Value) : Prop where
  key : made.1 = entry.1
  path : (∃ name ∈ pathFields, entry.1 = .str name) → made.2 = .none ∨ ∃ t, made.2 = .str t
  other : (∀ name ∈ pathFields, entry.1 ≠ .str name) → made = entry

theorem absolutePath_of_not_text (hholds : value.holds = true) (hnot : ∀ t, value ≠ .str t) :
    absolutePath root value = .error .wrongType := by
  cases value with
  | str t => exact absurd rfl (hnot t)
  | _ => simp only [absolutePath, hholds, if_true]

theorem absolutePath_cases (root : Path) (value : Value) :
    (∃ path, absolutePath root value = .ok path ∧ (path = .none ∨ ∃ t, path = .str t)) ∨
    (value.holds = true ∧ ∀ t, value ≠ .str t) := by
  by_cases hholds : value.holds = true
  · by_cases htext : ∃ t, value = .str t
    · obtain ⟨t, rfl⟩ := htext
      exact Or.inl ⟨_, if_pos hholds, Or.inr ⟨_, rfl⟩⟩
    · exact Or.inr ⟨hholds, fun t ht => htext ⟨t, ht⟩⟩
  · exact Or.inl ⟨.none, if_neg hholds, Or.inl rfl⟩

theorem absoluteEntry_path {name : Text} (hname : name ∈ pathFields) (value : Value) :
    absoluteEntry root (.str name, value) =
      (absolutePath root value).map fun path => (.str name, path) := by
  simp only [absoluteEntry, List.contains_iff_mem.2 hname, if_true]

theorem absoluteEntry_other (h : ∀ name ∈ pathFields, entry.1 ≠ .str name) :
    absoluteEntry root entry = .ok entry := by
  obtain ⟨key, value⟩ := entry
  cases key with
  | str name =>
    have hcontains : pathFields.contains name = false := by
      rw [Bool.eq_false_iff]
      exact fun hmem => h name (List.contains_iff_mem.1 hmem) rfl
    simp only [absoluteEntry, hcontains, Bool.false_eq_true, if_false]
  | _ => rfl

theorem absoluteEntry_of_notPath (h : NotPath entry) :
    absoluteEntry root entry = .error .wrongType := by
  obtain ⟨key, value⟩ := entry
  obtain ⟨⟨name, hname, rfl⟩, hholds, hnot⟩ := h
  rw [absoluteEntry_path hname, absolutePath_of_not_text hholds hnot]
  rfl

theorem absoluteEntry_cases (root : Path) (entry : Value × Value) :
    (∃ made, absoluteEntry root entry = .ok made ∧ IsAbsolute entry made) ∨ NotPath entry := by
  obtain ⟨key, value⟩ := entry
  by_cases hpath : ∃ name ∈ pathFields, key = .str name
  · obtain ⟨name, hname, rfl⟩ := hpath
    rcases absolutePath_cases root value with ⟨path, hok, hpath⟩ | ⟨hholds, hnot⟩
    · rw [absoluteEntry_path hname, hok]
      refine Or.inl ⟨_, rfl, rfl, fun _ => hpath, fun hother => ?_⟩
      exact absurd rfl (hother name hname)
    · exact Or.inr ⟨⟨name, hname, rfl⟩, hholds, hnot⟩
  · have hother : ∀ name ∈ pathFields, key ≠ .str name := fun name hname hkey =>
      hpath ⟨name, hname, hkey⟩
    exact Or.inl ⟨_, absoluteEntry_other hother, rfl, fun h => absurd h hpath, fun _ => rfl⟩

theorem entry?_of_isAbsolute (h : List.Forall₂ IsAbsolute fields made) {name : Text}
    (hname : name ∉ pathFields) : Value.entry? name made = Value.entry? name fields := by
  induction h with
  | nil => rfl
  | @cons entry made fields others habsolute _ ih =>
    obtain ⟨key, value⟩ := entry
    obtain ⟨key', value'⟩ := made
    obtain rfl : key' = key := habsolute.key
    cases key' with
    | str other =>
      simp only [Value.entry?, ih]
      split_ifs with hother
      · have hsame := habsolute.other fun path hpath hkey => by
          obtain rfl := Value.str.inj hkey
          exact hname (hother ▸ hpath)
        rw [(Prod.mk.inj hsame).2]
      · rfl
    | _ => simpa only [Value.entry?] using ih

theorem entry?_path_of_isAbsolute (h : List.Forall₂ IsAbsolute fields made) {name : Text}
    (hname : name ∈ pathFields) {value : Value} (hvalue : Value.entry? name made = some value) :
    value = .none ∨ ∃ t, value = .str t := by
  induction h with
  | nil => simp [Value.entry?] at hvalue
  | @cons entry made fields others habsolute _ ih =>
    obtain ⟨key, value'⟩ := made
    cases key with
    | str other =>
      simp only [Value.entry?] at hvalue
      split_ifs at hvalue with hother
      · obtain rfl := Option.some.inj hvalue
        exact habsolute.path ⟨name, hname, by rw [← habsolute.key, hother]⟩
      · exact ih hvalue
    | _ => exact ih (by simpa only [Value.entry?] using hvalue)

theorem Charges.of_isAbsolute (h : List.Forall₂ IsAbsolute fields made)
    {violations : List Violation} (hcharges : Charges made violations) :
    Charges fields violations := by
  refine ⟨hcharges.ne_nil, fun v hv => ?_⟩
  obtain ⟨name, value, hentry, hplace, hbreaks⟩ := hcharges.breaks v hv
  have hname : name ∉ pathFields := by
    cases hbreaks with
    | string hname =>
      rcases hname with rfl | rfl
      · decide
      · decide
    | size hname =>
      rcases hname with rfl | rfl
      · decide
      · decide
  exact ⟨name, value, entry?_of_isAbsolute h hname ▸ hentry, hplace, hbreaks⟩

theorem withAbsolutePaths_of_notPath (hentry : entry ∈ fields) (hnot : NotPath entry) :
    withAbsolutePaths root fields = .error .wrongType := by
  have hall : ∀ kind, (∃ other ∈ fields, absoluteEntry root other = .error kind) →
      kind = .wrongType := by
    rintro kind ⟨other, -, herror⟩
    rcases absoluteEntry_cases root other with ⟨made, hok, -⟩ | hnot
    · simp [hok] at herror
    · exact Except.error.inj (herror.symm.trans (absoluteEntry_of_notPath hnot))
  cases hmade : withAbsolutePaths root fields with
  | ok made =>
    obtain ⟨result, hresult⟩ := Traversal.ok_of_mapM_eq_ok hmade hentry
    simp [absoluteEntry_of_notPath hnot] at hresult
  | error kind =>
    obtain ⟨before, other, after, rfl, -, hother⟩ := Traversal.mapM_eq_error_iff.1 hmade
    rw [hall kind ⟨other, by simp, hother⟩]

theorem withAbsolutePaths_cases (root : Path) (fields : Field.Record) :
    (∃ made, withAbsolutePaths root fields = .ok made ∧ List.Forall₂ IsAbsolute fields made) ∨
    ∃ entry ∈ fields, NotPath entry := by
  by_cases hnot : ∃ entry ∈ fields, NotPath entry
  · exact Or.inr hnot
  · have hentry : ∀ entry ∈ fields, ∃ made, absoluteEntry root entry = .ok made ∧
        IsAbsolute entry made := fun entry hentry =>
      (absoluteEntry_cases root entry).resolve_right fun h => hnot ⟨entry, hentry, h⟩
    obtain ⟨made, hmade⟩ := Traversal.exists_forall₂ hentry
    exact Or.inl ⟨made, Traversal.mapM_eq_ok_iff.2 (hmade.imp fun _ _ h => h.1),
      hmade.imp fun _ _ h => h.2⟩

theorem all_isText_of_isAbsolute (h : List.Forall₂ IsAbsolute fields made) :
    (made.all fun entry => isText entry.1) = fields.all fun entry => isText entry.1 := by
  induction h with
  | nil => rfl
  | cons habsolute _ ih => rw [List.all_cons, List.all_cons, habsolute.key, ih]

theorem all_isText_iff (fields : Field.Record) :
    (fields.all fun entry => isText entry.1) = true ↔ ∀ entry ∈ fields, ∃ t, entry.1 = .str t := by
  have hkey : ∀ key : Value, isText key = true ↔ ∃ t, key = .str t := by
    intro key
    cases key <;> simp [isText]
  simp only [List.all_eq_true, hkey]

theorem ofDocument_of_fields {path : Path} (hfields : HasFields document fields)
    (hmade : withAbsolutePaths root fields = .ok made)
    (habsolute : List.Forall₂ IsAbsolute fields made) : ofDocument root path document =
      if fields.all fun entry => isText entry.1 then
        (fieldwise Field.takePath? made).mapError fun violations =>
          .configuration (.invalidSettings path.toText violations)
      else .error (.misuse .wrongType) := by
  have hbind : (sectionOf document).bind (withAbsolutePaths root) = .ok made := by
    rw [sectionOf_of_hasFields hfields]
    exact hmade
  rw [ofDocument, hbind, ← all_isText_of_isAbsolute habsolute]
  cases hall : made.all fun entry => isText entry.1 <;>
    simp [Except.mapError, bind, Except.bind, hall]

theorem ofDocument_of_error {path : Path}
    (h : (sectionOf document).bind (withAbsolutePaths root) = .error kind) :
    ofDocument root path document = .error (.misuse kind) := by
  rw [ofDocument, h]
  rfl

theorem Unfit.ofDocument_eq {path : Path} (h : Unfit document kind) :
    ofDocument root path document = .error (.misuse kind) := by
  cases h with
  | notDictionary hholds hnot =>
    apply ofDocument_of_error
    rw [sectionOf_eq, if_pos hholds, dictionary_of_notDictionary hnot]
    rfl
  | notPath hfields hentry hnot =>
    apply ofDocument_of_error
    rw [sectionOf_of_hasFields hfields]
    exact withAbsolutePaths_of_notPath hentry hnot
  | @notText fields entry hfields hentry hnot =>
    rcases withAbsolutePaths_cases root fields with
      ⟨made, hmade, habsolute⟩ | ⟨other, hother, hpath⟩
    · rw [ofDocument_of_fields hfields hmade habsolute, if_neg]
      intro hall
      obtain ⟨t, ht⟩ := (all_isText_iff fields).1 hall entry hentry
      exact hnot t ht
    · apply ofDocument_of_error
      rw [sectionOf_of_hasFields hfields]
      exact withAbsolutePaths_of_notPath hother hpath

theorem ofDocument_cases (root path : Path) (document : Value) :
    (∃ kind, Unfit document kind) ∨ ∃ fields, HasFields document fields ∧
      ((∃ s, ofDocument root path document = .ok s ∧ 1 ≤ s.maxLength ∧ 1 ≤ s.batchSize) ∨
        ∃ violations, Charges fields violations ∧ ofDocument root path document =
          .error (.configuration (.invalidSettings path.toText violations))) := by
  rcases hasFields_or_unfit document with ⟨fields, hfields⟩ | ⟨kind, hholds, hnot⟩
  · rcases withAbsolutePaths_cases root fields with
      ⟨made, hmade, habsolute⟩ | ⟨entry, hentry, hnot⟩
    · by_cases hkeys : ∀ entry ∈ fields, ∃ t, entry.1 = .str t
      · refine Or.inr ⟨fields, hfields, ?_⟩
        rw [ofDocument_of_fields hfields hmade habsolute, if_pos ((all_isText_iff fields).2 hkeys)]
        have hfails : FailsWith (Charges made) (fieldwise Field.takePath? made) := by
          refine failsWith_fieldwise fun name hname value hvalue => ?_
          rcases entry?_path_of_isAbsolute habsolute hname hvalue with rfl | ⟨t, rfl⟩
          · exact ⟨none, rfl⟩
          · exact ⟨some (Path.ofText t), rfl⟩
        cases hread : fieldwise Field.takePath? made with
        | ok s => exact Or.inl ⟨s, rfl, sizes_pos_of_fieldwise hread⟩
        | error violations =>
          exact Or.inr ⟨violations, (hfails violations hread).of_isAbsolute habsolute, rfl⟩
      · push Not at hkeys
        obtain ⟨entry, hentry, hnot⟩ := hkeys
        exact Or.inl ⟨_, .notText hfields hentry hnot⟩
    · exact Or.inl ⟨_, .notPath hfields hentry hnot⟩
  · exact Or.inl ⟨kind, .notDictionary hholds hnot⟩

end Document

/-! ### Settings files -/

section Load

variable {fs : FileSystem} {env : Environment} {asked : Option Path} {path : Path}

def HoldsText (fs : FileSystem) (path : Path) (content : Text) : Prop :=
  ∃ bytes, fs.readBytes path = .ok bytes ∧ Utf8.decodeStream bytes = (content, none)

def HoldsDocument (fs : FileSystem) (path : Path) (document : Value) : Prop :=
  ∃ content, HoldsText fs path content ∧ Yaml.read content.unifyLineEnds = .ok document

/-- The ways in which loading settings is meant to end: with the defaults where no file is, with
settings, or with an error of the configuration where a file is no YAML or what it has for the
settings breaks their rules. -/
inductive Settles (fs : FileSystem) (path : Path) : Except Error Settings → Prop
  | missing (habsent : fs.isPresent path = false) : Settles fs path (.ok default)
  | settings {document : Value} {fields : Field.Record} {s : Settings}
      (hdocument : HoldsDocument fs path document) (hfields : HasFields document fields)
      (hlength : 1 ≤ s.maxLength) (hsize : 1 ≤ s.batchSize) : Settles fs path (.ok s)
  | malformed {content : Text} (hcontent : HoldsText fs path content)
      (hread : Yaml.read content.unifyLineEnds = .error .malformed) :
      Settles fs path (.error (.configuration (.malformed path.toText)))
  | invalid {document : Value} {fields : Field.Record} {violations : List Violation}
      (hdocument : HoldsDocument fs path document) (hfields : HasFields document fields)
      (hcharges : Charges fields violations) :
      Settles fs path (.error (.configuration (.invalidSettings path.toText violations)))

/-- What lets another error escape: a directory in the place of a file, bytes that are no text, a
scalar that looks like a number or a date but is none, and a document that cannot even be looked at
as settings. -/
inductive Escapes (fs : FileSystem) (path : Path) : Error → Prop
  | directory (hdirectory : fs.isDirectory path = true) :
      Escapes fs path (.file ⟨.isDirectory, path.toText⟩)
  | notUtf8 {bytes : List UInt8} {content : Text} {error : Utf8.DecodeError}
      (hbytes : fs.readBytes path = .ok bytes)
      (hcontent : Utf8.decodeStream bytes = (content, some error)) :
      Escapes fs path (.decoding error)
  | notScalar {content : Text} {kind : Misuse} (hcontent : HoldsText fs path content)
      (hread : Yaml.read content.unifyLineEnds = .error (.misuse kind)) :
      Escapes fs path (.misuse kind)
  | unfit {document : Value} {kind : Misuse} (hdocument : HoldsDocument fs path document)
      (hunfit : Unfit document kind) : Escapes fs path (.misuse kind)

theorem Escapes.not_settles {e : Error} (h : Escapes fs path e) : ¬ Settles fs path (.error e) := by
  intro hsettles
  cases h <;> cases hsettles

theorem HoldsText.readDocument_eq {content : Text} (h : HoldsText fs path content) :
    readDocument fs path = match Yaml.read content.unifyLineEnds with
      | .ok document => .ok document
      | .error .malformed => .error (.configuration (.malformed path.toText))
      | .error (.misuse kind) => .error (.misuse kind) := by
  obtain ⟨bytes, hbytes, hcontent⟩ := h
  rcases hread : Yaml.read content.unifyLineEnds with (_ | _) | _ <;>
    simp only [readDocument, hbytes, Except.mapError, bind, Except.bind, hcontent, hread]

theorem HoldsText.isPresent {content : Text} (h : HoldsText fs path content) :
    fs.isPresent path = true := by
  obtain ⟨bytes, hbytes, -⟩ := h
  exact FileSystem.isPresent_of_readBytes hbytes

theorem outcome_load_of_absent (h : fs.isPresent (env.settingsPath asked) = false) :
    (load fs env asked).outcome = .ok default := by
  simp [load, h, Except.bind]

theorem outcome_load_of_present (h : fs.isPresent (env.settingsPath asked) = true) :
    (load fs env asked).outcome = (readDocument fs (env.settingsPath asked)).bind
      (ofDocument env.root (env.settingsPath asked)) := by
  simp only [load, h, if_true]
  rfl

theorem Escapes.outcome_load {e : Error} (h : Escapes fs (env.settingsPath asked) e) :
    (load fs env asked).outcome = .error e := by
  cases h with
  | directory hdirectory =>
    obtain ⟨hpresent, hread⟩ := FileSystem.readBytes_of_isDirectory hdirectory
    rw [outcome_load_of_present hpresent, readDocument, hread]
    rfl
  | notUtf8 hbytes hcontent =>
    rw [outcome_load_of_present (FileSystem.isPresent_of_readBytes hbytes), readDocument, hbytes]
    simp only [Except.mapError, bind, Except.bind, hcontent]
  | notScalar hcontent hread =>
    rw [outcome_load_of_present hcontent.isPresent, hcontent.readDocument_eq, hread]
    rfl
  | unfit hdocument hunfit =>
    obtain ⟨content, hcontent, hread⟩ := hdocument
    rw [outcome_load_of_present hcontent.isPresent, hcontent.readDocument_eq, hread]
    exact hunfit.ofDocument_eq

theorem settles_of_document {document : Value}
    (hdocument : HoldsDocument fs (env.settingsPath asked) document) :
    Settles fs (env.settingsPath asked) (load fs env asked).outcome ∨
    ∃ e, Escapes fs (env.settingsPath asked) e := by
  obtain ⟨content, hcontent, hread⟩ := id hdocument
  rw [outcome_load_of_present hcontent.isPresent, hcontent.readDocument_eq, hread]
  rcases ofDocument_cases env.root (env.settingsPath asked) document with
    ⟨kind, hunfit⟩ | ⟨fields, hfields, ⟨s, hs, hlength, hsize⟩ | ⟨violations, hcharges, hs⟩⟩
  · exact Or.inr ⟨_, .unfit hdocument hunfit⟩
  · left
    show Settles _ _ (ofDocument env.root _ document)
    rw [hs]
    exact .settings hdocument hfields hlength hsize
  · left
    show Settles _ _ (ofDocument env.root _ document)
    rw [hs]
    exact .invalid hdocument hfields hcharges

theorem settles_or_escapes (fs : FileSystem) (env : Environment) (asked : Option Path) :
    Settles fs (env.settingsPath asked) (load fs env asked).outcome ∨
    ∃ e, Escapes fs (env.settingsPath asked) e := by
  cases hpresent : fs.isPresent (env.settingsPath asked) with
  | false =>
    rw [outcome_load_of_absent hpresent]
    exact Or.inl (.missing hpresent)
  | true =>
    rcases FileSystem.readBytes_or_isDirectory hpresent with ⟨bytes, hbytes⟩ | hdirectory
    · obtain ⟨content, fault, hdecode⟩ : ∃ content fault,
        Utf8.decodeStream bytes = (content, fault) := ⟨_, _, rfl⟩
      cases fault with
      | some error => exact Or.inr ⟨_, .notUtf8 hbytes hdecode⟩
      | none =>
        have hcontent : HoldsText fs (env.settingsPath asked) content := ⟨bytes, hbytes, hdecode⟩
        cases hread : Yaml.read content.unifyLineEnds with
        | ok document => exact settles_of_document ⟨content, hcontent, hread⟩
        | error fault =>
          cases fault with
          | malformed =>
            left
            rw [outcome_load_of_present hpresent, hcontent.readDocument_eq, hread]
            exact .malformed hcontent hread
          | misuse kind => exact Or.inr ⟨_, .notScalar hcontent hread⟩
    · exact Or.inr ⟨_, .directory hdirectory⟩

/-- Loading settings ends as it is meant to exactly where nothing lets another error escape, and
with that error where something does. -/
theorem settles_iff_not_escapes (fs : FileSystem) (env : Environment) (asked : Option Path) :
    (Settles fs (env.settingsPath asked) (load fs env asked).outcome ↔
      ∀ e, ¬ Escapes fs (env.settingsPath asked) e) ∧
    ∀ e, Escapes fs (env.settingsPath asked) e → (load fs env asked).outcome = .error e := by
  refine ⟨⟨?_, ?_⟩, fun e he => he.outcome_load⟩
  · intro hsettles e he
    exact he.not_settles (he.outcome_load ▸ hsettles)
  · intro hnone
    rcases settles_or_escapes fs env asked with hsettles | ⟨e, he⟩
    · exact hsettles
    · exact absurd he (hnone e)

example (h : fs.readBytes path = .ok [0xFF]) :
    Escapes fs path (.decoding ⟨.invalidStart, 0xFF, 0, 1⟩) := .notUtf8 h rfl

/-- A list with a number in it, in the place of the settings, is not even looked at. -/
example : Unfit (.dict [(.str (text "ner"), .list [.int 1])]) .wrongType :=
  .notDictionary rfl (@NotDictionary.badItem _ [] [] (.int 1) _ nofun rfl nofun (.noMembers rfl))

end Load

end EntityTagger.Settings
