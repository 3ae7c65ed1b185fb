import EntityTagger.Proofs.Label.Entries
import EntityTagger.Proofs.Label.File
import EntityTagger.Proofs.Row.RoundTrip
import EntityTagger.Tagger.File

/-! A label mapping survives the configuration file that it is written to, and being collected
again: what is read of the file is what was written, and a tagger has what was read. -/
namespace EntityTagger

theorem Text.unifyLineEnds_eq_self {t : Text} (h : t.IsWithinLine) : t.unifyLineEnds = t := by
  induction t with
  | nil => rfl
  | cons c rest ih =>
    obtain ⟨hc, hrest⟩ := List.forall_mem_cons.1 h
    rw [unifyLineEnds, if_neg hc.2, ih hrest]
    intro others heq
    exact absurd heq hc.2

theorem Value.ofMembers_eq_map (members : List (Text × Json)) :
    ofMembers members = members.map fun member => (.str member.1, ofJson member.2) := by
  induction members with
  | nil => rfl
  | cons member rest ih => rw [ofMembers, ih, List.map_cons]

namespace LabelMapping

def toMembers (labels : LabelMapping) : List (Text × Json) :=
  labels.map fun label => (Text.ofInt label.1, .str label.2)

/-- A mapping that a configuration can hold: there are labels, each id has one name, and no numeral
is too long to be read. -/
structure IsStorable (labels : LabelMapping) : Prop where
  ne_nil : labels ≠ []
  nodup : labels.ids.Nodup
  short : ∀ id ∈ labels.ids, (Text.ofNat id.natAbs).length ≤ 4300

section Collected

variable {labels : LabelMapping} {entries : List (Value × Value)}

theorem ofEntries_of_nodup (hne : labels ≠ []) (hids : labels.ids.Nodup)
    (h : List.Forall₂ Takes entries labels) : ofEntries entries = .ok labels := by
  have hentries : entries ≠ [] := by
    rintro rfl
    exact hne (List.forall₂_nil_left_iff.1 h)
  rw [ofEntries_of_takes hentries h, Association.ofList_of_nodup hids]

theorem takes_toEntries (labels : LabelMapping) : List.Forall₂ Takes labels.toEntries labels := by
  rw [toEntries, List.forall₂_map_left_iff]
  exact List.forall₂_same.2 fun label _ => ⟨.denoted (.int label.1), rfl⟩

theorem takes_toMembers (h : labels.IsStorable) :
    List.Forall₂ Takes (Value.ofMembers labels.toMembers) labels := by
  rw [Value.ofMembers_eq_map, toMembers, List.map_map, List.forall₂_map_left_iff]
  refine List.forall₂_same.2 fun label hlabel => ⟨.denoted (.str ?_), rfl⟩
  exact Integer.spells_ofInt (h.short label.1 (List.mem_map_of_mem hlabel))

/-- The object can be read: different ids have different numerals. -/
theorem isReadable_toMembers (h : labels.IsStorable) : (Json.obj labels.toMembers).IsReadable := by
  have hids : labels.toMembers.map Prod.fst = labels.ids.map Text.ofInt := by
    simp [toMembers, ids]
  refine ⟨?_, Json.membersReadable_iff.2 ?_⟩
  · rw [hids]
    refine List.Nodup.map_on ?_ h.nodup
    intro m hm n hn heq
    have hspells := Integer.spells_ofInt (h.short m hm)
    rw [heq] at hspells
    exact hspells.unique (Integer.spells_ofInt (h.short n hn))
  · intro member hmember
    obtain ⟨label, -, rfl⟩ := List.mem_map.1 hmember
    trivial

theorem ne_nil_and_nodup_of_ofEntries (h : ofEntries entries = .ok labels) :
    labels ≠ [] ∧ labels.ids.Nodup := by
  by_cases hne : entries = []
  · simp [hne, ofEntries] at h
  · rw [ofEntries_eq_mapM hne] at h
    obtain ⟨read, hread, rfl⟩ := Traversal.map_eq_ok_iff.1 h
    refine ⟨Association.ofList_ne_nil ?_, Association.nodup_ofList read⟩
    rintro rfl
    exact hne (List.forall₂_nil_right_iff.1 (mapM_readEntry_eq_ok_iff.1 hread))

/-- What was collected is collected again as it is. -/
theorem ofEntries_toEntries (h : ofEntries entries = .ok labels) :
    ofEntries labels.toEntries = .ok labels := by
  obtain ⟨hne, hids⟩ := ne_nil_and_nodup_of_ofEntries h
  exact ofEntries_of_nodup hne hids (takes_toEntries labels)

theorem exists_ofEntries {configuration : Value} (h : ofConfiguration configuration = .ok labels) :
    ∃ entries, ofEntries entries = .ok labels := by
  unfold ofConfiguration at h
  dsimp only at h
  split_ifs at h
  split at h
  · exact ⟨_, h⟩
  · simp at h

end Collected

section File

variable {fs : FileSystem} {path : Path} {labels : LabelMapping} {members : List (Text × Json)}

theorem load_toMembers (hstorable : labels.IsStorable) (hholds : Holds fs path (.obj members))
    (hgiven : given? members = some (.obj labels.toMembers)) : load fs path = .ok labels := by
  have hcollected := ofEntries_of_nodup hstorable.ne_nil hstorable.nodup (takes_toMembers hstorable)
  rw [load_of_holds hholds, ofConfiguration_obj, hgiven]
  rw [ofEntries] at hcollected
  split_ifs at hcollected with hempty
  simp only [Option.map_some, Option.getD_some, Value.ofJson, hempty, hcollected]
  rfl

theorem holds_of_write {j : Json} (hreadable : j.IsReadable) (hunicode : j.characters.IsUnicode)
    (hbytes : fs.readBytes path = .ok (Utf8.bytesOf j.write)) : Holds fs path j := by
  refine ⟨_, j.write, hbytes, Utf8.decode_bytesOf (Json.isUnicode_write hunicode), ?_⟩
  rw [Text.unifyLineEnds_eq_self (Json.isWithinLine_write j), Json.read_write hreadable]

end File

end LabelMapping

namespace Tagger

theorem labels_of_buildOn {device : Device} {tokenizer : Tokenizer} {model : Model}
    {entries : List (Value × Value)} {maxLength : ℤ} {t : Tagger}
    (h : buildOn device tokenizer model entries maxLength = .ok t) :
    LabelMapping.ofEntries entries = .ok t.labels := by
  obtain ⟨labels, hlabels, hmoved⟩ := Traversal.bind_eq_ok_iff.1 h
  split_ifs at hmoved
  · obtain rfl := Except.ok.inj hmoved
    exact hlabels

theorem labels_of_ofFiles {fs : FileSystem} {cudaDevices : ℕ}
    {vocabularyPath configurationPath weightsPath : Path} {device : Value} {maxLength : ℤ}
    {t : Tagger} (h : (ofFiles fs cudaDevices vocabularyPath configurationPath weightsPath device
      maxLength).outcome = .ok t) :
    LabelMapping.load fs configurationPath = .ok t.labels := by
  simp only [ofFiles, Run.outcome_bind, Run.outcome_ofExcept] at h
  obtain ⟨resolved, -, h⟩ := Traversal.bind_eq_ok_iff.1 h
  obtain ⟨vocabulary, -, h⟩ := Traversal.bind_eq_ok_iff.1 h
  obtain ⟨configuration, hconfiguration, h⟩ := Traversal.bind_eq_ok_iff.1 h
  obtain ⟨labels, hlabels, h⟩ := Traversal.bind_eq_ok_iff.1 h
  have hload : LabelMapping.load fs configurationPath = .ok labels :=
    Traversal.bind_eq_ok_iff.2 ⟨configuration, hconfiguration, hlabels⟩
  split_ifs at h with hproblem
  · simp [Run.fail, Except.bind] at h
  · simp only [Run.outcome_bind, Run.outcome_log, Run.outcome_ofExcept] at h
    obtain ⟨_, -, h⟩ := Traversal.bind_eq_ok_iff.1 h
    obtain ⟨bert, -, h⟩ := Traversal.bind_eq_ok_iff.1 h
    obtain ⟨weights, -, h⟩ := Traversal.bind_eq_ok_iff.1 h
    obtain ⟨model, -, h⟩ := Traversal.bind_eq_ok_iff.1 h
    obtain ⟨given, hgiven⟩ := LabelMapping.exists_ofEntries hlabels
    have hagain := LabelMapping.ofEntries_toEntries hgiven
    rw [hload, ← hagain, labels_of_buildOn h]

end Tagger

namespace LabelMapping

/-- A mapping comes back from every configuration that holds it, in its order and beside whatever
else is in there, and the tagger that is built on the file has it. What was collected once, of keys
of any kind, is collected again as it is. -/
theorem survives_file :
    (∀ labels : LabelMapping, labels.IsStorable → ∀ fs path members,
      Holds fs path (.obj members) → given? members = some (.obj labels.toMembers) →
        load fs path = .ok labels ∧
        ∀ cudaDevices vocabularyPath weightsPath device maxLength t,
          (Tagger.ofFiles fs cudaDevices vocabularyPath path weightsPath device maxLength).outcome
            = .ok t → t.labels = labels) ∧
    ∀ entries labels, ofEntries entries = .ok labels → ofEntries labels.toEntries = .ok labels := by
  refine ⟨?_, fun entries labels => ofEntries_toEntries⟩
  intro labels hstorable fs path members hholds hgiven
  have hload := load_toMembers hstorable hholds hgiven
  refine ⟨hload, ?_⟩
  intro cudaDevices vocabularyPath weightsPath device maxLength t ht
  exact Except.ok.inj ((Tagger.labels_of_ofFiles ht).symm.trans hload)

def twoLabels : LabelMapping := [(18446744073709551616, text "B-PER"), (-3, text "O")]

theorem isStorable_twoLabels : twoLabels.IsStorable := ⟨by simp [twoLabels], by decide, by decide⟩

def twoLabelsMembers : List (Text × Json) :=
  [(text "vocab_size", .int 5), (text "hidden_size", .int 1),
    (text "id2label", .obj twoLabels.toMembers), (text "num_hidden_layers", .int 0),
    (text "max_position_embeddings", .int 1)]

def twoLabelsVocabulary : Path := ⟨.relative, [text "vocab.txt"]⟩

def twoLabelsConfiguration : Path := ⟨.relative, [text "config.json"]⟩

def twoLabelsWeights : Path := ⟨.relative, [text "model.pt"]⟩

/-- A model without layers, and files for it. -/
def twoLabelsFiles : FileSystem :=
  ⟨[([], .directory 0),
    ([text "vocab.txt"],
      .file (.bytes ((text "[PAD]\n[UNK]\n[CLS]\n[SEP]\n[MASK]\n").map Nat.toUInt8)) 0),
    ([text "config.json"], .file (.bytes (Utf8.bytesOf (Json.obj twoLabelsMembers).write)) 0),
    ([text "model.pt"], .file (.checkpoint ⟨Bert.parameters ⟨5, 1, 0, 12, 3072, 1, 2⟩,
      [Format.single.zero false, Format.single.zero false]⟩) 0)]⟩

theorem holds_twoLabelsFiles :
    Holds twoLabelsFiles twoLabelsConfiguration (.obj twoLabelsMembers) := by
  have hshort : ∀ n < 6, (Text.ofNat n).length ≤ Json.maxDigits := by decide
  have hreadable : (Json.obj twoLabelsMembers).IsReadable :=
    ⟨by decide, hshort 5 (by decide), hshort 1 (by decide),
      isReadable_toMembers isStorable_twoLabels, hshort 0 (by decide), hshort 1 (by decide), trivial⟩
  exact holds_of_write hreadable (by decide) rfl

theorem survives_file_twoLabels :
    load twoLabelsFiles twoLabelsConfiguration = .ok twoLabels ∧
    (∃ t, (Tagger.ofFiles twoLabelsFiles 0 twoLabelsVocabulary twoLabelsConfiguration
      twoLabelsWeights (.str (text "cpu")) 8).outcome = .ok t ∧ t.labels = twoLabels) ∧
    ∃ labels, ofEntries [(.str (text " 07"), .str (text "A")), (.bool true, .none),
      (.float (Double.ofInt 2), .str (text "B"))] = .ok labels ∧
        ofEntries labels.toEntries = .ok labels := by
  obtain ⟨hload, hlabels⟩ := survives_file.1 twoLabels isStorable_twoLabels twoLabelsFiles
    twoLabelsConfiguration twoLabelsMembers holds_twoLabelsFiles rfl
  have hbuilt : (Tagger.ofFiles twoLabelsFiles 0 twoLabelsVocabulary twoLabelsConfiguration
      twoLabelsWeights (.str (text "cpu")) 8).outcome.toOption.isSome = true := by decide +kernel
  obtain ⟨t, ht⟩ := Traversal.isSome_toOption_iff.1 hbuilt
  have hthree : ofEntries [(.str (text " 07"), .str (text "A")), (.bool true, .none),
      (.float (Double.ofInt 2), .str (text "B"))] =
        .ok [(7, text "A"), (1, text "None"), (2, text "B")] := rfl
  exact ⟨hload, ⟨t, ht, hlabels _ _ _ _ _ t ht⟩, _, hthree, survives_file.2 _ _ hthree⟩

end LabelMapping

end EntityTagger
