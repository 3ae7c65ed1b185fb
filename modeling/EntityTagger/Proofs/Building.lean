import EntityTagger.Proofs.Failure
import EntityTagger.Proofs.Settings.File
import EntityTagger.Proofs.Vocabulary
import EntityTagger.Service.Start

/-! Building taggers from files and settings: how it can fail, and which model a tagger has that was
built so. -/
namespace EntityTagger

/-- The kinds of errors that building a tagger ends with: any but those of texts to be tagged. -/
def Error.IsOfBuilding : Error → Prop
  | .input _ | .stated _ => False
  | _ => True

open Error

namespace LabelMapping

theorem failsWith_idOfKey (key : Value) : FailsWith IsOfBuilding (idOfKey key) := by
  unfold idOfKey
  dsimp only
  split
  · exact .ok _
  · exact .ok _
  · exact .error trivial
  · split
    · exact .ok _
    · exact .error trivial
  · split
    · exact .ok _
    · exact .error trivial
  · split
    · exact .ok _
    · exact .error trivial
  · exact .error trivial

theorem failsWith_addEntries (labels : LabelMapping) (entries : List (Value × Value)) :
    FailsWith IsOfBuilding (addEntries labels entries) := by
  induction entries generalizing labels with
  | nil => exact .ok _
  | cons entry rest ih =>
    obtain ⟨key, name⟩ := entry
    rw [addEntries]
    cases hid : idOfKey key with
    | error e => exact .error (failsWith_idOfKey key e hid)
    | ok id => exact ih _

theorem failsWith_ofEntries (entries : List (Value × Value)) :
    FailsWith IsOfBuilding (ofEntries entries) := by
  unfold ofEntries
  split
  · exact .error trivial
  · exact failsWith_addEntries _ _

theorem failsWith_ofConfiguration (configuration : Value) :
    FailsWith IsOfBuilding (ofConfiguration configuration) := by
  unfold ofConfiguration
  dsimp only
  split_ifs
  · split
    · exact failsWith_ofEntries _
    · exact .error trivial
  · exact .error trivial

theorem failsWith_readConfiguration (fs : FileSystem) (path : Path) :
    FailsWith IsOfBuilding (readConfiguration fs path) := by
  unfold readConfiguration
  dsimp only
  split
  · exact .error trivial
  · exact .error trivial
  · split
    · exact .error trivial
    · split
      · exact .error trivial
      · exact .error trivial
      · exact .ok _
      · exact .error trivial

end LabelMapping

theorem Vocabulary.failsWith_load (fs : FileSystem) (path : Path) :
    FailsWith IsOfBuilding (load fs path) := by
  refine FailsWith.mono (failsWith_loadWith completed fs path) ?_
  rintro _ (⟨fault, rfl⟩ | ⟨error, -, rfl⟩)
  · trivial
  · trivial

namespace Device

theorem failsWith_refuse (fault : ResourceFault) : FailsWith IsOfBuilding (refuse fault) :=
  .error trivial

theorem failsWith_check (cudaDevices : ℕ) (d : Device) :
    FailsWith IsOfBuilding (check cudaDevices d) := by
  unfold check
  split_ifs
  · exact .ok _
  · exact failsWith_refuse _
  · split
    · exact .ok _
    · split_ifs
      · exact .ok _
      · exact failsWith_refuse _

theorem failsWith_resolve (cudaDevices : ℕ) (request : Value) :
    FailsWith IsOfBuilding (resolve cudaDevices request) := by
  unfold resolve
  split
  · split
    · exact .ok _
    · split
      · exact failsWith_check _ _
      · exact failsWith_refuse _
  · split
    · exact failsWith_check _ _
    · exact failsWith_refuse _

end Device

namespace Bert

theorem eq_model_of_load {bert : Bert} {weights : Checkpoint} {model : Model}
    (h : bert.load weights = .ok model) : model = bert.model weights := by
  unfold load at h
  split at h
  · simp at h
  · split at h
    · exact (Except.ok.inj h).symm
    · simp at h

theorem failsWith_model (bert : Bert) (weights : Checkpoint) (ids : Rectangle ℤ) :
    FailsWith IsOfTagging ((bert.model weights).logits ids) := by
  dsimp only [model]
  split_ifs
  · exact .error trivial
  · exact Model.failsWith_spread _ _ _
  · exact .error trivial

end Bert

namespace Tagger

theorem failsWith_readWeights (fs : FileSystem) (path : Path) :
    FailsWith IsOfBuilding (readWeights fs path) := by
  unfold readWeights
  dsimp only
  split
  · exact .error trivial
  · split
    · exact .ok _
    · exact .error trivial
    · exact .error trivial

/-- How building a tagger ends: with an error of the kinds for that, or with a tagger that has a
BERT model. -/
def IsBuilding : Except Error Tagger → Prop
  | .ok t => ∃ (bert : Bert) (weights : Checkpoint), t.model = bert.model weights
  | .error e => e.IsOfBuilding

theorem isBuilding_bind {α : Type} {x : Except Error α} {f : α → Except Error Tagger}
    (hx : FailsWith IsOfBuilding x) (hf : ∀ a, x = .ok a → IsBuilding (f a)) :
    IsBuilding (x.bind f) := by
  cases x with
  | ok a => exact hf a rfl
  | error e => exact hx e rfl

theorem isBuilding_buildOn (device : Device) (tokenizer : Tokenizer) (bert : Bert)
    (weights : Checkpoint) (labels : List (Value × Value)) (maxLength : ℤ) :
    IsBuilding (buildOn device tokenizer (bert.model weights) labels maxLength) := by
  apply isBuilding_bind (LabelMapping.failsWith_ofEntries labels)
  intro labels _
  exact ⟨bert, weights, rfl⟩

theorem isBuilding_ofFiles (fs : FileSystem) (cudaDevices : ℕ)
    (vocabularyPath configurationPath weightsPath : Path) (device : Value) (maxLength : ℤ) :
    IsBuilding (ofFiles fs cudaDevices vocabularyPath configurationPath weightsPath device
      maxLength).outcome := by
  simp only [ofFiles, Run.outcome_bind, Run.outcome_ofExcept]
  apply isBuilding_bind (Device.failsWith_resolve _ _)
  intro resolved _
  apply isBuilding_bind (Vocabulary.failsWith_load _ _)
  intro vocabulary _
  apply isBuilding_bind (LabelMapping.failsWith_readConfiguration _ _)
  intro configuration _
  apply isBuilding_bind (LabelMapping.failsWith_ofConfiguration _)
  intro labels _
  split_ifs
  · trivial
  · simp only [Run.outcome_bind, Run.outcome_log, Run.outcome_ofExcept]
    apply isBuilding_bind (.ok ())
    intro _ _
    refine isBuilding_bind (.mapError _ fun kind => ?_) ?_
    · trivial
    intro bert _
    apply isBuilding_bind (failsWith_readWeights _ _)
    intro weights _
    refine isBuilding_bind (.mapError _ fun fault => ?_) ?_
    · trivial
    intro model hmodel
    obtain rfl := Bert.eq_model_of_load (Traversal.mapError_eq_ok_iff.1 hmodel)
    exact isBuilding_buildOn _ _ _ _ _ _

theorem exists_bert_of_savedModel? {fs : FileSystem} {directory : Path} {model : Model}
    {labels : List (Value × Value)} (h : savedModel? fs directory = some (model, labels)) :
    ∃ (bert : Bert) (weights : Checkpoint), model = bert.model weights := by
  simp only [savedModel?, bind, Option.bind_eq_some_iff, Option.some.injEq, Prod.mk.injEq] at h
  obtain ⟨configuration, -, labels', -, bert, -, weights, -, loaded, hloaded, rfl, -⟩ := h
  exact ⟨bert, weights, Bert.eq_model_of_load (Traversal.toOption_eq_some_iff.1 hloaded)⟩

theorem isBuilding_ofDirectory (fs : FileSystem) (cudaDevices : ℕ) (name : Text) (device : Value)
    (maxLength : ℤ) :
    IsBuilding (ofDirectory fs cudaDevices name device maxLength).outcome := by
  simp only [ofDirectory, Run.outcome_bind, Run.outcome_ofExcept, Run.outcome_log]
  apply isBuilding_bind (Device.failsWith_resolve _ _)
  intro resolved _
  apply isBuilding_bind (.ok ())
  intro _ _
  split
  · trivial
  · split
    · trivial
    · next hmodel =>
      obtain ⟨bert, weights, rfl⟩ := exists_bert_of_savedModel? hmodel
      split
      · trivial
      · exact isBuilding_buildOn _ _ _ _ _ _

theorem isBuilding_ofSettings (fs : FileSystem) (cudaDevices : ℕ) (settings : Settings) :
    IsBuilding (ofSettings fs cudaDevices settings).outcome := by
  unfold ofSettings
  split
  · exact isBuilding_ofFiles _ _ _ _ _ _ _
  · exact isBuilding_ofDirectory _ _ _ _ _

end Tagger

theorem Settings.failsWith_load (fs : FileSystem) (env : Environment) (asked : Option Path) :
    FailsWith IsOfBuilding (load fs env asked).outcome := by
  rcases settles_or_escapes fs env asked with hsettles | ⟨e, he⟩
  · intro e' he'
    rw [he'] at hsettles
    cases hsettles with
    | malformed => trivial
    | invalid => trivial
  · rw [he.outcome_load]
    cases he with
    | directory => exact .error trivial
    | notUtf8 => exact .error trivial
    | notScalar => exact .error trivial
    | unfit => exact .error trivial

theorem Service.isBuilding_start (fs : FileSystem) (cudaDevices : ℕ) (env : Settings.Environment) :
    Tagger.IsBuilding (start fs cudaDevices env).outcome := by
  rw [start, Run.outcome_bind]
  apply Tagger.isBuilding_bind (Settings.failsWith_load _ _ _)
  intro settings _
  exact Tagger.isBuilding_ofSettings _ _ _

end EntityTagger
