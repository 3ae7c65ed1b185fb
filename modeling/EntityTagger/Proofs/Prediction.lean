import EntityTagger.Proofs.Tagging
import EntityTagger.Tokenizer.Table

/-! What a tagger over tables predicts for a list of texts: the entity of every token, in order; and
for each text what it predicts for that text alone. -/
namespace EntityTagger

theorem Batch.textsOf_list {texts : List Text} (hne : texts ≠ []) :
    textsOf (.list (texts.map .str)) = .ok texts := by
  have hempty : (texts.map Value.str).isEmpty = false := by simpa using hne
  simp only [textsOf, Value.holds, Value.members?, hempty, Bool.not_false, Bool.not_true,
    Bool.false_eq_true, if_false]
  rw [List.zipIdx_map, List.mapM_map]
  refine (Traversal.mapM_eq_pure (g := Prod.fst) fun _ _ => rfl).trans ?_
  rw [List.zipIdx_map_fst]
  rfl

namespace Tagger

theorem tabular_table {ids : List (Text × List ℤ)} {words : List (ℤ × Text)} {e : ElementType}
    {default : List e.kernel.Logit} {rows : List (ℤ × List e.kernel.Logit)}
    (hid : ∀ entry ∈ ids, ∀ id ∈ entry.2, Batch.isId id = true) (he : e ≠ .integer)
    (hpos : 0 < default.length) (hrows : ∀ row ∈ rows, row.2.length = default.length)
    (isMovable : Bool) (labels : LabelMapping) (device : Device) (maxLength : ℤ) :
    Tabular ⟨Tokenizer.table ids words, Model.table e default rows false isMovable, labels,
      device, maxLength⟩ (fun s => firstItems maxLength ((Association.get? s ids).getD []))
      (fun id => (Association.get? id rows).getD default) default.length where
  encode_each _ := rfl
  isId_encode s id hm := by
    have hids : id ∈ (Association.get? s ids).getD [] := by
      unfold firstItems at hm
      split at hm <;> exact List.mem_of_mem_take hm
    cases hs : Association.get? s ids with
    | none => simp [hs] at hids
    | some found => exact hid _ (Association.mem_of_get? hs) id (by simpa [hs] using hids)
  is_floating := he
  count_pos := hpos
  length_logits id := by
    cases hrow : Association.get? id rows with
    | none => rfl
    | some row => exact hrows _ (Association.mem_of_get? hrow)
  logits_each _ := rfl

variable {t : Tagger} {encode : Text → List ℤ} {logits : ℤ → List t.model.elements.kernel.Logit}
  {count : ℕ}

theorem Tabular.outcome_predict (h : t.Tabular encode logits count) {texts : List Text}
    (hne : texts ≠ []) :
    (t.predict (.list (texts.map .str))).outcome =
      ((texts.map encode).flatMap (t.recognised logits)).mapM (t.tokenEntity logits) := by
  rw [predict, Run.outcome_bind, Run.outcome_ofExcept, Batch.textsOf_list hne]
  exact h.outcome_entities hne

theorem Tabular.outcome_predict_single (h : t.Tabular encode logits count) (s : Text) :
    (t.predict (.list [.str s])).outcome =
      (t.recognised logits (encode s)).mapM (t.tokenEntity logits) := by
  simpa using h.outcome_predict (List.cons_ne_nil s [])

/-- The entities of a list of texts are those of each text alone, one after the other. -/
theorem Tabular.outcome_predict_eq_flatten (h : t.Tabular encode logits count) {texts : List Text}
    (hne : texts ≠ []) :
    (t.predict (.list (texts.map .str))).outcome =
      (texts.mapM fun s => (t.predict (.list [.str s])).outcome).map List.flatten := by
  rw [h.outcome_predict hne, List.flatMap_map]
  simp only [h.outcome_predict_single]
  exact Traversal.mapM_flatMap

theorem Tabular.outcome_entitiesPerText_eq_predict (h : t.Tabular encode logits count)
    {texts : List Text} (hne : texts ≠ []) :
    (t.entitiesPerText texts).outcome =
      texts.mapM fun s => (t.predict (.list [.str s])).outcome := by
  simp only [h.outcome_entitiesPerText hne, List.mapM_map, Function.comp_def,
    h.outcome_predict_single]

theorem tokenEntity_of_mapped {id : ℤ} (h : (t.bestLabel logits id : ℤ) ∈ t.labels.ids) :
    t.tokenEntity logits id = .ok (t.entityOf logits id (t.labelOf logits id)) := by
  obtain ⟨label, hlabel⟩ := Association.exists_get?_iff.2 h
  simp [tokenEntity, labelOf, LabelMapping.lookup, hlabel, Except.map]

/-- If every label that is found is mapped, then the entities of the tokens are predicted, text by
text and from left to right. -/
theorem predict_eq_tokenEntities (h : t.Tabular encode logits count) {texts : List Text}
    (hne : texts ≠ [])
    (hmapped : ∀ s ∈ texts, ∀ id ∈ encode s,
      t.bestLabel logits id = LabelMapping.nonEntity ∨
        (t.bestLabel logits id : ℤ) ∈ t.labels.ids) :
    (t.predict (.list (texts.map .str))).outcome =
      .ok (texts.flatMap fun s => (encode s).filterMap (t.tokenEntity? logits)) := by
  have hfound : ∀ id ∈ (texts.map encode).flatMap (t.recognised logits),
      t.tokenEntity logits id = pure (t.entityOf logits id (t.labelOf logits id)) := by
    intro id hid
    obtain ⟨sequence, hs, hid⟩ := List.mem_flatMap.1 hid
    obtain ⟨s, hmem, rfl⟩ := List.mem_map.1 hs
    obtain ⟨hid, hlabel⟩ := List.mem_filter.1 hid
    exact tokenEntity_of_mapped ((hmapped s hmem id hid).resolve_left (by simpa using hlabel))
  have hsequence : ∀ sequence : List ℤ, (t.recognised logits sequence).map (fun id =>
      t.entityOf logits id (t.labelOf logits id)) =
      sequence.filterMap (t.tokenEntity? logits) := by
    intro sequence
    rw [recognised, ← List.filterMap_eq_map', List.filterMap_filter]
    refine List.filterMap_congr fun id _ => ?_
    by_cases hid : t.bestLabel logits id = LabelMapping.nonEntity <;> simp [tokenEntity?, hid]
  rw [h.outcome_predict hne, Traversal.mapM_eq_pure hfound, List.map_flatMap, List.flatMap_map]
  simp only [hsequence]
  rfl

/-- Two words and a mark. The second word ties with what is no entity, and the mark, whose id also
fills up short texts, has a best label that is not mapped. -/
def twoWords : Tagger :=
  let low : Binary .single := .infinity true
  let zero : Binary .single := Format.single.zero false
  ⟨Tokenizer.table [(text "on", [5]), (text "off on", [6, 5]), (text "?", [0])]
      [(5, text "on"), (6, text "off")],
    Model.table .single [low, low, zero] [(5, [low, zero, low]), (6, [zero, zero, low])] false true,
    [(1, text "SWITCH")], .cpu, 8⟩

def twoWordsIds (s : Text) : List ℤ :=
  firstItems 8 ((Association.get? s [(text "on", [5]), (text "off on", [6, 5]),
    (text "?", [0])]).getD [])

def twoWordsLogits (id : ℤ) : List (Binary .single) :=
  let low : Binary .single := .infinity true
  let zero : Binary .single := Format.single.zero false
  (Association.get? id [(5, [low, zero, low]), (6, [zero, zero, low])]).getD [low, low, zero]

theorem tabular_twoWords : twoWords.Tabular twoWordsIds twoWordsLogits 3 :=
  tabular_table (by decide) (by decide) (by decide) (by decide) true _ .cpu 8

theorem predict_twoWords :
    (∀ s ∈ [text "off on", [], text "on"], ∀ id ∈ twoWordsIds s,
      twoWords.bestLabel twoWordsLogits id = LabelMapping.nonEntity ∨
        (twoWords.bestLabel twoWordsLogits id : ℤ) ∈ twoWords.labels.ids) ∧
    (twoWords.predict (.list ([text "off on", [], text "on"].map .str))).outcome =
      .ok [⟨text "on", Double.ofInt 1, text "SWITCH"⟩, ⟨text "on", Double.ofInt 1, text "SWITCH"⟩] := by
  have hmapped : ∀ s ∈ [text "off on", [], text "on"], ∀ id ∈ twoWordsIds s,
      twoWords.bestLabel twoWordsLogits id = LabelMapping.nonEntity ∨
        (twoWords.bestLabel twoWordsLogits id : ℤ) ∈ twoWords.labels.ids := by
    decide +kernel
  refine ⟨hmapped, ?_⟩
  rw [predict_eq_tokenEntities tabular_twoWords (by decide) hmapped]
  exact congrArg Except.ok (by decide +kernel)

/-- For each text a batch gives what the text gives alone, and fails as the first of the texts does
that fails alone: with a label that is not mapped. -/
theorem predictPerInput_eq_predict (h : t.Tabular encode logits count) {texts : List Text}
    (hne : texts ≠ []) :
    (∀ groups, (t.predictPerInput (.list (texts.map .str))).outcome = .ok groups ↔
      List.Forall₂ (fun s found => (t.predict (.list [.str s])).outcome = .ok found)
        texts groups) ∧
    (∀ e, (t.predictPerInput (.list (texts.map .str))).outcome = .error e ↔
      ∃ before s after, texts = before ++ s :: after ∧
        (∀ r ∈ before, ∃ found, (t.predict (.list [.str r])).outcome = .ok found) ∧
        (t.predict (.list [.str s])).outcome = .error e) ∧
    (∀ e, (t.predictPerInput (.list (texts.map .str))).outcome = .error e →
      ∃ id, e = .configuration (.unmapped id t.labels.ids)) := by
  have hbatch : (t.predictPerInput (.list (texts.map .str))).outcome =
      texts.mapM fun s => (t.predict (.list [.str s])).outcome := by
    rw [predictPerInput, Run.outcome_bind, Run.outcome_ofExcept, Batch.textsOf_list hne]
    exact h.outcome_entitiesPerText_eq_predict hne
  rw [hbatch]
  refine ⟨fun groups => Traversal.mapM_eq_ok_iff, fun e => Traversal.mapM_eq_error_iff, ?_⟩
  intro e he
  obtain ⟨_, s, _, -, -, hs⟩ := Traversal.mapM_eq_error_iff.1 he
  obtain ⟨_, id, _, -, -, hid⟩ :=
    Traversal.mapM_eq_error_iff.1 ((h.outcome_predict_single s).symm.trans hs)
  have hlookup := Traversal.map_eq_error_iff.1 hid
  rw [LabelMapping.lookup] at hlookup
  split at hlookup
  · simp at hlookup
  · exact ⟨_, (Except.error.inj hlookup).symm⟩

/-- The second text fails alone, and so does the batch. -/
theorem predictPerInput_twoWords :
    twoWords.Tabular twoWordsIds twoWordsLogits 3 ∧
    (twoWords.predictPerInput (.list ([text "on", text "?", []].map .str))).outcome =
      .error (.configuration (.unmapped 2 [1])) := by
  have hword : (twoWords.predict (.list [.str (text "on")])).outcome.toOption =
      some [⟨text "on", Double.ofInt 1, text "SWITCH"⟩] := by decide +kernel
  have hmark : (twoWords.predict (.list [.str (text "?")])).outcome =
      .error (.configuration (.unmapped 2 [1])) := by
    have hids :
        ([text "?"].map twoWordsIds).flatMap (twoWords.recognised twoWordsLogits) = [0] := by
      decide +kernel
    have hlabel : twoWords.bestLabel twoWordsLogits 0 = 2 := by decide +kernel
    refine (tabular_twoWords.outcome_predict (List.cons_ne_nil (text "?") [])).trans ?_
    rw [hids]
    have hlookup : twoWords.labels.lookup (twoWords.bestLabel twoWordsLogits 0) =
        .error (.configuration (.unmapped 2 [1])) := by
      rw [hlabel]
      rfl
    exact Traversal.mapM_cons_error (Traversal.map_eq_error_iff.2 hlookup) []
  have hbatch := (predictPerInput_eq_predict tabular_twoWords
    (List.cons_ne_nil (text "on") [text "?", []])).2.1
  refine ⟨tabular_twoWords, (hbatch _).2 ⟨[text "on"], text "?", [[]], rfl, ?_, hmark⟩⟩
  intro r hr
  obtain rfl := List.mem_singleton.1 hr
  cases hrun : (twoWords.predict (.list [.str (text "on")])).outcome with
  | ok found => exact ⟨found, rfl⟩
  | error e => simp [hrun, Except.toOption] at hword

end Tagger

end EntityTagger
