import EntityTagger.Proofs.Decoding
import EntityTagger.Proofs.ElementType
import EntityTagger.Proofs.Scattering
import EntityTagger.Tagger

/-! Taggers that look logits up by token id. The entities of some texts are those of their tokens,
text by text and from left to right; and every text has the entities that it has on its own. -/
namespace EntityTagger

theorem Entity.cell?_fill {filler : ℤ} {sequences : List (List ℤ)} {t : Token}
    (h : t ∈ Token.ofRows sequences) :
    cell? (Batch.fill filler sequences).toTensor t.batch t.position = some t.id := by
  obtain ⟨row, hrow, hid⟩ := Token.mem_ofRows h
  have hbatch := (List.getElem?_eq_some_iff.1 hrow).1
  have hposition := (List.getElem?_eq_some_iff.1 hid).1
  have hwidth := Batch.length_le_width (List.mem_of_getElem? hrow)
  have hcell : (Batch.fill filler sequences).rows.flatten[
      t.batch * Batch.width sequences + t.position]? = some t.id := by
    have hget := Tensor.getElem?_flatten_of_length (Batch.fill filler sequences).length_row t.batch
      (show t.position < (Batch.fill filler sequences).width from hposition.trans_le hwidth)
    simpa [Batch.fill, hrow, Batch.fillRow, List.getElem?_append_left hposition, hid] using hget
  have hplaces : place? (Batch.fill filler sequences).rows.length t.batch = some t.batch ∧
      place? (Batch.width sequences) t.position = some t.position := by
    constructor
    · simp [place?, Batch.fill]; omega
    · simp [place?]; omega
  show (place? (Batch.fill filler sequences).rows.length t.batch >>= fun row =>
    place? (Batch.width sequences) t.position >>= fun column => _) = _
  rw [hplaces.1, hplaces.2]
  exact hcell

theorem Batch.pad_eq_fill {sequences : List (List ℤ)} {filler : ℤ} (hne : sequences ≠ [])
    (hid : ∀ s ∈ sequences, ∀ id ∈ s, isId id = true) (hfiller : isId filler = true) :
    pad sequences filler = .ok (fill filler sequences) := by
  have hrow : ∀ row ∈ (fill filler sequences).rows, row.all isId = true := by
    intro row hrow
    obtain ⟨s, hs, rfl⟩ := List.mem_map.1 hrow
    rw [List.all_eq_true]
    intro id hm
    rcases List.mem_append.1 hm with hm | hm
    · exact hid s hs id hm
    · rwa [List.eq_of_mem_replicate hm]
  rw [pad, if_neg (by simpa using hne), if_pos (List.all_eq_true.2 hrow)]

theorem Token.ofRows_eq_nil {sequences : List (List ℤ)} (h : Batch.width sequences = 0) :
    Token.ofRows sequences = [] := by
  rw [List.eq_nil_iff_forall_not_mem]
  intro t ht
  obtain ⟨row, hrow, hid⟩ := Token.mem_ofRows ht
  have hposition := (List.getElem?_eq_some_iff.1 hid).1
  have hwidth := Batch.length_le_width (List.mem_of_getElem? hrow)
  omega

theorem Entity.ofFields_of_isShare {x : Double} (h : x.IsShare) (word label : Text) :
    ofFields [(.str (EntityTagger.text "text"), .str word),
      (.str (EntityTagger.text "score"), .float x),
      (.str (EntityTagger.text "label"), .str label)] = .ok ⟨word, x, label⟩ := by
  have htext : Value.entry? (EntityTagger.text "text")
      [(.str (EntityTagger.text "text"), .str word),
        (.str (EntityTagger.text "score"), .float x),
        (.str (EntityTagger.text "label"), .str label)] = some (.str word) := rfl
  have hscore : Value.entry? (EntityTagger.text "score")
      [(.str (EntityTagger.text "text"), .str word),
        (.str (EntityTagger.text "score"), .float x),
        (.str (EntityTagger.text "label"), .str label)] = some (.float x) := rfl
  have hlabel : Value.entry? (EntityTagger.text "label")
      [(.str (EntityTagger.text "text"), .str word),
        (.str (EntityTagger.text "score"), .float x),
        (.str (EntityTagger.text "label"), .str label)] = some (.str label) := rfl
  simp only [ofFields, Field.required, htext, hscore, hlabel, Field.readString,
    Field.readFraction_of_isShare h]
  rfl

namespace Tagger

/-- A tokenizer that encodes each text on its own, and a model that looks the logits of a cell up by
its token id, equally many for each. -/
structure Tabular (t : Tagger) (encode : Text → List ℤ)
    (logits : ℤ → List t.model.elements.kernel.Logit) (count : ℕ) : Prop where
  encode_each : ∀ texts, t.tokenizer.encode texts t.maxLength = texts.map encode
  isId_encode : ∀ s, ∀ id ∈ encode s, Batch.isId id = true
  is_floating : t.model.elements ≠ .integer
  count_pos : 0 < count
  length_logits : ∀ id, (logits id).length = count
  logits_each : ∀ ids : Rectangle ℤ,
    t.model.logits ids = Model.spread logits ids.rows [ids.rows.length, ids.width]

variable (t : Tagger) (logits : ℤ → List t.model.elements.kernel.Logit)

def tokenScores (id : ℤ) : List t.model.elements.kernel.Score :=
  Softmax.slice t.model.elements.kernel (logits id)

/-- The lowest label of the greatest score; that of no entity where the scores are not numbers. -/
def bestLabel (id : ℤ) : ℕ := t.model.elements.kernel.scores.lowestBest (t.tokenScores logits id)

def bestScore (id : ℤ) : Double :=
  t.model.elements.measure
    ((t.tokenScores logits id)[t.bestLabel logits id]?.getD t.model.elements.kernel.zero)

def entityOf (id : ℤ) (label : Text) : Entity :=
  ⟨t.tokenizer.decode id, t.bestScore logits id, label⟩

/-- The name of a token's best label; empty if the label is not mapped. -/
def labelOf (id : ℤ) : Text := (Association.get? (t.bestLabel logits id : ℤ) t.labels).getD []

/-- The entity that a token is: none if its best label is the one for no entity. -/
def tokenEntity? (id : ℤ) : Option Entity :=
  if t.bestLabel logits id = LabelMapping.nonEntity then none
  else some (t.entityOf logits id (t.labelOf logits id))

/-- The tokens of a sequence whose best label is one for entities. -/
def recognised (sequence : List ℤ) : List ℤ :=
  sequence.filter fun id => t.bestLabel logits id != LabelMapping.nonEntity

def tokenEntity (id : ℤ) : Except Error Entity :=
  (t.labels.lookup (t.bestLabel logits id)).map (t.entityOf logits id)

variable {t logits} {encode : Text → List ℤ} {count : ℕ}

theorem labelOf_of_lookup {id : ℤ} {label : Text}
    (h : t.labels.lookup (t.bestLabel logits id) = .ok label) : t.labelOf logits id = label := by
  rw [LabelMapping.lookup] at h
  rw [labelOf]
  split at h <;> simp_all

theorem Tabular.isBest_top (h : t.Tabular encode logits count) (id : ℤ) :
    t.model.elements.kernel.scores.IsBest (t.tokenScores logits id)
      (Decoder.top t.model.elements.kernel (t.tokenScores logits) id).1
      (Decoder.top t.model.elements.kernel (t.tokenScores logits) id).2 := by
  have hne : t.tokenScores logits id ≠ [] := by
    refine List.ne_nil_of_length_pos ?_
    rw [tokenScores, Softmax.length_slice, h.length_logits]
    exact h.count_pos
  obtain ⟨place, top, hbest⟩ :=
    Scale.exists_best? (S := t.model.elements.kernel.scores) hne
  rw [Decoder.top, hbest, Option.getD_some]
  exact Scale.isBest_of_best? hbest

/-- The label that is found for a token is the lowest one with the greatest score. -/
theorem Tabular.top_fst (h : t.Tabular encode logits count) (id : ℤ) :
    (Decoder.top t.model.elements.kernel (t.tokenScores logits) id).1 = t.bestLabel logits id := by
  rcases ElementType.scores_nan_or_share h.is_floating (logits id) with hnan | hshare
  · obtain ⟨hzero, hlowest⟩ := Scale.lowestBest_of_nan (h.isBest_top id) hnan
    rw [hzero]
    exact hlowest.symm
  · exact (Scale.lowestBest_of_numbers (h.isBest_top id) fun x hx => (hshare x hx).1).symm

theorem Tabular.getElem?_bestLabel (h : t.Tabular encode logits count) (id : ℤ) :
    (t.tokenScores logits id)[t.bestLabel logits id]? =
      some (Decoder.top t.model.elements.kernel (t.tokenScores logits) id).2 := by
  rw [← h.top_fst id]
  exact (h.isBest_top id).at_place

theorem Tabular.measure_top (h : t.Tabular encode logits count) (id : ℤ) :
    t.model.elements.measure
      (Decoder.top t.model.elements.kernel (t.tokenScores logits) id).2 =
      t.bestScore logits id := by
  rw [bestScore, h.getElem?_bestLabel id, Option.getD_some]

theorem Tabular.isShare_bestScore (h : t.Tabular encode logits count) {id : ℤ}
    (hid : t.bestLabel logits id ≠ LabelMapping.nonEntity) : (t.bestScore logits id).IsShare := by
  rcases ElementType.scores_nan_or_share h.is_floating (logits id) with hnan | hshare
  · exact absurd (Scale.lowestBest_of_nan (h.isBest_top id) hnan).2 hid
  · rw [bestScore, h.getElem?_bestLabel id, Option.getD_some]
    exact (hshare _ (List.mem_of_getElem? (h.getElem?_bestLabel id))).2

def marks (t : Tagger) (logits : ℤ → List t.model.elements.kernel.Logit)
    (sequences : List (List ℤ)) : List Token :=
  (Token.ofRows sequences).filter fun k => t.bestLabel logits k.id != LabelMapping.nonEntity

def predictionOf (t : Tagger) (logits : ℤ → List t.model.elements.kernel.Logit) (k : Token)
    (label : Text) : Prediction Double :=
  ⟨k.batch, k.position, label, t.bestScore logits k.id⟩

theorem map_id_marks (sequences : List (List ℤ)) :
    (t.marks logits sequences).map Token.id = sequences.flatMap (t.recognised logits) := by
  have hfilter : (t.marks logits sequences).map Token.id =
      ((Token.ofRows sequences).map Token.id).filter
        fun id => t.bestLabel logits id != LabelMapping.nonEntity := by
    rw [marks, List.filter_map]
    rfl
  rw [hfilter, Token.map_id_ofRows, List.flatMap_def]
  exact List.filter_flatten

theorem map_id_filter_batch_marks {sequences : List (List ℤ)} {i : ℕ} (hi : i < sequences.length) :
    ((t.marks logits sequences).filter (·.batch = i)).map Token.id =
      t.recognised logits sequences[i] := by
  have hcomm : (t.marks logits sequences).filter (·.batch = i) =
      ((Token.ofRows sequences).filter (·.batch = i)).filter
        fun k => t.bestLabel logits k.id != LabelMapping.nonEntity := by
    rw [marks, List.filter_filter, List.filter_filter]
    exact List.filter_congr fun k _ => Bool.and_comm _ _
  rw [hcomm, Token.filter_batch_ofRows sequences hi, recognised]
  conv_rhs => rw [← Token.map_id_ofRow i sequences[i], List.filter_map]
  rfl

theorem assemble_marks {ids : Tensor ℤ} {tokens : List Token}
    (hcell : ∀ k ∈ tokens, Entity.cell? ids k.batch k.position = some k.id)
    (hshare : ∀ k ∈ tokens, (t.bestScore logits k.id).IsShare) (labels : List Text) :
    Entity.assemble t.tokenizer.decode ids
      ((List.zipWith (t.predictionOf logits) tokens labels).map candidate) =
      .ok (List.zipWith (fun k => t.entityOf logits k.id) tokens labels) := by
  induction tokens generalizing labels with
  | nil => rfl
  | cons k rest ih =>
    cases labels with
    | nil => rfl
    | cons label labels =>
      have hk : Entity.ofCandidate t.tokenizer.decode ids
          (candidate (t.predictionOf logits k label)) = .ok (t.entityOf logits k.id label) := by
        simp only [Entity.ofCandidate, candidate, predictionOf, hcell k (List.mem_cons_self ..)]
        exact Entity.ofFields_of_isShare (hshare k (List.mem_cons_self ..)) _ _
      have hrest := ih (fun k hk => hcell k (List.mem_cons_of_mem _ hk))
        (fun k hk => hshare k (List.mem_cons_of_mem _ hk)) labels
      rw [Entity.assemble] at hrest ⊢
      rw [List.zipWith_cons_cons, List.map_cons, Traversal.mapM_cons_ok hk, hrest]
      rfl

theorem Tabular.decode_marks (h : t.Tabular encode logits count) (filler : ℤ)
    (sequences : List (List ℤ)) :
    (Decoder.decode t.model.elements.kernel t.labels
      ((Batch.fill filler sequences).expand logits count h.length_logits)
      (some (Batch.attended sequences))).map (·.map (·.map t.model.elements.measure)) =
      ((t.marks logits sequences).mapM fun k => t.labels.lookup (t.bestLabel logits k.id)).map
        (List.zipWith (t.predictionOf logits) (t.marks logits sequences)) := by
  have hmarks : Decoder.recognised t.model.elements.kernel (t.tokenScores logits)
      (Token.ofRows sequences) = t.marks logits sequences :=
    List.filter_congr fun k _ => by rw [h.top_fst]
  have hdecode : Decoder.decode t.model.elements.kernel t.labels
      ((Batch.fill filler sequences).expand logits count h.length_logits)
      (some (Batch.attended sequences)) =
      (Decoder.recognised t.model.elements.kernel (t.tokenScores logits)
        (Token.ofRows sequences)).mapM _ :=
    Decoder.decode_fill t.labels h.length_logits h.count_pos filler sequences
  have hmeasure : ∀ (k : Token) (label : Text),
      (Prediction.map t.model.elements.measure ⟨k.batch, k.position, label,
        (Decoder.top t.model.elements.kernel (t.tokenScores logits) k.id).2⟩) =
        t.predictionOf logits k label := by
    intro k label
    rw [predictionOf, ← h.measure_top k.id]
    rfl
  rw [hdecode, hmarks, Traversal.mapM_map]
  simp only [show (fun id => Softmax.slice t.model.elements.kernel (logits id)) =
    t.tokenScores logits from rfl, h.top_fst]
  cases (t.marks logits sequences).mapM fun k => t.labels.lookup (t.bestLabel logits k.id) with
  | error e => rfl
  | ok labels =>
    simp only [Except.map, List.map_zipWith, hmeasure]

theorem Tabular.outcome_build (h : t.Tabular encode logits count) {texts : List Text}
    (hne : texts ≠ []) :
    (Batch.build t.tokenizer texts t.maxLength Batch.padding).outcome =
      .ok ⟨Batch.fill Batch.padding (texts.map encode), Batch.mask (Batch.width (texts.map encode))
        ((texts.map encode).map fun s => (s.length : ℤ))⟩ := by
  have hpad : Batch.pad (texts.map encode) Batch.padding =
      .ok (Batch.fill Batch.padding (texts.map encode)) := by
    refine Batch.pad_eq_fill (by simpa using hne) ?_ (by decide)
    intro s hs
    obtain ⟨text, -, rfl⟩ := List.mem_map.1 hs
    exact h.isId_encode text
  simp only [Batch.build, h.encode_each, Run.outcome_bind, Run.outcome_report,
    Run.outcome_ofExcept, hpad, Run.pure_outcome]
  rfl

theorem flatten_fill_ne_nil {sequences : List (List ℤ)} (hne : sequences ≠ [])
    (hwidth : Batch.width sequences ≠ 0) (filler : ℤ) :
    (Batch.fill filler sequences).rows.flatten ≠ [] := by
  refine List.ne_nil_of_length_pos ?_
  rw [Rectangle.length_flatten]
  have hrows : 0 < sequences.length := List.length_pos_iff.2 hne
  simpa [Batch.fill] using Nat.mul_pos hrows (Nat.pos_of_ne_zero hwidth)

theorem Tabular.outcome_annotate (h : t.Tabular encode logits count) {texts : List Text}
    (hne : texts ≠ []) :
    (t.annotate texts).outcome =
      ((t.marks logits (texts.map encode)).mapM fun k =>
        t.labels.lookup (t.bestLabel logits k.id)).map fun labels =>
          (List.zipWith (t.predictionOf logits) (t.marks logits (texts.map encode)) labels,
            List.zipWith (fun k => t.entityOf logits k.id) (t.marks logits (texts.map encode))
              labels) := by
  set sequences := texts.map encode with hseq
  rw [annotate, Run.outcome_bind, h.outcome_build hne, ← hseq]
  show Run.outcome (if Batch.width sequences = 0 then _ else _) = _
  by_cases hwidth : Batch.width sequences = 0
  · have hmarks : t.marks logits sequences = [] := by
      rw [marks, Token.ofRows_eq_nil hwidth, List.filter_nil]
    rw [if_pos hwidth, hmarks]
    rfl
  · have hcells := flatten_fill_ne_nil (by simpa [hseq] using hne) hwidth Batch.padding
    have hlogits := (h.logits_each _).trans (Model.spread_eq_expand h.length_logits hcells)
    have hdecode := h.decode_marks Batch.padding sequences
    have hcell : ∀ k ∈ t.marks logits sequences, Entity.cell?
        (Batch.fill Batch.padding sequences).toTensor k.batch k.position = some k.id :=
      fun k hk => Entity.cell?_fill (List.mem_filter.1 hk).1
    have hshare : ∀ k ∈ t.marks logits sequences, (t.bestScore logits k.id).IsShare :=
      fun k hk => h.isShare_bestScore (by simpa using (List.mem_filter.1 hk).2)
    rw [if_neg hwidth]
    simp only [Run.outcome_bind, Run.outcome_report, Run.outcome_ofExcept, Run.pure_outcome,
      hlogits]
    show Except.bind (Decoder.decode _ _ _ (some (Batch.attended sequences))) _ = _
    revert hdecode
    cases Decoder.decode t.model.elements.kernel t.labels _ (some (Batch.attended sequences)) with
    | error e =>
      intro hdecode
      have hlabels := Traversal.map_eq_error_iff.1 hdecode.symm
      rw [hlabels]
      rfl
    | ok predictions =>
      intro hdecode
      obtain ⟨labels, hlabels, hpredictions⟩ := Traversal.map_eq_ok_iff.1 hdecode.symm
      rw [hlabels]
      have hmap : predictions.map (·.map t.model.elements.measure) =
          List.zipWith (t.predictionOf logits) (t.marks logits sequences) labels :=
        hpredictions.symm
      simp only [Except.bind, hmap, assemble_marks hcell hshare]
      rfl

theorem Tabular.outcome_entities (h : t.Tabular encode logits count) {texts : List Text}
    (hne : texts ≠ []) :
    (t.entities texts).outcome =
      ((texts.map encode).flatMap (t.recognised logits)).mapM (t.tokenEntity logits) := by
  have hzip : (t.marks logits (texts.map encode)).mapM (fun k => t.tokenEntity logits k.id) =
      ((t.marks logits (texts.map encode)).mapM fun k =>
        t.labels.lookup (t.bestLabel logits k.id)).map
          (List.zipWith (fun k => t.entityOf logits k.id) (t.marks logits (texts.map encode))) :=
    Traversal.mapM_map
  rw [← map_id_marks, List.mapM_map, Function.comp_def, hzip, entities, Run.outcome_bind,
    h.outcome_annotate hne]
  cases (t.marks logits (texts.map encode)).mapM fun k =>
    t.labels.lookup (t.bestLabel logits k.id) <;> rfl

/-- The entities of a batch, text by text. -/
theorem Tabular.outcome_entitiesPerText (h : t.Tabular encode logits count) {texts : List Text}
    (hne : texts ≠ []) :
    (t.entitiesPerText texts).outcome =
      (texts.map encode).mapM fun s => (t.recognised logits s).mapM (t.tokenEntity logits) := by
  set sequences := texts.map encode with hseq
  set marks := t.marks logits sequences with hmarks
  have hall := h.outcome_entities hne
  rw [← hseq, Traversal.mapM_flatMap] at hall
  rw [entities, Run.outcome_bind] at hall
  rw [entitiesPerText, Run.outcome_bind]
  rw [h.outcome_annotate hne, ← hseq, ← hmarks] at hall ⊢
  cases hlabels : marks.mapM fun k => t.labels.lookup (t.bestLabel logits k.id) with
  | error e =>
    rw [hlabels] at hall
    exact (Traversal.map_eq_error_iff.1 hall.symm).symm
  | ok labels =>
    have hname : ∀ k ∈ marks,
        t.labels.lookup (t.bestLabel logits k.id) = .ok (t.labelOf logits k.id) := by
      intro k hk
      obtain ⟨label, hlabel⟩ := Traversal.ok_of_mapM_eq_ok hlabels hk
      rw [hlabel, labelOf_of_lookup hlabel]
    have hentity : ∀ s ∈ sequences, (t.recognised logits s).mapM (t.tokenEntity logits) =
        .ok ((t.recognised logits s).map fun id => t.entityOf logits id (t.labelOf logits id)) := by
      intro s hs
      refine Traversal.mapM_eq_pure fun id hid => ?_
      have hmem : id ∈ marks.map Token.id := by
        rw [hmarks, map_id_marks]
        exact List.mem_flatMap.2 ⟨s, hs, hid⟩
      obtain ⟨k, hk, rfl⟩ := List.mem_map.1 hmem
      rw [tokenEntity, hname k hk]
      rfl
    have hbatch : ∀ k ∈ marks, k.batch < texts.length := by
      intro k hk
      obtain ⟨row, hrow, -⟩ := Token.mem_ofRows (List.mem_filter.1 hk).1
      simpa [hseq] using (List.getElem?_eq_some_iff.1 hrow).1
    have hnames : labels = marks.map fun k => t.labelOf logits k.id :=
      Except.ok.inj (hlabels.symm.trans (Traversal.mapM_eq_pure hname))
    have hgroup := Entity.group_map
      (f := fun k : Token => t.entityOf logits k.id (t.labelOf logits k.id)) hbatch
    rw [Traversal.mapM_eq_pure hentity, hnames]
    simp only [Except.map, Except.bind, List.zipWith_map_right, List.zipWith_self,
      Run.outcome_ofExcept, List.map_map, Function.comp_def, predictionOf, hgroup]
    refine congrArg Except.ok (List.ext_getElem (by simp [hseq]) fun i hi _ => ?_)
    have hi : i < sequences.length := by simpa [hseq] using hi
    rw [List.getElem_map, List.getElem_map, List.getElem_range, ← map_id_filter_batch_marks hi,
      List.map_map]
    rfl

end Tagger

end EntityTagger
