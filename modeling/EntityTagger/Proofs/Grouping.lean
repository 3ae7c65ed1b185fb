import EntityTagger.Proofs.Cells
import EntityTagger.Proofs.Prediction

/-! The entities of each text and those of all texts are the same ones. Predictions come batch by
batch, every one of them points into the batch that the texts were made into, and none is lost on
the way to an entity; so the groups, put one after the other, are the flat list again. -/
namespace EntityTagger

section Groups

variable {α : Type} {items : List α} {key : α → ℕ}

theorem filter_append_filter_not_of_pairwise (h : items.Pairwise fun a b => key a ≤ key b) (k : ℕ) :
    items.filter (key · < k) ++ items.filter (¬ key · < k) = items := by
  induction items with
  | nil => rfl
  | cons x rest ih =>
    obtain ⟨hx, hrest⟩ := List.pairwise_cons.1 h
    by_cases hk : key x < k
    · simpa [List.filter_cons, hk] using ih hrest
    · -- all that follows is as great as `x`
      have hnone : rest.filter (key · < k) = [] := by
        rw [List.filter_eq_nil_iff]
        intro y hy
        have := hx y hy
        simp
        omega
      have hall : rest.filter (¬ key · < k) = rest := by
        rw [List.filter_eq_self]
        intro y hy
        have := hx y hy
        simp
        omega
      simp only [List.filter_cons, hk, decide_false, Bool.false_eq_true, if_false, hnone,
        not_false_eq_true, decide_true, if_true, hall, List.nil_append]

/-- Items in the order of their keys, grouped by them, are the same list. -/
theorem flatten_groups (h : items.Pairwise fun a b => key a ≤ key b) {count : ℕ}
    (hlt : ∀ x ∈ items, key x < count) :
    ((List.range count).map fun k => items.filter (key · = k)).flatten = items := by
  induction count generalizing items with
  | zero =>
    cases items with
    | nil => rfl
    | cons x rest => exact absurd (hlt x (List.mem_cons_self ..)) (Nat.not_lt_zero _)
  | succ count ih =>
    have hlow := ih (h.filter (key · < count)) fun x hx => by simpa using (List.mem_filter.1 hx).2
    have hgroups : ∀ k ∈ List.range count, (items.filter (key · < count)).filter (key · = k) =
        items.filter (key · = k) := by
      intro k hk
      rw [List.filter_filter]
      apply List.filter_congr
      intro x _
      have := List.mem_range.1 hk
      by_cases hx : key x = k
      · simp [hx, this]
      · simp [hx]
    have hlast : items.filter (key · = count) = items.filter (¬ key · < count) := by
      apply List.filter_congr
      intro x hx
      have := hlt x hx
      simp only [decide_eq_decide]
      omega
    rw [List.map_congr_left hgroups] at hlow
    rw [List.range_succ, List.map_append, List.flatten_append, hlow, List.map_singleton,
      List.flatten_singleton, hlast]
    exact filter_append_filter_not_of_pairwise h count

end Groups

namespace Entity

theorem eq_of_ofFields {word label : Text} {x : Double} {e : Entity}
    (h : ofFields [(.str (EntityTagger.text "text"), .str word),
      (.str (EntityTagger.text "score"), .float x),
      (.str (EntityTagger.text "label"), .str label)] = .ok e) : e = ⟨word, x, label⟩ := by
  have hscore : Field.readFraction (.float x) = .ok x ∨
      ∃ rule, Field.readFraction (.float x) = .error rule := by
    simp only [Field.readFraction, Field.readFloat, bind, Except.bind]
    split_ifs
    · exact Or.inr ⟨_, rfl⟩
    · exact Or.inr ⟨_, rfl⟩
    · exact Or.inl rfl
  have hfields : ofFields [(.str (EntityTagger.text "text"), .str word),
      (.str (EntityTagger.text "score"), .float x),
      (.str (EntityTagger.text "label"), .str label)] =
      (Field.both (Field.both (.ok (Entity.mk word)) ((Field.readFraction (.float x)).mapError
        fun rule => [⟨[.field (EntityTagger.text "score")], rule⟩])) (.ok label)).mapError
          .invalid := rfl
  rw [hfields] at h
  rcases hscore with hscore | ⟨rule, hscore⟩
  · rw [hscore] at h
    exact (Except.ok.inj h).symm
  · rw [hscore] at h
    simp [Except.mapError, Field.both] at h

theorem lt_of_cell? {r : Rectangle ℤ} {batch position : ℕ} {id : ℤ}
    (h : cell? r.toTensor batch position = some id) : batch < r.rows.length := by
  have hrow : (place? r.rows.length (batch : ℤ) >>= fun row =>
      place? r.width (position : ℤ) >>= fun column =>
        r.toTensor.cells[row * r.width + column]?) = some id := h
  obtain ⟨row, hrow, -⟩ := Option.bind_eq_some_iff.1 hrow
  obtain ⟨hplace, hmeans⟩ := place?_eq_some_iff.1 hrow
  unfold Means at hmeans
  omega

end Entity

namespace Tagger

variable {t : Tagger} {texts : List Text}

/-- An entity with the score and the label that were predicted, and the text of some token. -/
def IsPredicted (t : Tagger) (p : Prediction Double) (e : Entity) : Prop :=
  ∃ id, e = ⟨t.tokenizer.decode id, p.score, p.label⟩

/-- Predictions for `count` texts and their entities. -/
structure Matched (t : Tagger) (count : ℕ) (predictions : List (Prediction Double))
    (entities : List Entity) : Prop where
  entity : List.Forall₂ t.IsPredicted predictions entities
  ordered : predictions.Pairwise fun a b => a.batch ≤ b.batch
  batch_lt : ∀ p ∈ predictions, p.batch < count

theorem matched_of_assemble {r : Rectangle ℤ} {predictions : List (Prediction Double)}
    {entities : List Entity} (hordered : predictions.Pairwise fun a b => a.batch ≤ b.batch)
    (h : Entity.assemble t.tokenizer.decode r.toTensor (predictions.map candidate) =
      .ok entities) : t.Matched r.rows.length predictions entities := by
  rw [Entity.assemble, List.mapM_map, Traversal.mapM_eq_ok_iff] at h
  have hcell : ∀ {p : Prediction Double} {e : Entity},
      Entity.ofCandidate t.tokenizer.decode r.toTensor (candidate p) = .ok e →
        t.IsPredicted p e ∧ p.batch < r.rows.length := by
    intro p e hp
    unfold Entity.ofCandidate at hp
    split at hp
    · simp at hp
    · next id hid => exact ⟨⟨id, Entity.eq_of_ofFields hp⟩, Entity.lt_of_cell? hid⟩
  refine ⟨h.imp fun _ _ hp => (hcell hp).1, hordered, ?_⟩
  intro p hp
  obtain ⟨i, hi, rfl⟩ := List.getElem_of_mem hp
  exact (hcell (h.get hi (h.length_eq ▸ hi))).2

theorem length_rows_of_build {batch : Batch} {maxLength filler : ℤ}
    (h : (Batch.build t.tokenizer texts maxLength filler).outcome = .ok batch) :
    batch.ids.rows.length = texts.length := by
  simp only [Batch.build, Run.outcome_bind, Run.outcome_report, Run.outcome_ofExcept,
    Run.pure_outcome, Except.bind] at h
  split at h
  · simp at h
  · next ids hids =>
    obtain rfl := Except.ok.inj h
    unfold Batch.pad at hids
    split at hids
    · simp at hids
    · dsimp only at hids
      split at hids
      · obtain rfl := Except.ok.inj hids
        simp [Batch.fill, t.tokenizer.length_encode]
      · simp at hids

/-- What is predicted for some texts matches its entities; without tokens there is neither. -/
theorem matched_of_annotate {predictions : List (Prediction Double)} {entities : List Entity}
    (h : (t.annotate texts).outcome = .ok (predictions, entities)) :
    t.Matched texts.length predictions entities := by
  rw [annotate, Run.outcome_bind] at h
  cases hbuild : (Batch.build t.tokenizer texts t.maxLength Batch.padding).outcome with
  | error e => simp [hbuild, Except.bind] at h
  | ok batch =>
    have hrows := length_rows_of_build hbuild
    by_cases hwidth : batch.ids.width = 0
    · simp only [hbuild, Except.bind, hwidth, if_true, Run.outcome_bind, Run.outcome_log,
        Run.pure_outcome, Except.ok.injEq, Prod.mk.injEq] at h
      obtain ⟨rfl, rfl⟩ := h
      exact ⟨.nil, .nil, by simp⟩
    · simp only [hbuild, Except.bind, hwidth, if_false, Run.outcome_bind, Run.outcome_report,
        Run.outcome_ofExcept, Run.pure_outcome] at h
      cases hlogits : t.model.logits batch.ids with
      | error e => simp [hlogits] at h
      | ok logits =>
        simp only [hlogits] at h
        split at h
        · simp at h
        · next decoded hdecode =>
          split at h
          · simp at h
          · next assembled hassemble =>
            obtain ⟨rfl, rfl⟩ := Prod.mk.inj (Except.ok.inj h)
            rw [← hrows]
            apply matched_of_assemble _ hassemble
            rw [List.pairwise_map]
            exact Decoder.pairwise_batch_of_decode hdecode

theorem Matched.group_eq {count : ℕ} {predictions : List (Prediction Double)}
    {entities : List Entity} (h : t.Matched count predictions entities) :
    ∃ groups, Entity.group (predictions.map fun p => (p.batch : ℤ)) entities count = .ok groups ∧
      groups.length = count ∧ groups.flatten = entities ∧
      ∀ i < count, groups[i]? =
        some (((predictions.zip entities).filter (·.1.batch = i)).map (·.2)) := by
  have hlength := h.entity.length_eq
  have hfst : (predictions.zip entities).map Prod.fst = predictions :=
    List.map_fst_zip hlength.le
  have hsnd : (predictions.zip entities).map Prod.snd = entities :=
    List.map_snd_zip hlength.ge
  have hordered : (predictions.zip entities).Pairwise fun a b => a.1.batch ≤ b.1.batch := by
    have hpredictions := h.ordered
    rw [← hfst, List.pairwise_map] at hpredictions
    exact hpredictions
  have hlt : ∀ pair ∈ predictions.zip entities, pair.1.batch < count := fun pair hpair =>
    h.batch_lt _ (List.of_mem_zip hpair).1
  have hgroup := Entity.group_map (f := Prod.snd) hlt
  rw [hsnd, ← Function.comp_def (fun p : Prediction Double => (p.batch : ℤ)), ← List.map_map,
    hfst] at hgroup
  refine ⟨_, hgroup, by simp, ?_, ?_⟩
  · rw [← hsnd]
    conv_rhs => rw [← flatten_groups hordered hlt, List.map_flatten, List.map_map]
    rw [hsnd]
    rfl
  · intro i hi
    rw [List.getElem?_map, List.getElem?_range hi, Option.map_some]

theorem length_textsOf {texts : Value} {listed : List Text}
    (h : Batch.textsOf texts = .ok listed) :
    ∃ items, texts.members? = some items ∧ listed.length = items.length := by
  unfold Batch.textsOf at h
  dsimp only at h
  split at h
  · simp at h
  · split at h
    · simp at h
    · split at h
      · next items hitems =>
        refine ⟨items, hitems, ?_⟩
        have hall := (Traversal.mapM_eq_ok_iff.1 h).length_eq
        simpa using hall.symm
      · simp at h

/-- For whatever is given as texts, the entities of each text are those of all texts in groups, and
the two fail alike. -/
theorem predictPerInput_eq_groups (t : Tagger) (texts : Value) :
    (∀ e, (t.predictPerInput texts).outcome = .error e ↔ (t.predict texts).outcome = .error e) ∧
    ∀ groups, (t.predictPerInput texts).outcome = .ok groups →
      (t.predict texts).outcome = .ok groups.flatten ∧
      (∃ items, texts.members? = some items ∧ groups.length = items.length) ∧
      ∃ listed predictions entities, Batch.textsOf texts = .ok listed ∧
        (t.annotate listed).outcome = .ok (predictions, entities) ∧
        List.Forall₂ t.IsPredicted predictions entities ∧
        ∀ i < groups.length, groups[i]? =
          some (((predictions.zip entities).filter (·.1.batch = i)).map (·.2)) := by
  simp only [predictPerInput, predict, Run.outcome_bind, Run.outcome_ofExcept]
  cases hlisted : Batch.textsOf texts with
  | error e => simp [Except.bind]
  | ok listed =>
    simp only [Except.bind, entitiesPerText, entities, Run.outcome_bind, Run.outcome_ofExcept,
      Run.pure_outcome]
    cases hannotate : (t.annotate listed).outcome with
    | error e => simp
    | ok found =>
      obtain ⟨predictions, entities⟩ := found
      have hmatched := matched_of_annotate hannotate
      obtain ⟨groups, hgroup, hlength, hflatten, hat⟩ := hmatched.group_eq
      simp only [hgroup]
      constructor
      · simp
      · intro groups' hgroups
        obtain rfl := Except.ok.inj hgroups
        obtain ⟨items, hitems, hcount⟩ := length_textsOf hlisted
        refine ⟨by rw [hflatten], ⟨items, hitems, hlength.trans hcount⟩, listed, predictions,
          entities, rfl, hannotate, hmatched.entity, ?_⟩
        rw [hlength]
        exact hat

/-- Two words around a text without tokens, and a batch that has no tokens at all. -/
theorem predictPerInput_groups_twoWords :
    (twoWords.predictPerInput (.list [.str (text "on"), .str [], .str (text "off on")])).outcome =
      .ok [[⟨text "on", Double.ofInt 1, text "SWITCH"⟩], [],
        [⟨text "on", Double.ofInt 1, text "SWITCH"⟩]] ∧
    (twoWords.predict (.list [.str (text "on"), .str [], .str (text "off on")])).outcome =
      .ok [⟨text "on", Double.ofInt 1, text "SWITCH"⟩,
        ⟨text "on", Double.ofInt 1, text "SWITCH"⟩] ∧
    (twoWords.predictPerInput (.list [.str [], .str []])).outcome = .ok [[], []] ∧
    (twoWords.predict (.list [.str [], .str []])).outcome = .ok [] := by
  have hsome : (twoWords.predictPerInput
      (.list [.str (text "on"), .str [], .str (text "off on")])).outcome =
        .ok [[⟨text "on", Double.ofInt 1, text "SWITCH"⟩], [],
          [⟨text "on", Double.ofInt 1, text "SWITCH"⟩]] :=
    Traversal.toOption_eq_some_iff.1 (by decide +kernel)
  have hnone : (twoWords.predictPerInput (.list [.str [], .str []])).outcome = .ok [[], []] :=
    Traversal.toOption_eq_some_iff.1 (by decide +kernel)
  refine ⟨hsome, ?_, hnone, ?_⟩
  · exact ((predictPerInput_eq_groups twoWords _).2 _ hsome).1
  · exact ((predictPerInput_eq_groups twoWords _).2 _ hnone).1

end Tagger

end EntityTagger
