import EntityTagger.Proofs.Service.Outcome
import EntityTagger.Proofs.Stage.Again

/-! The service and the batch stage agree. What is replied for some texts is what is written for a
file with a row for each of them, and where a text cannot be tagged both end with the same error. -/
namespace EntityTagger

namespace Row

variable {texts : List Text}

def ofText (s : Text) : Json := .obj [(text "text", .str s)]

def listed (name : Text) (row : Json) : List Json :=
  match row.member? name with
  | some (.arr items) => items
  | _ => []

theorem text?_ofText {s : Text} (h : s.isBlankText = false) : text? (ofText s) = some s := by
  have hmember : (ofText s).member? (text "text") = some (.str s) := rfl
  simp only [text?, hmember, h, Bool.false_eq_true, if_false]

theorem texts_ofText (h : ∀ s ∈ texts, s.isBlankText = false) :
    Row.texts (texts.map ofText) = texts := by
  have hsame : ∀ s ∈ texts, text? (ofText s) = some s := fun s hs => text?_ofText (h s hs)
  rw [Row.texts, List.filterMap_map]
  exact (List.filterMap_congr hsame).trans List.filterMap_some

theorem isUnicode_ofText {s : Text} (h : s.IsUnicode) : (ofText s).characters.IsUnicode := by
  refine Json.isUnicode_obj_iff.2 fun m hm => ?_
  obtain rfl := List.mem_singleton.1 hm
  have hname : (text "text").IsUnicode := by decide
  exact ⟨hname, h⟩

theorem ofBytes_ofText (h : ∀ s ∈ texts, s.IsUnicode) :
    ofBytes (Utf8.bytesOf (texts.flatMap fun s => (ofText s).write ++ [10])) =
      .ok (texts.map ofText) := by
  have hobjects : ∀ object ∈ texts.map fun s => [(text "text", Json.str s)],
      (Json.obj object).IsReadable ∧ (Json.obj object).write.IsUnicode := by
    refine List.forall_mem_map.2 fun s hs => ⟨⟨List.nodup_singleton _, trivial, trivial⟩, ?_⟩
    exact Json.isUnicode_write (isUnicode_ofText (h s hs))
  have hrows := ofBytes_objects (fun object h => (hobjects object h).1)
    (fun object h => (hobjects object h).2)
  simp only [List.flatMap_map, List.map_map] at hrows
  exact hrows

/-- A file with a row for each of some texts. -/
def HoldsTexts (fs : FileSystem) (path : Path) (texts : List Text) : Prop :=
  ∃ bytes, fs.readBytes path = .ok bytes ∧ ofBytes bytes = .ok (texts.map ofText)

theorem listed_entities_annotate (row : Json) (found : Annotation) :
    listed (text "entities") (annotate row found) = found.entities.map ofEntity := by
  have hmember : (annotate row found).member? (text "entities") =
      some (.arr (found.entities.map ofEntity)) := get?_entities_annotate row found
  rw [listed, hmember]

theorem listed_labels_annotate (row : Json) (found : Annotation) :
    listed (text "entity_labels") (annotate row found) = found.labels.map .str := by
  have hmember : (annotate row found).member? (text "entity_labels") =
      some (.arr (found.labels.map .str)) := get?_labels_annotate row found
  rw [listed, hmember]

end Row

namespace Service

/-- A body lists what the rows of a file list: their entities one after the other, and in strictly
increasing order the labels that any of them lists. -/
def ListsRows (rows : List Json) (body : Body) : Prop :=
  ∃ labels : List Text,
    body = .json (.obj [(text "entities", .arr (rows.flatMap (Row.listed (text "entities")))),
      (text "entity_labels", .arr (labels.map .str))]) ∧
    labels.Pairwise (List.Lex (· < ·)) ∧
    ∀ label, label ∈ labels ↔ ∃ row ∈ rows, .str label ∈ Row.listed (text "entity_labels") row

theorem listsRows_attached (tagged : List (Json × List Entity)) :
    ListsRows ((Row.attached tagged).map fun pair => Row.annotate pair.1 pair.2)
      (Reply.extracted (.ofEntities (tagged.flatMap Prod.snd))).body := by
  have hsorted := Annotation.pairwise_labels (tagged.flatMap Prod.snd)
  refine ⟨_, ?_, hsorted, fun label => ?_⟩
  · have hentities : ((Row.attached tagged).map fun pair =>
        Row.annotate pair.1 pair.2).flatMap (Row.listed (text "entities")) =
        (tagged.flatMap Prod.snd).map Row.ofEntity := by
      rw [Row.attached, List.map_map, List.flatMap_map, List.map_flatMap]
      exact List.flatMap_congr fun pair _ => Row.listed_entities_annotate _ _
    rw [hentities]
    rfl
  · constructor
    · intro hlabel
      obtain ⟨e, he, hname⟩ := Annotation.mem_labels.1 hlabel
      obtain ⟨pair, hpair, he⟩ := List.mem_flatMap.1 he
      refine ⟨_, List.mem_map_of_mem (List.mem_map_of_mem hpair), ?_⟩
      rw [Row.listed_labels_annotate]
      apply List.mem_map_of_mem
      exact Annotation.mem_labels.2 ⟨e, he, hname⟩
    · rintro ⟨row, hrow, hlabel⟩
      obtain ⟨_, hattached, rfl⟩ := List.mem_map.1 hrow
      obtain ⟨pair, hpair, rfl⟩ := List.mem_map.1 hattached
      rw [Row.listed_labels_annotate] at hlabel
      obtain ⟨name, hname, hsame⟩ := List.mem_map.1 hlabel
      obtain rfl := Json.str.inj hsame
      obtain ⟨e, he, hlabel⟩ := Annotation.mem_labels.1 hname
      exact Annotation.mem_labels.2 ⟨e, List.mem_flatMap.2 ⟨pair, hpair, he⟩, hlabel⟩

/-- What is sent for some texts agrees with a run over a file with a row for each: the entities are
sent exactly where the run succeeds, and what it writes lists the same; and the service sends the
message of an error of the configuration exactly where that same error ends the run. -/
structure Agrees (texts : List Text) (ended : Ending) (sent : ℕ × Body) (output : Path)
    (run : Stage.Outcome Stage.Summary) : Prop where
  answered : (∃ body, sent = (200, body)) ↔ ∃ summary, run.run.outcome = .ok summary
  listed : ∀ body, sent = (200, body) → ∃ summary content rows,
    run.run.outcome = .ok summary ∧ summary.total = texts.length ∧
      run.files.readBytes output = .ok content ∧ Row.ofBytes content = .ok rows ∧
      rows.map Row.text? = texts.map some ∧ ListsRows rows body
  mismatched : ∀ message, sent = (500, Reply.detail (.str message)) ↔
    ∃ fault, fault.message = message ∧ run.run.outcome = .error (.configuration fault)
  same : ∀ fault, ended = .untagged (.configuration fault) ↔
    run.run.outcome = .error (.configuration fault)

section Agreement

variable {r : Request} {texts : List Text} {build : Run Tagger} {tagger : Option Tagger}
  {t : Tagger} {encode : Text → List ℤ} {logits : ℤ → List t.model.elements.kernel.Logit}
  {count : ℕ} {fs : FileSystem} {input output : Path} {now batchSize : ℤ}

/-- The texts of a request are all tagged, or it ends with the error that tagging a file with a row
for each of them ends with. -/
theorem tagged_or_failed (h : t.Tabular encode logits count) (hne : texts ≠ [])
    (htagger : taggerFor build tagger = .ok t) (hvisible : ∀ s ∈ texts, s.isBlankText = false)
    (hinput : Row.HoldsTexts fs input texts) (hs : 0 < batchSize) :
    ((∀ s ∈ texts, ∃ found, (t.predict (.list [.str s])).outcome = .ok found) ∧
      ending build tagger texts = .tagged (texts.flatMap (Stage.predicted t))) ∨
    ∃ e, ending build tagger texts = .untagged e ∧
      (Stage.annotated t fs input batchSize).outcome = .error e := by
  obtain ⟨bytes, hbytes, hrows⟩ := hinput
  -- both are decided by what the texts give one by one, however they are put into batches
  have hreading := Stage.outcome_annotated_eq h hbytes hrows hs
  rw [Row.texts_ofText hvisible] at hreading
  have hended := h.outcome_predict_eq_flatten hne
  cases hall : texts.mapM fun s => (t.predict (.list [.str s])).outcome with
  | error e =>
    rw [hall] at hreading hended
    refine Or.inr ⟨e, ?_, ?_⟩
    · simp only [ending_of_tagger htagger, hended, Except.map, Ending.ofPrediction]
    · exact hreading
  | ok found =>
    have hpredict : ∀ s ∈ texts, ∃ found, (t.predict (.list [.str s])).outcome = .ok found :=
      fun s hs => Traversal.ok_of_mapM_eq_ok hall hs
    rw [Stage.mapM_predict_eq_predicted hpredict] at hended
    refine Or.inl ⟨hpredict, ?_⟩
    simp only [ending_of_tagger htagger, hended, Except.map, Ending.ofPrediction,
      List.flatMap_def]

def taggedTexts (t : Tagger) (texts : List Text) : List (Json × List Entity) :=
  texts.map fun s => (Row.ofText s, Stage.predicted t s)

theorem outcome_annotated_ofText (h : t.Tabular encode logits count)
    (hvisible : ∀ s ∈ texts, s.isBlankText = false)
    (hpredict : ∀ s ∈ texts, ∃ found, (t.predict (.list [.str s])).outcome = .ok found)
    (hinput : Row.HoldsTexts fs input texts) (hs : 0 < batchSize) :
    (Stage.annotated t fs input batchSize).outcome =
      .ok (Row.attached (taggedTexts t texts)) := by
  obtain ⟨bytes, hbytes, hrows⟩ := hinput
  have htexts := Row.texts_ofText hvisible
  rw [Stage.outcome_annotated h hbytes hrows (htexts.symm ▸ hpredict) hs, Row.attached, taggedTexts,
    List.map_map, List.map_map]
  refine congrArg Except.ok (List.map_congr_left fun s hmem => ?_)
  simp only [Function.comp_apply, Stage.found, Row.text?_ofText (hvisible s hmem)]
  rfl

theorem processFile_ofText (h : t.Tabular encode logits count)
    (hvisible : ∀ s ∈ texts, s.isBlankText = false)
    (hpredict : ∀ s ∈ texts, ∃ found, (t.predict (.list [.str s])).outcome = .ok found)
    (htexts : ∀ s ∈ texts, s.IsUnicode)
    (hfound : ∀ s ∈ texts, ∀ e ∈ Stage.predicted t s, e.text.IsUnicode ∧ e.label.IsUnicode)
    (hinput : Row.HoldsTexts fs input texts)
    (houtput : Stage.CanCreate fs output now) (hs : 0 < batchSize) :
    ∃ summary content,
      (Stage.processFile t now fs input output batchSize).run.outcome = .ok summary ∧
      summary.total = texts.length ∧
      (Stage.processFile t now fs input output batchSize).files.readBytes output = .ok content ∧
      Row.ofBytes content = .ok ((Row.attached (taggedTexts t texts)).map fun pair =>
        Row.annotate pair.1 pair.2) := by
  have hreading := outcome_annotated_ofText h hvisible hpredict hinput hs
  obtain ⟨bytes, -, hrows⟩ := hinput
  have hreadable : ∀ pair ∈ Row.attached (taggedTexts t texts), pair.1.IsReadable := by
    refine List.forall_mem_map.2 (List.forall_mem_map.2 fun s hmem => ?_)
    exact Row.isReadable_of_ofBytes hrows _ (List.mem_map_of_mem hmem)
  have hlines : ∀ pair ∈ Row.attached (taggedTexts t texts),
      (Row.line pair.1 pair.2).IsUnicode := by
    refine List.forall_mem_map.2 (List.forall_mem_map.2 fun s hmem => ?_)
    exact Row.isUnicode_line (Row.isUnicode_ofText (htexts s hmem)) (hfound s hmem)
  obtain ⟨hrun, -, hread⟩ := Stage.processFile_of_isUnicode hreading houtput hlines
  refine ⟨_, _, hrun, ?_, hread, Row.ofBytes_lines hreadable hlines⟩
  simp only [Stage.summaryOf, Row.attached, taggedTexts, List.length_map]

theorem reply_of_isUnicode (hne : texts ≠ []) {entities : List Entity}
    (hended : ending build tagger texts = .tagged entities)
    (hunicode : ∀ e ∈ entities, e.text.IsUnicode ∧ e.label.IsUnicode) :
    (ending build tagger texts).reply = .extracted (.ofEntities entities) := by
  rw [hended]
  refine ofEntities_of_sendable (isFinite_of_ending hne hended) fun e he => ?_
  rintro ⟨c, hc, hsurrogate⟩
  have hunicode := ((hunicode e he).1.append (hunicode e he).2 c hc).2
  simp [hsurrogate] at hunicode

/-- Where texts could not be tagged, the message of an error of the configuration is sent as a
mismatch, and no other. -/
theorem mismatched_iff_of_untagged {e : Error} {message : Text} :
    ((Ending.untagged e).reply.status, (Ending.untagged e).reply.body) =
        (500, Reply.detail (.str message)) ↔
      ∃ fault : ConfigurationFault, fault.message = message ∧ e = .configuration fault := by
  cases e <;>
    simp [Ending.reply, Reply.status, Reply.body, Reply.detail]

theorem status_of_untagged (e : Error) : (Ending.untagged e).reply.status ≠ 200 := by
  cases e <;> simp [Ending.reply, Reply.status]

theorem agrees_of_error {ended : Ending} {sent : ℕ × Body} {run : Stage.Outcome Stage.Summary}
    {e : Error} (hended : ended = .untagged e)
    (hsent : sent = (ended.reply.status, ended.reply.body)) (hrun : run.run.outcome = .error e) :
    Agrees texts ended sent output run := by
  subst hended
  have hnot : ∀ body, sent ≠ (200, body) := fun body hbody =>
    status_of_untagged e (congrArg Prod.fst (hsent.symm.trans hbody))
  refine ⟨?_, fun body hbody => absurd hbody (hnot body), fun message => ?_, fun fault => ?_⟩
  · constructor
    · rintro ⟨body, hbody⟩
      exact absurd hbody (hnot body)
    · rintro ⟨summary, hsummary⟩
      simp [hrun] at hsummary
  · rw [hsent, mismatched_iff_of_untagged, hrun]
    simp only [Except.error.injEq]
  · rw [hrun, Ending.untagged.injEq, Except.error.injEq]

theorem listsRows_taggedTexts (hvisible : ∀ s ∈ texts, s.isBlankText = false) (t : Tagger) :
    ((Row.attached (taggedTexts t texts)).map fun pair =>
        Row.annotate pair.1 pair.2).map Row.text? = texts.map some ∧
      ListsRows ((Row.attached (taggedTexts t texts)).map fun pair => Row.annotate pair.1 pair.2)
        (Reply.extracted (.ofEntities (texts.flatMap (Stage.predicted t)))).body := by
  constructor
  · simp only [Row.attached, taggedTexts, List.map_map]
    refine List.map_congr_left fun s hmem => ?_
    simp only [Function.comp_apply, Row.text?_annotate, Row.text?_ofText (hvisible s hmem)]
  · have hrows := listsRows_attached (taggedTexts t texts)
    simp only [taggedTexts, List.flatMap_map] at hrows
    exact hrows

/-- A request for the entities of texts and a run over a file with a row for each of them agree, for
all sizes of batches. -/
theorem agrees_processFile (h : t.Tabular encode logits count) (hr : IsExtract r texts)
    (htagger : taggerFor build tagger = .ok t) (hvisible : ∀ s ∈ texts, s.isBlankText = false)
    (htexts : ∀ s ∈ texts, s.IsUnicode) (hlabels : ∀ entry ∈ t.labels, entry.2.IsUnicode)
    (hwords : ∀ s ∈ texts, ∀ id ∈ encode s, (t.tokenizer.decode id).IsUnicode)
    (hinput : Row.HoldsTexts fs input texts) (houtput : Stage.CanCreate fs output now)
    (hs : 0 < batchSize) :
    Agrees texts (ending build tagger texts) (send r (handle build tagger r).reply) output
      (Stage.processFile t now fs input output batchSize) := by
  have hsent : send r (handle build tagger r).reply =
      ((ending build tagger texts).reply.status, (ending build tagger texts).reply.body) := by
    rw [hr.send_eq, hr.reply_eq]
  rcases tagged_or_failed h hr.ne_nil htagger hvisible hinput hs with
    ⟨hpredict, hended⟩ | ⟨e, hended, hreading⟩
  · have hfound : ∀ s ∈ texts, ∀ e ∈ Stage.predicted t s,
        e.text.IsUnicode ∧ e.label.IsUnicode := fun s hmem =>
      Stage.isUnicode_of_predict h hlabels (hwords s hmem)
        (Stage.outcome_predict_eq_predicted (hpredict s hmem))
    have hreply : (ending build tagger texts).reply =
        .extracted (.ofEntities (texts.flatMap (Stage.predicted t))) := by
      refine reply_of_isUnicode hr.ne_nil hended fun e he => ?_
      obtain ⟨s, hmem, he⟩ := List.mem_flatMap.1 he
      exact hfound s hmem e he
    obtain ⟨summary, content, hrun, htotal, hread, hcontent⟩ :=
      processFile_ofText h hvisible hpredict htexts hfound hinput houtput hs
    obtain ⟨hsame, hlists⟩ := listsRows_taggedTexts hvisible t
    rw [hreply] at hsent
    refine ⟨⟨fun _ => ⟨summary, hrun⟩, fun _ => ⟨_, hsent⟩⟩, fun body hbody => ?_,
      fun message => ?_, fun fault => ?_⟩
    · obtain rfl := congrArg Prod.snd (hsent.symm.trans hbody)
      exact ⟨summary, content, _, hrun, htotal, hread, hcontent, hsame, hlists⟩
    · rw [hsent, hrun]
      simp [Reply.status]
    · rw [hended, hrun]
      simp
  · refine agrees_of_error hended hsent ?_
    simp only [Stage.processFile, hreading]

def bodyRequest (body : Text) : Request :=
  ⟨text "POST", text "/api/entities/extract", none, body⟩

def textsFiles (texts : List Text) : FileSystem :=
  ⟨[([], .directory 0), ([text "rows"],
    .file (.bytes (Utf8.bytesOf (texts.flatMap fun s => (Row.ofText s).write ++ [10]))) 0)]⟩

theorem holdsTexts_textsFiles (htexts : ∀ s ∈ texts, s.IsUnicode) :
    Row.HoldsTexts (textsFiles texts) ⟨.relative, [text "rows"]⟩ texts :=
  ⟨_, rfl, Row.ofBytes_ofText htexts⟩

theorem isExtract_bodyRequest {body : Text} (h : (bodyRequest body).texts.toOption = some texts) :
    IsExtract (bodyRequest body) texts := by
  have hpath : Route.ofPath? (text "/api/entities/extract") = some .extract := by decide +kernel
  exact ⟨hpath, rfl, Traversal.toOption_eq_some_iff.1 h⟩

/-- Two texts are tagged by the request and in the file, in place; two others, the second of which
cannot be tagged, by neither. -/
theorem agrees_processFile_textsFiles :
    let kept := some Tagger.twoWords
    let build := start brokenSettings 0 brokenEnvironment
    let rows : Path := ⟨.relative, [text "rows"]⟩
    let tagged := [text "off on", text "on"]
    let untagged := [text "on", text "?"]
    let first := bodyRequest (text "\x7b\"texts\": [\"off on\", \"on\"]\x7d")
    let second := bodyRequest (text "\x7b\"texts\": [\"on\", \"?\"]\x7d")
    (send first (handle build kept first).reply).1 = 200 ∧
    Agrees tagged (ending build kept tagged) (send first (handle build kept first).reply) rows
      (Stage.processFile Tagger.twoWords 1 (textsFiles tagged) rows rows 1) ∧
    (send second (handle build kept second).reply).1 = 500 ∧
    Agrees untagged (ending build kept untagged) (send second (handle build kept second).reply) rows
      (Stage.processFile Tagger.twoWords 1 (textsFiles untagged) rows rows 1) := by
  intro kept build rows tagged untagged first second
  have hfirst : IsExtract first tagged := isExtract_bodyRequest (by decide +kernel)
  have hsecond : IsExtract second untagged := isExtract_bodyRequest (by decide +kernel)
  have hagree : ∀ {r : Request} {texts : List Text}, IsExtract r texts →
      (∀ s ∈ texts, s ∈ tagged ++ untagged) →
      Agrees texts (ending build kept texts) (send r (handle build kept r).reply) rows
        (Stage.processFile Tagger.twoWords 1 (textsFiles texts) rows rows 1) := by
    intro r texts hr hmem
    have hall : ∀ s ∈ tagged ++ untagged, s.isBlankText = false ∧ s.IsUnicode ∧
        ∀ id ∈ Tagger.twoWordsIds s, (Tagger.twoWords.tokenizer.decode id).IsUnicode := by
      decide +kernel
    have htexts : ∀ s ∈ texts, s.IsUnicode := fun s hs => (hall s (hmem s hs)).2.1
    obtain ⟨bytes, hbytes, hrows⟩ := holdsTexts_textsFiles htexts
    exact agrees_processFile Tagger.tabular_twoWords hr rfl
      (fun s hs => (hall s (hmem s hs)).1) htexts (by decide +kernel)
      (fun s hs => (hall s (hmem s hs)).2.2) ⟨bytes, hbytes, hrows⟩
      (Stage.canCreate_of_readBytes hbytes 1) (by decide)
  refine ⟨?_, hagree hfirst (by decide), ?_, hagree hsecond (by decide)⟩
  · decide +kernel
  · decide +kernel

end Agreement

end Service

end EntityTagger
