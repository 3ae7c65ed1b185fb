import EntityTagger.Proofs.Padding
import EntityTagger.Proofs.Prediction

/-! Batches of joined and of rearranged texts. A list with something else in it than texts is
refused before any text is encoded. Where every text is encoded on its own, the batch of joined
lists has the rows of both batches, filled up to the width of the wider one, and the batch of
rearranged texts has the same rows, rearranged like the texts. -/
namespace EntityTagger

/-! ### Rectangles -/

/-- The items at some places, in the order of the places. -/
def pick {α : Type} (places : List ℕ) (items : List α) : List α := places.filterMap (items[·]?)

section Picking

variable {α β : Type} {places : List ℕ} {items : List α}

theorem pick_map (f : α → β) (places : List ℕ) (items : List α) :
    pick places (items.map f) = (pick places items).map f := by
  rw [pick, pick, List.map_filterMap]
  exact List.filterMap_congr fun place _ => List.getElem?_map

theorem mem_of_mem_pick {x : α} (h : x ∈ pick places items) : x ∈ items := by
  obtain ⟨place, -, hx⟩ := List.mem_filterMap.1 h
  exact List.mem_of_getElem? hx

theorem pick_range (items : List α) : pick (List.range items.length) items = items := by
  induction items with
  | nil => rfl
  | cons x rest ih =>
    have hfirst : (x :: rest)[0]? = some x := rfl
    rw [pick, List.length_cons, List.range_succ_eq_map, List.filterMap_cons_some hfirst,
      List.filterMap_map]
    exact congrArg _ ih

theorem perm_pick (h : places.Perm (List.range items.length)) : (pick places items).Perm items := by
  have hperm := h.filterMap (items[·]?)
  exact hperm.trans (List.Perm.of_eq (pick_range items))

end Picking

namespace Rectangle

variable {α : Type}

/-- One rectangle below another one, both filled up on the right to the width of the wider one. -/
def stack (filler : α) (first second : Rectangle α) : Rectangle α where
  width := max first.width second.width
  rows := (first.rows ++ second.rows).map (Batch.fillRow filler (max first.width second.width))
  length_row row h := by
    obtain ⟨source, hsource, rfl⟩ := List.mem_map.1 h
    have hlength : source.length = first.width ∨ source.length = second.width :=
      (List.mem_append.1 hsource).imp (first.length_row source) (second.length_row source)
    simp only [Batch.fillRow, List.length_append, List.length_replicate]
    omega

def pick (places : List ℕ) (r : Rectangle α) : Rectangle α where
  width := r.width
  rows := EntityTagger.pick places r.rows
  length_row row h := r.length_row row (mem_of_mem_pick h)

end Rectangle

/-- A batch below another one; what is filled up is not attended to. -/
def Batch.stack (filler : ℤ) (first second : Batch) : Batch :=
  ⟨first.ids.stack filler second.ids, first.attention.stack 0 second.attention⟩

def Batch.pick (places : List ℕ) (b : Batch) : Batch :=
  ⟨b.ids.pick places, b.attention.pick places⟩

namespace Batch

section Rows

variable {α : Type} {first second : List (List α)}

theorem width_append (first second : List (List α)) :
    Batch.width (first ++ second) = max (Batch.width first) (Batch.width second) := by
  induction first with
  | nil => exact (Nat.zero_max _).symm
  | cons s rest ih =>
    have hstep : ∀ others : List (List α),
        Batch.width (s :: others) = max s.length (Batch.width others) := fun _ => rfl
    rw [List.cons_append, hstep, hstep, ih, Nat.max_assoc]

theorem width_perm (h : first.Perm second) : Batch.width first = Batch.width second := by
  apply le_antisymm
  · rcases eq_or_ne first [] with rfl | hne
    · exact Nat.zero_le _
    · obtain ⟨s, hs, hlength⟩ := exists_length_eq_width hne
      exact hlength ▸ length_le_width (h.mem_iff.1 hs)
  · rcases eq_or_ne second [] with rfl | hne
    · exact Nat.zero_le _
    · obtain ⟨s, hs, hlength⟩ := exists_length_eq_width hne
      exact hlength ▸ length_le_width (h.mem_iff.2 hs)

theorem fillRow_fillRow (filler : α) {row : List α} {narrow wide : ℕ}
    (hrow : row.length ≤ narrow) (h : narrow ≤ wide) :
    fillRow filler wide (fillRow filler narrow row) = fillRow filler wide row := by
  have hlength : (fillRow filler narrow row).length = narrow := by
    simp only [fillRow, List.length_append, List.length_replicate]
    omega
  rw [fillRow, hlength, fillRow, List.append_assoc, ← List.replicate_add, fillRow]
  congr 2
  omega

theorem fill_append (filler : α) (first second : List (List α)) :
    fill filler (first ++ second) = (fill filler first).stack filler (fill filler second) := by
  have hwidth := width_append first second
  apply eq_of_rows hwidth
  simp only [fill, Rectangle.stack, hwidth, List.map_append, List.map_map]
  congr 1
  · apply List.map_congr_left
    intro s hs
    exact (fillRow_fillRow filler (length_le_width hs) (Nat.le_max_left ..)).symm
  · apply List.map_congr_left
    intro s hs
    exact (fillRow_fillRow filler (length_le_width hs) (Nat.le_max_right ..)).symm

theorem fill_pick (filler : α) {places : List ℕ} {sequences : List (List α)}
    (h : places.Perm (List.range sequences.length)) :
    fill filler (EntityTagger.pick places sequences) = (fill filler sequences).pick places := by
  have hwidth := width_perm (perm_pick h)
  apply eq_of_rows hwidth
  simp only [fill, Rectangle.pick, hwidth]
  exact (pick_map _ places sequences).symm

end Rows

section Marks

def marks (sequences : List (List ℤ)) : Rectangle ℤ :=
  mask (Batch.width sequences) (lengths sequences)

def ones (s : List ℤ) : List ℤ := List.replicate s.length 1

/-- A mask is a filled rectangle itself: of ones, with zeros behind them. -/
theorem marks_eq_fill (sequences : List (List ℤ)) :
    marks sequences = fill 0 (sequences.map ones) := by
  have hwidth : Batch.width (sequences.map ones) = Batch.width sequences := by
    induction sequences with
    | nil => rfl
    | cons s rest ih => simpa [Batch.width, ones] using congrArg (max s.length) ih
  apply eq_of_rows hwidth.symm
  have hle : ∀ s ∈ sequences, s.length ≤ Batch.width sequences := fun _ hs => length_le_width hs
  show (mask (Batch.width sequences) (lengths sequences)).rows =
    (sequences.map ones).map (fillRow 0 (Batch.width (sequences.map ones)))
  rw [rows_mask hle, hwidth, List.map_map]
  apply List.map_congr_left
  intro s _
  simp [marksOf, fillRow, ones]

theorem marks_append (first second : List (List ℤ)) :
    marks (first ++ second) = (marks first).stack 0 (marks second) := by
  simp only [marks_eq_fill, List.map_append, fill_append]

theorem marks_pick {places : List ℕ} {sequences : List (List ℤ)}
    (h : places.Perm (List.range sequences.length)) :
    marks (EntityTagger.pick places sequences) = (marks sequences).pick places := by
  have hones : places.Perm (List.range (sequences.map ones).length) := by
    rwa [List.length_map]
  rw [marks_eq_fill, marks_eq_fill, ← pick_map, fill_pick 0 hones]

end Marks

section Words

variable {first second sequences : List (List ℤ)} {filler : ℤ} {places : List ℕ}

theorem length_eq_width {s : List ℤ} (heven : ∀ s ∈ sequences, ∀ t ∈ sequences, s.length = t.length)
    (hs : s ∈ sequences) : s.length = Batch.width sequences := by
  obtain ⟨longest, hlongest, hwidth⟩ := exists_length_eq_width (List.ne_nil_of_mem hs)
  exact (heven s hs longest hlongest).trans hwidth

/-- Joined sequences need fillers if either of them does, or if their widths differ. -/
theorem areWords_append_iff (hfirst : AreWords first filler) (hsecond : AreWords second filler)
    (hne : first ≠ []) (hne' : second ≠ []) : AreWords (first ++ second) filler ↔
      IsWord filler ∨ Batch.width first = Batch.width second := by
  constructor
  · rintro ⟨-, hfiller | heven⟩
    · exact Or.inl hfiller
    · right
      obtain ⟨s, hs, hwidth⟩ := exists_length_eq_width hne
      obtain ⟨t, ht, hwidth'⟩ := exists_length_eq_width hne'
      rw [← hwidth, ← hwidth']
      exact heven s (List.mem_append_left _ hs) t (List.mem_append_right _ ht)
  · intro h
    refine ⟨fun s hs => ?_, ?_⟩
    · rcases List.mem_append.1 hs with hs | hs
      · exact hfirst.1 s hs
      · exact hsecond.1 s hs
    · by_cases hfiller : IsWord filler
      · exact Or.inl hfiller
      · have hwidth := h.resolve_left hfiller
        have heven := hfirst.2.resolve_left hfiller
        have heven' := hsecond.2.resolve_left hfiller
        have hall : ∀ s ∈ first ++ second, s.length = Batch.width first := by
          intro s hs
          rcases List.mem_append.1 hs with hs | hs
          · exact length_eq_width heven hs
          · exact (length_eq_width heven' hs).trans hwidth.symm
        exact Or.inr fun s hs t ht => (hall s hs).trans (hall t ht).symm

theorem areWords_perm (h : first.Perm second) (filler : ℤ) :
    AreWords first filler ↔ AreWords second filler := by
  simp only [AreWords, h.mem_iff]

def ofSequences (filler : ℤ) (sequences : List (List ℤ)) : Batch :=
  ⟨fill filler sequences, marks sequences⟩

theorem ofSequences_append (filler : ℤ) (first second : List (List ℤ)) :
    ofSequences filler (first ++ second) =
      (ofSequences filler first).stack filler (ofSequences filler second) := by
  rw [ofSequences, fill_append, marks_append]
  rfl

theorem ofSequences_pick (filler : ℤ) (h : places.Perm (List.range sequences.length)) :
    ofSequences filler (EntityTagger.pick places sequences) =
      (ofSequences filler sequences).pick places := by
  rw [ofSequences, fill_pick filler h, marks_pick h]
  rfl

end Words

section Building

variable {tokenizer : Tokenizer} {texts : List Text} {maxLength filler : ℤ} {encode : Text → List ℤ}

/-- A tokenizer that encodes each text on its own. -/
def EncodesEach (tokenizer : Tokenizer) (maxLength : ℤ) (encode : Text → List ℤ) : Prop :=
  ∀ texts, tokenizer.encode texts maxLength = texts.map encode

theorem outcome_build (tokenizer : Tokenizer) (texts : List Text) (maxLength filler : ℤ) :
    (build tokenizer texts maxLength filler).outcome =
      (pad (tokenizer.encode texts maxLength) filler).map fun ids =>
        ⟨ids, mask ids.width (lengths (tokenizer.encode texts maxLength))⟩ := by
  simp only [build, Run.outcome_bind, Run.outcome_report, Run.outcome_ofExcept, Run.pure_outcome]
  cases pad (tokenizer.encode texts maxLength) filler <;> rfl

def ofTexts (tokenizer : Tokenizer) (texts : List Text) (maxLength filler : ℤ) :
    Except Error Batch :=
  (ofValue tokenizer (.list (texts.map .str)) maxLength filler).outcome

theorem ofTexts_eq (h : EncodesEach tokenizer maxLength encode) (hne : texts ≠ []) :
    (AreWords (texts.map encode) filler →
      ofTexts tokenizer texts maxLength filler = .ok (ofSequences filler (texts.map encode))) ∧
    (¬ AreWords (texts.map encode) filler →
      ofTexts tokenizer texts maxLength filler = .error (.misuse .badValue)) := by
  have hsequences : texts.map encode ≠ [] := by simpa using hne
  have hbuild : ofTexts tokenizer texts maxLength filler =
      (build tokenizer texts maxLength filler).outcome := by
    rw [ofTexts, ofValue, Run.outcome_bind, Run.outcome_ofExcept, textsOf_list hne]
    rfl
  rw [hbuild, outcome_build, h texts]
  constructor
  · intro hwords
    rw [pad_eq_ok_iff.2 ⟨hsequences, hwords, rfl⟩]
    rfl
  · intro hnot
    rw [pad_eq_error_iff.2 (Or.inr ⟨hsequences, hnot, rfl⟩)]
    rfl

theorem ofTexts_nil (tokenizer : Tokenizer) (maxLength filler : ℤ) :
    ofTexts tokenizer [] maxLength filler = .error (.input .emptyBatch) := rfl

theorem ofTexts_eq_ok_iff (h : EncodesEach tokenizer maxLength encode) {b : Batch} :
    ofTexts tokenizer texts maxLength filler = .ok b ↔
      texts ≠ [] ∧ AreWords (texts.map encode) filler ∧
        b = ofSequences filler (texts.map encode) := by
  rcases eq_or_ne texts [] with rfl | hne
  · simp [ofTexts_nil]
  · by_cases hwords : AreWords (texts.map encode) filler
    · simp [(ofTexts_eq h hne).1 hwords, hne, hwords, eq_comm]
    · simp [(ofTexts_eq h hne).2 hwords, hwords]

/-- The first item that is no text. -/
structure IsFirstOther (items : List Value) (place : ℕ) (v : Value) : Prop where
  at_place : items[place]? = some v
  not_text : ∀ t, v ≠ .str t
  texts_before : ∀ j < place, ∃ t, items[j]? = some (.str t)

theorem exists_isFirstOther {items : List Value} (h : ∃ x ∈ items, ∀ t, x ≠ .str t) :
    ∃ place v, IsFirstOther items place v := by
  induction items with
  | nil => simp at h
  | cons x rest ih =>
    by_cases hx : ∃ t, x = .str t
    · obtain ⟨t, rfl⟩ := hx
      obtain ⟨y, hy, hother⟩ := h
      have hy : y ∈ rest := (List.mem_cons.1 hy).resolve_left (hother t)
      obtain ⟨place, v, hplace, hv, hbefore⟩ := ih ⟨y, hy, hother⟩
      refine ⟨place + 1, v, hplace, hv, ?_⟩
      intro j hj
      cases j with
      | zero => exact ⟨t, rfl⟩
      | succ j => exact hbefore j (Nat.lt_of_succ_lt_succ hj)
    · refine ⟨0, x, rfl, fun t ht => hx ⟨t, ht⟩, ?_⟩
      intro j hj
      exact absurd hj (Nat.not_lt_zero j)

theorem IsFirstOther.textsOf_eq {items : List Value} {place : ℕ} {v : Value}
    (h : IsFirstOther items place v) :
    textsOf (.list items) = .error (.input (.notText place v.typeName)) := by
  obtain ⟨hlt, hv⟩ := List.getElem?_eq_some_iff.1 h.at_place
  have hholds : (Value.list items).holds = true := by
    have hne : items ≠ [] := List.ne_nil_of_length_pos (Nat.zero_lt_of_lt hlt)
    simpa [Value.holds] using hne
  simp only [textsOf, hholds, Bool.not_true, Bool.false_eq_true, if_false, Value.members?]
  rw [Traversal.mapM_eq_error_iff]
  have hsplit : items.zipIdx = items.zipIdx.take place ++ (v, place) ::
      items.zipIdx.drop (place + 1) := by
    have hlt' : place < items.zipIdx.length := by simpa using hlt
    have hat : items.zipIdx[place] = (v, place) := by simp [hv]
    rw [← hat, List.cons_getElem_drop_succ, List.take_append_drop]
  refine ⟨_, _, _, hsplit, ?_, ?_⟩
  · rintro ⟨y, j⟩ hy
    obtain ⟨k, hk, hkj⟩ := List.mem_take_iff_getElem.1 hy
    obtain ⟨t, ht⟩ := h.texts_before k (by omega)
    have hget : items.zipIdx[k]? = some (y, j) :=
      List.getElem?_eq_some_iff.2 ⟨hk.trans_le (Nat.min_le_right ..), hkj⟩
    rw [List.getElem?_zipIdx, ht] at hget
    obtain ⟨rfl, -⟩ : Value.str t = y ∧ k = j := by simpa using hget
    exact ⟨t, rfl⟩
  · have hnot := h.not_text
    cases v with
    | str t => exact absurd rfl (hnot t)
    | _ => rfl

theorem IsFirstOther.ofValue_eq {items : List Value} {place : ℕ} {v : Value}
    (h : IsFirstOther items place v) (tokenizer : Tokenizer) (maxLength filler : ℤ) :
    ofValue tokenizer (.list items) maxLength filler =
      Run.fail (.input (.notText place v.typeName)) := by
  rw [ofValue, h.textsOf_eq]
  rfl

theorem ofTexts_append (h : EncodesEach tokenizer maxLength encode) {xs ys : List Text}
    {first second : Batch} (hfirst : ofTexts tokenizer xs maxLength filler = .ok first)
    (hsecond : ofTexts tokenizer ys maxLength filler = .ok second) :
    (IsWord filler ∨ first.ids.width = second.ids.width →
      ofTexts tokenizer (xs ++ ys) maxLength filler = .ok (first.stack filler second)) ∧
    (¬ IsWord filler → first.ids.width ≠ second.ids.width →
      ofTexts tokenizer (xs ++ ys) maxLength filler = .error (.misuse .badValue)) := by
  obtain ⟨hne, hxs, rfl⟩ := (ofTexts_eq_ok_iff h).1 hfirst
  obtain ⟨hne', hys, rfl⟩ := (ofTexts_eq_ok_iff h).1 hsecond
  have hjoined := areWords_append_iff hxs hys (by simpa using hne) (by simpa using hne')
  rw [← List.map_append] at hjoined
  constructor
  · intro hwidth
    rw [(ofTexts_eq h (by simp [hne])).1 (hjoined.2 hwidth), List.map_append, ofSequences_append]
  · intro hfiller hwidth
    apply (ofTexts_eq h (by simp [hne])).2
    intro hall
    rcases hjoined.1 hall with hfiller' | hwidth'
    · exact hfiller hfiller'
    · exact hwidth hwidth'

theorem ofTexts_pick (h : EncodesEach tokenizer maxLength encode) {places : List ℕ}
    (hplaces : places.Perm (List.range texts.length)) :
    ofTexts tokenizer (EntityTagger.pick places texts) maxLength filler =
      (ofTexts tokenizer texts maxLength filler).map (pick places) := by
  have hperm := perm_pick hplaces
  rcases eq_or_ne texts [] with rfl | hne
  · rw [hperm.eq_nil]
    rfl
  · have hne' : EntityTagger.pick places texts ≠ [] := fun hnil => hne (hnil ▸ hperm).symm.eq_nil
    have hsequences : places.Perm (List.range (texts.map encode).length) := by
      rwa [List.length_map]
    have hiff := areWords_perm (perm_pick hsequences) filler
    rw [pick_map] at hiff
    by_cases hall : AreWords (texts.map encode) filler
    · rw [(ofTexts_eq h hne').1 (hiff.2 hall), (ofTexts_eq h hne).1 hall, ← pick_map,
        ofSequences_pick filler hsequences]
      rfl
    · rw [(ofTexts_eq h hne').2 (mt hiff.1 hall), (ofTexts_eq h hne).2 hall]
      rfl

/-- Texts are refused for what else stands among them before any is encoded. Where each is encoded
on its own into integers of 64 bits, every list of texts that is not empty has a batch with every
filler of 64 bits. The batch of joined lists is that of the first list with that of the second one
below it, filled up to the width of the wider one; another filler is refused if their widths differ.
And rearranged texts have the batch with the rearranged rows. -/
theorem ofValue_joined (h : EncodesEach tokenizer maxLength encode)
    (hwords : ∀ t, ∀ id ∈ encode t, IsWord id) (filler : ℤ) :
    (∀ items, (∃ x ∈ items, ∀ t, x ≠ .str t) → ∃ place v, IsFirstOther items place v ∧
      ofValue tokenizer (.list items) maxLength filler =
        Run.fail (.input (.notText place v.typeName)) ∧
      (InputFault.notText place v.typeName).message =
        text "Input " ++ Text.ofNat place ++ text " is " ++ v.typeName ++ text ", expected str") ∧
    (IsWord filler → ∀ texts, texts ≠ [] →
      ∃ b, ofTexts tokenizer texts maxLength filler = .ok b) ∧
    (∀ xs ys first second, ofTexts tokenizer xs maxLength filler = .ok first →
      ofTexts tokenizer ys maxLength filler = .ok second →
        (IsWord filler ∨ first.ids.width = second.ids.width →
          ofTexts tokenizer (xs ++ ys) maxLength filler = .ok (first.stack filler second)) ∧
        (¬ IsWord filler → first.ids.width ≠ second.ids.width →
          ofTexts tokenizer (xs ++ ys) maxLength filler = .error (.misuse .badValue))) ∧
    ∀ texts places, places.Perm (List.range texts.length) →
      ofTexts tokenizer (EntityTagger.pick places texts) maxLength filler =
        (ofTexts tokenizer texts maxLength filler).map (pick places) := by
  have hids : ∀ texts : List Text, ∀ s ∈ texts.map encode, ∀ id ∈ s, IsWord id := by
    intro texts s hs
    obtain ⟨t, -, rfl⟩ := List.mem_map.1 hs
    exact hwords t
  refine ⟨?_, ?_, ?_, ?_⟩
  · intro items hitems
    obtain ⟨place, v, hfirst⟩ := exists_isFirstOther hitems
    exact ⟨place, v, hfirst, hfirst.ofValue_eq tokenizer maxLength filler, rfl⟩
  · intro hfiller texts hne
    exact ⟨_, (ofTexts_eq h hne).1 ⟨hids texts, Or.inl hfiller⟩⟩
  · intro xs ys first second hfirst hsecond
    exact ofTexts_append h hfirst hsecond
  · intro texts places hplaces
    exact ofTexts_pick h hplaces

/-- A tokenizer with an id for every sign of a text. -/
def signs : Tokenizer := Tokenizer.perText (fun t _ => List.replicate t.length 7) fun _ => []

theorem encodesEach_signs (maxLength : ℤ) :
    EncodesEach signs maxLength fun t => List.replicate t.length 7 := fun _ => rfl

theorem isWord_of_mem_signs (t : Text) : ∀ id ∈ List.replicate t.length (7 : ℤ), IsWord id := by
  intro id hid
  rw [List.eq_of_mem_replicate hid]
  constructor <;> norm_num

/-- The second batch is the wider one, and the first one has an empty row. -/
theorem ofValue_joined_threeTexts :
    ofValue signs (.list [.str (text "on"), .none, .int 3]) 5 0 =
      Run.fail (.input (.notText 1 (text "NoneType"))) ∧
    ∃ first second, ofTexts signs [text "on", []] 5 0 = .ok first ∧
      ofTexts signs [text "off"] 5 0 = .ok second ∧
      ofTexts signs [text "on", [], text "off"] 5 0 = .ok (first.stack 0 second) ∧
      ofTexts signs [text "off", text "on", []] 5 0 =
        .ok ((first.stack 0 second).pick [2, 0, 1]) ∧
      (first.stack 0 second).ids.rows = [[7, 7, 0], [0, 0, 0], [7, 7, 7]] ∧
      (first.stack 0 second).attention.rows = [[1, 1, 0], [0, 0, 0], [1, 1, 1]] := by
  have heach := encodesEach_signs 5
  have hzero : IsWord 0 := by constructor <;> norm_num
  obtain ⟨hrefused, hall, hjoined, hpicked⟩ := ofValue_joined heach isWord_of_mem_signs 0
  constructor
  · obtain ⟨place, v, hfirst, hfail, -⟩ := hrefused [.str (text "on"), .none, .int 3]
      ⟨.none, by simp, by simp⟩
    have hplace : place = 1 ∧ v = .none := by
      rcases place with _ | _ | place
      · exact absurd (Option.some.inj hfirst.at_place).symm (hfirst.not_text _)
      · exact ⟨rfl, (Option.some.inj hfirst.at_place).symm⟩
      · obtain ⟨t, ht⟩ := hfirst.texts_before 1 (by omega)
        simp at ht
    obtain ⟨rfl, rfl⟩ := hplace
    exact hfail
  · obtain ⟨first, hfirst⟩ := hall hzero [text "on", []] (by simp)
    obtain ⟨second, hsecond⟩ := hall hzero [text "off"] (by simp)
    have hstack := (hjoined _ _ first second hfirst hsecond).1 (Or.inl hzero)
    refine ⟨first, second, hfirst, hsecond, hstack, ?_, ?_, ?_⟩
    · refine (hpicked [text "on", [], text "off"] [2, 0, 1] (by decide)).trans ?_
      exact congrArg (Except.map _) hstack
    all_goals
      obtain ⟨-, -, rfl⟩ := (ofTexts_eq_ok_iff heach).1 hfirst
      obtain ⟨-, -, rfl⟩ := (ofTexts_eq_ok_iff heach).1 hsecond
      decide

/-- A filler past 64 bits does no harm where nothing is filled up: both batches are there, but that
of the joined lists is refused. -/
theorem ofTexts_append_fails_wideFiller :
    EncodesEach signs 5 (fun t => List.replicate t.length 7) ∧
    (∀ t : Text, ∀ id ∈ List.replicate t.length (7 : ℤ), IsWord id) ∧
    (∃ first, ofTexts signs [text "a"] 5 (2 ^ 63) = .ok first) ∧
    (∃ second, ofTexts signs [text "on"] 5 (2 ^ 63) = .ok second) ∧
    ofTexts signs ([text "a"] ++ [text "on"]) 5 (2 ^ 63) = .error (.misuse .badValue) :=
  ⟨encodesEach_signs 5, isWord_of_mem_signs, ⟨_, rfl⟩, ⟨_, rfl⟩, rfl⟩

end Building

end Batch

end EntityTagger
