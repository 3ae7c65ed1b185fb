import EntityTagger.Proofs.Text.Order
import EntityTagger.Proofs.Utf8

/-! Rows with what was found in them: which members they have, in which order, and when they can be
written. -/
namespace EntityTagger

theorem Text.IsUnicode.append {s t : Text} (hs : s.IsUnicode) (ht : t.IsUnicode) :
    (s ++ t).IsUnicode := by
  intro c hc
  rcases List.mem_append.1 hc with hc | hc
  · exact hs c hc
  · exact ht c hc

namespace Json

theorem itemCharacters_eq_flatMap (items : List Json) :
    itemCharacters items = items.flatMap characters := by
  induction items with
  | nil => rfl
  | cons item rest ih => rw [itemCharacters, ih, List.flatMap_cons]

theorem memberCharacters_eq_flatMap (members : List (Text × Json)) :
    memberCharacters members = members.flatMap fun m => m.1 ++ m.2.characters := by
  induction members with
  | nil => rfl
  | cons m rest ih => rw [memberCharacters, ih, List.flatMap_cons]

theorem isUnicode_arr {items : List Json} (h : ∀ item ∈ items, item.characters.IsUnicode) :
    (arr items).characters.IsUnicode := by
  intro c hc
  rw [characters, itemCharacters_eq_flatMap] at hc
  obtain ⟨item, hitem, hc⟩ := List.mem_flatMap.1 hc
  exact h item hitem c hc

theorem isUnicode_obj_iff {members : List (Text × Json)} :
    (obj members).characters.IsUnicode ↔
      ∀ m ∈ members, m.1.IsUnicode ∧ m.2.characters.IsUnicode := by
  simp only [Text.IsUnicode, characters, memberCharacters_eq_flatMap, List.mem_flatMap,
    List.mem_append]
  constructor
  · intro h m hm
    exact ⟨fun c hc => h c ⟨m, hm, Or.inl hc⟩, fun c hc => h c ⟨m, hm, Or.inr hc⟩⟩
  · rintro h c ⟨m, hm, hc | hc⟩
    · exact (h m hm).1 c hc
    · exact (h m hm).2 c hc

theorem isUnicode_put {name : Text} {value : Json} {members : List (Text × Json)}
    (hname : name.IsUnicode) (hvalue : value.characters.IsUnicode)
    (h : (obj members).characters.IsUnicode) :
    (obj (Association.put name value members)).characters.IsUnicode := by
  rw [isUnicode_obj_iff] at h ⊢
  intro m hm
  rcases Association.mem_put hm with rfl | hm
  · exact ⟨hname, hvalue⟩
  · exact h m hm

end Json

namespace Row

theorem mem_texts {rows : List Json} {s : Text} :
    s ∈ texts rows ↔ ∃ row ∈ rows, text? row = some s := List.mem_filterMap

theorem attach_map (rows : List Json) (f : Text → List Entity) :
    attach rows ((texts rows).map f) =
      rows.map fun row => (row, .ofEntities (((text? row).map f).getD [])) := by
  induction rows with
  | nil => rfl
  | cons row rest ih =>
    cases htext : text? row with
    | none =>
      have htexts : texts (row :: rest) = texts rest := List.filterMap_cons_none htext
      simp only [htexts, List.map_cons, attach, htext, ih]
      rfl
    | some s =>
      have htexts : texts (row :: rest) = s :: texts rest := List.filterMap_cons_some htext
      simp only [htexts, List.map_cons, attach, htext, ih]
      rfl

def addedNames : List Text := [text "entities", text "entity_labels"]

/-- What is written for a row: all other members keep their values and places, the two that are
added take the places of those of their names, or stand at the end. -/
structure IsAnnotated (row : Json) (found : List Entity) (written : List (Text × Json)) :
    Prop where
  entities : Association.get? (text "entities") written = some (.arr (found.map ofEntity))
  labels : ∃ names : List Text,
    Association.get? (text "entity_labels") written = some (.arr (names.map .str)) ∧
      names.Pairwise (List.Lex (· < ·)) ∧ ∀ name, name ∈ names ↔ ∃ e ∈ found, e.label = name
  others : written.filter (fun m => decide (m.1 ∉ addedNames)) =
    (members row).filter fun m => decide (m.1 ∉ addedNames)
  names : written.map Prod.fst = (members row).map Prod.fst ++
    addedNames.filter fun name => decide (name ∉ (members row).map Prod.fst)

def hasEntities (written : List (Text × Json)) : Bool :=
  match Association.get? (text "entities") written with
  | some (.arr items) => !items.isEmpty
  | _ => false

theorem IsAnnotated.hasEntities_eq {row : Json} {found : List Entity}
    {written : List (Text × Json)} (h : IsAnnotated row found written) :
    hasEntities written = !found.isEmpty := by
  rw [hasEntities, h.entities]
  cases found <;> rfl

def annotatedMembers (row : Json) (found : List Entity) : List (Text × Json) :=
  Association.put (text "entity_labels")
    (.arr ((sortedDistinct (found.map (·.label))).map .str))
    (Association.put (text "entities") (.arr (found.map ofEntity)) (members row))

theorem line_ofEntities (row : Json) (found : List Entity) :
    line row (.ofEntities found) = (Json.obj (annotatedMembers row found)).write ++ [10] := rfl

theorem isAnnotated_annotatedMembers (row : Json) (found : List Entity) :
    IsAnnotated row found (annotatedMembers row found) := by
  have hadded : ∀ name ∈ addedNames, decide (name ∉ addedNames) = false := by
    intro name hname
    simpa using hname
  have hnames : text "entities" ≠ text "entity_labels" := by decide
  refine ⟨?_, ⟨sortedDistinct (found.map (·.label)), ?_, ?_, ?_⟩, ?_, ?_⟩
  · rw [annotatedMembers, Association.get?_put_of_ne hnames, Association.get?_put_self]
  · rw [annotatedMembers, Association.get?_put_self]
  · exact pairwise_lex_sortedDistinct _
  · simp [mem_sortedDistinct]
  · rw [annotatedMembers,
      Association.filter_put (fun name => decide (name ∉ addedNames)) (hadded _ (by decide)),
      Association.filter_put (fun name => decide (name ∉ addedNames)) (hadded _ (by decide))]
  · rw [annotatedMembers, Association.map_fst_put, Association.map_fst_put]
    by_cases hentities : text "entities" ∈ (members row).map Prod.fst <;>
      by_cases hlabels : text "entity_labels" ∈ (members row).map Prod.fst <;>
      simp only [hentities, hlabels, addedNames, List.filter_cons, List.filter_nil, if_true,
        if_false, not_true_eq_false, not_false_eq_true, decide_true, decide_false,
        List.mem_append, List.mem_singleton, Ne.symm hnames, or_false, List.append_nil,
        Bool.false_eq_true, List.append_assoc, List.cons_append, List.nil_append]

theorem isUnicode_members {row : Json} (h : row.characters.IsUnicode) :
    (Json.obj (members row)).characters.IsUnicode := by
  have hname : (text "value").IsUnicode := by decide
  have hother : ∀ value : Json, value.characters.IsUnicode →
      (Json.obj [(text "value", value)]).characters.IsUnicode := by
    intro value hvalue
    rw [Json.isUnicode_obj_iff]
    intro m hm
    obtain rfl := List.mem_singleton.1 hm
    exact ⟨hname, hvalue⟩
  cases row with
  | obj members => exact h
  | _ => exact hother _ h

theorem isUnicode_line {row : Json} {found : List Entity} (hrow : row.characters.IsUnicode)
    (hfound : ∀ e ∈ found, e.text.IsUnicode ∧ e.label.IsUnicode) :
    (line row (.ofEntities found)).IsUnicode := by
  have hlabels :
      (Json.arr ((sortedDistinct (found.map (·.label))).map .str)).characters.IsUnicode := by
    refine Json.isUnicode_arr ?_
    intro item hitem
    obtain ⟨name, hname, rfl⟩ := List.mem_map.1 hitem
    obtain ⟨e, he, rfl⟩ := List.mem_map.1 (mem_sortedDistinct.1 hname)
    exact (hfound e he).2
  have hentities : (Json.arr (found.map ofEntity)).characters.IsUnicode := by
    refine Json.isUnicode_arr ?_
    intro item hitem
    obtain ⟨e, he, rfl⟩ := List.mem_map.1 hitem
    refine Json.isUnicode_obj_iff.2 ?_
    simp only [List.forall_mem_cons, List.not_mem_nil, false_imp_iff, implies_true, and_true]
    have hscore : (Json.float e.score).characters.IsUnicode := List.forall_mem_nil _
    exact ⟨⟨by decide, (hfound e he).1⟩, ⟨by decide, hscore⟩, by decide, (hfound e he).2⟩
  rw [line_ofEntities]
  refine (Json.isUnicode_write ?_).append (by decide)
  exact Json.isUnicode_put (by decide) hlabels
    (Json.isUnicode_put (by decide) hentities (isUnicode_members hrow))

end Row

end EntityTagger
