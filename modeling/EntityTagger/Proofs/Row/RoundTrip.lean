import EntityTagger.Proofs.Json.RoundTrip
import EntityTagger.Proofs.Row
import EntityTagger.Proofs.Row.Reading
import EntityTagger.Proofs.Text.Lines
import EntityTagger.Proofs.Utf8.Pieces

/-! Written rows are read as they were. A row stands on one line and between two braces, so neither
the line ends nor the blanks in its texts are taken for those of the file. -/
namespace EntityTagger

namespace Text

theorem trim_eq_self {p : ℕ → Bool} {first last : ℕ} (hfirst : p first = false)
    (hlast : p last = false) (t : Text) : trim p (first :: t ++ [last]) = first :: t ++ [last] := by
  simp [trim, hfirst, hlast]

end Text

namespace Json

theorem isWithinLine_write (j : Json) : j.write.IsWithinLine := by
  intro c hc
  rcases writtenFrom_write j c hc with hprintable | ⟨hlow, -⟩
  · simp only [Text.isPrintable, Bool.and_eq_true, decide_eq_true_eq] at hprintable
    omega
  · omega

theorem exists_writeMembers (members : List (Text × Json)) :
    ∃ inside, writeMembers members = inside ++ [125] := by
  induction members with
  | nil => exact ⟨[], rfl⟩
  | cons m members ih =>
    obtain ⟨inside, hinside⟩ := ih
    rw [writeMembers, hinside, ← List.append_assoc]
    exact ⟨_, rfl⟩

theorem strip_write_obj (members : List (Text × Json)) :
    (write (.obj members)).strip = write (.obj members) := by
  obtain ⟨inside, hinside⟩ : ∃ inside, write (.obj members) = 123 :: inside ++ [125] := by
    cases members with
    | nil => exact ⟨[], rfl⟩
    | cons m members =>
      obtain ⟨inside, hinside⟩ := exists_writeMembers members
      rw [write, hinside, ← List.append_assoc]
      exact ⟨_, rfl⟩
  rw [hinside, Text.strip, Text.trim_eq_self (by decide) (by decide)]

end Json

namespace Row

variable {row : Json} {found : Annotation} {pairs : List (Json × Annotation)}

theorem isReadable_members (h : row.IsReadable) : (Json.obj (members row)).IsReadable := by
  have hother : ∀ value : Json, value.IsReadable →
      (Json.obj [(text "value", value)]).IsReadable := by
    intro value hvalue
    exact ⟨List.nodup_singleton _, hvalue, trivial⟩
  cases row with
  | obj members => exact h
  | _ => exact hother _ h

theorem isReadable_put {name : Text} {value : Json} {members : List (Text × Json)}
    (hvalue : value.IsReadable) (h : (Json.obj members).IsReadable) :
    (Json.obj (Association.put name value members)).IsReadable := by
  refine ⟨Association.nodup_put h.1, Json.membersReadable_iff.2 fun m hm => ?_⟩
  rcases Association.mem_put hm with rfl | hm
  · exact hvalue
  · exact Json.membersReadable_iff.1 h.2 m hm

theorem isReadable_ofEntity (e : Entity) : (ofEntity e).IsReadable := by
  have hnames : [text "text", text "score", text "label"].Nodup := by decide
  exact ⟨hnames, trivial, trivial, trivial, trivial⟩

theorem isReadable_annotate (h : row.IsReadable) (found : Annotation) :
    (annotate row found).IsReadable := by
  refine isReadable_put ?_ (isReadable_put ?_ (isReadable_members h))
  · refine Json.areReadable_iff.2 fun item hitem => ?_
    obtain ⟨label, -, rfl⟩ := List.mem_map.1 hitem
    trivial
  · refine Json.areReadable_iff.2 fun item hitem => ?_
    obtain ⟨e, -, rfl⟩ := List.mem_map.1 hitem
    exact isReadable_ofEntity e

theorem lines_flatMap_write (objects : List (List (Text × Json))) :
    Text.lines (objects.flatMap fun members => (Json.obj members).write ++ [10]) =
      objects.map fun members => (Json.obj members).write := by
  have hlines : (objects.flatMap fun members => (Json.obj members).write ++ [10]) =
      (objects.map fun members => (Json.obj members).write).flatMap (· ++ [10]) := by
    rw [List.flatMap_map]
  rw [hlines]
  refine Text.lines_flatMap (fun t ht => ?_) .lineFeed
  obtain ⟨members, -, rfl⟩ := List.mem_map.1 ht
  exact Json.isWithinLine_write _

/-- No line of a written object is blank or has blanks around it. -/
theorem entries_write (objects : List (List (Text × Json))) :
    entries (objects.map fun members => (Json.obj members).write) =
      objects.map fun members => (Json.obj members).write := by
  have hstrip : (objects.map fun members => (Json.obj members).write).map Text.strip =
      objects.map fun members => (Json.obj members).write := by
    rw [List.map_map]
    exact List.map_congr_left fun members _ => Json.strip_write_obj members
  rw [entries, hstrip, List.filter_eq_self]
  intro t ht
  obtain ⟨members, -, rfl⟩ := List.mem_map.1 ht
  cases members <;> rfl

theorem ofBytes_objects {objects : List (List (Text × Json))}
    (hreadable : ∀ members ∈ objects, (Json.obj members).IsReadable)
    (hunicode : ∀ members ∈ objects, (Json.obj members).write.IsUnicode) :
    ofBytes (Utf8.bytesOf (objects.flatMap fun members => (Json.obj members).write ++ [10])) =
      .ok (objects.map .obj) := by
  have hcontent :
      Text.IsUnicode (objects.flatMap fun members => (Json.obj members).write ++ [10]) := by
    intro c hc
    obtain ⟨members, hmembers, hc⟩ := List.mem_flatMap.1 hc
    exact (hunicode members hmembers).append (by decide) c hc
  refine ofBytes_eq_ok_iff.2 ⟨_, Utf8.decodeStream_bytesOf hcontent, ?_⟩
  rw [lines_flatMap_write, ofLines_eq_mapM, entries_write, Traversal.mapM_eq_ok_iff,
    List.forall₂_map_left_iff, List.forall₂_map_right_iff, List.forall₂_same]
  intro members hmembers
  exact Traversal.mapError_eq_ok_iff.2 (Json.read_write (hreadable members hmembers))

theorem obj_members_annotate (row : Json) (found : Annotation) :
    Json.obj (members (annotate row found)) = annotate row found := rfl

theorem lines_flatMap_line (pairs : List (Json × Annotation)) :
    Text.lines (pairs.flatMap fun pair => line pair.1 pair.2) =
      pairs.map fun pair => (annotate pair.1 pair.2).write := by
  have hlines := lines_flatMap_write (pairs.map fun pair => members (annotate pair.1 pair.2))
  simp only [List.flatMap_map, List.map_map, Function.comp_def, obj_members_annotate] at hlines
  exact hlines

/-- Written rows are read back, each with what was found in it. -/
theorem ofBytes_lines (hreadable : ∀ pair ∈ pairs, pair.1.IsReadable)
    (hunicode : ∀ pair ∈ pairs, (line pair.1 pair.2).IsUnicode) :
    ofBytes (Utf8.bytesOf (pairs.flatMap fun pair => line pair.1 pair.2)) =
      .ok (pairs.map fun pair => annotate pair.1 pair.2) := by
  have hobjects : ∀ object ∈ pairs.map fun pair => members (annotate pair.1 pair.2),
      (Json.obj object).IsReadable ∧ (Json.obj object).write.IsUnicode := by
    refine List.forall_mem_map.2 fun pair hpair => ?_
    rw [obj_members_annotate]
    refine ⟨isReadable_annotate (hreadable pair hpair) pair.2, fun c hc => ?_⟩
    exact hunicode pair hpair c (List.mem_append_left [10] hc)
  have hrows := ofBytes_objects (fun object h => (hobjects object h).1)
    (fun object h => (hobjects object h).2)
  simp only [List.flatMap_map, List.map_map, Function.comp_def, obj_members_annotate] at hrows
  exact hrows

end Row

end EntityTagger
