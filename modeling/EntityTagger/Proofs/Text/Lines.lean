import EntityTagger.Text.Lines
import Mathlib.Data.Nat.Notation

/-! The lines of a text, described by their ends: a line feed, a carriage return, or both in this
order, and nothing else. -/
namespace EntityTagger.Text

variable {t line ending rest : Text} {texts found : List Text}

/-- A text that ends no line. -/
def IsWithinLine (t : Text) : Prop := ∀ c ∈ t, c ≠ 10 ∧ c ≠ 13

inductive IsLineEnd : Text → Prop
  | lineFeed : IsLineEnd [10]
  | carriageReturn : IsLineEnd [13]
  | both : IsLineEnd [13, 10]

/-- A text cut into its lines. Every line has an end; the last one may go without if it is not
empty. A carriage return before a line feed is no end by itself. -/
inductive CutInto : Text → List Text → Prop
  | nothing : CutInto [] []
  | unended {line : Text} : line.IsWithinLine → line ≠ [] → CutInto line [line]
  | ended {line ending rest : Text} {found : List Text} : line.IsWithinLine → IsLineEnd ending →
    (ending = [13] → rest.head? ≠ some 10) → CutInto rest found →
      CutInto (line ++ ending ++ rest) (line :: found)

theorem cutLinesFrom_of_isWithinLine (h : t.IsWithinLine) (line rest : Text) :
    cutLinesFrom line (t ++ rest) = cutLinesFrom (t.reverse ++ line) rest := by
  induction t generalizing line with
  | nil => rfl
  | cons c t ih =>
    obtain ⟨hfeed, hreturn⟩ := h c (List.mem_cons_self ..)
    have hrest := ih fun d hd => h d (List.mem_cons_of_mem c hd)
    have hstep : cutLinesFrom line (c :: (t ++ rest)) = cutLinesFrom (c :: line) (t ++ rest) := by
      rw [cutLinesFrom, if_neg (by simp [hfeed, hreturn])]
      exact fun _ hc => absurd hc hreturn
    rw [List.cons_append, hstep, hrest, List.reverse_cons, List.append_assoc]
    rfl

theorem cutLinesFrom_of_isLineEnd (h : IsLineEnd ending)
    (hwhole : ending = [13] → rest.head? ≠ some 10) (line : Text) :
    cutLinesFrom line (ending ++ rest) =
      (line.reverse :: (cutLinesFrom [] rest).1, (cutLinesFrom [] rest).2) := by
  cases h with
  | lineFeed => rfl
  | both => rfl
  | carriageReturn =>
    cases rest with
    | nil => rfl
    | cons c rest =>
      have hc : c ≠ 10 := by simpa using hwhole rfl
      have hstep : ∀ after, c :: rest ≠ 10 :: after := fun after heq => hc (List.cons.inj heq).1
      rw [List.singleton_append, cutLinesFrom, if_pos (Or.inr rfl)]
      exact fun after _ heq => hstep after heq

theorem lines_append (h : line.IsWithinLine) (hend : IsLineEnd ending)
    (hwhole : ending = [13] → rest.head? ≠ some 10) :
    lines (line ++ ending ++ rest) = line :: lines rest := by
  have hcut : cutLines (line ++ ending ++ rest) =
      (line :: (cutLines rest).1, (cutLines rest).2) := by
    rw [cutLines, List.append_assoc, cutLinesFrom_of_isWithinLine h,
      cutLinesFrom_of_isLineEnd hend hwhole, List.append_nil, List.reverse_reverse]
    rfl
  rw [lines, hcut, lines]
  dsimp only
  split <;> rfl

theorem lines_of_isWithinLine (h : line.IsWithinLine) (hne : line ≠ []) : lines line = [line] := by
  have hcut : cutLines line = ([], line) := by
    have hwithin := cutLinesFrom_of_isWithinLine h [] []
    rw [List.append_nil, List.append_nil] at hwithin
    rw [cutLines, hwithin, cutLinesFrom, List.reverse_reverse]
  have hempty : line.isEmpty = false := by simpa using hne
  rw [lines, hcut]
  dsimp only
  rw [hempty]
  rfl

theorem CutInto.lines_eq (h : CutInto t found) : t.lines = found := by
  induction h with
  | nothing => rfl
  | unended hwithin hne => exact lines_of_isWithinLine hwithin hne
  | ended hwithin hend hwhole _ ih => rw [lines_append hwithin hend hwhole, ih]

theorem isWithinLine_or_break (t : Text) : t.IsWithinLine ∨
    ∃ line c rest, t = line ++ c :: rest ∧ IsWithinLine line ∧ (c = 10 ∨ c = 13) := by
  induction t with
  | nil => exact Or.inl (List.forall_mem_nil _)
  | cons d t ih =>
    by_cases hd : d = 10 ∨ d = 13
    · exact Or.inr ⟨[], d, t, rfl, List.forall_mem_nil _, hd⟩
    · rw [not_or] at hd
      rcases ih with hwithin | ⟨line, c, rest, rfl, hline, hc⟩
      · exact Or.inl (List.forall_mem_cons.2 ⟨hd, hwithin⟩)
      · exact Or.inr ⟨d :: line, c, rest, rfl, List.forall_mem_cons.2 ⟨hd, hline⟩, hc⟩

theorem exists_isLineEnd {c : ℕ} (hc : c = 10 ∨ c = 13) (after : Text) : ∃ ending rest,
    c :: after = ending ++ rest ∧ IsLineEnd ending ∧ (ending = [13] → rest.head? ≠ some 10) := by
  rcases hc with rfl | rfl
  · exact ⟨[10], after, rfl, .lineFeed, by simp⟩
  · by_cases hfeed : after.head? = some 10
    · obtain ⟨rest, rfl⟩ : ∃ rest, after = 10 :: rest := List.head?_eq_some_iff.1 hfeed
      exact ⟨[13, 10], rest, rfl, .both, by simp⟩
    · exact ⟨[13], after, rfl, .carriageReturn, fun _ => hfeed⟩

theorem exists_cutInto (t : Text) : ∃ found, CutInto t found := by
  rcases isWithinLine_or_break t with hwithin | ⟨line, c, after, rfl, hline, hc⟩
  · by_cases hne : t = []
    · exact ⟨[], hne ▸ .nothing⟩
    · exact ⟨[t], .unended hwithin hne⟩
  · obtain ⟨ending, rest, hsplit, hend, hwhole⟩ := exists_isLineEnd hc after
    have hshort : rest.length < (line ++ c :: after).length := by
      have hpos : 0 < ending.length := by cases hend <;> decide
      rw [hsplit, List.length_append, List.length_append]
      omega
    obtain ⟨found, hfound⟩ := exists_cutInto rest
    rw [hsplit, ← List.append_assoc]
    exact ⟨line :: found, .ended hline hend hwhole hfound⟩
termination_by t.length

/-- The lines that are cut are the only ones that a text can be cut into. -/
theorem lines_eq_iff : t.lines = found ↔ CutInto t found := by
  constructor
  · rintro rfl
    obtain ⟨found, hfound⟩ := exists_cutInto t
    exact hfound.lines_eq.symm ▸ hfound
  · exact CutInto.lines_eq

theorem lines_flatMap (h : ∀ t ∈ texts, t.IsWithinLine) (hend : IsLineEnd ending) :
    lines (texts.flatMap (· ++ ending)) = texts := by
  induction texts with
  | nil => rfl
  | cons t texts ih =>
    have hrest := ih fun s hs => h s (List.mem_cons_of_mem t hs)
    rw [List.flatMap_cons, lines_append (h t (List.mem_cons_self ..)) hend, hrest]
    rintro rfl
    -- the next line begins with a character of its own or with its end
    rcases texts with _ | ⟨_ | ⟨c, s⟩, texts⟩
    · simp
    · simp
    · have hs := h (c :: s) (List.mem_cons_of_mem t (List.mem_cons_self ..))
      simpa using (hs c (List.mem_cons_self ..)).1

end EntityTagger.Text
