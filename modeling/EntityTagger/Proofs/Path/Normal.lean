import EntityTagger.Path
import Mathlib.Data.List.Basic

/-! Paths and their texts: the text of a path denotes that path again. -/
namespace EntityTagger

namespace Text

variable {separator : ℕ} {t part : Text} {parts : List Text}

theorem splitAt_ne_nil (separator : ℕ) (t : Text) : splitAt separator t ≠ [] := by
  induction t with
  | nil => exact List.cons_ne_nil _ _
  | cons c rest ih =>
    rw [splitAt]
    split_ifs
    · exact List.cons_ne_nil _ _
    · split <;> exact List.cons_ne_nil _ _

theorem splitAt_cons {c : ℕ} (hc : c ≠ separator) (h : splitAt separator t = part :: parts) :
    splitAt separator (c :: t) = (c :: part) :: parts := by
  rw [splitAt, if_neg hc, h]

theorem splitAt_of_not_mem (h : separator ∉ t) : splitAt separator t = [t] := by
  induction t with
  | nil => rfl
  | cons c rest ih =>
    rw [List.mem_cons, not_or] at h
    exact splitAt_cons (Ne.symm h.1) (ih h.2)

theorem splitAt_append (h : separator ∉ part) (t : Text) :
    splitAt separator (part ++ separator :: t) = part :: splitAt separator t := by
  induction part with
  | nil => rw [List.nil_append, splitAt, if_pos rfl]
  | cons c rest ih =>
    rw [List.mem_cons, not_or] at h
    exact splitAt_cons (Ne.symm h.1) (ih h.2)

theorem splitAt_join (hne : parts ≠ []) (h : ∀ part ∈ parts, separator ∉ part) :
    splitAt separator (join [separator] parts) = parts := by
  induction parts with
  | nil => exact absurd rfl hne
  | cons part rest ih =>
    have hpart := h part (List.mem_cons_self ..)
    cases rest with
    | nil => exact splitAt_of_not_mem hpart
    | cons next others =>
      have hrest := ih (List.cons_ne_nil _ _) fun a ha => h a (List.mem_cons_of_mem _ ha)
      rw [join, List.append_assoc, List.singleton_append, splitAt_append hpart, hrest]
      exact List.cons_ne_nil _ _

theorem not_mem_of_mem_splitAt (h : part ∈ splitAt separator t) : separator ∉ part := by
  induction t generalizing part with
  | nil =>
    obtain rfl := List.mem_singleton.1 h
    exact List.not_mem_nil
  | cons c rest ih =>
    rw [splitAt] at h
    split_ifs at h with hc
    · rcases List.mem_cons.1 h with rfl | h
      · exact List.not_mem_nil
      · exact ih h
    · split at h
      · next hnil => exact absurd hnil (splitAt_ne_nil separator rest)
      · next first others hfirst =>
        rcases List.mem_cons.1 h with rfl | h
        · rw [List.mem_cons, not_or]
          exact ⟨Ne.symm hc, ih (hfirst ▸ List.mem_cons_self ..)⟩
        · exact ih (hfirst ▸ List.mem_cons_of_mem _ h)

end Text

namespace Path

variable {p base : Path}

/-- The components of a path are names: not empty, no single dot, and without slashes. -/
def IsNormal (p : Path) : Prop := ∀ part ∈ p.parts, isPart part = true ∧ 47 ∉ part

instance (p : Path) : Decidable p.IsNormal :=
  inferInstanceAs (Decidable (∀ part ∈ p.parts, isPart part = true ∧ 47 ∉ part))

theorem isNormal_ofText (t : Text) : (ofText t).IsNormal := by
  intro part hpart
  obtain ⟨hcut, hname⟩ := List.mem_filter.1 hpart
  exact ⟨hname, Text.not_mem_of_mem_splitAt hcut⟩

theorem IsNormal.append (hbase : base.IsNormal) (hp : p.IsNormal) : (base.append p).IsNormal := by
  rw [Path.append]
  split_ifs
  · intro part hpart
    rcases List.mem_append.1 hpart with hpart | hpart
    · exact hbase part hpart
    · exact hp part hpart
  · exact hp

theorem append_of_isAbsolute (h : p.isAbsolute = true) (base : Path) : base.append p = p := by
  rw [Path.append, if_neg (by simpa [isAbsolute] using h)]

theorem isAbsolute_append (h : base.isAbsolute = true) (p : Path) :
    (base.append p).isAbsolute = true := by
  rw [Path.append]
  split_ifs with hroot
  · exact h
  · simpa [isAbsolute] using hroot

theorem IsNormal.join_eq_cons (h : p.IsNormal) (hne : p.parts ≠ []) :
    ∃ c rest, Text.join [47] p.parts = c :: rest ∧ c ≠ 47 := by
  obtain ⟨root, parts⟩ := p
  obtain ⟨part, others, rfl⟩ := List.exists_cons_of_ne_nil hne
  obtain ⟨hname, hslash⟩ := h part (List.mem_cons_self ..)
  cases part with
  | nil => simp [isPart] at hname
  | cons c rest =>
    rw [List.mem_cons, not_or] at hslash
    cases others with
    | nil => exact ⟨c, rest, rfl, Ne.symm hslash.1⟩
    | cons next more => exact ⟨c, _, rfl, Ne.symm hslash.1⟩

theorem rootOf_append {c : ℕ} (hc : c ≠ 47) (root : Root) (rest : Text) :
    rootOf (Root.toText root ++ c :: rest) = root := by
  have hone : text "/" = [47] := rfl
  have htwo : text "//" = [47, 47] := rfl
  cases root with
  | relative => simp [Root.toText, rootOf, hc]
  | absolute => simp [Root.toText, rootOf, hone, hc]
  | doubled => simp [Root.toText, rootOf, htwo, hc]

theorem filter_splitAt_append (root : Root) (t : Text) :
    (Text.splitAt 47 (Root.toText root ++ t)).filter isPart = (Text.splitAt 47 t).filter isPart := by
  cases root <;> rfl

theorem IsNormal.ofText_toText (h : p.IsNormal) : ofText p.toText = p := by
  by_cases hne : p.parts = []
  · obtain ⟨root, parts⟩ := p
    obtain rfl : parts = [] := hne
    cases root <;> rfl
  · obtain ⟨c, rest, hjoin, hc⟩ := h.join_eq_cons hne
    have htext : p.toText = Root.toText p.root ++ c :: rest := by
      rw [toText, if_neg fun hempty => hne hempty.2, ← hjoin]
      rfl
    have hparts : (Text.splitAt 47 (c :: rest)).filter isPart = p.parts := by
      rw [← hjoin, Text.splitAt_join hne fun part hpart => (h part hpart).2, List.filter_eq_self]
      exact fun part hpart => (h part hpart).1
    rw [ofText, htext, rootOf_append hc, filter_splitAt_append, hparts]

end Path

end EntityTagger
