import EntityTagger.Proofs.Path.Finding
import EntityTagger.Proofs.Text.Order
import Mathlib.Data.List.Sort

/-! The paths below a directory that fit a pattern: everything that its steps find, once, in the order
of the components. They only change with what is there under names that fit. -/
namespace EntityTagger.Glob

open FileSystem

variable {fs next : FileSystem} {directory path : Path} {source : Location} {pattern : Text}
  {found : List GlobStep} {names : List Text} {paths : List Path}

theorem leParts_iff {a b : List Text} :
    le.leParts a b = true ↔ List.Lex (· < ·) a b ∨ a = b := by
  induction a generalizing b with
  | nil => cases b <;> simp [le.leParts]
  | cons first rest ih =>
    cases b with
    | nil => simp [le.leParts]
    | cons other others =>
      rw [le.leParts, List.cons_lex_cons_iff]
      by_cases h : first = other
      · simp [h, ih]
      · simp [h, Text.le_iff_le, le_iff_lt_or_eq]

theorem le_iff {a b : Path} : le a b = true ↔ a.parts ≤ b.parts := by
  rw [le, leParts_iff, le_iff_lt_or_eq]
  exact Iff.rfl

theorem nodup_eraseDups {α : Type} [BEq α] [LawfulBEq α] (items : List α) :
    items.eraseDups.Nodup := by
  match items with
  | [] => exact List.nodup_nil
  | x :: rest =>
    rw [List.eraseDups_cons, List.nodup_cons]
    exact ⟨by simp, nodup_eraseDups (rest.filter fun y => !y == x)⟩
termination_by items.length
decreasing_by exact Nat.lt_succ_of_le (List.length_filter_le _ _)

theorem IsBelow.eq_of_parts {a b : Path} (ha : IsBelow directory a) (hb : IsBelow directory b)
    (hparts : a.parts = b.parts) : a = b := by
  obtain ⟨names, -, rfl⟩ := ha
  obtain ⟨others, -, rfl⟩ := hb
  simpa [Path.append] using hparts

theorem isDirectory_of_mem_below {paths : List Path} (h : below fs directory pattern = .ok paths)
    (hmem : path ∈ paths) : fs.isDirectory directory = true := by
  rw [below_eq] at h
  obtain ⟨found, -, rfl⟩ := Traversal.map_eq_ok_iff.1 h
  by_contra hdir
  rw [if_neg hdir] at hmem
  simp at hmem

/-- What is found is in the order of the components, and nothing is found twice. -/
theorem pairwise_below {paths : List Path} (h : below fs directory pattern = .ok paths)
    (hbelow : ∀ path ∈ paths, IsBelow directory path) :
    paths.Pairwise fun a b => a.parts < b.parts := by
  rw [below_eq] at h
  obtain ⟨found, -, rfl⟩ := Traversal.map_eq_ok_iff.1 h
  split at hbelow
  · next hdir =>
    rw [if_pos hdir]
    have hsorted : ((select fs (.descend :: found) directory).mergeSort le).Pairwise
        fun a b => le a b = true := by
      refine List.pairwise_mergeSort ?_ ?_ _
      · intro a b c hab hbc
        rw [le_iff] at hab hbc ⊢
        exact hab.trans hbc
      · intro a b
        simpa [le_iff] using le_total a.parts b.parts
    have hnodup : ((select fs (.descend :: found) directory).mergeSort le).Nodup := by
      rw [(List.mergeSort_perm _ _).nodup_iff, select_descend]
      exact nodup_eraseDups _
    refine (hsorted.and hnodup).imp_of_mem ?_
    rintro a b ha hb ⟨hab, hne⟩
    refine lt_of_le_of_ne (le_iff.1 hab) fun hparts => hne ?_
    exact (hbelow a ha).eq_of_parts (hbelow b hb) hparts
  · next hdir =>
    rw [if_neg hdir]
    exact List.Pairwise.nil

theorem nodup_of_pairwise_lt {paths : List Path}
    (h : paths.Pairwise fun a b => a.parts < b.parts) : paths.Nodup :=
  h.imp fun hlt => ne_of_apply_ne Path.parts hlt.ne

theorem eq_of_mem_iff {paths others : List Path}
    (h : paths.Pairwise fun a b => a.parts < b.parts)
    (k : others.Pairwise fun a b => a.parts < b.parts)
    (hmem : ∀ path, path ∈ paths ↔ path ∈ others) : paths = others := by
  have hirrefl : Std.Irrefl fun a b : Path => a.parts < b.parts := ⟨fun a => lt_irrefl a.parts⟩
  have hantisymm : Std.Antisymm fun a b : Path => a.parts < b.parts :=
    ⟨fun a b hab hba => absurd hba hab.asymm⟩
  exact h.eq_of_mem_iff k hmem

/-- The names that a pattern leads down by, from a directory or one below it. -/
def Fits (pattern : Text) (names : List Text) : Prop :=
  ∃ found, steps pattern = .ok found ∧ LeadsTo (.descend :: found) names

theorem mem_below_iff (h : fs.IsTree directory source) (hpattern : IsPlain pattern)
    (hsteps : steps pattern = .ok found) (hpaths : below fs directory pattern = .ok paths) :
    path ∈ paths ↔ ∃ names, path = directory.append ⟨.relative, names⟩ ∧
      IsFound fs directory (.descend :: found) [] names := by
  rw [below_eq, hsteps, Except.map, Except.ok.injEq] at hpaths
  subst hpaths
  by_cases hdir : fs.isDirectory directory = true
  · rw [if_pos hdir, List.mem_mergeSort]
    exact mem_select_iff h (not_named_dots hpattern hsteps) hdir
  · rw [if_neg hdir]
    constructor
    · intro hmem
      simp at hmem
    · rintro ⟨names, -, hfound⟩
      rcases hfound.above h with ⟨hnil, -⟩ | hup
      · simp at hnil
      · rw [Path.append_nil] at hup
        exact absurd hup hdir

theorem exists_isFound (h : fs.IsTree directory source) (hpattern : IsPlain pattern)
    (hpaths : below fs directory pattern = .ok paths) (hmem : path ∈ paths) :
    ∃ found names, path = directory.append ⟨.relative, names⟩ ∧
      IsFound fs directory (.descend :: found) [] names := by
  have hbelow := hpaths
  rw [below_eq] at hbelow
  obtain ⟨found, hsteps, -⟩ := Traversal.map_eq_ok_iff.1 hbelow
  exact ⟨found, (mem_below_iff h hpattern hsteps hpaths).1 hmem⟩

theorem isBelow_of_mem_below (h : fs.IsTree directory source) (hpattern : IsPlain pattern)
    (hpaths : below fs directory pattern = .ok paths) (hmem : path ∈ paths) :
    IsBelow directory path := by
  obtain ⟨found, names, rfl, hfound⟩ := exists_isFound h hpattern hpaths hmem
  exact ⟨names, hfound.not_dots, rfl⟩

theorem isPresent_of_mem_below (h : fs.IsTree directory source) (hpattern : IsPlain pattern)
    (hpaths : below fs directory pattern = .ok paths) (hmem : path ∈ paths) :
    fs.isPresent path = true := by
  obtain ⟨found, names, rfl, hfound⟩ := exists_isFound h hpattern hpaths hmem
  exact hfound.isPresent

/-- Only what is there under names that fit matters to what a pattern finds. -/
theorem below_congr (h : fs.IsTree directory source) (hnext : next.IsTree directory source)
    (hpattern : IsPlain pattern)
    (hsame : ∀ names, text ".." ∉ names → Fits pattern names →
      next.isPresent (directory.append ⟨.relative, names⟩) =
        fs.isPresent (directory.append ⟨.relative, names⟩) ∧
      next.isDirectory (directory.append ⟨.relative, names⟩) =
        fs.isDirectory (directory.append ⟨.relative, names⟩)) :
    below next directory pattern = below fs directory pattern := by
  cases hsteps : steps pattern with
  | error fault => rw [below_eq, below_eq, hsteps, Except.map, Except.map]
  | ok found =>
    obtain ⟨paths, hpaths⟩ : ∃ paths, below fs directory pattern = .ok paths := by
      rw [below_eq, hsteps]
      exact ⟨_, rfl⟩
    obtain ⟨others, hothers⟩ : ∃ others, below next directory pattern = .ok others := by
      rw [below_eq, hsteps]
      exact ⟨_, rfl⟩
    rw [hpaths, hothers]
    refine congrArg Except.ok (eq_of_mem_iff
      (pairwise_below hothers fun _ => isBelow_of_mem_below hnext hpattern hothers)
      (pairwise_below hpaths fun _ => isBelow_of_mem_below h hpattern hpaths) fun path => ?_)
    rw [mem_below_iff hnext hpattern hsteps hothers, mem_below_iff h hpattern hsteps hpaths]
    refine exists_congr fun names => and_congr_right fun _ => isFound_congr ?_
    exact fun more hdots hleads => hsame more hdots ⟨found, hsteps, hleads⟩

theorem below_eq_of_sameBelow (h : fs.IsTree directory source)
    (hnext : next.IsTree directory source) (hsame : SameBelow source fs next)
    (hpattern : IsPlain pattern) : below next directory pattern = below fs directory pattern := by
  refine below_congr h hnext hpattern fun names hdots _ => ?_
  have hfind := h.find?_eq hnext hsame hdots
  rw [isPresent, isPresent, isDirectory, isDirectory, hfind]
  exact ⟨rfl, rfl⟩

end EntityTagger.Glob
