import EntityTagger.Proofs.Directories
import EntityTagger.Proofs.Path.Below
import EntityTagger.Stage.Tree

/-! What a pattern for names finds: everything below a directory whose name fits. -/
namespace EntityTagger

namespace Wildcard

theorem parse_of_not_isPattern {name : Text} (h : isPattern name = false) :
    parse name.length name = name.map .literal := by
  induction name with
  | nil => rfl
  | cons c rest ih =>
    have hc : ¬ c = 42 ∧ ¬ c = 63 ∧ ¬ c = 91 := by
      simp only [isPattern, List.any_cons, Bool.or_eq_false_iff, decide_eq_false_iff_not] at h
      tauto
    have hrest : isPattern rest = false := by
      simp only [isPattern, List.any_cons, Bool.or_eq_false_iff] at h
      exact h.2
    rw [List.length_cons, parse, if_neg hc.1, if_neg hc.2.1, if_neg hc.2.2, ih hrest]
    rfl

theorem fits_literal_iff {name other : Text} :
    fits (name.map .literal) other = true ↔ other = name := by
  induction name generalizing other with
  | nil => cases other <;> simp [fits]
  | cons c rest ih =>
    cases other with
    | nil => simp [fits]
    | cons d other =>
      rw [List.map_cons, fits]
      · simp [Part.fits, ih]
      · simp

theorem fitsName_iff_eq {name other : Text} (h : isPattern name = false) :
    fitsName name other = true ↔ other = name := by
  rw [fitsName, parse_of_not_isPattern h]
  exact fits_literal_iff

end Wildcard

namespace Glob

open FileSystem

variable {fs : FileSystem} {directory : Path} {source : Location} {names : List Text}
  {pattern name : Text}

/-- A pattern for names: it has a single component, and this asks for a name. -/
structure IsNamePattern (pattern name : Text) : Prop where
  path_eq : Path.ofText pattern = ⟨.relative, [name]⟩
  no_slash : pattern.getLast? ≠ some 47
  ne_dots : name ≠ text ".."
  no_stars : (name.zip name.tail).contains (42, 42) = false

/-- The step that a pattern for names makes in a directory. -/
def stepFor (name : Text) : GlobStep :=
  if Wildcard.isPattern name then .matching name else .named name

theorem IsNamePattern.steps_eq (h : IsNamePattern pattern name) :
    steps pattern = .ok [stepFor name] := by
  have hstars : name ≠ text "**" := by
    rintro rfl
    exact absurd h.no_stars (by decide)
  have hstep : stepOf name = .ok (stepFor name) := by
    rw [stepOf, if_neg hstars, h.no_stars, if_neg Bool.false_ne_true, stepFor]
    split_ifs <;> rfl
  have hparts : [name].mapM stepOf = .ok [stepFor name] :=
    Traversal.mapM_eq_ok_iff.2 (.cons hstep .nil)
  have hrelative : ¬ (⟨.relative, [name]⟩ : Path).isAbsolute = true := by
    simp [Path.isAbsolute]
  rw [steps, h.path_eq, if_neg hrelative]
  simp only [hparts, bind, Except.bind, if_neg h.no_slash]
  rfl

/-- A path below a directory under which something stands whose name fits. -/
def IsMatch (fs : FileSystem) (directory : Path) (name : Text) (path : Path) : Prop :=
  ∃ names last, text ".." ∉ names ++ [last] ∧
    path = directory.append ⟨.relative, names ++ [last]⟩ ∧ fs.isPresent path = true ∧
    Wildcard.fitsName name last = true

theorem IsMatch.isPresent {path : Path} (h : IsMatch fs directory name path) :
    fs.isPresent path = true := by
  obtain ⟨names, last, -, -, hpresent, -⟩ := h
  exact hpresent

theorem IsMatch.isDirectory {path : Path} (h : IsMatch fs directory name path) :
    fs.isDirectory directory = true := by
  obtain ⟨names, last, -, rfl, hpresent, -⟩ := h
  obtain ⟨node, hfind⟩ := Option.isSome_iff_exists.1 hpresent
  obtain ⟨place, hplace, -⟩ := find?_eq_some_iff.1 hfind
  have hparts : (directory.append ⟨.relative, names ++ [last]⟩).parts =
      directory.parts ++ (names ++ [last]) := by simp [Path.append]
  obtain ⟨-, hdown⟩ := walk_eq_ok_iff_lead.1 hplace
  obtain ⟨time, hdir⟩ := hdown directory.parts (names ++ [last]) hparts (by simp)
  have hresolve : fs.resolve directory = .ok (lead [] directory.parts) := by
    refine walk_eq_ok_iff_lead.2 ⟨rfl, fun above below hsplit hb => ?_⟩
    exact hdown above (below ++ (names ++ [last])) (by rw [hparts, hsplit, List.append_assoc])
      (by simp)
  exact isDirectory_iff.2 ⟨time, find?_eq_some_iff.2 ⟨_, hresolve, hdir⟩⟩

theorem asksForName_stepFor (name : Text) :
    AsksForName (stepFor name) (Wildcard.fitsName name · = true) := by
  rw [stepFor]
  split
  · exact asksForName_matching name
  · next hpattern =>
    have hfits : (Wildcard.fitsName name · = true) = (· = name) :=
      funext fun last => propext (Wildcard.fitsName_iff_eq (Bool.not_eq_true _ ▸ hpattern))
    rw [hfits]
    exact asksForName_named name

theorem leadsTo_stepFor_iff : LeadsTo [.descend, stepFor name] names ↔
    ∃ above last, names = above ++ [last] ∧ Wildcard.fitsName name last = true := by
  rw [leadsTo_descend_iff]
  simp only [(asksForName_stepFor name).leadsTo_iff]
  constructor
  · rintro ⟨above, more, rfl, last, rest, rfl, hfits, hrest⟩
    cases hrest
    exact ⟨above, last, rfl, hfits⟩
  · rintro ⟨above, last, rfl, hfits⟩
    exact ⟨above, [last], rfl, last, [], rfl, hfits, .nil⟩

theorem mem_select_descend_iff (h : fs.IsTree directory source) (hname : name ≠ text "..")
    (hdir : fs.isDirectory directory = true) {path : Path} :
    path ∈ select fs [.descend, stepFor name] directory ↔ IsMatch fs directory name path := by
  have hsteps : GlobStep.named (text "..") ∉ [.descend, stepFor name] := by
    rw [stepFor]
    split_ifs <;> simp [hname.symm]
  rw [mem_select_iff h hsteps hdir]
  constructor
  · rintro ⟨more, rfl, hfound⟩
    obtain ⟨names, last, rfl, hfits⟩ := leadsTo_stepFor_iff.1 hfound.leadsTo
    exact ⟨names, last, hfound.not_dots, rfl, hfound.isPresent, hfits⟩
  · rintro ⟨names, last, hdots, rfl, hpresent, hfits⟩
    have hends : endsInDirectory [.descend, stepFor name] = false :=
      (asksForName_stepFor name).ends_eq []
    refine ⟨_, rfl, hdots, leadsTo_stepFor_iff.2 ⟨names, last, rfl, hfits⟩, hpresent, ?_⟩
    simp [hends]

theorem IsMatch.isBelow {path : Path} (h : IsMatch fs directory name path) :
    IsBelow directory path := by
  obtain ⟨names, last, hdots, rfl, -, -⟩ := h
  exact ⟨names ++ [last], hdots, rfl⟩

theorem IsNamePattern.isPlain (h : IsNamePattern pattern name) : IsPlain pattern := by
  rw [IsPlain, h.path_eq]
  exact fun hdots => h.ne_dots (List.mem_singleton.1 hdots).symm

end Glob

/-- No entry is called by two dots, as in every file system. -/
def FileSystem.IsPlain (fs : FileSystem) : Prop := ∀ entry ∈ fs.nodes, text ".." ∉ entry.1

theorem FileSystem.IsPlain.isTree {fs : FileSystem} (hplain : fs.IsPlain) {directory : Path}
    (hdir : fs.isDirectory directory = true) : fs.IsTree directory directory.location ∧
      fs.IsDirectoryAt directory.location := by
  obtain ⟨time, hfind⟩ := isDirectory_iff.1 hdir
  obtain ⟨source, hplace, hnode⟩ := find?_eq_some_iff.1 hfind
  obtain ⟨rfl, -⟩ := walk_eq_ok_iff_lead.1 hplace
  refine ⟨⟨hplace, ?_⟩, time, hnode⟩
  exact fun names node hmem hdots => hplain _ hmem (List.mem_append_right _ hdots)

namespace Stage

open FileSystem Glob

variable {fs : FileSystem} {directory : Path} {pattern name : Text} {paths : List Path}

theorem inputs_eq_ok_iff : inputs fs directory pattern = .ok paths ↔
    below fs directory pattern = .ok paths := by
  rw [inputs]
  cases below fs directory pattern with
  | ok paths => simp
  | error fault => cases fault <;> simp

theorem isBelow_of_mem_inputs (hplain : fs.IsPlain) (hpattern : IsPlain pattern)
    (h : inputs fs directory pattern = .ok paths) {path : Path} (hmem : path ∈ paths) :
    IsBelow directory path := by
  rw [inputs_eq_ok_iff] at h
  exact isBelow_of_mem_below (hplain.isTree (isDirectory_of_mem_below h hmem)).1 hpattern h hmem

theorem isPresent_of_mem_inputs (hplain : fs.IsPlain) (hpattern : IsPlain pattern)
    (h : inputs fs directory pattern = .ok paths) {path : Path} (hmem : path ∈ paths) :
    fs.isPresent path = true := by
  rw [inputs_eq_ok_iff] at h
  exact isPresent_of_mem_below (hplain.isTree (isDirectory_of_mem_below h hmem)).1 hpattern h hmem

/-- A pattern for names finds all that fits, once, in the order of the components. -/
theorem exists_inputs (hplain : fs.IsPlain) (h : IsNamePattern pattern name) (directory : Path) :
    ∃ paths, inputs fs directory pattern = .ok paths ∧
      (paths.Pairwise fun a b => a.parts < b.parts) ∧
      ∀ path, path ∈ paths ↔ IsMatch fs directory name path := by
  have hbelow := below_eq fs directory pattern
  rw [h.steps_eq, Except.map] at hbelow
  have hmem : ∀ path, path ∈ (if fs.isDirectory directory then
      (select fs [.descend, stepFor name] directory).mergeSort le else []) ↔
        IsMatch fs directory name path := by
    intro path
    by_cases hdir : fs.isDirectory directory = true
    · rw [if_pos hdir, List.mem_mergeSort,
        mem_select_descend_iff (hplain.isTree hdir).1 h.ne_dots hdir]
    · rw [if_neg hdir]
      constructor
      · simp
      · exact fun hmatch => absurd hmatch.isDirectory hdir
  exact ⟨_, inputs_eq_ok_iff.2 hbelow,
    pairwise_below hbelow fun path hpath => ((hmem path).1 hpath).isBelow, hmem⟩

theorem inputs_eq_of_perm (hplain : fs.IsPlain) (h : IsNamePattern pattern name)
    (hdir : fs.isDirectory directory = true)
    (hperm : (select fs [.descend, stepFor name] directory).Perm paths)
    (hsorted : paths.Pairwise fun a b => a.parts < b.parts) :
    inputs fs directory pattern = .ok paths ∧
      ∀ path, path ∈ paths ↔ IsMatch fs directory name path := by
  obtain ⟨found, hfound, hordered, hmem⟩ := exists_inputs hplain h directory
  have hmatch : ∀ path, path ∈ paths ↔ IsMatch fs directory name path := by
    intro path
    rw [← hperm.mem_iff, mem_select_descend_iff (hplain.isTree hdir).1 h.ne_dots hdir]
  refine ⟨?_, hmatch⟩
  rw [hfound, eq_of_mem_iff hordered hsorted fun path => (hmem path).trans (hmatch path).symm]

end Stage

end EntityTagger
