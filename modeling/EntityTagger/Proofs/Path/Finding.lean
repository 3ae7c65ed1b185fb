import EntityTagger.Proofs.Path.Glob

/-! What the steps of a pattern find: what is there under the names that they lead down by, and
directories only if the last step asks for no name. -/
namespace EntityTagger.Glob

open FileSystem

variable {fs : FileSystem} {directory : Path} {source : Location} {names more : List Text}

/-- The names that the steps of a pattern lead down by. -/
inductive LeadsTo : List GlobStep → List Text → Prop
  | nil : LeadsTo [] []
  | here {rest : List GlobStep} : LeadsTo (.here :: rest) []
  | named {rest : List GlobStep} {name : Text} {more : List Text} (hrest : LeadsTo rest more) :
      LeadsTo (.named name :: rest) (name :: more)
  | matching {rest : List GlobStep} {pattern name : Text} {more : List Text}
      (hfits : Wildcard.fitsName pattern name = true) (hrest : LeadsTo rest more) :
      LeadsTo (.matching pattern :: rest) (name :: more)
  | descend {rest : List GlobStep} {names above more : List Text} (hsplit : names = above ++ more)
      (hrest : LeadsTo rest more) : LeadsTo (.descend :: rest) names

/-- Whether steps end in directories only, as they do if the last of them asks for no name. -/
def endsInDirectory : List GlobStep → Bool
  | [] => false
  | .here :: _ => true
  | .descend :: rest => rest.isEmpty || endsInDirectory rest
  | .named _ :: rest => endsInDirectory rest
  | .matching _ :: rest => endsInDirectory rest

/-- What steps find from a path below the directory on, by the names that are left to it. -/
structure IsFound (fs : FileSystem) (directory : Path) (steps : List GlobStep)
    (names more : List Text) : Prop where
  not_dots : text ".." ∉ names ++ more
  leadsTo : LeadsTo steps more
  isPresent : fs.isPresent (directory.append ⟨.relative, names ++ more⟩) = true
  isDirectory : endsInDirectory steps = true →
    fs.isDirectory (directory.append ⟨.relative, names ++ more⟩) = true

def Finds (fs : FileSystem) (directory : Path) (steps : List GlobStep) (names : List Text) : Prop :=
  ∀ path, path ∈ select fs steps (directory.append ⟨.relative, names⟩) ↔ ∃ more,
    path = directory.append ⟨.relative, names ++ more⟩ ∧ IsFound fs directory steps names more

/-- Steps find what they lead to wherever they can be taken from. -/
def FindsBelow (fs : FileSystem) (directory : Path) (steps : List GlobStep) : Prop :=
  ∀ names, text ".." ∉ names → fs.isPresent (directory.append ⟨.relative, names⟩) = true →
    (steps ≠ [] → fs.isDirectory (directory.append ⟨.relative, names⟩) = true) →
      Finds fs directory steps names

/-- A step that leads down by one name, if that name fits. -/
structure AsksForName (step : GlobStep) (fits : Text → Prop) : Prop where
  leadsTo_iff : ∀ rest names, LeadsTo (step :: rest) names ↔
    ∃ last more, names = last :: more ∧ fits last ∧ LeadsTo rest more
  ends_eq : ∀ rest, endsInDirectory (step :: rest) = endsInDirectory rest

theorem asksForName_named (name : Text) : AsksForName (.named name) (· = name) where
  leadsTo_iff rest names := by
    constructor
    · rintro ⟨⟩
      next more hrest => exact ⟨name, more, rfl, rfl, hrest⟩
    · rintro ⟨last, more, rfl, rfl, hrest⟩
      exact .named hrest
  ends_eq _ := rfl

theorem asksForName_matching (pattern : Text) :
    AsksForName (.matching pattern) (Wildcard.fitsName pattern · = true) where
  leadsTo_iff rest names := by
    constructor
    · rintro ⟨⟩
      next last more hfits hrest => exact ⟨last, more, rfl, hfits, hrest⟩
    · rintro ⟨last, more, rfl, hfits, hrest⟩
      exact .matching hfits hrest
  ends_eq _ := rfl

theorem leadsTo_descend_iff {rest : List GlobStep} :
    LeadsTo (.descend :: rest) names ↔ ∃ above more, names = above ++ more ∧ LeadsTo rest more := by
  constructor
  · rintro ⟨⟩
    next above more hrest hsplit => exact ⟨above, more, hsplit, hrest⟩
  · rintro ⟨above, more, hsplit, hrest⟩
    exact .descend hsplit hrest

theorem endsInDirectory_of_leadsTo_nil {steps : List GlobStep} (h : LeadsTo steps []) :
    steps = [] ∨ endsInDirectory steps = true := by
  induction steps with
  | nil => exact Or.inl rfl
  | cons step rest ih =>
    right
    cases h with
    | here => rfl
    | descend hsplit hrest =>
      rw [(List.append_eq_nil_iff.1 hsplit.symm).2] at hrest
      rcases ih hrest with rfl | hends
      · rfl
      · rw [endsInDirectory, hends, Bool.or_true]

section Steps

variable {steps rest : List GlobStep} {step : GlobStep}

/-- Something is found in a directory, or it is the path itself, where no step is left. -/
theorem IsFound.above (h : fs.IsTree directory source)
    (hfound : IsFound fs directory steps names more) :
    (steps = [] ∧ more = []) ∨ fs.isDirectory (directory.append ⟨.relative, names⟩) = true := by
  by_cases hne : more = []
  · subst hne
    rcases endsInDirectory_of_leadsTo_nil hfound.leadsTo with hsteps | hends
    · exact Or.inl ⟨hsteps, rfl⟩
    · have hdir := hfound.isDirectory hends
      rw [List.append_nil] at hdir
      exact Or.inr hdir
  · obtain ⟨node, hfind⟩ := Option.isSome_iff_exists.1 hfound.isPresent
    exact Or.inr (h.isDirectory_of_find? hfound.not_dots hne hfind)

theorem IsFound.isPresent_above (h : fs.IsTree directory source)
    (hfound : IsFound fs directory steps names more) :
    fs.isPresent (directory.append ⟨.relative, names⟩) = true := by
  rcases hfound.above h with ⟨-, hmore⟩ | hdir
  · have hpresent := hfound.isPresent
    rwa [hmore, List.append_nil] at hpresent
  · exact (readBytes_of_isDirectory hdir).1

theorem AsksForName.isFound_iff {fits : Text → Prop} (h : AsksForName step fits) :
    IsFound fs directory (step :: rest) names more ↔ ∃ last others, more = last :: others ∧
      fits last ∧ IsFound fs directory rest (names ++ [last]) others := by
  constructor
  · rintro ⟨hdots, hleads, hpresent, hdir⟩
    obtain ⟨last, others, rfl, hfits, hrest⟩ := (h.leadsTo_iff rest more).1 hleads
    rw [h.ends_eq] at hdir
    rw [List.append_cons] at hdots hpresent hdir
    exact ⟨last, others, rfl, hfits, hdots, hrest, hpresent, hdir⟩
  · rintro ⟨last, others, rfl, hfits, hdots, hrest, hpresent, hdir⟩
    rw [← h.ends_eq] at hdir
    rw [← List.append_cons] at hdots hpresent hdir
    exact ⟨hdots, (h.leadsTo_iff rest _).2 ⟨last, others, rfl, hfits, hrest⟩, hpresent, hdir⟩

theorem IsFound.descend_iff (h : fs.IsTree directory source) :
    IsFound fs directory (.descend :: rest) names more ↔ ∃ above others, more = above ++ others ∧
      fs.isDirectory (directory.append ⟨.relative, names ++ above⟩) = true ∧
      IsFound fs directory rest (names ++ above) others := by
  constructor
  · rintro ⟨hdots, hleads, hpresent, hdir⟩
    obtain ⟨above, others, rfl, hrest⟩ := leadsTo_descend_iff.1 hleads
    rw [endsInDirectory] at hdir
    rw [← List.append_assoc] at hdots hpresent hdir
    have hfound : IsFound fs directory rest (names ++ above) others :=
      ⟨hdots, hrest, hpresent, fun hends => hdir (by rw [hends, Bool.or_true])⟩
    refine ⟨above, others, rfl, ?_, hfound⟩
    rcases hfound.above h with ⟨rfl, rfl⟩ | hup
    · have hend := hdir rfl
      rwa [List.append_nil] at hend
    · exact hup
  · rintro ⟨above, others, rfl, hup, hdots, hrest, hpresent, hdir⟩
    rw [List.append_assoc] at hdots hpresent hdir
    refine ⟨hdots, .descend rfl hrest, hpresent, fun hends => ?_⟩
    rw [endsInDirectory, Bool.or_eq_true, List.isEmpty_iff] at hends
    rcases hends with rfl | hends
    · cases hrest
      rwa [List.append_nil]
    · exact hdir hends

theorem finds_self (hdots : text ".." ∉ names)
    (hselect : select fs steps (directory.append ⟨.relative, names⟩) =
      [directory.append ⟨.relative, names⟩])
    (hleads : ∀ more, LeadsTo steps more ↔ more = [])
    (hpresent : fs.isPresent (directory.append ⟨.relative, names⟩) = true)
    (hdir : endsInDirectory steps = true →
      fs.isDirectory (directory.append ⟨.relative, names⟩) = true) :
    Finds fs directory steps names := by
  intro path
  rw [hselect, List.mem_singleton]
  have happend : names ++ [] = names := List.append_nil names
  constructor
  · rintro rfl
    refine ⟨[], by rw [happend], ?_, (hleads []).2 rfl, ?_, ?_⟩ <;> rwa [happend]
  · rintro ⟨more, rfl, hfound⟩
    rw [(hleads more).1 hfound.leadsTo, happend]

theorem isFound_congr {next : FileSystem}
    (hsame : ∀ more, text ".." ∉ names ++ more → LeadsTo steps more →
      next.isPresent (directory.append ⟨.relative, names ++ more⟩) =
        fs.isPresent (directory.append ⟨.relative, names ++ more⟩) ∧
      next.isDirectory (directory.append ⟨.relative, names ++ more⟩) =
        fs.isDirectory (directory.append ⟨.relative, names ++ more⟩)) :
    IsFound next directory steps names more ↔ IsFound fs directory steps names more := by
  constructor
  · rintro ⟨hdots, hleads, hpresent, hdir⟩
    obtain ⟨heqPresent, heqDir⟩ := hsame more hdots hleads
    exact ⟨hdots, hleads, heqPresent ▸ hpresent, fun hends => heqDir ▸ hdir hends⟩
  · rintro ⟨hdots, hleads, hpresent, hdir⟩
    obtain ⟨heqPresent, heqDir⟩ := hsame more hdots hleads
    exact ⟨hdots, hleads, heqPresent.symm ▸ hpresent, fun hends => heqDir.symm ▸ hdir hends⟩

section Rest

variable (h : fs.IsTree directory source) (hrest : FindsBelow fs directory rest)
include h hrest

/-- The rest of the steps is only taken from directories, unless there is none. -/
theorem mem_enter_iff (hdots : text ".." ∉ names)
    (hpresent : fs.isPresent (directory.append ⟨.relative, names⟩) = true) (path : Path) :
    path ∈ enter fs rest (directory.append ⟨.relative, names⟩) ↔ ∃ more,
      path = directory.append ⟨.relative, names ++ more⟩ ∧
        IsFound fs directory rest names more := by
  rw [enter]
  split
  · next hentered =>
    refine hrest names hdots hpresent (fun hne => ?_) path
    simpa [hne] using hentered
  · next hbarred =>
    rw [Bool.or_eq_true, List.isEmpty_iff, not_or] at hbarred
    constructor
    · intro hpath
      simp at hpath
    · rintro ⟨more, -, hfound⟩
      rcases hfound.above h with ⟨hnil, -⟩ | hdir
      · exact absurd hnil hbarred.1
      · exact absurd hdir hbarred.2

/-- A step by a name goes to the children whose names fit. -/
theorem AsksForName.finds {fits : Text → Prop} (hasks : AsksForName step fits)
    (hselect : ∀ path, path ∈ select fs (step :: rest) (directory.append ⟨.relative, names⟩) ↔
      ∃ last, text ".." ∉ names ++ [last] ∧ fits last ∧
        fs.isPresent (directory.append ⟨.relative, names ++ [last]⟩) = true ∧
        path ∈ enter fs rest (directory.append ⟨.relative, names ++ [last]⟩)) :
    Finds fs directory (step :: rest) names := by
  intro path
  simp only [hselect, hasks.isFound_iff]
  constructor
  · rintro ⟨last, hlast, hfits, hpresent, hmem⟩
    obtain ⟨others, hpath, hfound⟩ := (mem_enter_iff h hrest hlast hpresent path).1 hmem
    rw [← List.append_cons] at hpath
    exact ⟨_, hpath, last, others, rfl, hfits, hfound⟩
  · rintro ⟨more, hpath, last, others, rfl, hfits, hfound⟩
    rw [List.append_cons] at hpath
    have hlast : text ".." ∉ names ++ [last] := fun hmem =>
      hfound.not_dots (List.mem_append_left _ hmem)
    have hpresent := hfound.isPresent_above h
    refine ⟨last, hlast, hfits, hpresent, ?_⟩
    exact (mem_enter_iff h hrest hlast hpresent path).2 ⟨others, hpath, hfound⟩

theorem finds_named (hdots : text ".." ∉ names) {name : Text} (hname : name ≠ text "..") :
    Finds fs directory (.named name :: rest) names := by
  refine (asksForName_named name).finds h hrest fun path => ?_
  rw [select_named, Path.append_append]
  constructor
  · intro hmem
    split at hmem
    · next hpresent => exact ⟨name, not_dots_append hdots hname, rfl, hpresent, hmem⟩
    · simp at hmem
  · rintro ⟨last, -, rfl, hpresent, hmem⟩
    rwa [if_pos hpresent]

theorem finds_matching (hdots : text ".." ∉ names)
    (hdir : fs.isDirectory (directory.append ⟨.relative, names⟩) = true) (pattern : Text) :
    Finds fs directory (.matching pattern :: rest) names := by
  have hplace : fs.resolve (directory.append ⟨.relative, names⟩) = .ok (source ++ names) := by
    obtain ⟨time, hfind⟩ := isDirectory_iff.1 hdir
    rw [h.resolve_append]
    exact ((h.find?_append_iff hdots).1 hfind).1
  refine (asksForName_matching pattern).finds h hrest fun path => ?_
  rw [select_matching, hplace, List.mem_flatMap]
  simp only [Path.append_append, List.mem_filter]
  constructor
  · rintro ⟨last, ⟨hin, hfits⟩, hmem⟩
    have hlast := not_dots_append hdots (h.not_dots_names hin)
    exact ⟨last, hlast, hfits, (isPresent_child_iff h hlast hdir).2 hin, hmem⟩
  · rintro ⟨last, hlast, hfits, hpresent, hmem⟩
    exact ⟨last, ⟨(isPresent_child_iff h hlast hdir).1 hpresent, hfits⟩, hmem⟩

/-- The rest is taken from every directory below. -/
theorem finds_descend (hdots : text ".." ∉ names)
    (hdir : fs.isDirectory (directory.append ⟨.relative, names⟩) = true) :
    Finds fs directory (.descend :: rest) names := by
  intro path
  rw [select_descend, List.mem_eraseDups, List.mem_flatMap]
  simp only [mem_directories_iff h hdots hdir, IsFound.descend_iff h]
  have hstart : ∀ {above}, text ".." ∉ names ++ above →
      fs.isDirectory (directory.append ⟨.relative, names ++ above⟩) = true →
        Finds fs directory rest (names ++ above) := fun habove hup =>
    hrest _ habove (readBytes_of_isDirectory hup).1 fun _ => hup
  constructor
  · rintro ⟨start, ⟨above, habove, rfl, hup⟩, hmem⟩
    obtain ⟨others, rfl, hfound⟩ := (hstart habove hup path).1 hmem
    exact ⟨above ++ others, by rw [List.append_assoc], above, others, rfl, hup, hfound⟩
  · rintro ⟨more, rfl, above, others, rfl, hup, hfound⟩
    have habove : text ".." ∉ names ++ above := fun hmem =>
      hfound.not_dots (List.mem_append_left _ hmem)
    refine ⟨_, ⟨above, habove, rfl, hup⟩, (hstart habove hup _).2 ⟨others, ?_, hfound⟩⟩
    rw [List.append_assoc]

end Rest

/-- The steps of a pattern find what is there under the names that they lead to. -/
theorem findsBelow_of_steps (h : fs.IsTree directory source)
    (hsteps : GlobStep.named (text "..") ∉ steps) : FindsBelow fs directory steps := by
  induction steps with
  | nil =>
    intro names hdots hpresent _
    refine finds_self hdots rfl (fun more => ⟨?_, ?_⟩) hpresent nofun
    · rintro ⟨⟩
      rfl
    · rintro rfl
      exact .nil
  | cons step rest ih =>
    intro names hdots hpresent hdir
    have hstart := hdir (List.cons_ne_nil step rest)
    have hrest := ih fun hmem => hsteps (List.mem_cons_of_mem _ hmem)
    cases step with
    | here =>
      refine finds_self hdots rfl (fun more => ⟨?_, ?_⟩) hpresent fun _ => hstart
      · rintro ⟨⟩
        rfl
      · rintro rfl
        exact .here
    | named name => exact finds_named h hrest hdots fun heq => hsteps (by simp [heq])
    | matching pattern => exact finds_matching h hrest hdots hstart pattern
    | descend => exact finds_descend h hrest hdots hstart

theorem mem_select_iff (h : fs.IsTree directory source)
    (hsteps : GlobStep.named (text "..") ∉ steps) (hdir : fs.isDirectory directory = true)
    {path : Path} : path ∈ select fs steps directory ↔ ∃ names,
      path = directory.append ⟨.relative, names⟩ ∧ IsFound fs directory steps [] names := by
  have hfinds := findsBelow_of_steps h hsteps [] List.not_mem_nil
  rw [Path.append_nil] at hfinds
  have hpath := hfinds (readBytes_of_isDirectory hdir).1 (fun _ => hdir) path
  rwa [Path.append_nil] at hpath

end Steps

end EntityTagger.Glob
