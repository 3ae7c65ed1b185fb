import EntityTagger.Path.Glob
import EntityTagger.Proofs.Files
import Mathlib.Data.List.Basic

/-! A directory with all that stands below it: the paths that go straight down from it, the
directories among them, and the steps that a pattern takes from one to the next. -/
namespace EntityTagger

theorem Path.append_nil (directory : Path) : directory.append ⟨.relative, []⟩ = directory := by
  simp [append]

theorem Path.append_append (directory : Path) (names : List Text) (name : Text) :
    (directory.append ⟨.relative, names⟩).append ⟨.relative, [name]⟩ =
      directory.append ⟨.relative, names ++ [name]⟩ := by
  simp [append]

namespace FileSystem

/-- A directory is found at a place, and nothing below it is called by two dots. -/
structure IsTree (fs : FileSystem) (directory : Path) (source : Location) : Prop where
  resolve_eq : fs.resolve directory = .ok source
  not_dots : ∀ names node, (source ++ names, node) ∈ fs.nodes → text ".." ∉ names

def SameBelow (source : Location) (fs next : FileSystem) : Prop :=
  (next.nodes.filter fun entry => source.isPrefixOf entry.1) =
    fs.nodes.filter fun entry => source.isPrefixOf entry.1

section Tree

variable {fs next : FileSystem} {directory : Path} {source : Location} {names more : List Text}
  {node : Node}

theorem isPrefixOf_append (source : Location) (names : List Text) :
    source.isPrefixOf (source ++ names) = true :=
  List.isPrefixOf_iff_prefix.2 (List.prefix_append source names)

theorem SameBelow.node?_eq (h : SameBelow source fs next) (names : List Text) :
    next.node? (source ++ names) = fs.node? (source ++ names) := by
  rw [node?, node?, ← Association.get?_filter source.isPrefixOf (isPrefixOf_append source names),
    ← Association.get?_filter source.isPrefixOf (isPrefixOf_append source names) fs.nodes]
  exact congrArg _ h

theorem SameBelow.mem_iff (h : SameBelow source fs next) (names : List Text) (node : Node) :
    (source ++ names, node) ∈ next.nodes ↔ (source ++ names, node) ∈ fs.nodes := by
  have hmem : ∀ files : FileSystem, (source ++ names, node) ∈ files.nodes ↔
      (source ++ names, node) ∈ files.nodes.filter fun entry => source.isPrefixOf entry.1 := by
    intro files
    simp [List.mem_filter]
  rw [hmem next, hmem fs, h]

theorem IsTree.of_sameBelow (h : fs.IsTree directory source) (hsame : SameBelow source fs next)
    (hresolve : next.resolve directory = .ok source) : next.IsTree directory source :=
  ⟨hresolve, fun names node hmem => h.not_dots names node ((hsame.mem_iff names node).1 hmem)⟩

theorem IsTree.resolve_append (h : fs.IsTree directory source) (names : List Text) :
    fs.resolve (directory.append ⟨.relative, names⟩) = fs.walk source names := by
  have hparts : (directory.append ⟨.relative, names⟩).parts = directory.parts ++ names := by
    simp [Path.append]
  have hsource : fs.walk [] directory.parts = .ok source := h.resolve_eq
  rw [resolve, hparts, walk_append, hsource]
  rfl

theorem IsTree.eq_of_resolve (h : fs.IsTree directory source) (hdots : text ".." ∉ names)
    {place : Location} (hplace : fs.resolve (directory.append ⟨.relative, names⟩) = .ok place) :
    place = source ++ names := by
  rw [h.resolve_append] at hplace
  exact ((walk_eq_ok_iff hdots).1 hplace).1

theorem IsTree.find?_append_iff (h : fs.IsTree directory source) (hdots : text ".." ∉ names) :
    fs.find? (directory.append ⟨.relative, names⟩) = some node ↔
      fs.walk source names = .ok (source ++ names) ∧ fs.node? (source ++ names) = some node := by
  rw [find?_eq_some_iff, h.resolve_append]
  constructor
  · rintro ⟨place, hwalk, hnode⟩
    obtain ⟨rfl, -⟩ := (walk_eq_ok_iff hdots).1 hwalk
    exact ⟨hwalk, hnode⟩
  · rintro ⟨hwalk, hnode⟩
    exact ⟨_, hwalk, hnode⟩

theorem IsTree.isDirectory_of_find? (h : fs.IsTree directory source)
    (hdots : text ".." ∉ names ++ more) (hmore : more ≠ [])
    (hfind : fs.find? (directory.append ⟨.relative, names ++ more⟩) = some node) :
    fs.isDirectory (directory.append ⟨.relative, names⟩) = true := by
  have hnames : text ".." ∉ names := fun hmem => hdots (List.mem_append_left _ hmem)
  obtain ⟨hwalk, -⟩ := (h.find?_append_iff hdots).1 hfind
  obtain ⟨-, hdown⟩ := (walk_eq_ok_iff hdots).1 hwalk
  obtain ⟨time, hdir⟩ := hdown names more rfl hmore
  rw [isDirectory_iff]
  refine ⟨time, (h.find?_append_iff hnames).2 ⟨(walk_eq_ok_iff hnames).2 ⟨rfl, ?_⟩, hdir⟩⟩
  intro above below hsplit hb
  exact hdown above (below ++ more) (by rw [hsplit, List.append_assoc]) (by simp [hb])

theorem mem_names_iff {place : Location} {name : Text} :
    name ∈ fs.names place ↔ place ++ [name] ∈ fs.nodes.map Prod.fst := by
  constructor
  · intro hname
    obtain ⟨entry, hentry, hlast⟩ := List.mem_filterMap.1 hname
    by_cases hbelow : entry.1.length = place.length + 1 ∧ place.isPrefixOf entry.1
    · have hlast : entry.1.getLast? = some name := (if_pos hbelow).symm.trans hlast
      obtain ⟨rest, hrest⟩ := List.isPrefixOf_iff_prefix.1 hbelow.2
      have hone : rest.length = 1 := by
        have := congrArg List.length hrest
        rw [List.length_append] at this
        omega
      obtain ⟨last, rfl⟩ := List.length_eq_one_iff.1 hone
      have hname : last = name := by
        rw [← hrest, List.getLast?_append] at hlast
        simpa using hlast
      exact List.mem_map.2 ⟨entry, hentry, by rw [← hrest, hname]⟩
    · have hnone : none = some name := (if_neg hbelow).symm.trans hlast
      simp at hnone
  · intro hplace
    obtain ⟨entry, hentry, heq⟩ := List.mem_map.1 hplace
    exact List.mem_filterMap.2 ⟨entry, hentry, by simp [heq]⟩

theorem IsTree.not_dots_names (h : fs.IsTree directory source) {name : Text}
    (hname : name ∈ fs.names (source ++ names)) : name ≠ text ".." := by
  rw [mem_names_iff, List.append_assoc] at hname
  obtain ⟨entry, hentry, heq⟩ := List.mem_map.1 hname
  rintro rfl
  exact h.not_dots (names ++ [text ".."]) entry.2 (heq ▸ hentry) (by simp)

theorem walk_congr {place : Location} {parts : List Text} (hdots : text ".." ∉ parts)
    (h : ∀ above, next.node? (place ++ above) = fs.node? (place ++ above)) :
    next.walk place parts = fs.walk place parts := by
  induction parts generalizing place with
  | nil => rfl
  | cons part rest ih =>
    have hpart : part ≠ text ".." := fun heq => hdots (by simp [heq])
    have hhere : next.node? place = fs.node? place := by simpa using h []
    have hrest : next.walk (place ++ [part]) rest = fs.walk (place ++ [part]) rest := by
      refine ih (fun hd => hdots (List.mem_cons_of_mem _ hd)) fun above => ?_
      simpa using h (part :: above)
    rw [walk, walk, hhere]
    cases fs.node? place with
    | none => rfl
    | some node =>
      cases node with
      | file content time => rfl
      | directory time => exact (if_neg hpart).trans (hrest.trans (if_neg hpart).symm)

theorem IsTree.find?_eq (h : fs.IsTree directory source) (hnext : next.IsTree directory source)
    (hsame : SameBelow source fs next) (hdots : text ".." ∉ names) :
    next.find? (directory.append ⟨.relative, names⟩) =
      fs.find? (directory.append ⟨.relative, names⟩) := by
  have hwalk : next.walk source names = fs.walk source names := walk_congr hdots hsame.node?_eq
  rw [find?, find?, h.resolve_append, hnext.resolve_append, hwalk]
  cases hplace : fs.walk source names with
  | error fault => rfl
  | ok place =>
    obtain ⟨rfl, -⟩ := (walk_eq_ok_iff hdots).1 hplace
    exact hsame.node?_eq names

end Tree

end FileSystem

namespace Glob

open FileSystem

variable {fs next : FileSystem} {directory : Path} {source : Location} {names : List Text}

/-- A path that goes straight down from a directory. -/
def IsBelow (directory path : Path) : Prop :=
  ∃ names, text ".." ∉ names ∧ path = directory.append ⟨.relative, names⟩

theorem not_dots_append (hdots : text ".." ∉ names) {name : Text} (hname : name ≠ text "..") :
    text ".." ∉ names ++ [name] := by
  intro hmem
  rcases List.mem_append.1 hmem with hmem | hmem
  · exact hdots hmem
  · exact hname (List.mem_singleton.1 hmem).symm

theorem directories_succ (fs : FileSystem) (n : ℕ) (path : Path) :
    directories fs (n + 1) path = match fs.resolve path with
      | .error _ => [path]
      | .ok place => path :: (fs.names place).flatMap fun name =>
          if fs.isDirectory (path.append ⟨.relative, [name]⟩) then
            directories fs n (path.append ⟨.relative, [name]⟩) else [] := by
  rw [directories]
  cases fs.resolve path with
  | error fault => rfl
  | ok place => simp only [List.flatMap_map]

theorem length_le_depth {place : Location} {node : Node} (h : (place, node) ∈ fs.nodes) :
    place.length ≤ depth fs := by
  have hall : ∀ nodes : List (Location × Node), (place, node) ∈ nodes →
      place.length ≤ nodes.foldr (fun entry n => max entry.1.length n) 0 := by
    intro nodes hmem
    induction nodes with
    | nil => simp at hmem
    | cons first rest ih =>
      rcases List.mem_cons.1 hmem with rfl | hrest
      · exact Nat.le_max_left _ _
      · exact Nat.le_trans (ih hrest) (Nat.le_max_right _ _)
  exact hall fs.nodes h

theorem exists_of_mem_directories (h : fs.IsTree directory source) {n : ℕ} {path : Path}
    (hdots : text ".." ∉ names)
    (hmem : path ∈ directories fs n (directory.append ⟨.relative, names⟩)) :
    ∃ more, text ".." ∉ names ++ more ∧ path = directory.append ⟨.relative, names ++ more⟩ := by
  have hself : ∃ more, text ".." ∉ names ++ more ∧
      directory.append ⟨.relative, names⟩ = directory.append ⟨.relative, names ++ more⟩ :=
    ⟨[], by rwa [List.append_nil], by rw [List.append_nil]⟩
  induction n generalizing names with
  | zero =>
    obtain rfl := List.mem_singleton.1 hmem
    exact hself
  | succ n ih =>
    rw [directories_succ] at hmem
    cases hplace : fs.resolve (directory.append ⟨.relative, names⟩) with
    | error fault =>
      rw [hplace] at hmem
      obtain rfl := List.mem_singleton.1 hmem
      exact hself
    | ok place =>
      obtain rfl := h.eq_of_resolve hdots hplace
      rw [hplace] at hmem
      rcases List.mem_cons.1 hmem with rfl | hmem
      · exact hself
      · obtain ⟨name, hname, hmem⟩ := List.mem_flatMap.1 hmem
        split at hmem
        · rw [Path.append_append] at hmem
          have hchild := not_dots_append hdots (h.not_dots_names hname)
          obtain ⟨more, hmore, rfl⟩ := ih hchild hmem
            ⟨[], by rwa [List.append_nil], by rw [List.append_nil]⟩
          rw [← List.append_cons] at hmore ⊢
          exact ⟨name :: more, hmore, rfl⟩
        · simp at hmem

theorem isDirectory_of_mem_directories {n : ℕ} {start path : Path}
    (hmem : path ∈ directories fs n start) : path = start ∨ fs.isDirectory path = true := by
  induction n generalizing start with
  | zero => exact Or.inl (List.mem_singleton.1 hmem)
  | succ n ih =>
    rw [directories_succ] at hmem
    cases hplace : fs.resolve start with
    | error fault =>
      rw [hplace] at hmem
      exact Or.inl (List.mem_singleton.1 hmem)
    | ok place =>
      rw [hplace] at hmem
      rcases List.mem_cons.1 hmem with hself | hmem
      · exact Or.inl hself
      · obtain ⟨name, -, hmem⟩ := List.mem_flatMap.1 hmem
        split at hmem
        · next hdir =>
          right
          rcases ih hmem with rfl | hpath
          · exact hdir
          · exact hpath
        · simp at hmem

theorem mem_directories (h : fs.IsTree directory source) {more : List Text} {n : ℕ}
    (hn : more.length ≤ n) (hdots : text ".." ∉ names ++ more)
    (hdir : fs.isDirectory (directory.append ⟨.relative, names ++ more⟩) = true) :
    directory.append ⟨.relative, names ++ more⟩ ∈
      directories fs n (directory.append ⟨.relative, names⟩) := by
  induction more generalizing names n with
  | nil =>
    rw [List.append_nil]
    cases n with
    | zero => exact List.mem_singleton_self _
    | succ n =>
      rw [directories_succ]
      split <;> exact List.mem_cons_self ..
  | cons name rest ih =>
    cases n with
    | zero => simp at hn
    | succ n =>
      have happend : names ++ name :: rest = names ++ [name] ++ rest := by simp
      rw [happend] at hdots hdir ⊢
      have hchild : text ".." ∉ names ++ [name] := fun hmem => hdots (List.mem_append_left _ hmem)
      have hnames : text ".." ∉ names := fun hmem => hchild (List.mem_append_left _ hmem)
      obtain ⟨time, hfind⟩ := isDirectory_iff.1 hdir
      have hup : fs.isDirectory (directory.append ⟨.relative, names ++ [name]⟩) = true := by
        by_cases hrest : rest = []
        · rw [hrest, List.append_nil] at hdir
          exact hdir
        · exact h.isDirectory_of_find? hdots hrest hfind
      obtain ⟨later, hupFind⟩ := isDirectory_iff.1 hup
      obtain ⟨hwalk, hnode⟩ := (h.find?_append_iff hchild).1 hupFind
      have hplace : fs.resolve (directory.append ⟨.relative, names⟩) = .ok (source ++ names) := by
        rw [h.resolve_append, walk_eq_ok_iff hnames]
        refine ⟨rfl, fun above below hsplit hb => ?_⟩
        exact ((walk_eq_ok_iff hchild).1 hwalk).2 above (below ++ [name])
          (by rw [hsplit, List.append_assoc]) (by simp)
      rw [directories_succ, hplace]
      apply List.mem_cons_of_mem
      refine List.mem_flatMap.2 ⟨name, ?_, ?_⟩
      · rw [mem_names_iff, List.append_assoc]
        exact Association.exists_get?_iff.1 ⟨_, hnode⟩
      · rw [Path.append_append, if_pos hup]
        exact ih (Nat.le_of_succ_le_succ hn) hdots hdir

theorem isPresent_child_iff (h : fs.IsTree directory source) {last : Text}
    (hdots : text ".." ∉ names ++ [last])
    (hdir : fs.isDirectory (directory.append ⟨.relative, names⟩) = true) :
    fs.isPresent (directory.append ⟨.relative, names ++ [last]⟩) = true ↔
      last ∈ fs.names (source ++ names) := by
  have hnames : text ".." ∉ names := fun hmem => hdots (List.mem_append_left _ hmem)
  obtain ⟨time, hfind⟩ := isDirectory_iff.1 hdir
  obtain ⟨hwalk, hnode⟩ := (h.find?_append_iff hnames).1 hfind
  have hchild : fs.walk source (names ++ [last]) = .ok (source ++ (names ++ [last])) := by
    rw [walk_append, hwalk]
    have hlast : text ".." ∉ [last] := fun hmem => hdots (List.mem_append_right _ hmem)
    refine (walk_eq_ok_iff hlast).2 ⟨by rw [List.append_assoc], fun above below hsplit hb => ?_⟩
    have habove : above = [] := by
      cases above with
      | nil => rfl
      | cons first rest =>
        have hnil : rest ++ below = [] := (List.cons.inj hsplit).2.symm
        exact absurd (List.append_eq_nil_iff.1 hnil).2 hb
    rw [habove, List.append_nil]
    exact ⟨time, hnode⟩
  rw [isPresent, Option.isSome_iff_exists, mem_names_iff, ← Association.exists_get?_iff,
    List.append_assoc]
  constructor
  · rintro ⟨node, hfound⟩
    exact ⟨node, ((h.find?_append_iff hdots).1 hfound).2⟩
  · rintro ⟨node, hfound⟩
    exact ⟨node, (h.find?_append_iff hdots).2 ⟨hchild, hfound⟩⟩

theorem mem_directories_iff (h : fs.IsTree directory source) (hdots : text ".." ∉ names)
    (hdir : fs.isDirectory (directory.append ⟨.relative, names⟩) = true) {path : Path} :
    path ∈ directories fs (depth fs) (directory.append ⟨.relative, names⟩) ↔
      ∃ more, text ".." ∉ names ++ more ∧ path = directory.append ⟨.relative, names ++ more⟩ ∧
        fs.isDirectory path = true := by
  constructor
  · intro hmem
    obtain ⟨more, hmore, hpath⟩ := exists_of_mem_directories h hdots hmem
    refine ⟨more, hmore, hpath, ?_⟩
    rcases isDirectory_of_mem_directories hmem with rfl | hpathDir
    · exact hdir
    · exact hpathDir
  · rintro ⟨more, hmore, rfl, hpathDir⟩
    obtain ⟨time, hfind⟩ := isDirectory_iff.1 hpathDir
    have hdepth := length_le_depth
      (Association.mem_of_get? ((h.find?_append_iff hmore).1 hfind).2)
    rw [List.length_append, List.length_append] at hdepth
    exact mem_directories h (by omega) hmore hpathDir

/-- What the rest of a pattern finds from a path that one step leads to. -/
def enter (fs : FileSystem) (rest : List GlobStep) (child : Path) : List Path :=
  if rest.isEmpty || fs.isDirectory child then select fs rest child else []

theorem select_named (fs : FileSystem) (name : Text) (rest : List GlobStep) (path : Path) :
    select fs (.named name :: rest) path =
      if fs.isPresent (path.append ⟨.relative, [name]⟩) then
        enter fs rest (path.append ⟨.relative, [name]⟩) else [] := rfl

theorem select_matching (fs : FileSystem) (pattern : Text) (rest : List GlobStep) (path : Path) :
    select fs (.matching pattern :: rest) path = match fs.resolve path with
      | .error _ => []
      | .ok place => ((fs.names place).filter (Wildcard.fitsName pattern)).flatMap fun name =>
          enter fs rest (path.append ⟨.relative, [name]⟩) := by
  rw [select]
  cases fs.resolve path <;> rfl

theorem select_descend (fs : FileSystem) (rest : List GlobStep) (path : Path) :
    select fs (.descend :: rest) path =
      ((directories fs (depth fs) path).flatMap (select fs rest)).eraseDups := rfl

/-- A pattern has no component of two dots. -/
def IsPlain (pattern : Text) : Prop := text ".." ∉ (Path.ofText pattern).parts

instance (pattern : Text) : Decidable (IsPlain pattern) :=
  inferInstanceAs (Decidable (text ".." ∉ (Path.ofText pattern).parts))

theorem eq_of_stepOf {part name : Text} (h : stepOf part = .ok (.named name)) : part = name := by
  unfold stepOf at h
  split_ifs at h
  · simp at h
  · simp at h
  · simpa using h

theorem not_named_dots {pattern : Text} (h : IsPlain pattern) {found : List GlobStep}
    (hsteps : steps pattern = .ok found) : GlobStep.named (text "..") ∉ .descend :: found := by
  rw [steps] at hsteps
  split at hsteps
  · simp at hsteps
  cases hparts : (Path.ofText pattern).parts.mapM stepOf with
  | error fault => simp [hparts, bind, Except.bind] at hsteps
  | ok parts =>
    have hfound : (if pattern.getLast? = some 47 then parts ++ [.here] else parts) = found := by
      simpa [hparts, bind, Except.bind, pure, Except.pure] using hsteps
    have hnamed : GlobStep.named (text "..") ∉ parts := by
      intro hmem
      obtain ⟨part, hpart, hstep⟩ := Traversal.exists_of_mem_mapM hparts hmem
      exact h (eq_of_stepOf hstep ▸ hpart)
    rw [← hfound]
    split_ifs
    · simpa using hnamed
    · simpa using hnamed

theorem below_eq (fs : FileSystem) (directory : Path) (pattern : Text) :
    below fs directory pattern = (steps pattern).map fun found =>
      if fs.isDirectory directory then (select fs (.descend :: found) directory).mergeSort le
      else [] := by
  rw [below]
  cases steps pattern with
  | error fault => rfl
  | ok found => by_cases h : fs.isDirectory directory <;> simp only [h] <;> rfl

theorem exists_names {paths : List Path} (h : ∀ path ∈ paths, IsBelow directory path) :
    ∃ below : List (List Text), (∀ names ∈ below, text ".." ∉ names) ∧
      paths = below.map fun names => directory.append ⟨.relative, names⟩ := by
  induction paths with
  | nil => exact ⟨[], by simp, rfl⟩
  | cons path rest ih =>
    obtain ⟨names, hdots, rfl⟩ := h path (List.mem_cons_self ..)
    obtain ⟨below, hbelow, rfl⟩ := ih fun other hother => h other (List.mem_cons_of_mem _ hother)
    exact ⟨names :: below, by simpa using ⟨hdots, hbelow⟩, rfl⟩

end Glob

end EntityTagger
