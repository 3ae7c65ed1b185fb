import EntityTagger.Proofs.Files

/-! Making directories: which places change, when it succeeds, and what it takes for a file to be
written in the directory that was made. -/
namespace EntityTagger

namespace FileSystem

/-- Directories were added at places of a set, and no file changed. -/
structure AddsDirectories (changed : Location → Prop) (fs made : FileSystem) : Prop where
  keeps : Extends fs made
  outside : SameOutside changed fs made
  file : ∀ {place content time}, made.node? place = some (.file content time) →
    fs.node? place = some (.file content time)

namespace AddsDirectories

variable {changed more : Location → Prop} {fs next last : FileSystem}

theorem refl (fs : FileSystem) : AddsDirectories changed fs fs :=
  ⟨Extends.refl fs, SameOutside.refl fs, id⟩

theorem trans (h : AddsDirectories changed fs next) (k : AddsDirectories changed next last) :
    AddsDirectories changed fs last :=
  ⟨h.keeps.trans k.keeps, h.outside.trans k.outside, fun hp => h.file (k.file hp)⟩

theorem mono (h : AddsDirectories changed fs next) (hsub : ∀ place, changed place → more place) :
    AddsDirectories more fs next := ⟨h.keeps, h.outside.mono hsub, h.file⟩

theorem node?_eq_file_iff (h : AddsDirectories changed fs next) {place : Location}
    {content : Content} {time : ℤ} :
    next.node? place = some (.file content time) ↔ fs.node? place = some (.file content time) := by
  constructor
  · exact h.file
  · intro hfile
    obtain ⟨other, later, hnext⟩ := h.keeps.file ⟨content, time, hfile⟩
    rw [hnext, ← hfile, h.file hnext]

end AddsDirectories

section Directories

variable {fs next made : FileSystem} {names : List Text} {root : Root} {now : ℤ}

/-- The places on the way from the root. -/
def OnTheWay (names : List Text) (place : Location) : Prop :=
  ∃ above, above <+: names ∧ place = lead [] above

theorem OnTheWay.mono {more : List Text} {place : Location} (h : OnTheWay names place)
    (hmore : names <+: more) : OnTheWay more place := by
  obtain ⟨above, habove, rfl⟩ := h
  exact ⟨above, habove.trans hmore, rfl⟩

theorem OnTheWay.of_isPrefix {place up : Location} (h : OnTheWay names place) (hup : up <+: place) :
    OnTheWay names up := by
  obtain ⟨above, habove, rfl⟩ := h
  obtain ⟨first, hfirst, rfl⟩ := exists_prefix_lead hup
  exact ⟨first, hfirst.trans habove, rfl⟩

theorem not_dots_lead {place : Location} {parts : List Text} (h : text ".." ∉ place) :
    text ".." ∉ lead place parts := by
  induction parts generalizing place with
  | nil => exact h
  | cons part rest ih =>
    rw [← List.singleton_append, lead_append]
    apply ih
    by_cases hpart : part = text ".."
    · rw [hpart]
      exact fun hmem => h (List.dropLast_subset place hmem)
    · rw [lead_of_not_dots (by simpa using Ne.symm hpart)]
      simpa using ⟨h, Ne.symm hpart⟩

theorem OnTheWay.not_dots {place : Location} (h : OnTheWay names place) : text ".." ∉ place := by
  obtain ⟨above, -, rfl⟩ := h
  exact not_dots_lead List.not_mem_nil

/-- The way goes to a directory, and on from there. -/
theorem OnTheWay.append_cases {more : List Text} {place : Location} (hdots : text ".." ∉ more)
    (h : OnTheWay (names ++ more) place) :
    OnTheWay names place ∨ ∃ above, above <+: more ∧ place = lead [] names ++ above := by
  obtain ⟨first, hfirst, rfl⟩ := h
  rcases List.prefix_or_prefix_of_prefix hfirst (List.prefix_append names more) with hin | hin
  · exact Or.inl ⟨first, hin, rfl⟩
  · obtain ⟨above, rfl⟩ := hin
    rw [List.prefix_append_right_inj] at hfirst
    refine Or.inr ⟨above, hfirst, ?_⟩
    rw [lead_append, lead_of_not_dots fun hmem => hdots (hfirst.subset hmem)]

def IsMissing (fs : FileSystem) (names : List Text) (place : Location) : Prop :=
  OnTheWay names place ∧ fs.node? place = none

theorem IsMissing.of_extends {more : List Text} {place : Location} (h : next.IsMissing names place)
    (hkeeps : Extends fs next) (hmore : names <+: more) : fs.IsMissing more place :=
  ⟨h.1.mono hmore, hkeeps.node?_eq_none h.2⟩

/-- New places, and the directories around them. -/
def Around (new : Location → Prop) (place : Location) : Prop :=
  ∃ made, new made ∧ (place = made ∨ place = made.dropLast)

theorem Around.mono {new more : Location → Prop} {place : Location} (h : Around new place)
    (hsub : ∀ made, new made → more made) : Around more place := by
  obtain ⟨made, hmade, hplace⟩ := h
  exact ⟨made, hsub made hmade, hplace⟩

theorem Around.exists_prefix {new : Location → Prop} {place : Location} (h : Around new place) :
    ∃ made, new made ∧ place <+: made := by
  obtain ⟨made, hmade, rfl | rfl⟩ := h
  · exact ⟨_, hmade, List.prefix_rfl⟩
  · exact ⟨made, hmade, List.dropLast_prefix made⟩

theorem Around.onTheWay {place : Location} (h : Around (fs.IsMissing names) place) :
    OnTheWay names place := by
  obtain ⟨made, hmade, hup⟩ := h.exists_prefix
  exact hmade.1.of_isPrefix hup

theorem isDirectoryAt_root {known : List Text} {base : Location}
    (hknown : fs.walk [] known = .ok base) (hbase : fs.IsDirectoryAt base) :
    fs.IsDirectoryAt [] := by
  by_cases hnil : [] = base
  · exact hnil ▸ hbase
  · exact isDirectoryAt_of_walk hknown List.nil_prefix hnil

theorem Around.below {known : List Text} {base place : Location}
    (h : Around (fs.IsMissing (known ++ names)) place) (hknown : fs.walk [] known = .ok base)
    (hbase : fs.IsDirectoryAt base) (hdots : text ".." ∉ names) :
    ∃ above, above <+: names ∧ place = base ++ above := by
  obtain ⟨rfl, hdown⟩ := walk_eq_ok_iff_lead.1 hknown
  obtain ⟨made, ⟨hway, hnone⟩, hplace⟩ := h
  have hfree : ¬ fs.IsDirectoryAt made := by
    rintro ⟨time, hdir⟩
    simp [hnone] at hdir
  rcases hway.append_cases hdots with ⟨above, ⟨below, rfl⟩, rfl⟩ | ⟨above, habove, rfl⟩
  · by_cases hb : below = []
    · rw [hb, List.append_nil] at hbase
      exact absurd hbase hfree
    · exact absurd (hdown above below rfl hb) hfree
  · have hne : above ≠ [] := by
      rintro rfl
      rw [List.append_nil] at hfree
      exact hfree hbase
    rcases hplace with rfl | rfl
    · exact ⟨above, habove, rfl⟩
    · refine ⟨above.dropLast, (List.dropLast_prefix above).trans habove, ?_⟩
      rw [List.dropLast_append_of_ne_nil hne]

theorem addsDirectories_makeDirectory (hroot : fs.IsDirectoryAt [])
    (h : fs.makeDirectory ⟨root, names⟩ now = .ok made) :
    AddsDirectories (Around (fs.IsMissing names)) fs made := by
  obtain ⟨place, hplace, ⟨-, rfl⟩ | ⟨hnode, rfl⟩⟩ := makeDirectory_eq_ok h
  · exact AddsDirectories.refl made
  have hparent : fs.IsDirectoryAt place.dropLast := by
    apply isDirectoryAt_of_walk hplace (List.dropLast_prefix place)
    intro heq
    have hlength := congrArg List.length heq
    rw [List.length_dropLast] at hlength
    obtain rfl : place = [] := List.length_eq_zero_iff.1 (by omega)
    obtain ⟨time, hdir⟩ := hroot
    simp [hdir] at hnode
  obtain ⟨rfl, -⟩ := walk_eq_ok_iff_lead.1 hplace
  have hkeeps : Extends fs (fs.create (lead [] names) (.directory now)) :=
    fs.extends_create _ hnode
  have houtside := fs.sameOutside_create (lead [] names) (.directory now)
  refine ⟨hkeeps, houtside.mono ?_, ?_⟩
  · intro p hp
    exact ⟨_, ⟨⟨names, List.prefix_rfl, rfl⟩, hnode⟩, hp⟩
  · intro p content time hfile
    rw [← houtside.node?_eq, hfile]
    rintro (rfl | rfl)
    · rw [fs.node?_create_self] at hfile
      simp at hfile
    · obtain ⟨later, hlater⟩ := hkeeps.directory hparent
      exact absurd (hlater.symm.trans hfile) (by simp)

/-- Making a directory, with those on the way. If it fails, some of those may have been made. -/
theorem addsDirectories_makeDirectoriesFrom (hroot : fs.IsDirectoryAt []) :
    AddsDirectories (Around (fs.IsMissing names)) fs
      (fs.makeDirectoriesFrom root now names.reverse).1 := by
  induction names using List.reverseRecOn with
  | nil => exact AddsDirectories.refl fs
  | append_singleton above name ih =>
    have hpath : (name :: above.reverse).reverse = above ++ [name] := by simp
    rw [List.reverse_append, List.reverse_singleton, List.singleton_append, makeDirectoriesFrom,
      hpath]
    have habove : ∀ {next}, AddsDirectories (Around (fs.IsMissing above)) fs next →
        AddsDirectories (Around (fs.IsMissing (above ++ [name]))) fs next := by
      intro next hadds
      refine hadds.mono fun place hplace => ?_
      exact hplace.mono fun made hmade =>
        hmade.of_extends (Extends.refl fs) (List.prefix_append above [name])
    split
    · next made hmade => exact addsDirectories_makeDirectory hroot hmade
    · split
      · next hnext =>
        rw [hnext] at ih
        exact habove ih
      · next made hnext =>
        rw [hnext] at ih
        split
        · next last hlast =>
          have hadds := addsDirectories_makeDirectory (ih.keeps.directory hroot) hlast
          refine (habove ih).trans (hadds.mono fun place hplace => ?_)
          exact hplace.mono fun made hmade => hmade.of_extends ih.keeps List.prefix_rfl
        · exact habove ih
    · exact AddsDirectories.refl fs

theorem isDirectoryAt_of_makeDirectory {path : Path}
    (h : fs.makeDirectory path now = .ok made) {above : List Text} (habove : above <+: path.parts) :
    made.IsDirectoryAt (lead [] above) := by
  obtain ⟨place, hplace, hcases⟩ := makeDirectory_eq_ok h
  obtain ⟨rfl, hdown⟩ := walk_eq_ok_iff_lead.1 hplace
  obtain ⟨below, hsplit⟩ := habove
  by_cases hb : below = []
  · obtain rfl : above = path.parts := by rw [← hsplit, hb, List.append_nil]
    rcases hcases with ⟨hdir, rfl⟩ | ⟨-, rfl⟩
    · exact hdir
    · exact ⟨now, fs.node?_create_self _ _⟩
  · have hdir := hdown above below hsplit.symm hb
    rcases hcases with ⟨-, rfl⟩ | ⟨hnode, rfl⟩
    · exact hdir
    · exact (fs.extends_create _ hnode).directory hdir

theorem isDirectoryAt_of_makeDirectoriesFrom (hroot : fs.IsDirectoryAt []) {parts : List Text}
    (h : fs.makeDirectoriesFrom root now parts.reverse = (made, .ok ())) {above : List Text}
    (habove : above <+: parts) : made.IsDirectoryAt (lead [] above) := by
  rcases List.eq_nil_or_concat parts with rfl | ⟨parts, name, rfl⟩
  · obtain rfl := List.prefix_nil.1 habove
    obtain ⟨rfl, -⟩ := Prod.mk.inj h
    exact hroot
  · have hpath : (name :: parts.reverse).reverse = parts.concat name := by simp
    rw [List.concat_eq_append, List.reverse_append, List.reverse_singleton, List.singleton_append,
      makeDirectoriesFrom] at h
    rw [← hpath] at habove
    split at h
    · next hmade =>
      obtain ⟨rfl, -⟩ := Prod.mk.inj h
      exact isDirectoryAt_of_makeDirectory hmade habove
    · split at h
      · simp at h
      · split at h
        · next hlast =>
          obtain ⟨rfl, -⟩ := Prod.mk.inj h
          exact isDirectoryAt_of_makeDirectory hlast habove
        · simp at h
    · simp at h

theorem exists_makeDirectoriesFrom (hroot : fs.IsDirectoryAt []) {parts : List Text}
    (hfree : ∀ place, OnTheWay parts place → ¬ fs.IsFileAt place) :
    ∃ made, fs.makeDirectoriesFrom root now parts.reverse = (made, .ok ()) := by
  induction parts using List.reverseRecOn with
  | nil => exact ⟨fs, rfl⟩
  | append_singleton above name ih =>
    have hmake : ∀ {next : FileSystem}, (∀ place, next.IsFileAt place → fs.IsFileAt place) →
        next.resolve ⟨root, above ++ [name]⟩ = .ok (lead [] (above ++ [name])) →
        ∃ made, next.makeDirectory ⟨root, above ++ [name]⟩ now = .ok made := by
      intro next hfiles hplace
      simp only [makeDirectory, hplace]
      cases hnode : next.node? (lead [] (above ++ [name])) with
      | none => exact ⟨_, rfl⟩
      | some node =>
        cases node with
        | directory time => exact ⟨_, rfl⟩
        | file content time =>
          exact absurd (hfiles _ ⟨content, time, hnode⟩) (hfree _ ⟨_, List.prefix_rfl, rfl⟩)
    have hpath : (name :: above.reverse).reverse = above ++ [name] := by simp
    rw [List.reverse_append, List.reverse_singleton, List.singleton_append, makeDirectoriesFrom,
      hpath]
    cases hplace : fs.walk [] (above ++ [name]) with
    | ok place =>
      obtain ⟨rfl, -⟩ := walk_eq_ok_iff_lead.1 hplace
      obtain ⟨made, hmade⟩ := hmake (fun _ hfile => hfile) hplace
      simp only [hmade]
      exact ⟨made, rfl⟩
    | error fault =>
      rcases walk_eq_error hplace with rfl | ⟨first, rest, hsplit, -, hfile⟩
      · have habove : ∀ place, OnTheWay above place → ¬ fs.IsFileAt place :=
          fun place hplace => hfree place (hplace.mono (List.prefix_append _ _))
        obtain ⟨next, hnext⟩ := ih habove
        have hmissing : fs.makeDirectory ⟨root, above ++ [name]⟩ now =
            .error ⟨.missing, (⟨root, above ++ [name]⟩ : Path).toText⟩ := by
          simp only [makeDirectory, resolve, hplace]
        have hadds : AddsDirectories (Around (fs.IsMissing above)) fs
            (fs.makeDirectoriesFrom root now above.reverse).1 :=
          addsDirectories_makeDirectoriesFrom hroot
        rw [hnext] at hadds
        obtain ⟨made, hmade⟩ : ∃ made, next.makeDirectory ⟨root, above ++ [name]⟩ now =
            .ok made := by
          refine hmake (fun place hfile => ?_) ?_
          · obtain ⟨content, time, hnode⟩ := hfile
            exact ⟨content, time, hadds.file hnode⟩
          · refine walk_eq_ok_iff_lead.2 ⟨rfl, fun first rest hsplit hrest => ?_⟩
            apply isDirectoryAt_of_makeDirectoriesFrom hroot hnext
            rcases List.eq_nil_or_concat rest with rfl | ⟨rest, last, rfl⟩
            · exact absurd rfl hrest
            · refine ⟨rest, ?_⟩
              rw [List.concat_eq_append, ← List.append_assoc] at hsplit
              exact (List.append_inj_left' hsplit rfl).symm
        simp only [hmissing, hnext, hmade]
        exact ⟨made, rfl⟩
      · exact absurd hfile (hfree _ ⟨first, ⟨rest, hsplit.symm⟩, rfl⟩)

theorem makeDirectories_eq_ok_iff {path : Path} : fs.makeDirectories path now = .ok made ↔
    fs.makeDirectoriesFrom path.root now path.parts.reverse = (made, .ok ()) := by
  rw [makeDirectories]
  obtain ⟨next, result⟩ := fs.makeDirectoriesFrom path.root now path.parts.reverse
  cases result <;> simp [Except.map]

theorem withDirectories_of_ok {path : Path} (h : fs.makeDirectories path now = .ok made) :
    fs.withDirectories path now = made := by
  rw [withDirectories, makeDirectories_eq_ok_iff.1 h]

end Directories

end FileSystem

/-- The place that a path leads to, whatever stands there. -/
def Path.location (path : Path) : Location := FileSystem.lead [] path.parts

theorem Path.location_append (directory : Path) {names : List Text} (hdots : text ".." ∉ names) :
    (directory.append ⟨.relative, names⟩).location = directory.location ++ names := by
  have hparts : (directory.append ⟨.relative, names⟩).parts = directory.parts ++ names := by
    simp [append]
  rw [location, location, hparts, FileSystem.lead_append, FileSystem.lead_of_not_dots hdots]

namespace FileSystem

/-- A file can be written under a path once the directories above it are made: no file stands on the
way to them, and the path leads to no directory, old or new. -/
structure Admits (fs : FileSystem) (path : Path) : Prop where
  way : ∀ place, OnTheWay path.parent.parts place → ¬ fs.IsFileAt place
  off_way : ¬ OnTheWay path.parent.parts path.location
  free : ¬ fs.IsDirectoryAt path.location

section Writing

variable {fs next made after : FileSystem} {path : Path} {above : List Text} {name : Text}
  {content : Content} {now : ℤ}

theorem onTheWay_location (path : Path) : OnTheWay path.parts path.location :=
  ⟨path.parts, List.prefix_rfl, rfl⟩

/-- An attempt to make directories leaves all files alone, whether or not it succeeds. -/
theorem addsDirectories_withDirectories (hroot : fs.IsDirectoryAt []) (path : Path) (now : ℤ) :
    AddsDirectories (Around (fs.IsMissing path.parts)) fs (fs.withDirectories path now) :=
  addsDirectories_makeDirectoriesFrom hroot

theorem addsDirectories_of_makeDirectories (hroot : fs.IsDirectoryAt [])
    (h : fs.makeDirectories path.parent now = .ok made) :
    AddsDirectories (Around (fs.IsMissing path.parent.parts)) fs made :=
  withDirectories_of_ok h ▸ addsDirectories_withDirectories hroot path.parent now

theorem isDirectoryAt_made_iff (hroot : fs.IsDirectoryAt [])
    (h : fs.makeDirectories path.parent now = .ok made) {place : Location} :
    made.IsDirectoryAt place ↔ OnTheWay path.parent.parts place ∨ fs.IsDirectoryAt place := by
  have hadds := addsDirectories_of_makeDirectories hroot h
  constructor
  · rintro ⟨time, hdir⟩
    by_cases hway : OnTheWay path.parent.parts place
    · exact Or.inl hway
    · refine Or.inr ⟨time, ?_⟩
      rw [← hadds.outside.node?_eq fun haround => hway haround.onTheWay, hdir]
  · rintro (⟨above, habove, rfl⟩ | hdir)
    · exact isDirectoryAt_of_makeDirectoriesFrom hroot (makeDirectories_eq_ok_iff.1 h) habove
    · exact hadds.keeps.directory hdir

theorem parent_parts (hparts : path.parts = above ++ [name]) : path.parent.parts = above := by
  simp [Path.parent, hparts]

theorem resolve_of_makeDirectories (hroot : fs.IsDirectoryAt [])
    (hparts : path.parts = above ++ [name])
    (h : fs.makeDirectories path.parent now = .ok made) :
    made.resolve path = .ok path.location := by
  refine walk_eq_ok_iff_lead.2 ⟨rfl, fun first rest hsplit hrest => ?_⟩
  rw [isDirectoryAt_made_iff hroot h, parent_parts hparts]
  rcases List.eq_nil_or_concat rest with rfl | ⟨rest, last, rfl⟩
  · exact absurd rfl hrest
  · rw [hparts, List.concat_eq_append, ← List.append_assoc] at hsplit
    exact Or.inl ⟨first, ⟨rest, (List.append_inj_left' hsplit rfl).symm⟩, rfl⟩

/-- Exactly where a path is admitted a file can be written. -/
theorem admits_iff (hroot : fs.IsDirectoryAt []) (hparts : path.parts = above ++ [name])
    (content : Content) (now : ℤ) : fs.Admits path ↔
      ∃ made after, fs.makeDirectories path.parent now = .ok made ∧
        made.write path content now = .ok after := by
  constructor
  · intro h
    obtain ⟨made, hmade⟩ : ∃ made, fs.makeDirectories path.parent now = .ok made := by
      obtain ⟨made, hmade⟩ : ∃ made, fs.makeDirectoriesFrom path.parent.root now
          path.parent.parts.reverse = (made, .ok ()) := exists_makeDirectoriesFrom hroot h.way
      exact ⟨made, makeDirectories_eq_ok_iff.2 hmade⟩
    have hfree : ¬ made.IsDirectoryAt path.location := by
      rw [isDirectoryAt_made_iff hroot hmade]
      rintro (hway | hdir)
      · exact h.off_way hway
      · exact h.free hdir
    obtain ⟨after, hafter⟩ : ∃ after, made.write path content now = .ok after :=
      exists_write (resolve_of_makeDirectories hroot hparts hmade) hfree
    exact ⟨made, after, hmade, hafter⟩
  · rintro ⟨made, after, hmade, hafter⟩
    have hfree := (write_eq_ok (resolve_of_makeDirectories hroot hparts hmade) hafter).1
    rw [isDirectoryAt_made_iff hroot hmade, not_or] at hfree
    refine ⟨fun place hway hfile => ?_, hfree.1, hfree.2⟩
    obtain ⟨content, time, hnode⟩ :=
      (addsDirectories_of_makeDirectories hroot hmade).keeps.file hfile
    obtain ⟨later, hdir⟩ := (isDirectoryAt_made_iff hroot hmade).2 (Or.inl hway)
    simp [hnode] at hdir

/-- The places that change when a file is written and the directories above it are made. -/
def Changes (fs : FileSystem) (path : Path) : Location → Prop :=
  Around fun place => place = path.location ∨ fs.IsMissing path.parent.parts place

theorem parent_isPrefix (hparts : path.parts = above ++ [name]) :
    path.parent.parts <+: path.parts := by
  rw [parent_parts hparts, hparts]
  exact List.prefix_append above [name]

theorem Changes.onTheWay {place : Location} (hparts : path.parts = above ++ [name])
    (h : fs.Changes path place) : OnTheWay path.parts place := by
  obtain ⟨made, rfl | hmade, hup⟩ := h.exists_prefix
  · exact (onTheWay_location path).of_isPrefix hup
  · exact (hmade.1.of_isPrefix hup).mono (parent_isPrefix hparts)

theorem Changes.of_extends {place : Location} (h : next.Changes path place)
    (hkeeps : Extends fs next) : fs.Changes path place :=
  h.mono fun _ hmade => hmade.imp_right fun hmissing => hmissing.of_extends hkeeps List.prefix_rfl

/-- At most the file was changed that a path leads to, and directories were added on the way. -/
structure Touches (path : Path) (fs after : FileSystem) : Prop where
  keeps : Extends fs after
  outside : SameOutside (fs.Changes path) fs after
  others : ∀ {place found changed}, place ≠ path.location →
    (after.node? place = some (.file found changed) ↔ fs.node? place = some (.file found changed))

theorem Touches.refl (path : Path) (fs : FileSystem) : Touches path fs fs :=
  ⟨Extends.refl fs, SameOutside.refl fs, fun _ => Iff.rfl⟩

theorem AddsDirectories.touches
    (h : AddsDirectories (Around (fs.IsMissing path.parent.parts)) fs after) :
    Touches path fs after :=
  ⟨h.keeps, h.outside.mono fun _ hp => hp.mono fun _ => Or.inr, fun _ => h.node?_eq_file_iff⟩

/-- The file that a path leads to was written. -/
structure Delivers (path : Path) (content : Content) (now : ℤ) (fs after : FileSystem) : Prop
    extends Touches path fs after where
  resolve_eq : after.resolve path = .ok path.location
  file : after.node? path.location = some (.file content now)

theorem delivers_of_write (hroot : fs.IsDirectoryAt []) (hparts : path.parts = above ++ [name])
    (hname : name ≠ text "..") (hmade : fs.makeDirectories path.parent now = .ok made)
    (hafter : made.write path content now = .ok after) :
    Delivers path content now fs after := by
  have hplace := resolve_of_makeDirectories hroot hparts hmade
  have hadds := addsDirectories_of_makeDirectories hroot hmade
  have hlead : path.location.dropLast = lead [] above := by
    rw [Path.location, hparts, lead_append]
    simp [lead, hname]
  have hparent : made.IsDirectoryAt path.location.dropLast := by
    rw [isDirectoryAt_made_iff hroot hmade, hlead, parent_parts hparts]
    exact Or.inl ⟨above, List.prefix_rfl, rfl⟩
  have hwrites := writesFile_of_write hplace hparent hafter
  constructor
  · constructor
    · exact hadds.keeps.trans hwrites.keeps
    · refine (hadds.outside.mono ?_).trans (hwrites.outside.mono ?_)
      · exact fun place hp => hp.mono fun _ => Or.inr
      · exact fun place hp => ⟨path.location, Or.inl rfl, hp⟩
    · intro place found changed hp
      rw [hwrites.others hp, hadds.node?_eq_file_iff]
  · exact walk_mono hwrites.keeps hplace
  · exact hwrites.file

end Writing

end FileSystem

end EntityTagger
