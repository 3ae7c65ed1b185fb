import EntityTagger.Proofs.Directories

/-! What a failed attempt to write below new directories leaves. Where every step up leads out of a
directory that is there, nothing is made before a file in the way is met, and nothing is left. -/
namespace EntityTagger

namespace FileSystem

/-- There is a root, and all that is there stands in a directory. -/
structure IsGrounded (fs : FileSystem) : Prop where
  root : fs.IsDirectoryAt []
  around : ∀ {place node}, fs.node? place = some node → fs.IsDirectoryAt place.dropLast

theorem IsGrounded.isDirectoryAt {fs : FileSystem} (h : fs.IsGrounded) {place : Location} {node : Node}
    (hnode : fs.node? place = some node) {above : Location} (habove : above <+: place)
    (hne : above ≠ place) : fs.IsDirectoryAt above := by
  induction place using List.reverseRecOn generalizing node with
  | nil => exact absurd (List.prefix_nil.1 habove) hne
  | append_singleton first last ih =>
    have hfirst := h.around hnode
    rw [List.dropLast_concat] at hfirst
    rcases List.prefix_concat_iff.1 habove with rfl | hin
    · exact absurd rfl hne
    · by_cases heq : above = first
      · exact heq ▸ hfirst
      · obtain ⟨time, hdir⟩ := hfirst
        exact ih hdir hin heq

/-- Two dots only lead out of directories that are there. -/
def IsDirect (fs : FileSystem) (parts : List Text) : Prop :=
  ∀ above below, parts = above ++ text ".." :: below →
    ∃ place, fs.walk [] above = .ok place ∧ fs.IsDirectoryAt place

section Direct

variable {fs made : FileSystem} {above parts : List Text} {name : Text} {root : Root} {path : Path}
  {content : Content} {now : ℤ}

theorem IsDirect.of_append (h : fs.IsDirect (above ++ [name])) : fs.IsDirect above :=
  fun first below hsplit => h first (below ++ [name]) (by rw [hsplit]; simp)

theorem IsDirect.parent (h : fs.IsDirect path.parts) : fs.IsDirect path.parent.parts := by
  rcases List.eq_nil_or_concat path.parts with hparts | ⟨above, name, hparts⟩
  · rw [hparts] at h
    simpa [Path.parent, hparts] using h
  · rw [List.concat_eq_append] at hparts
    rw [hparts] at h
    rw [parent_parts hparts]
    exact h.of_append

theorem isDirect_of_not_dots (hdots : text ".." ∉ parts) : fs.IsDirect parts :=
  fun above below hsplit => absurd (by rw [hsplit]; simp) hdots

theorem lead_concat (hname : name ≠ text "..") :
    lead [] (above ++ [name]) = lead [] above ++ [name] := by
  rw [lead_append]
  simp [lead, hname]

theorem walk_concat {place : Location} (hwalk : fs.walk [] above = .ok place)
    (hdir : fs.IsDirectoryAt place) :
    fs.walk [] (above ++ [name]) = .ok (lead [] (above ++ [name])) := by
  obtain ⟨rfl, hdown⟩ := walk_eq_ok_iff_lead.1 hwalk
  refine walk_eq_ok_iff_lead.2 ⟨rfl, fun first below hsplit hbelow => ?_⟩
  rcases List.eq_nil_or_concat below with rfl | ⟨below, last, rfl⟩
  · exact absurd rfl hbelow
  · rw [List.concat_eq_append, ← List.append_assoc] at hsplit
    have habove := List.append_inj_left' hsplit rfl
    by_cases hnil : below = []
    · rw [hnil, List.append_nil] at habove
      exact habove ▸ hdir
    · exact hdown first below habove hnil

theorem IsDirect.walk_eq (h : fs.IsDirect parts) (hground : fs.IsGrounded) {node : Node}
    (hnode : fs.node? (lead [] parts) = some node) : fs.walk [] parts = .ok (lead [] parts) := by
  induction parts using List.reverseRecOn generalizing node with
  | nil => rfl
  | append_singleton above name ih =>
    by_cases hname : name = text ".."
    · obtain ⟨place, hwalk, hdir⟩ := h above [] (by rw [hname])
      exact walk_concat hwalk hdir
    · have hdir : fs.IsDirectoryAt (lead [] above) := by
        have haround := hground.around hnode
        rwa [lead_concat hname, List.dropLast_concat] at haround
      obtain ⟨time, hnode⟩ := hdir
      exact walk_concat (ih h.of_append hnode) ⟨time, hnode⟩

theorem IsDirect.isDirectoryAt (h : fs.IsDirect parts) {place : Location}
    (hway : OnTheWay parts place) (hplace : ¬ place <+: lead [] parts) :
    fs.IsDirectoryAt place := by
  induction parts using List.reverseRecOn with
  | nil =>
    obtain ⟨first, hfirst, rfl⟩ := hway
    obtain rfl := List.prefix_nil.1 hfirst
    exact absurd List.prefix_rfl hplace
  | append_singleton above name ih =>
    obtain ⟨first, hfirst, rfl⟩ := hway
    rcases List.prefix_concat_iff.1 hfirst with rfl | ⟨below, rfl⟩
    · exact absurd List.prefix_rfl hplace
    by_cases hname : name = text ".."
    · obtain ⟨place, hwalk, hdir⟩ := h (first ++ below) [] (by rw [hname])
      obtain ⟨rfl, hdown⟩ := walk_eq_ok_iff_lead.1 hwalk
      by_cases hnil : below = []
      · rwa [hnil, List.append_nil] at hdir
      · exact hdown first below rfl hnil
    · refine ih h.of_append ⟨first, List.prefix_append first below, rfl⟩ fun hup => hplace ?_
      rw [lead_concat hname]
      exact hup.trans (List.prefix_append _ _)

theorem makeDirectoriesFrom_of_walk {place : Location} (hwalk : fs.walk [] parts = .ok place)
    (hdir : fs.IsDirectoryAt place) :
    fs.makeDirectoriesFrom root now parts.reverse = (fs, .ok ()) := by
  rcases List.eq_nil_or_concat parts with rfl | ⟨above, name, rfl⟩
  · rfl
  · have hpath : (name :: above.reverse).reverse = above.concat name := by simp
    obtain ⟨time, hnode⟩ := hdir
    have hmade : fs.makeDirectory ⟨root, above.concat name⟩ now = .ok fs := by
      simp only [makeDirectory, resolve, hwalk, hnode]
    rw [List.concat_eq_append, List.reverse_append, List.reverse_singleton, List.singleton_append,
      makeDirectoriesFrom, hpath, hmade]

/-- On a direct way nothing is made before a file is met. -/
theorem IsDirect.makeDirectoriesFrom_eq (h : fs.IsDirect parts) (hground : fs.IsGrounded)
    {error : FileError}
    (herror : fs.makeDirectoriesFrom root now parts.reverse = (made, .error error)) :
    made = fs := by
  induction parts using List.reverseRecOn generalizing made error with
  | nil => simp [makeDirectoriesFrom] at herror
  | append_singleton above name ih =>
    have hpath : (name :: above.reverse).reverse = above ++ [name] := by simp
    rw [List.reverse_append, List.reverse_singleton, List.singleton_append, makeDirectoriesFrom,
      hpath] at herror
    split at herror
    · simp at herror
    · next hmissing =>
      cases hnext : fs.makeDirectoriesFrom root now above.reverse with
      | mk next result =>
        cases result with
        | error fault =>
          simp only [hnext, Prod.mk.injEq] at herror
          obtain ⟨rfl, -⟩ := herror
          exact ih h.of_append hnext
        | ok =>
          -- with the directories above it made, only a file keeps the last one from being made
          have hparent : fs.makeDirectories (Path.parent ⟨root, above ++ [name]⟩) now =
              .ok next := by
            rw [makeDirectories_eq_ok_iff, parent_parts rfl]
            exact hnext
          have hplace : next.resolve ⟨root, above ++ [name]⟩ = .ok (lead [] (above ++ [name])) :=
            resolve_of_makeDirectories hground.root rfl hparent
          have hadds := addsDirectories_of_makeDirectories hground.root hparent
          simp only [hnext] at herror
          cases hnode : next.node? (lead [] (above ++ [name])) with
          | none => simp [makeDirectory, hplace, hnode] at herror
          | some node =>
            cases node with
            | directory time => simp [makeDirectory, hplace, hnode] at herror
            | file found time =>
              have hfile := hadds.file hnode
              have hwalk := h.walk_eq hground hfile
              simp [makeDirectory, resolve, hwalk, hfile] at hmissing
    · simp only [Prod.mk.injEq] at herror
      exact herror.1.symm

theorem IsDirect.withDirectories_eq (h : fs.IsDirect path.parts) (hground : fs.IsGrounded)
    {error : FileError} (herror : fs.makeDirectories path now = .error error) :
    fs.withDirectories path now = fs := by
  rw [makeDirectories] at herror
  cases hmade : fs.makeDirectoriesFrom path.root now path.parts.reverse with
  | mk made result =>
    cases result with
    | ok => simp [hmade, Except.map] at herror
    | error fault =>
      rw [withDirectories, hmade]
      exact h.makeDirectoriesFrom_eq hground hmade

theorem IsDirect.eq_of_write (h : fs.IsDirect path.parts) (hground : fs.IsGrounded)
    (hmade : fs.makeDirectories path.parent now = .ok made) {error : FileError}
    (herror : made.write path content now = .error error) : made = fs := by
  have hmade' := makeDirectories_eq_ok_iff.1 hmade
  rcases List.eq_nil_or_concat path.parts with hparts | ⟨above, name, hparts⟩
  · have hroot : path.parent.parts = [] := by simp [Path.parent, hparts]
    rw [hroot] at hmade'
    exact (Prod.mk.inj hmade').1.symm
  rw [List.concat_eq_append] at hparts
  rw [parent_parts hparts] at hmade'
  have hthere : ∀ {place}, fs.walk [] above = .ok place → fs.IsDirectoryAt place → made = fs := by
    intro place hwalk hdir
    rw [makeDirectoriesFrom_of_walk hwalk hdir] at hmade'
    exact (Prod.mk.inj hmade').1.symm
  rw [hparts] at h
  by_cases hname : name = text ".."
  · obtain ⟨place, hwalk, hdir⟩ := h above [] (by rw [hname])
    exact hthere hwalk hdir
  have hend : fs.IsDirectoryAt (lead [] (above ++ [name])) := by
    have hlocation : path.location = lead [] (above ++ [name]) := by rw [Path.location, hparts]
    have hdir : made.IsDirectoryAt path.location := by
      by_contra hfree
      obtain ⟨after, hafter⟩ : ∃ after, made.write path content now = .ok after :=
        exists_write (resolve_of_makeDirectories hground.root hparts hmade) hfree
      simp [hafter] at herror
    rw [isDirectoryAt_made_iff hground.root hmade, parent_parts hparts, hlocation] at hdir
    rcases hdir with hway | hdir
    · refine h.of_append.isDirectoryAt hway fun hup => ?_
      have hlength := hup.length_le
      rw [lead_concat hname, List.length_append, List.length_singleton] at hlength
      omega
    · exact hdir
  obtain ⟨time, hnode⟩ := hend
  obtain ⟨-, hdown⟩ := walk_eq_ok_iff_lead.1 (h.walk_eq hground hnode)
  obtain ⟨time, hdir⟩ := hdown above [name] rfl (List.cons_ne_nil _ _)
  exact hthere (h.of_append.walk_eq hground hdir) ⟨time, hdir⟩

/-- Exactly where a path is admitted a file can be written, wherever the path leads. -/
theorem IsGrounded.admits_iff (hground : fs.IsGrounded) (path : Path) (content : Content)
    (now : ℤ) : fs.Admits path ↔
      ∃ made after, fs.makeDirectories path.parent now = .ok made ∧
        made.write path content now = .ok after := by
  rcases List.eq_nil_or_concat path.parts with hparts | ⟨above, name, hparts⟩
  · have hlocation : path.location = [] := by rw [Path.location, hparts]; rfl
    constructor
    · intro h
      exact absurd (hlocation ▸ hground.root) h.free
    · rintro ⟨made, after, hmade, hafter⟩
      have hadds := addsDirectories_of_makeDirectories hground.root hmade
      have hresolve : made.resolve path = .ok [] := by rw [resolve, hparts, walk]
      exact absurd (hadds.keeps.directory hground.root) (write_eq_ok hresolve hafter).1
  · rw [List.concat_eq_append] at hparts
    exact FileSystem.admits_iff hground.root hparts content now

end Direct

end FileSystem

end EntityTagger
