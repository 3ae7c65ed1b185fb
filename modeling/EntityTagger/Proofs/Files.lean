import EntityTagger.FileSystem
import EntityTagger.Proofs.Traversal
import Mathlib.Data.Int.Notation
import Mathlib.Data.List.Induction

/-! File systems under change: which places an operation leaves alone, that files stay files and
directories stay directories, and that what was written is read. -/
namespace EntityTagger

namespace FileSystem

def IsDirectoryAt (fs : FileSystem) (place : Location) : Prop :=
  ∃ time, fs.node? place = some (.directory time)

def IsFileAt (fs : FileSystem) (place : Location) : Prop :=
  ∃ content time, fs.node? place = some (.file content time)

/-- Directories stay directories and files stay files. -/
structure Extends (fs next : FileSystem) : Prop where
  directory : ∀ {place}, fs.IsDirectoryAt place → next.IsDirectoryAt place
  file : ∀ {place}, fs.IsFileAt place → next.IsFileAt place

/-- Nothing is changed, added or removed but at the places of a set. -/
def SameOutside (changed : Location → Prop) (fs next : FileSystem) : Prop :=
  ∀ keep : Location → Bool, (∀ place, changed place → keep place = false) →
    (next.nodes.filter fun entry => keep entry.1) = fs.nodes.filter fun entry => keep entry.1

namespace Extends

variable {fs next last : FileSystem}

theorem refl (fs : FileSystem) : Extends fs fs := ⟨id, id⟩

theorem trans (h : Extends fs next) (k : Extends next last) : Extends fs last :=
  ⟨fun hp => k.directory (h.directory hp), fun hp => k.file (h.file hp)⟩

theorem node?_eq_none (h : Extends fs next) {place : Location} (hnone : next.node? place = none) :
    fs.node? place = none := by
  cases hnode : fs.node? place with
  | none => rfl
  | some node =>
    cases node with
    | directory time =>
      obtain ⟨later, hlater⟩ := h.directory ⟨time, hnode⟩
      simp [hnone] at hlater
    | file content time =>
      obtain ⟨other, later, hlater⟩ := h.file ⟨content, time, hnode⟩
      simp [hnone] at hlater

end Extends

namespace SameOutside

variable {changed more : Location → Prop} {fs next last : FileSystem}

theorem refl (fs : FileSystem) : SameOutside changed fs fs := fun _ _ => rfl

theorem trans (h : SameOutside changed fs next) (k : SameOutside changed next last) :
    SameOutside changed fs last := fun keep hkeep => (k keep hkeep).trans (h keep hkeep)

theorem mono (h : SameOutside changed fs next) (hsub : ∀ place, changed place → more place) :
    SameOutside more fs next := fun keep hkeep => h keep fun place hp => hkeep place (hsub place hp)

theorem node?_eq (h : SameOutside changed fs next) {place : Location} (hp : ¬ changed place) :
    next.node? place = fs.node? place := by
  have hkeep : ∀ other, changed other → decide (other = place) = false := by
    intro other ho
    rw [decide_eq_false_iff_not]
    rintro rfl
    exact hp ho
  have hself : decide (place = place) = true := by simp
  rw [node?, node?, ← Association.get?_filter (decide <| · = place) hself next.nodes,
    ← Association.get?_filter (decide <| · = place) hself fs.nodes, h _ hkeep]

theorem mem_iff (h : SameOutside changed fs next) {place : Location} (hp : ¬ changed place)
    {node : Node} : (place, node) ∈ next.nodes ↔ (place, node) ∈ fs.nodes := by
  have hkeep : ∀ other, changed other → decide (other = place) = false := by
    intro other ho
    rw [decide_eq_false_iff_not]
    rintro rfl
    exact hp ho
  have hmem := congrArg (fun nodes => (place, node) ∈ nodes) (h (decide <| · = place) hkeep)
  simpa [List.mem_filter] using hmem

end SameOutside

section Nodes

variable (fs : FileSystem) (place : Location)

theorem node?_put_self (node : Node) : (fs.put place node).node? place = some node :=
  Association.get?_put_self place node fs.nodes

theorem sameOutside_put (node : Node) : SameOutside (· = place) fs (fs.put place node) :=
  fun keep hkeep => Association.filter_put keep (hkeep place rfl) node fs.nodes

theorem extends_put {node : Node}
    (h : ∀ old, fs.node? place = some old → old.isDirectory = node.isDirectory) :
    Extends fs (fs.put place node) := by
  constructor
  · rintro other ⟨time, ho⟩
    by_cases hp : other = place
    · subst hp
      have hkind := h _ ho
      cases node with
      | directory now => exact ⟨now, fs.node?_put_self other _⟩
      | file content now => simp [Node.isDirectory] at hkind
    · exact ⟨time, by rw [(fs.sameOutside_put place node).node?_eq hp, ho]⟩
  · rintro other ⟨content, time, ho⟩
    by_cases hp : other = place
    · subst hp
      have hkind := h _ ho
      cases node with
      | directory now => simp [Node.isDirectory] at hkind
      | file written now => exact ⟨written, now, fs.node?_put_self other _⟩
    · exact ⟨content, time, by rw [(fs.sameOutside_put place node).node?_eq hp, ho]⟩

theorem sameOutside_setTime (time : ℤ) : SameOutside (· = place) fs (fs.setTime place time) := by
  unfold setTime
  split
  · exact fs.sameOutside_put place _
  · exact fs.sameOutside_put place _
  · exact SameOutside.refl fs

theorem extends_setTime (time : ℤ) : Extends fs (fs.setTime place time) := by
  unfold setTime
  split
  · next old hnode => exact fs.extends_put place (by simp [hnode, Node.isDirectory])
  · next content old hnode => exact fs.extends_put place (by simp [hnode, Node.isDirectory])
  · exact Extends.refl fs

theorem sameOutside_create (node : Node) :
    SameOutside (fun p => p = place ∨ p = place.dropLast) fs (fs.create place node) :=
  ((fs.sameOutside_setTime place.dropLast _).mono fun _ hp => Or.inr hp).trans
    ((sameOutside_put _ place node).mono fun _ hp => Or.inl hp)

theorem extends_create {node : Node} (h : fs.node? place = none) :
    Extends fs (fs.create place node) := by
  refine (fs.extends_setTime place.dropLast _).trans (extends_put _ place fun old ho => ?_)
  by_cases hroot : place = place.dropLast
  · rw [← hroot, setTime, h] at ho
    simp [h] at ho
  · rw [(fs.sameOutside_setTime place.dropLast _).node?_eq hroot, h] at ho
    simp at ho

theorem node?_create_self (node : Node) : (fs.create place node).node? place = some node :=
  node?_put_self _ place node

end Nodes

section Walk

variable {fs next : FileSystem}

theorem walk_append (fs : FileSystem) (place : Location) (parts more : List Text) :
    fs.walk place (parts ++ more) = (fs.walk place parts).bind (fs.walk · more) := by
  induction parts generalizing place with
  | nil => rfl
  | cons part rest ih =>
    rw [List.cons_append, walk, walk]
    cases hnode : fs.node? place with
    | none => rfl
    | some node =>
      cases node with
      | file content time => rfl
      | directory time => split_ifs <;> exact ih _

/-- The place that components lead to from another one, whatever stands there. -/
def lead (place : Location) (parts : List Text) : Location :=
  parts.foldl (fun place part => if part = text ".." then place.dropLast else place ++ [part]) place

theorem lead_append (place : Location) (parts more : List Text) :
    lead place (parts ++ more) = lead (lead place parts) more := List.foldl_append

theorem lead_of_not_dots {place : Location} {parts : List Text} (hdots : text ".." ∉ parts) :
    lead place parts = place ++ parts := by
  induction parts generalizing place with
  | nil => exact (List.append_nil place).symm
  | cons part rest ih =>
    have hpart : part ≠ text ".." := fun h => hdots (by simp [h])
    have hrest : text ".." ∉ rest := fun h => hdots (List.mem_cons_of_mem _ h)
    have hstep : lead place (part :: rest) = lead (place ++ [part]) rest :=
      congrArg (lead · rest) (if_neg hpart)
    rw [hstep, ih hrest, List.append_assoc, List.singleton_append]

/-- A walk passes through directories and ends where the components lead. -/
theorem walk_eq_ok_iff_lead {place last : Location} {parts : List Text} :
    fs.walk place parts = .ok last ↔
      last = lead place parts ∧
        ∀ above below, parts = above ++ below → below ≠ [] → fs.IsDirectoryAt (lead place above) := by
  induction parts generalizing place with
  | nil =>
    constructor
    · intro h
      refine ⟨(Except.ok.inj h).symm, fun above below hsplit hb => ?_⟩
      exact absurd (List.append_eq_nil_iff.1 hsplit.symm).2 hb
    · rintro ⟨rfl, -⟩
      rfl
  | cons part rest ih =>
    have hstep : ∀ {time}, fs.node? place = some (.directory time) →
        fs.walk place (part :: rest) = fs.walk (lead place [part]) rest := by
      intro time hnode
      rw [walk, hnode]
      by_cases hpart : part = text ".." <;> simp [lead, hpart]
    have hsplit : ∀ above, lead (lead place [part]) above = lead place (part :: above) :=
      fun above => (lead_append place [part] above).symm
    constructor
    · intro hwalk
      cases hnode : fs.node? place with
      | none => simp [walk, hnode] at hwalk
      | some node =>
        cases node with
        | file content time => simp [walk, hnode] at hwalk
        | directory time =>
          rw [hstep hnode] at hwalk
          obtain ⟨rfl, hdown⟩ := ih.1 hwalk
          refine ⟨hsplit rest, ?_⟩
          rintro (_ | ⟨first, above⟩) below heq hb
          · exact ⟨time, hnode⟩
          · obtain ⟨rfl, rfl⟩ := List.cons.inj heq
            rw [← hsplit]
            exact hdown above below rfl hb
    · rintro ⟨rfl, hdown⟩
      obtain ⟨time, hnode⟩ := hdown [] (part :: rest) rfl (List.cons_ne_nil _ _)
      rw [hstep hnode, ← hsplit]
      refine ih.2 ⟨rfl, fun above below heq hb => ?_⟩
      rw [hsplit]
      exact hdown (part :: above) below (by rw [heq]; rfl) hb

theorem walk_eq_ok_iff {place last : Location} {parts : List Text} (hdots : text ".." ∉ parts) :
    fs.walk place parts = .ok last ↔
      last = place ++ parts ∧
        ∀ above below, parts = above ++ below → below ≠ [] → fs.IsDirectoryAt (place ++ above) := by
  have habove : ∀ {above below : List Text}, parts = above ++ below →
      lead place above = place ++ above := fun hsplit =>
    lead_of_not_dots fun hmem => hdots (hsplit ▸ List.mem_append_left _ hmem)
  rw [walk_eq_ok_iff_lead, lead_of_not_dots hdots]
  constructor
  · rintro ⟨hlast, hdown⟩
    refine ⟨hlast, fun above below hsplit hb => ?_⟩
    rw [← habove hsplit]
    exact hdown above below hsplit hb
  · rintro ⟨hlast, hdown⟩
    refine ⟨hlast, fun above below hsplit hb => ?_⟩
    rw [habove hsplit]
    exact hdown above below hsplit hb

theorem walk_eq_error {place : Location} {parts : List Text} {fault : FileFault}
    (h : fs.walk place parts = .error fault) :
    fault = .missing ∨ ∃ above below, parts = above ++ below ∧ below ≠ [] ∧
      fs.IsFileAt (lead place above) := by
  induction parts generalizing place with
  | nil => simp [walk] at h
  | cons part rest ih =>
    rw [walk] at h
    cases hnode : fs.node? place with
    | none =>
      rw [hnode] at h
      exact Or.inl (Except.error.inj h).symm
    | some node =>
      cases node with
      | file content time =>
        exact Or.inr ⟨[], part :: rest, rfl, List.cons_ne_nil _ _, content, time, hnode⟩
      | directory time =>
        have hwalk : fs.walk (lead place [part]) rest = .error fault := by
          rw [← h, hnode]
          by_cases hpart : part = text ".." <;> simp [lead, hpart]
        rcases ih hwalk with hmissing | ⟨above, below, hsplit, hb, hfile⟩
        · exact Or.inl hmissing
        · rw [← lead_append] at hfile
          exact Or.inr ⟨part :: above, below, by rw [hsplit]; rfl, hb, hfile⟩

/-- On the way from the root to a place all places above it are passed. -/
theorem exists_prefix_lead {place : Location} {parts : List Text} (h : place <+: lead [] parts) :
    ∃ above, above <+: parts ∧ place = lead [] above := by
  induction parts using List.reverseRecOn with
  | nil => exact ⟨[], List.prefix_rfl, List.prefix_nil.1 h⟩
  | append_singleton parts part ih =>
    have hup : place <+: lead [] parts →
        ∃ above, above <+: parts ++ [part] ∧ place = lead [] above := by
      intro hplace
      obtain ⟨above, habove, rfl⟩ := ih hplace
      exact ⟨above, habove.trans (List.prefix_append parts [part]), rfl⟩
    rw [lead_append] at h
    by_cases hpart : part = text ".."
    · have hlead : lead (lead [] parts) [part] = (lead [] parts).dropLast := by simp [lead, hpart]
      rw [hlead] at h
      exact hup (h.trans (List.dropLast_prefix _))
    · have hlead : lead (lead [] parts) [part] = lead [] parts ++ [part] := by simp [lead, hpart]
      rw [hlead] at h
      rcases List.prefix_concat_iff.1 h with rfl | hprefix
      · exact ⟨parts ++ [part], List.prefix_rfl, by rw [lead_append, hlead]⟩
      · exact hup hprefix

theorem isDirectoryAt_of_walk {parts : List Text} {last above : Location}
    (h : fs.walk [] parts = .ok last) (habove : above <+: last) (hne : above ≠ last) :
    fs.IsDirectoryAt above := by
  obtain ⟨rfl, hdown⟩ := walk_eq_ok_iff_lead.1 h
  obtain ⟨first, ⟨below, hsplit⟩, rfl⟩ := exists_prefix_lead habove
  refine hdown first below hsplit.symm fun hbelow => hne ?_
  rw [← hsplit, hbelow, List.append_nil]

theorem walk_mono (h : Extends fs next) {place last : Location} {parts : List Text}
    (hwalk : fs.walk place parts = .ok last) : next.walk place parts = .ok last := by
  induction parts generalizing place with
  | nil => exact hwalk
  | cons part rest ih =>
    rw [walk] at hwalk ⊢
    cases hnode : fs.node? place with
    | none => simp [hnode] at hwalk
    | some node =>
      cases node with
      | file content time => simp [hnode] at hwalk
      | directory time =>
        obtain ⟨later, hlater⟩ := h.directory ⟨time, hnode⟩
        rw [hnode] at hwalk
        rw [hlater]
        dsimp only at hwalk ⊢
        split_ifs at hwalk ⊢ <;> exact ih hwalk

end Walk

section Operations

variable {fs after made : FileSystem} {path : Path} {content : Content} {now : ℤ}

theorem find?_of_resolve {place : Location} (h : fs.resolve path = .ok place) :
    fs.find? path = fs.node? place := by
  rw [find?, h]
  rfl

/-- Writing puts a file where the path leads; only the directory around it may change, too. -/
theorem write_eq_ok {place : Location} (hplace : fs.resolve path = .ok place)
    (h : fs.write path content now = .ok after) :
    ¬ fs.IsDirectoryAt place ∧ after.node? place = some (.file content now) ∧ Extends fs after ∧
      SameOutside (fun p => p = place ∨ p = place.dropLast) fs after := by
  simp only [write, hplace] at h
  cases hnode : fs.node? place with
  | none =>
    rw [hnode] at h
    obtain rfl := Except.ok.inj h
    refine ⟨?_, fs.node?_create_self place _, fs.extends_create place hnode,
      fs.sameOutside_create place _⟩
    rintro ⟨time, hdir⟩
    simp [hnode] at hdir
  | some node =>
    cases node with
    | directory time => simp [hnode] at h
    | file old time =>
      rw [hnode] at h
      obtain rfl := Except.ok.inj h
      refine ⟨?_, fs.node?_put_self place _, fs.extends_put place ?_,
        (fs.sameOutside_put place _).mono fun _ hp => Or.inl hp⟩
      · rintro ⟨time, hdir⟩
        simp [hnode] at hdir
      · simp [hnode, Node.isDirectory]

theorem readBytes_eq_ok {bytes : List UInt8} (h : fs.readBytes path = .ok bytes) :
    ∃ place content time, fs.resolve path = .ok place ∧
      fs.node? place = some (.file content time) ∧ content.toBytes = bytes := by
  obtain ⟨content, hread, rfl⟩ := Traversal.map_eq_ok_iff.1 h
  rw [read] at hread
  cases hplace : fs.resolve path with
  | error fault => simp [hplace] at hread
  | ok place =>
    simp only [hplace] at hread
    cases hnode : fs.node? place with
    | none => simp [hnode] at hread
    | some node =>
      cases node with
      | directory time => simp [hnode] at hread
      | file found time =>
        rw [hnode] at hread
        obtain rfl := Except.ok.inj hread
        exact ⟨place, found, time, rfl, hnode, rfl⟩

theorem readBytes_of_node? {place : Location} {time : ℤ} (hplace : fs.resolve path = .ok place)
    (hnode : fs.node? place = some (.file content time)) :
    fs.readBytes path = .ok content.toBytes := by
  simp only [readBytes, read, hplace, hnode]
  rfl

theorem isDirectory_iff :
    fs.isDirectory path = true ↔ ∃ time, fs.find? path = some (.directory time) := by
  unfold isDirectory
  split
  · next time hfind => simp [hfind]
  · next hnot =>
    constructor
    · simp
    · rintro ⟨time, hfind⟩
      exact absurd hfind (hnot time)

theorem isFile_iff :
    fs.isFile path = true ↔ ∃ content time, fs.find? path = some (.file content time) := by
  unfold isFile
  split
  · next content time hfind => simp [hfind]
  · next hnot =>
    constructor
    · simp
    · rintro ⟨content, time, hfind⟩
      exact absurd hfind (hnot content time)

theorem find?_eq_some_iff {node : Node} :
    fs.find? path = some node ↔ ∃ place, fs.resolve path = .ok place ∧
      fs.node? place = some node := by
  unfold find?
  cases fs.resolve path <;> simp [Except.toOption]

theorem isPresent_of_readBytes {bytes : List UInt8} (h : fs.readBytes path = .ok bytes) :
    fs.isPresent path = true := by
  obtain ⟨place, content, time, hplace, hnode, -⟩ := readBytes_eq_ok h
  rw [isPresent, find?_eq_some_iff.2 ⟨place, hplace, hnode⟩]
  rfl

theorem readBytes_of_isDirectory (h : fs.isDirectory path = true) :
    fs.isPresent path = true ∧ fs.readBytes path = .error ⟨.isDirectory, path.toText⟩ := by
  obtain ⟨time, hfind⟩ := isDirectory_iff.1 h
  obtain ⟨place, hplace, hnode⟩ := find?_eq_some_iff.1 hfind
  constructor
  · simp [isPresent, hfind]
  · simp only [readBytes, read, hplace, hnode]
    rfl

theorem readBytes_or_isDirectory (h : fs.isPresent path = true) :
    (∃ bytes, fs.readBytes path = .ok bytes) ∨ fs.isDirectory path = true := by
  obtain ⟨node, hfind⟩ := Option.isSome_iff_exists.1 h
  obtain ⟨place, hplace, hnode⟩ := find?_eq_some_iff.1 hfind
  cases node with
  | directory time => exact Or.inr (isDirectory_iff.2 ⟨time, hfind⟩)
  | file content time => exact Or.inl ⟨_, readBytes_of_node? hplace hnode⟩

theorem readBytes_of_find? {content : Content} {time : ℤ}
    (h : fs.find? path = some (.file content time)) : fs.readBytes path = .ok content.toBytes := by
  obtain ⟨place, hplace, hnode⟩ := find?_eq_some_iff.1 h
  exact readBytes_of_node? hplace hnode

theorem isFile_of_readBytes {bytes : List UInt8} (h : fs.readBytes path = .ok bytes) :
    fs.isFile path = true := by
  obtain ⟨place, content, time, hplace, hnode, -⟩ := readBytes_eq_ok h
  exact isFile_iff.2 ⟨content, time, find?_eq_some_iff.2 ⟨place, hplace, hnode⟩⟩

theorem isFile_or_isDirectory (h : fs.isPresent path = true) :
    fs.isFile path = true ∨ fs.isDirectory path = true := by
  obtain ⟨node, hfind⟩ := Option.isSome_iff_exists.1 h
  cases node with
  | file content time => exact Or.inl (isFile_iff.2 ⟨content, time, hfind⟩)
  | directory time => exact Or.inr (isDirectory_iff.2 ⟨time, hfind⟩)

theorem not_isDirectory_of_isFile (h : fs.isFile path = true) : fs.isDirectory path = false := by
  obtain ⟨content, time, hfind⟩ := isFile_iff.1 h
  simp [isDirectory, hfind]

theorem isDirectory_of_extends (h : Extends fs after) (hdir : fs.isDirectory path = true) :
    after.isDirectory path = true := by
  obtain ⟨time, hfind⟩ := isDirectory_iff.1 hdir
  obtain ⟨place, hplace, hnode⟩ := find?_eq_some_iff.1 hfind
  obtain ⟨later, hlater⟩ := h.directory ⟨time, hnode⟩
  exact isDirectory_iff.2 ⟨later, find?_eq_some_iff.2 ⟨place, walk_mono h hplace, hlater⟩⟩

theorem isPresent_of_extends (h : Extends fs after) (hpresent : fs.isPresent path = true) :
    after.isPresent path = true ∧ after.isDirectory path = fs.isDirectory path := by
  obtain ⟨node, hfind⟩ := Option.isSome_iff_exists.1 hpresent
  obtain ⟨place, hplace, hnode⟩ := find?_eq_some_iff.1 hfind
  rw [isPresent, isDirectory, isDirectory, hfind, find?_of_resolve (walk_mono h hplace)]
  cases node with
  | directory time =>
    obtain ⟨later, hlater⟩ := h.directory ⟨time, hnode⟩
    rw [hlater]
    exact ⟨rfl, rfl⟩
  | file content time =>
    obtain ⟨other, later, hlater⟩ := h.file ⟨content, time, hnode⟩
    rw [hlater]
    exact ⟨rfl, rfl⟩

theorem exists_write {place : Location} (hplace : fs.resolve path = .ok place)
    (h : ¬ fs.IsDirectoryAt place) : ∃ after, fs.write path content now = .ok after := by
  simp only [write, hplace]
  cases hnode : fs.node? place with
  | none => exact ⟨_, rfl⟩
  | some node =>
    cases node with
    | file old time => exact ⟨_, rfl⟩
    | directory time => exact absurd ⟨time, hnode⟩ h

theorem resolve_of_write (h : fs.write path content now = .ok after) :
    ∃ place, fs.resolve path = .ok place := by
  rw [write] at h
  cases hplace : fs.resolve path with
  | error fault => simp [hplace] at h
  | ok place => exact ⟨place, rfl⟩

theorem readBytes_write {bytes : List UInt8}
    (h : fs.write path (.bytes bytes) now = .ok after) : after.readBytes path = .ok bytes := by
  obtain ⟨place, hplace⟩ := resolve_of_write h
  obtain ⟨-, hfile, hkeeps, -⟩ := write_eq_ok hplace h
  exact readBytes_of_node? (walk_mono hkeeps hplace) hfile

theorem makeDirectory_eq_ok (h : fs.makeDirectory path now = .ok made) :
    ∃ place, fs.resolve path = .ok place ∧
      (fs.IsDirectoryAt place ∧ made = fs ∨
        fs.node? place = none ∧ made = fs.create place (.directory now)) := by
  rw [makeDirectory] at h
  cases hplace : fs.resolve path with
  | error fault => simp [hplace] at h
  | ok place =>
    simp only [hplace] at h
    refine ⟨place, rfl, ?_⟩
    cases hnode : fs.node? place with
    | none =>
      rw [hnode] at h
      exact Or.inr ⟨rfl, (Except.ok.inj h).symm⟩
    | some node =>
      cases node with
      | file old time => simp [hnode] at h
      | directory time =>
        rw [hnode] at h
        exact Or.inl ⟨⟨time, hnode⟩, (Except.ok.inj h).symm⟩

end Operations

/-- A file was written; of all else only the directory around it got a new time. -/
structure WritesFile (place : Location) (content : Content) (time : ℤ) (fs after : FileSystem) :
    Prop where
  file : after.node? place = some (.file content time)
  keeps : Extends fs after
  outside : SameOutside (fun p => p = place ∨ p = place.dropLast) fs after
  others : ∀ {other found changed}, other ≠ place →
    (after.node? other = some (.file found changed) ↔ fs.node? other = some (.file found changed))
  directory : ∀ {other}, after.IsDirectoryAt other → fs.IsDirectoryAt other

theorem writesFile_of_write {fs after : FileSystem} {path : Path} {content : Content} {now : ℤ}
    {place : Location} (hplace : fs.resolve path = .ok place)
    (hparent : fs.IsDirectoryAt place.dropLast) (h : fs.write path content now = .ok after) :
    WritesFile place content now fs after := by
  obtain ⟨-, hfile, hkeeps, houtside⟩ := write_eq_ok hplace h
  refine ⟨hfile, hkeeps, houtside, ?_, ?_⟩
  · intro other found changed hother
    by_cases hup : other = place.dropLast
    · obtain ⟨later, hlater⟩ := hkeeps.directory hparent
      obtain ⟨before, hbefore⟩ := hparent
      rw [hup, hbefore, hlater]
      simp
    · rw [houtside.node?_eq]
      rintro (heq | heq)
      · exact hother heq
      · exact hup heq
  · rintro other ⟨time, hdir⟩
    by_cases hup : other = place.dropLast
    · exact hup ▸ hparent
    · refine ⟨time, ?_⟩
      rw [← houtside.node?_eq, hdir]
      rintro (heq | heq)
      · rw [heq, hfile] at hdir
        simp at hdir
      · exact hup heq

end FileSystem

end EntityTagger
