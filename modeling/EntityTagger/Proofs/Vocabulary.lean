import EntityTagger.Proofs.Association
import EntityTagger.Proofs.Failure
import EntityTagger.Proofs.Files
import EntityTagger.Proofs.Text.Lines
import EntityTagger.Proofs.Utf8.Pieces
import EntityTagger.Tokenizer.Vocabulary

/-! Which vocabularies are taken: the files in UTF-8 with a line for each special token. A token has
the number of the last line that it stands on, so tokens that differ are numbered in the order of
their lines. -/
namespace EntityTagger

def IsLastPlace {α : Type} (items : List α) (x : α) (place : ℕ) : Prop :=
  items[place]? = some x ∧ ∀ later, place < later → items[later]? ≠ some x

theorem isLastPlace_append {α : Type} [DecidableEq α] {items : List α} {last x : α} {place : ℕ} :
    IsLastPlace (items ++ [last]) x place ↔
      if x = last then place = items.length else IsLastPlace items x place := by
  have hlast : (items ++ [last])[items.length]? = some last := by simp
  split_ifs with hx
  · subst hx
    constructor
    · rintro ⟨hplace, hlater⟩
      have hlt := (List.getElem?_eq_some_iff.1 hplace).1
      rw [List.length_append, List.length_singleton] at hlt
      by_contra hne
      exact hlater items.length (by omega) hlast
    · rintro rfl
      refine ⟨hlast, fun later hlt heq => ?_⟩
      have hlt' := (List.getElem?_eq_some_iff.1 heq).1
      rw [List.length_append, List.length_singleton] at hlt'
      omega
  · have hsame : ∀ k : ℕ, (items ++ [last])[k]? = some x ↔ items[k]? = some x := by
      intro k
      rcases Nat.lt_trichotomy k items.length with hk | rfl | hk
      · rw [List.getElem?_append_left hk]
      · rw [hlast, List.getElem?_eq_none (Nat.le_refl _)]
        simp [Ne.symm hx]
      · rw [List.getElem?_eq_none (by simp; omega), List.getElem?_eq_none (by omega)]
    simp only [IsLastPlace, hsame, ne_eq]

theorem exists_isLastPlace_iff {α : Type} [DecidableEq α] {items : List α} {x : α} :
    (∃ place, IsLastPlace items x place) ↔ x ∈ items := by
  induction items using List.reverseRecOn with
  | nil => simp [IsLastPlace]
  | append_singleton items last ih =>
    simp only [isLastPlace_append, List.mem_append, List.mem_singleton, ← ih]
    by_cases hx : x = last
    · simp [hx]
    · simp [hx]

theorem isLastPlace_iff_of_nodup {α : Type} {items : List α} (h : items.Nodup) {x : α} {place : ℕ} :
    IsLastPlace items x place ↔ items[place]? = some x := by
  refine ⟨And.left, fun hplace => ⟨hplace, fun later hlt hlater => ?_⟩⟩
  obtain ⟨hp, hx⟩ := List.getElem?_eq_some_iff.1 hplace
  obtain ⟨hl, hx'⟩ := List.getElem?_eq_some_iff.1 hlater
  apply Nat.ne_of_lt hlt
  apply h.getElem_inj_iff.1
  exact hx.trans hx'.symm

/-! ### The test for a file -/

namespace FileSystem

variable {fs : FileSystem} {path : Path}

/-- On the way of a path a name is looked up, in a directory that is there, that no entry can
have. -/
def LooksUpLongName (fs : FileSystem) (path : Path) : Prop :=
  ∃ above name below here, path.parts = above ++ name :: below ∧ name ≠ text ".." ∧
    maxNameLength < encodedLength name ∧ fs.walk [] above = .ok here ∧ fs.IsDirectoryAt here

/-- The system cannot look a path up: it is too long, or a name on its way is. -/
def IsTooLong (fs : FileSystem) (path : Path) : Prop :=
  maxPathLength < encodedLength path.toText ∨ fs.LooksUpLongName path

theorem walk_cons_of_node? {place : Location} {time : ℤ}
    (hnode : fs.node? place = some (.directory time)) (part : Text) (rest : List Text) :
    fs.walk place (part :: rest) =
      fs.walk (if part = text ".." then place.dropLast else place ++ [part]) rest := by
  rw [walk, hnode]
  split_ifs <;> rfl

theorem isDirectoryAt_of_walk_cons {place here : Location} {part : Text} {rest : List Text}
    (h : fs.walk place (part :: rest) = .ok here) : fs.IsDirectoryAt place := by
  rw [walk] at h
  split at h
  · cases h
  · cases h
  · next time hnode => exact ⟨time, hnode⟩

theorem meetsLongName_cons {place : Location} {part : Text} {rest : List Text} :
    fs.meetsLongName place (part :: rest) = true ↔ fs.IsDirectoryAt place ∧
      (part ≠ text ".." ∧ maxNameLength < encodedLength part ∨
        fs.meetsLongName (if part = text ".." then place.dropLast else place ++ [part]) rest) := by
  rw [meetsLongName]
  split
  · next time hnode =>
    have hdir : fs.IsDirectoryAt place := ⟨time, hnode⟩
    split_ifs with hpart <;> simp [hpart, hdir]
  · next hnode =>
    have hdir : ¬ fs.IsDirectoryAt place := fun ⟨time, hnode'⟩ => hnode time hnode'
    simp [hdir]

theorem meetsLongName_iff {place : Location} {parts : List Text} :
    fs.meetsLongName place parts = true ↔ ∃ above name below here, parts = above ++ name :: below ∧
      name ≠ text ".." ∧ maxNameLength < encodedLength name ∧ fs.walk place above = .ok here ∧
        fs.IsDirectoryAt here := by
  induction parts generalizing place with
  | nil => simp [meetsLongName]
  | cons part rest ih =>
    rw [meetsLongName_cons, ih]
    constructor
    · rintro ⟨hdir, ⟨hname, hlong⟩ | ⟨above, name, below, here, rfl, hname, hlong, hwalk, hhere⟩⟩
      · exact ⟨[], part, rest, place, rfl, hname, hlong, rfl, hdir⟩
      · obtain ⟨time, hnode⟩ := hdir
        refine ⟨part :: above, name, below, here, rfl, hname, hlong, ?_, hhere⟩
        rw [walk_cons_of_node? hnode, hwalk]
    · rintro ⟨_ | ⟨first, above⟩, name, below, here, hsplit, hname, hlong, hwalk, hhere⟩
      · obtain ⟨rfl, rfl⟩ := List.cons.inj hsplit
        obtain rfl := Except.ok.inj hwalk
        exact ⟨hhere, Or.inl ⟨hname, hlong⟩⟩
      · obtain ⟨rfl, rfl⟩ := List.cons.inj hsplit
        obtain ⟨time, hnode⟩ := isDirectoryAt_of_walk_cons hwalk
        rw [walk_cons_of_node? hnode] at hwalk
        exact ⟨⟨time, hnode⟩, Or.inr ⟨above, name, below, here, rfl, hname, hlong, hwalk, hhere⟩⟩

theorem isTooLong_iff : fs.isTooLong path = true ↔ fs.IsTooLong path := by
  rw [isTooLong, Bool.or_eq_true, decide_eq_true_eq, meetsLongName_iff]
  rfl

theorem testFile_eq_error_iff {error : FileError} : fs.testFile path = .error error ↔
    fs.IsTooLong path ∧ error = ⟨.nameTooLong, path.toText⟩ := by
  rw [testFile, ← isTooLong_iff]
  split_ifs with h <;> simp [h, eq_comm]

theorem testFile_eq_ok (h : ¬ fs.IsTooLong path) : fs.testFile path = .ok (fs.isFile path) :=
  if_neg fun hlong => h (isTooLong_iff.1 hlong)

end FileSystem

namespace Vocabulary

variable {lines : List Text} {token : Text} {id : ℕ} {v held : Vocabulary}

/-! ### The ids of lines -/

theorem nodup_ofLines (lines : List Text) : ((ofLines lines).tokens.map Prod.fst).Nodup :=
  Association.nodup_ofList _

theorem id?_ofLines : (ofLines lines).id? token = some id ↔ IsLastPlace lines token id := by
  induction lines using List.reverseRecOn with
  | nil => simp [ofLines, id?, Association.ofList, IsLastPlace]
  | append_singleton lines last ih =>
    have hput : (ofLines (lines ++ [last])).tokens =
        Association.put last lines.length (ofLines lines).tokens := by
      simp [ofLines, Association.ofList, List.zipIdx_append]
    rw [isLastPlace_append, id?, hput]
    split_ifs with htoken
    · rw [htoken, Association.get?_put_self, Option.some.injEq, eq_comm]
    · rw [Association.get?_put_of_ne htoken]
      exact ih

theorem mem_tokens_iff : token ∈ v.tokens.map Prod.fst ↔ ∃ id, v.id? token = some id :=
  Association.exists_get?_iff.symm

theorem mem_ofLines_iff : token ∈ (ofLines lines).tokens.map Prod.fst ↔ token ∈ lines := by
  simp only [mem_tokens_iff, id?_ofLines, exists_isLastPlace_iff]

theorem isEmpty_ofLines : (ofLines lines).tokens.isEmpty = true ↔ lines = [] := by
  constructor
  · intro h
    rw [List.isEmpty_iff] at h
    apply List.eq_nil_iff_forall_not_mem.2
    intro token htoken
    rw [← mem_ofLines_iff, h] at htoken
    exact List.not_mem_nil htoken
  · rintro rfl
    rfl

/-! ### What a tokenizer holds -/

theorem mem_missing_iff : token ∈ v.missing ↔ token ∈ special ∧ token ∉ v.tokens.map Prod.fst := by
  rw [missing, List.mem_filter, Option.isNone_iff_eq_none, id?, Association.get?_eq_none_iff]

theorem nodup_append_missing (hv : (v.tokens.map Prod.fst).Nodup) :
    (v.tokens.map Prod.fst ++ v.missing).Nodup := by
  have hspecial : special.Nodup := by decide
  rw [List.nodup_append]
  refine ⟨hv, hspecial.filter _, ?_⟩
  rintro token htoken other hother rfl
  exact (mem_missing_iff.1 hother).2 htoken

theorem missing_eq_nil_iff : v.missing = [] ↔ ∀ token ∈ special, token ∈ v.tokens.map Prod.fst := by
  simp only [List.eq_nil_iff_forall_not_mem, mem_missing_iff, not_and, not_not]

theorem missing_ofLines_eq_nil_iff :
    (ofLines lines).missing = [] ↔ ∀ token ∈ special, token ∈ lines := by
  simp only [missing_eq_nil_iff, mem_ofLines_iff]

/-- A tokenizer over a vocabulary: it holds the tokens of the vocabulary with their ids and, with
some ids of their own, the special tokens that are missing. -/
structure Opens (v held : Vocabulary) : Prop where
  nodup : (held.tokens.map Prod.fst).Nodup
  keeps : ∀ token id, v.id? token = some id → held.id? token = some id
  mem_iff : ∀ token, token ∈ held.tokens.map Prod.fst ↔
    token ∈ v.tokens.map Prod.fst ∨ token ∈ special

theorem opens_completed (hv : (v.tokens.map Prod.fst).Nodup) : Opens v v.completed := by
  have hkeys : v.completed.tokens.map Prod.fst = v.tokens.map Prod.fst ++ v.missing := by
    rw [completed, List.map_append, List.zipIdx_map_fst]
  constructor
  · rw [hkeys]
    exact nodup_append_missing hv
  · intro token id hid
    exact Association.get?_append_of_some hid
  · intro token
    rw [hkeys, List.mem_append, mem_missing_iff]
    by_cases htoken : token ∈ v.tokens.map Prod.fst
    · simp [htoken]
    · simp [htoken]

namespace Opens

theorem length_eq (h : Opens v held) (hv : (v.tokens.map Prod.fst).Nodup) :
    held.tokens.length = v.tokens.length + v.missing.length := by
  have hperm : (held.tokens.map Prod.fst).Perm (v.tokens.map Prod.fst ++ v.missing) := by
    rw [List.perm_ext_iff_of_nodup h.nodup (nodup_append_missing hv)]
    intro token
    rw [h.mem_iff, List.mem_append, mem_missing_iff]
    by_cases htoken : token ∈ v.tokens.map Prod.fst
    · simp [htoken]
    · simp [htoken]
  have hlength := hperm.length_eq
  rwa [List.length_append, List.length_map, List.length_map] at hlength

theorem displaced_eq (h : Opens v held) (hv : (v.tokens.map Prod.fst).Nodup) :
    v.displaced held = [] := by
  rw [displaced, List.filter_eq_nil_iff]
  rintro ⟨token, id⟩ hmem
  have hid := h.keeps token id ((Association.get?_eq_some_iff hv).2 hmem)
  simp [hid]

theorem id?_eq (h : Opens v held) (hspecial : v.missing = []) : held.id? token = v.id? token := by
  cases hid : v.id? token with
  | some id => exact h.keeps token id hid
  | none =>
    have hnot : token ∉ v.tokens.map Prod.fst := Association.get?_eq_none_iff.1 hid
    apply Association.get?_eq_none_iff.2
    rw [h.mem_iff]
    rintro (hmem | hmem)
    · exact hnot hmem
    · exact hnot (missing_eq_nil_iff.1 hspecial token hmem)

end Opens

/-! ### Loading -/

section Loading

variable {opened : Vocabulary → Vocabulary} {fs : FileSystem} {path : Path} {bytes : List UInt8}
  {content : Text}

/-- The vocabulary is to blame, unless the test for a file fails. -/
theorem failsWith_loadWith (opened : Vocabulary → Vocabulary) (fs : FileSystem) (path : Path) :
    FailsWith (fun e => (∃ fault, e = .resource ⟨.vocabulary, some path.toText, fault⟩) ∨
      ∃ error, fs.testFile path = .error error ∧ e = .file error) (loadWith opened fs path) := by
  unfold loadWith
  dsimp only
  split
  · next error htest => exact .error (Or.inr ⟨error, htest, rfl⟩)
  · exact .error (Or.inl ⟨_, rfl⟩)
  · split
    · exact .error (Or.inl ⟨_, rfl⟩)
    · split
      · exact .error (Or.inl ⟨_, rfl⟩)
      · split
        · exact .error (Or.inl ⟨_, rfl⟩)
        · split
          · exact .ok _
          · exact .error (Or.inl ⟨_, rfl⟩)

theorem loadWith_of_isTooLong (opened : Vocabulary → Vocabulary) (h : fs.IsTooLong path) :
    loadWith opened fs path = .error (.file ⟨.nameTooLong, path.toText⟩) := by
  have htest := FileSystem.testFile_eq_error_iff.2 ⟨h, rfl⟩
  simp only [loadWith, htest]

theorem exists_content_of_loadWith (h : loadWith opened fs path = .ok held) :
    ∃ bytes content, fs.readBytes path = .ok bytes ∧ Utf8.encode content = .ok bytes := by
  unfold loadWith at h
  dsimp only at h
  split at h
  · cases h
  · cases h
  · split at h
    · cases h
    · next bytes hbytes =>
      split at h
      · cases h
      · next content hcontent =>
        exact ⟨bytes, content, hbytes, Utf8.decodeStream_eq_iff.1 hcontent⟩

theorem loadWith_eq_ok_iff (hopens : ∀ v, (v.tokens.map Prod.fst).Nodup → Opens v (opened v))
    (hshort : ¬ fs.IsTooLong path) (hbytes : fs.readBytes path = .ok bytes)
    (hcontent : Utf8.encode content = .ok bytes) :
    loadWith opened fs path = .ok held ↔ content.lines ≠ [] ∧
      (∀ token ∈ special, token ∈ content.lines) ∧ held = opened (ofLines content.lines) := by
  have hfile : fs.testFile path = .ok true :=
    (FileSystem.testFile_eq_ok hshort).trans (congrArg _ (FileSystem.isFile_of_readBytes hbytes))
  have hdecode := Utf8.decodeStream_eq_iff.2 hcontent
  have hnodup := nodup_ofLines content.lines
  have hopen := hopens _ hnodup
  have hspecial : (opened (ofLines content.lines)).tokens.length =
      (ofLines content.lines).tokens.length ↔ ∀ token ∈ special, token ∈ content.lines := by
    rw [hopen.length_eq hnodup, Nat.add_eq_left, List.length_eq_zero_iff,
      missing_ofLines_eq_nil_iff]
  simp only [loadWith, hfile, hbytes, hdecode, ofText, isEmpty_ofLines, hopen.displaced_eq hnodup,
    List.isEmpty_nil, and_true, hspecial]
  by_cases hempty : content.lines = []
  · simp [hempty]
  · by_cases hall : ∀ token ∈ special, token ∈ content.lines
    · rw [if_neg hempty, if_pos hall, Except.ok.injEq]
      exact ⟨fun heq => ⟨hempty, hall, heq.symm⟩, fun h => h.2.2.symm⟩
    · rw [if_neg hempty, if_neg hall]
      exact ⟨fun h => absurd h (by simp), fun h => absurd h.2.1 hall⟩

end Loading

/-- The tokens that are held are numbered in the order of a list. -/
structure Numbers (held : Vocabulary) (tokens : List Text) : Prop where
  length_eq : held.tokens.length = tokens.length
  id?_eq_some_iff : ∀ token id, held.id? token = some id ↔ tokens[id]? = some token
  token?_eq : ∀ id : ℕ, held.token? id = tokens[id]?

theorem numbers_of_opens {tokens : List Text} (htokens : tokens.Nodup)
    (h : Opens (ofLines tokens) held) (hspecial : ∀ token ∈ special, token ∈ tokens) :
    Numbers held tokens := by
  have hnodup := nodup_ofLines tokens
  have hmissing := missing_ofLines_eq_nil_iff.2 hspecial
  have hid : ∀ token id, held.id? token = some id ↔ tokens[id]? = some token := by
    intro token id
    rw [h.id?_eq hmissing, id?_ofLines, isLastPlace_iff_of_nodup htokens]
  refine ⟨?_, hid, ?_⟩
  · rw [h.length_eq hnodup, hmissing, List.length_nil, Nat.add_zero, ofLines,
      Association.ofList_of_nodup (by rwa [List.zipIdx_map_fst]), List.length_zipIdx]
  · intro id
    rw [token?]
    cases hfind : held.tokens.find? fun entry => (entry.2 : ℤ) = id with
    | some entry =>
      obtain ⟨token, found⟩ := entry
      have hfound : (found : ℤ) = id := by simpa using List.find?_some hfind
      obtain rfl := Int.ofNat.inj hfound
      have hmem := (Association.get?_eq_some_iff h.nodup).2 (List.mem_of_find?_eq_some hfind)
      exact ((hid token found).1 hmem).symm
    | none =>
      rw [Option.map_none]
      by_contra hne
      obtain ⟨token, htoken⟩ := Option.ne_none_iff_exists'.1 (Ne.symm hne)
      have hmem := (Association.get?_eq_some_iff h.nodup).1 ((hid token id).2 htoken)
      have hnot := List.find?_eq_none.1 hfind _ hmem
      simp at hnot

/-! ### Which files are taken -/

/-- A regular file in UTF-8, by its lines. -/
structure HoldsLines (fs : FileSystem) (path : Path) (lines : List Text) : Prop where
  isFile : fs.isFile path = true
  cutInto : ∃ bytes content, fs.readBytes path = .ok bytes ∧ Utf8.encode content = .ok bytes ∧
    Text.CutInto content lines

theorem holdsLines_of_readBytes {fs : FileSystem} {path : Path} {bytes : List UInt8}
    {content : Text} (hbytes : fs.readBytes path = .ok bytes)
    (hcontent : Utf8.encode content = .ok bytes) : HoldsLines fs path content.lines :=
  ⟨FileSystem.isFile_of_readBytes hbytes, bytes, content, hbytes, hcontent, Text.lines_eq_iff.1 rfl⟩

/-- What a way to load a vocabulary is meant to do with a path: it takes a file with all special
tokens among its lines, blames the vocabulary for every other path, and numbers the tokens by their
lines. -/
structure TakesLines (load : FileSystem → Path → Except Error Vocabulary) (fs : FileSystem)
    (path : Path) : Prop where
  ok_iff : (∃ held, load fs path = .ok held) ↔
    ∃ lines, HoldsLines fs path lines ∧ lines ≠ [] ∧ ∀ token ∈ special, token ∈ lines
  error : ∀ e, load fs path = .error e →
    ∃ fault, e = .resource ⟨.vocabulary, some path.toText, fault⟩
  id?_eq_some_iff : ∀ held lines, load fs path = .ok held → HoldsLines fs path lines →
    ∀ token id, held.id? token = some id ↔ IsLastPlace lines token id
  numbers : ∀ held lines, load fs path = .ok held → HoldsLines fs path lines →
    lines.Nodup → Numbers held lines

section Taken

variable {opened : Vocabulary → Vocabulary} {fs : FileSystem} {path : Path}

theorem loadWith_of_holdsLines (hopens : ∀ v, (v.tokens.map Prod.fst).Nodup → Opens v (opened v))
    (hshort : ¬ fs.IsTooLong path) (h : HoldsLines fs path lines) :
    loadWith opened fs path = .ok held ↔
      lines ≠ [] ∧ (∀ token ∈ special, token ∈ lines) ∧ held = opened (ofLines lines) := by
  obtain ⟨-, bytes, content, hbytes, hcontent, hcut⟩ := h
  obtain rfl := Text.lines_eq_iff.2 hcut
  exact loadWith_eq_ok_iff hopens hshort hbytes hcontent

theorem takesLines_loadWith (hopens : ∀ v, (v.tokens.map Prod.fst).Nodup → Opens v (opened v))
    (hshort : ¬ fs.IsTooLong path) : TakesLines (loadWith opened) fs path := by
  constructor
  · constructor
    · rintro ⟨held, hheld⟩
      obtain ⟨bytes, content, hbytes, hcontent⟩ := exists_content_of_loadWith hheld
      obtain ⟨hne, hspecial, -⟩ := (loadWith_eq_ok_iff hopens hshort hbytes hcontent).1 hheld
      exact ⟨content.lines, holdsLines_of_readBytes hbytes hcontent, hne, hspecial⟩
    · rintro ⟨lines, hlines, hne, hspecial⟩
      exact ⟨_, (loadWith_of_holdsLines hopens hshort hlines).2 ⟨hne, hspecial, rfl⟩⟩
  · intro e he
    rcases failsWith_loadWith opened fs path e he with hblamed | ⟨error, htest, -⟩
    · exact hblamed
    · exact absurd (FileSystem.testFile_eq_error_iff.1 htest).1 hshort
  · intro held lines hheld hlines token id
    obtain ⟨-, hspecial, rfl⟩ := (loadWith_of_holdsLines hopens hshort hlines).1 hheld
    have hmissing := missing_ofLines_eq_nil_iff.2 hspecial
    rw [(hopens _ (nodup_ofLines lines)).id?_eq hmissing, id?_ofLines]
  · intro held lines hheld hlines hnodup
    obtain ⟨-, hspecial, rfl⟩ := (loadWith_of_holdsLines hopens hshort hlines).1 hheld
    exact numbers_of_opens hnodup (hopens _ (nodup_ofLines lines)) hspecial

theorem takesLines_loadWith_iff
    (hopens : ∀ v, (v.tokens.map Prod.fst).Nodup → Opens v (opened v)) :
    TakesLines (loadWith opened) fs path ↔ ¬ fs.IsTooLong path := by
  refine ⟨fun htakes hlong => ?_, takesLines_loadWith hopens⟩
  obtain ⟨fault, hfault⟩ := htakes.error _ (loadWith_of_isTooLong opened hlong)
  exact absurd hfault (by simp)

theorem holdsLines_of_written {tokens : List Text} {ending : Text} {bytes : List UInt8}
    (htokens : ∀ token ∈ tokens, token.IsWithinLine) (hend : Text.IsLineEnd ending)
    (hcontent : Utf8.encode (tokens.flatMap (· ++ ending)) = .ok bytes)
    (hbytes : fs.readBytes path = .ok bytes) : HoldsLines fs path tokens := by
  have hlines := holdsLines_of_readBytes hbytes hcontent
  rwa [Text.lines_flatMap htokens hend] at hlines

end Taken

/-- Loading a vocabulary does what it is meant to do, whatever tokenizer is opened over it that
keeps the ids and adds the special tokens, exactly for the paths that are not too long to be looked
up; for the others the error of that look-up escapes. A file of written tokens is one that holds
them as its lines. -/
theorem load_takesLines_iff (fs : FileSystem) (path : Path) :
    (TakesLines load fs path ↔ ¬ fs.IsTooLong path) ∧
    (∀ opened, (∀ v : Vocabulary, (v.tokens.map Prod.fst).Nodup → Opens v (opened v)) →
      (TakesLines (loadWith opened) fs path ↔ ¬ fs.IsTooLong path)) ∧
    (∀ opened, fs.IsTooLong path →
      loadWith opened fs path = .error (.file ⟨.nameTooLong, path.toText⟩)) ∧
    ∀ tokens ending bytes, (∀ token ∈ tokens, Text.IsWithinLine token) →
      Text.IsLineEnd ending → Utf8.encode (tokens.flatMap (· ++ ending)) = .ok bytes →
        fs.readBytes path = .ok bytes → HoldsLines fs path tokens := by
  refine ⟨takesLines_loadWith_iff fun v => opens_completed, fun opened => takesLines_loadWith_iff,
    fun opened => loadWith_of_isTooLong opened, ?_⟩
  intro tokens ending bytes htokens hend hcontent hbytes
  exact holdsLines_of_written htokens hend hcontent hbytes

def sixTokens : List Text := special ++ [text "on"]

def sixTokensFiles : FileSystem :=
  ⟨[([], .directory 0), ([text "vocab.txt"],
    .file (.bytes ((text "[PAD]\n[UNK]\n[CLS]\n[SEP]\n[MASK]\non\n").map Nat.toUInt8)) 0)]⟩

def sixTokensPath : Path := ⟨.relative, [text "vocab.txt"]⟩

def longNamePath : Path := ⟨.relative, [List.replicate 256 97]⟩

theorem isTooLong_longNamePath : sixTokensFiles.IsTooLong longNamePath :=
  Or.inr ⟨[], List.replicate 256 97, [], [], rfl, by decide +kernel, by decide +kernel, rfl,
    0, rfl⟩

theorem load_takesLines_iff_sixTokens :
    HoldsLines sixTokensFiles sixTokensPath sixTokens ∧
    (∃ held, load sixTokensFiles sixTokensPath = .ok held ∧ Numbers held sixTokens) ∧
    TakesLines (loadWith completed) sixTokensFiles sixTokensPath ∧
    load sixTokensFiles longNamePath = .error (.file ⟨.nameTooLong, List.replicate 256 97⟩) := by
  obtain ⟨hload, hopened, -, hwritten⟩ := load_takesLines_iff sixTokensFiles sixTokensPath
  have hshort : ¬ sixTokensFiles.IsTooLong sixTokensPath := by
    rw [← FileSystem.isTooLong_iff]
    decide
  have hwithin : ∀ token ∈ sixTokens, Text.IsWithinLine token := by
    unfold Text.IsWithinLine
    decide
  have hholds : HoldsLines sixTokensFiles sixTokensPath sixTokens :=
    hwritten sixTokens [10] _ hwithin .lineFeed rfl rfl
  have htakes := hload.2 hshort
  obtain ⟨held, hheld⟩ := htakes.ok_iff.2 ⟨sixTokens, hholds, List.cons_ne_nil _ _, by decide⟩
  exact ⟨hholds, ⟨held, hheld, htakes.numbers _ _ hheld hholds (by decide)⟩,
    (hopened completed fun v => opens_completed).2 hshort,
    (load_takesLines_iff sixTokensFiles longNamePath).2.2.1 completed isTooLong_longNamePath⟩

end Vocabulary

end EntityTagger
