import EntityTagger.Run
import EntityTagger.Tensor

/-!
Batches: sequences of token ids of different lengths are filled up on the right to one rectangle,
and a mask says which of its cells are real.
-/

namespace EntityTagger

structure Rectangle (α : Type) where
  width : Nat
  rows : List (List α)
  length_row : ∀ row ∈ rows, row.length = width

namespace Rectangle

variable {α β : Type}

def map (f : α → β) (r : Rectangle α) : Rectangle β where
  width := r.width
  rows := r.rows.map (·.map f)
  length_row row h := by
    obtain ⟨source, hs, rfl⟩ := List.mem_map.1 h
    simp [r.length_row source hs]

def toTensor (r : Rectangle α) : Tensor α where
  shape := [r.rows.length, r.width]
  cells := r.rows.flatten
  length_cells := by simp [Tensor.length_flatten_of_length r.length_row]

end Rectangle

/-- What turns texts into token ids, and a token id back into a text. The second argument of
`encode` is the greatest number of ids wanted for a text. -/
structure Tokenizer where
  encode : List Text → Int → List (List Int)
  decode : Int → Text
  length_encode : ∀ texts maxLength, (encode texts maxLength).length = texts.length

def Tokenizer.perText (encode : Text → Int → List Int) (decode : Int → Text) : Tokenizer where
  encode texts maxLength := texts.map (encode · maxLength)
  decode := decode
  length_encode := by simp

namespace Batch

variable {α : Type}

def padding : Int := 0

def defaultMaxLength : Nat := 128

def width (sequences : List (List α)) : Nat := sequences.foldr (fun s n => max s.length n) 0

theorem length_le_width {sequences : List (List α)} {s : List α} (h : s ∈ sequences) :
    s.length ≤ width sequences := by
  induction sequences with
  | nil => simp at h
  | cons t rest ih =>
    rcases List.mem_cons.1 h with rfl | h
    · exact Nat.le_max_left _ _
    · exact Nat.le_trans (ih h) (Nat.le_max_right _ _)

def fillRow (filler : α) (width : Nat) (row : List α) : List α :=
  row ++ List.replicate (width - row.length) filler

def fill (filler : α) (sequences : List (List α)) : Rectangle α where
  width := width sequences
  rows := sequences.map (fillRow filler (width sequences))
  length_row row h := by
    obtain ⟨s, hs, rfl⟩ := List.mem_map.1 h
    have := length_le_width hs
    simp [fillRow]; omega

def isId (n : Int) : Bool := Int64.minValue.toInt ≤ n && n ≤ Int64.maxValue.toInt

def pad (sequences : List (List Int)) (filler : Int) : Except Error (Rectangle Int) :=
  if sequences.isEmpty then .error (.input .noSequences)
  else
    let filled := fill filler sequences
    if filled.rows.all (·.all isId) then .ok filled else .error (.misuse .badValue)

/-- The mask for sequences of the given lengths: 1 for a real cell, 0 for a filled one. -/
def mask (width : Nat) (lengths : List Int) : Rectangle Int where
  width := width
  rows := lengths.map fun length =>
    (List.range width).map fun place : Nat => if (place : Int) < length then 1 else 0
  length_row row h := by
    obtain ⟨length, _, rfl⟩ := List.mem_map.1 h
    simp

def idOf (value : Value) : Except Error Int :=
  let check : Option Int → Except Error Int
    | some n => if isId n then .ok n else .error (.misuse .badValue)
    | none => .error (.misuse .badValue)
  match value with
  | .int n => check (some n)
  | .bool b => .ok (if b then 1 else 0)
  | .float x => check x.truncate?
  | .str _ => check none
  | _ => .error (.misuse .wrongType)

def fault? (value : Value) : Option Error :=
  match idOf value with
  | .ok _ => none
  | .error e => some e

def itemsOf : Value → Except Error (List Value)
  | .list items => .ok items
  | .tuple items => .ok items
  | _ => .error (.misuse .wrongType)

/-- The rectangle of sequences given as a value. The cells are checked row by row, those that were
filled up among them. -/
def padValue (sequences : Value) (filler : Int) : Except Error (Rectangle Int) :=
  if !sequences.holds then .error (.input .noSequences)
  else do
    let filled := fill (.int filler) (← (← itemsOf sequences).mapM itemsOf)
    match filled.rows.flatten.findSome? fault? with
    | some e => .error e
    | none => .ok (filled.map fun cell => (idOf cell).toOption.getD 0)

/-- The texts that a value lists, after checking that there are some and that all are texts. -/
def textsOf (value : Value) : Except Error (List Text) :=
  let check (items : List Value) : Except Error (List Text) :=
    items.zipIdx.mapM fun (item, place) =>
      match item with
      | .str t => .ok t
      | other => .error (.input (.notText place other.typeName))
  match value with
  | .str _ => .error (.input .singleText)
  | value =>
    if !value.holds then .error (.input .emptyBatch)
    else match value.members? with
      | some items => check items
      | none => .error (.misuse .wrongType)

end Batch

/-- Token ids, and which of them are real and are to be attended to. -/
structure Batch where
  ids : Rectangle Int
  attention : Rectangle Int

def Batch.build (tokenizer : Tokenizer) (texts : List Text) (maxLength filler : Int) :
    Run Batch := do
  Run.report (.tokenized texts maxLength)
  let encoded := tokenizer.encode texts maxLength
  let ids ← Run.ofExcept (Batch.pad encoded filler)
  pure ⟨ids, Batch.mask ids.width (encoded.map fun sequence => (sequence.length : Int))⟩

/-- The batch of the texts that a value lists. The value is checked before any text is encoded. -/
def Batch.ofValue (tokenizer : Tokenizer) (texts : Value) (maxLength filler : Int) :
    Run Batch := do
  Batch.build tokenizer (← Run.ofExcept (Batch.textsOf texts)) maxLength filler

end EntityTagger
