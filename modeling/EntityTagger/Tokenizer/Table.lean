import EntityTagger.Batch

/-!
Tokenizers given by tables: the ids of some texts and the texts of some ids.
-/

namespace EntityTagger

/-- The first `length` items; a negative length drops as many from the end. -/
def firstItems {α : Type} (length : Int) (items : List α) : List α :=
  if 0 ≤ length then items.take length.toNat else items.take (items.length - length.natAbs)

/-- A text that is not in the table has no ids, an id that is not in it no text. -/
def Tokenizer.table (ids : List (Text × List Int)) (texts : List (Int × Text)) : Tokenizer :=
  Tokenizer.perText
    (fun t maxLength => firstItems maxLength ((Association.get? t ids).getD []))
    (fun id => (Association.get? id texts).getD [])

end EntityTagger
