import EntityTagger.Text

/-!
Tables of Unicode properties, written as blank-separated entries with hexadecimal code points.
-/

namespace EntityTagger.Unicode

def hexNumber (t : Text) : Nat :=
  t.foldl (fun n c => 16 * n + (Text.hexValue? c).getD 0) 0

def entries (table : String) : List Text := (text table).words

/-- A range `A-B` of code points, or a single one. -/
def readRange (entry : Text) : Nat × Nat :=
  match entry.splitAt 45 with
  | [a, b] => (hexNumber a, hexNumber b)
  | _ => (hexNumber entry, hexNumber entry)

def readRanges (table : String) : Array (Nat × Nat) :=
  ((entries table).map readRange).toArray

def inRanges (ranges : Array (Nat × Nat)) (c : Nat) : Bool :=
  ranges.any fun (a, b) => a ≤ c && c ≤ b

end EntityTagger.Unicode
