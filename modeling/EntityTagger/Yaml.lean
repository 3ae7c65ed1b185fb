import EntityTagger.Yaml.Node
import EntityTagger.Yaml.Scalar

/-!
YAML: the value that a text writes. In a mapping the key `<<` takes in the entries of other
mappings, which its own entries override; a key that is given twice keeps its place and has the last value.
-/

namespace EntityTagger.Yaml

abbrev Entries := List (Value × Value)

/-- The text of a scalar. A mapping with the key `=` stands for the scalar under it. -/
def scalarText : Node → Except Fault Text
  | .scalar _ content => .ok content
  | .sequence .. => .error .malformed
  | .mapping _ entries => default entries
where
  default : List (Node × Node) → Except Fault Text
    | [] => .error .malformed
    | (.scalar .value _, value) :: _ => scalarText value
    | (_, _) :: rest => default rest

/-- A dictionary with the given entries, all of whose keys have to be keys. -/
def dictionary (entries : Entries) : Except Fault Entries :=
  match Value.entriesOf? entries with
  | some entries => .ok entries
  | none => .error .malformed

mutual

def value : Node → Except Fault Value
  | .scalar tag content => Scalar.value tag content
  | .sequence .seq items => do pure (.list (← values items))
  | .sequence .omap items => do pure (.list (← pairs items))
  | .sequence .pairs items => do pure (.list (← pairs items))
  | .sequence _ _ => .error .malformed
  | .mapping .map entries => do pure (.dict (← dictionary (← allEntries entries)))
  | .mapping .set entries => do
    pure (.set ((← dictionary (← allEntries entries)).map (·.1)))
  | .mapping tag entries => do Scalar.value tag (← scalarText (.mapping tag entries))

def values : List Node → Except Fault (List Value)
  | [] => .ok []
  | node :: rest => do pure ((← value node) :: (← values rest))

def pairs : List Node → Except Fault (List Value)
  | [] => .ok []
  | .mapping _ [(key, content)] :: rest => do
    pure (.tuple [← value key, ← value content] :: (← pairs rest))
  | _ :: _ => .error .malformed

/-- The entries of a mapping, those that are taken in first. -/
def allEntries (entries : List (Node × Node)) : Except Fault Entries := do
  pure ((← takenIn entries) ++ (← ownEntries entries))

/-- The entries of a mapping itself. The key `=` is a text here. -/
def ownEntries : List (Node × Node) → Except Fault Entries
  | [] => .ok []
  | (.scalar .merge _, _) :: rest => ownEntries rest
  | (.scalar .value content, node) :: rest => do
    pure ((.str content, ← value node) :: (← ownEntries rest))
  | (key, node) :: rest => do
    pure ((← value key, ← value node) :: (← ownEntries rest))

/-- The entries that a mapping takes in from others. -/
def takenIn : List (Node × Node) → Except Fault Entries
  | [] => .ok []
  | (.scalar .merge _, node) :: rest => do pure ((← entriesOf node) ++ (← takenIn rest))
  | (_, _) :: rest => takenIn rest

/-- The entries of a mapping, or of several in a sequence, of which the first one overrides the
others. -/
def entriesOf : Node → Except Fault Entries
  | .mapping _ entries => allEntries entries
  | .sequence _ items => do pure (← entriesOfAll items)
  | .scalar .. => .error .malformed

/-- The entries of several mappings, those of the last one first. -/
def entriesOfAll : List Node → Except Fault Entries
  | [] => .ok []
  | .mapping _ entries :: rest => do
    let first ← allEntries entries
    pure ((← entriesOfAll rest) ++ first)
  | _ :: _ => .error .malformed

end

/-- The value of the single document that a text holds; nothing if it holds none. -/
def read (t : Text) : Except Fault Value := do
  match ← Node.ofText? t with
  | some node => value node
  | none => pure .none

end EntityTagger.Yaml
