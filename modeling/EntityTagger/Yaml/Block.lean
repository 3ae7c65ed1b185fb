import EntityTagger.Yaml.Cursor

/-!
Block scalars: the lines of a text below a bar, kept as they are, or below an angle bracket, folded
to paragraphs.
-/

namespace EntityTagger.Yaml.Block

inductive Chomping
  | clip
  | strip
  | keep
deriving DecidableEq, Repr

def chomping? (c : Nat) : Option Chomping :=
  if c = 43 then some .keep else if c = 45 then some .strip else none

/-- An indentation that is given, from 1 to 9; `none` for a zero. -/
def indentation? (c : Nat) : Option Nat := if c = 48 then none else some (c - 48)

/-- The header behind the bar: chomping and indentation, in either order. -/
def header (c : Cursor) : Except Fault (Chomping × Option Nat × Cursor) := do
  let digit (c : Cursor) : Except Fault (Option Nat × Cursor) :=
    if Text.isDigit (c.peek 0) then
      match indentation? (c.peek 0) with
      | some n => .ok (some n, c.next)
      | none => .error .malformed
    else .ok (none, c)
  let (mode, indent, c) ← match chomping? (c.peek 0) with
    | some mode => do
      let (indent, c) ← digit c.next
      pure (mode, indent, c)
    | none => do
      let (indent, c) ← digit c
      match indent, chomping? (c.peek 0) with
      | some _, some mode => pure (mode, indent, c.next)
      | _, _ => pure (.clip, indent, c)
  if c.peek 0 = 32 ∨ isBreakOrEnd (c.peek 0) then pure (mode, indent, ← c.ignoredLine)
  else .error .malformed

/-- Reads empty lines at the start of a scalar whose indentation is to be found: the line breaks,
and the greatest column of their spaces. -/
def leading : Nat → Nat → Cursor → Text × Nat × Cursor
  | 0, deepest, c => ([], deepest, c)
  | fuel + 1, deepest, c =>
    if c.peek 0 = 32 then leading fuel (max deepest (c.column + 1)) c.next
    else match c.lineBreak with
      | ([], c) => ([], deepest, c)
      | (found, c) =>
        let (more, deepest, c) := leading fuel deepest c
        (found ++ more, deepest, c)

/-- Reads empty lines, and the spaces of the next line up to the indentation. -/
def breaks (indent : Nat) : Nat → Cursor → Text × Cursor
  | 0, c => ([], c)
  | fuel + 1, c =>
    let spaces := (c.rest.takeWhile (· == 32)).length
    let c := c.advance (min spaces (indent - c.column))
    match c.lineBreak with
    | ([], c) => ([], c)
    | (found, c) =>
      let (more, c) := breaks indent fuel c
      (found ++ more, c)

/-- Reads the lines from one that is indented on. `gap` holds the empty lines before it. -/
def lines (folded : Bool) (mode : Chomping) (indent : Nat) :
    Nat → Text → Cursor → Text × Cursor
  | 0, _, c => ([], c)
  | fuel + 1, gap, c =>
    let isBlank (c : Cursor) : Bool := c.peek 0 = 32 || c.peek 0 = 9
    let leadingBlank := isBlank c
    let (line, c) := c.takeWhile (!isBreakOrEnd ·)
    let (found, c) := c.lineBreak
    let (after, c) := breaks indent fuel c
    if c.column = indent ∧ !c.rest.isEmpty then
      let joint :=
        if folded ∧ found = [10] ∧ !leadingBlank ∧ !isBlank c then
          if after.isEmpty then [32] else []
        else found
      let (more, c) := lines folded mode indent fuel after c
      (gap ++ line ++ joint ++ more, c)
    else
      let tail := match mode with
        | .strip => []
        | .clip => found
        | .keep => found ++ after
      (gap ++ line ++ tail, c)

/-- Reads a block scalar behind its indicator. `parent` is the indentation of the collection around
it, -1 outside of all. -/
def read (folded : Bool) (parent : Int) (fuel : Nat) (c : Cursor) : Except Fault (Text × Cursor) := do
  let (mode, given, c) ← header c
  let least := max 1 (parent + 1).toNat
  let (gap, indent, c) := match given with
    | none =>
      let (gap, deepest, c) := leading fuel 0 c
      (gap, max least deepest, c)
    | some n =>
      let indent := least + n - 1
      let (gap, c) := breaks indent fuel c
      (gap, indent, c)
  if c.column = indent ∧ !c.rest.isEmpty then pure (lines folded mode indent fuel gap c)
  else pure (if mode = .keep then gap else [], c)

end EntityTagger.Yaml.Block
