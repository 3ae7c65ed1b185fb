import EntityTagger.Yaml.Cursor

/-!
Plain scalars: without quotes, up to a comment, a colon before a blank, or the end of the indented
lines. A line break inside is folded to a space.
-/

namespace EntityTagger.Yaml.Plain

/-- The indicators that a plain scalar does not begin with. -/
def indicators : Text := text "-?:,[]\x7b\x7d#&*!|>'\"%@`"

/-- Whether a plain scalar may begin here. -/
def starts (inFlow : Bool) (c : Cursor) : Bool :=
  let x := c.peek 0
  (!isBlankOrEnd x && !indicators.contains x) ||
    (!isBlankOrEnd (c.peek 1) && (x = 45 || (!inFlow && (x = 63 || x = 58))))

/-- Whether a plain scalar ends before the next character: at a blank, at a colon before a blank,
and inside brackets also at a comma, a question mark and a bracket. -/
def ends (inFlow : Bool) (x after : Nat) : Bool :=
  isBlankOrEnd x ||
    (x = 58 && (isBlankOrEnd after || (inFlow && (text ",[]\x7b\x7d").contains after))) ||
    (inFlow && (text ",?[]\x7b\x7d").contains x)

/-- The characters up to where a plain scalar ends or a blank follows. -/
def chunk (inFlow : Bool) : Text → Text
  | [] => []
  | x :: rest => if ends inFlow x (rest.headD 0) then [] else x :: chunk inFlow rest

/-- Reads empty lines and indentation after a line break; `none` if a document mark follows. -/
def breaks : Nat → Cursor → Option Text × Cursor
  | 0, c => (some [], c)
  | fuel + 1, c =>
    if c.peek 0 = 32 then breaks fuel c.next
    else match c.lineBreak with
      | ([], c) => (some [], c)
      | (found, c) =>
        if c.atDocumentMark then (none, c)
        else
          let (more, c) := breaks fuel c
          (more.map (found ++ ·), c)

/-- Reads the blanks inside a plain scalar: what they stand for, whether a line ended, and the
cursor behind them. Nothing stands for blanks before a document mark. -/
def blanks (fuel : Nat) (c : Cursor) : Text × Bool × Cursor :=
  let (spaces, c) := c.takeWhile (· == 32)
  match c.lineBreak with
  | ([], c) => (spaces, false, c)
  | (found, c) =>
    if c.atDocumentMark then ([], true, c)
    else match breaks fuel c with
      | (none, c) => ([], true, c)
      | (some more, c) =>
        if found ≠ [10] then (found ++ more, true, c)
        else if more.isEmpty then ([32], true, c)
        else (more, true, c)

/-- Reads a plain scalar: its text, whether the reading ended at the start of a line, and the cursor
behind it. `indent` is the least column of its lines outside of brackets. -/
def read (inFlow : Bool) (indent : Nat) : Nat → Text → Cursor → Text × Bool × Cursor
  | 0, _, c => ([], false, c)
  | fuel + 1, gap, c =>
    let part := if c.peek 0 = 35 then [] else chunk inFlow c.rest
    if part.isEmpty then ([], false, c)
    else
      let (spaces, broke, c) := blanks fuel (c.advance part.length)
      if spaces.isEmpty || c.peek 0 = 35 || (!inFlow && c.column < indent) then
        (gap ++ part, broke, c)
      else
        let (more, lineStart, c) := read inFlow indent fuel spaces c
        (gap ++ part ++ more, if more.isEmpty then broke else lineStart, c)

end EntityTagger.Yaml.Plain
