import EntityTagger.Yaml.Cursor

/-!
Quoted scalars: in single quotes only the quote itself is written twice, in double quotes a
backslash begins an escape. A line break inside is folded to a space.
-/

namespace EntityTagger.Yaml.Quoted

/-- Reads line breaks and the blanks after each of them. A document may not begin or end inside a
quoted scalar. -/
def breaks : Nat → Cursor → Except Fault (Text × Cursor)
  | 0, _ => .error .malformed
  | fuel + 1, c =>
    if c.atDocumentMark then .error .malformed
    else
      let c := c.skipWhile fun x => x = 32 || x = 9
      match c.lineBreak with
      | ([], c) => .ok ([], c)
      | (found, c) => do
        let (more, c) ← breaks fuel c
        pure (found ++ more, c)

/-- Reads blanks: as they are inside a line, folded at a line break. -/
def blanks (fuel : Nat) (c : Cursor) : Except Fault (Text × Cursor) := do
  let (spaces, c) := c.takeWhile fun x => x = 32 || x = 9
  match c.lineBreak with
  | ([], c) => pure (spaces, c)
  | (found, c) =>
    let (more, c) ← breaks fuel c
    if found ≠ [10] then pure (found ++ more, c)
    else if more.isEmpty then pure ([32], c)
    else pure (more, c)

def shortEscapes : List (Nat × Nat) :=
  [(48, 0), (97, 7), (98, 8), (116, 9), (9, 9), (110, 10), (118, 11), (102, 12), (114, 13),
    (101, 27), (32, 32), (34, 34), (92, 92), (47, 47), (78, 0x85), (95, 0xA0), (76, 0x2028),
    (80, 0x2029)]

def escapeWidth? (c : Nat) : Option Nat :=
  if c = 120 then some 2 else if c = 117 then some 4 else if c = 85 then some 8 else none

def hexNumber? (digits : Text) : Option Nat :=
  digits.foldlM (fun n c => (Text.hexValue? c).map (16 * n + ·)) 0

def escape (fuel : Nat) (c : Cursor) : Except Fault (Text × Cursor) :=
  match Association.get? (c.peek 0) shortEscapes with
  | some code => .ok ([code], c.next)
  | none =>
    match escapeWidth? (c.peek 0) with
    | some width =>
      let digits := c.next.rest.take width
      match hexNumber? digits with
      | some code =>
        if digits.length < width then .error .malformed
        else if 0x10FFFF < code then .error (.misuse .badValue)
        else .ok ([code], c.next.advance width)
      | none => .error .malformed
    | none =>
      match c.lineBreak with
      | ([], _) => .error .malformed
      | (_, c) => breaks fuel c

def read (quote : Nat) : Nat → Cursor → Except Fault (Text × Cursor)
  | 0, _ => .error .malformed
  | fuel + 1, c =>
    let goOn (part : Text × Cursor) : Except Fault (Text × Cursor) := do
      let (more, c) ← read quote fuel part.2
      pure (part.1 ++ more, c)
    let x := c.peek 0
    if c.rest.isEmpty then .error .malformed
    else if x = quote then
      if quote = 39 ∧ c.peek 1 = 39 then goOn ([39], c.advance 2) else .ok ([], c.next)
    else if x = 92 ∧ quote = 34 then
      match escape fuel c.next with
      | .ok part => goOn part
      | .error fault => .error fault
    else if x = 32 ∨ x = 9 ∨ isBreak x then
      match blanks fuel c with
      | .ok part => goOn part
      | .error fault => .error fault
    else goOn ([x], c.next)

end EntityTagger.Yaml.Quoted
