import EntityTagger.Error

/-!
Reading positions in a YAML text: what is left of it, and how far into the text, at which line and
column it begins.
-/

namespace EntityTagger.Yaml

/-- Why a text has no value: it is no YAML document, or one of its scalars has no value of the kind
that it is tagged with. -/
inductive Fault
  | malformed
  | misuse (kind : Misuse)
deriving DecidableEq, Repr

/-- The line breaks: LF, CR, NEL, and the separators of lines and of paragraphs. -/
def isBreak (c : Nat) : Bool := c = 10 || c = 13 || c = 0x85 || c = 0x2028 || c = 0x2029

/-- A line break, or the end of the text, which is read as NUL. -/
def isBreakOrEnd (c : Nat) : Bool := c = 0 || isBreak c

def isBlankOrEnd (c : Nat) : Bool := c = 32 || c = 9 || isBreakOrEnd c

/-- The characters of names: letters, digits, hyphen and underscore. -/
def isNameChar (c : Nat) : Bool :=
  (48 ≤ c && c ≤ 57) || (65 ≤ c && c ≤ 90) || (97 ≤ c && c ≤ 122) || c = 45 || c = 95

structure Cursor where
  rest : Text
  index : Nat
  line : Nat
  column : Nat
deriving DecidableEq, Repr

namespace Cursor

def start (t : Text) : Cursor := ⟨t, 0, 0, 0⟩

/-- The character `k` places on; NUL beyond the end. -/
def peek (c : Cursor) (k : Nat) : Nat := c.rest.getD k 0

/-- The cursor behind the next character. A byte order mark takes no column. -/
def next (c : Cursor) : Cursor :=
  match c.rest with
  | [] => c
  | 13 :: 10 :: rest => ⟨10 :: rest, c.index + 1, c.line, c.column + 1⟩
  | x :: rest =>
    if isBreak x then ⟨rest, c.index + 1, c.line + 1, 0⟩
    else ⟨rest, c.index + 1, c.line, if x = 0xFEFF then c.column else c.column + 1⟩

def advance : Nat → Cursor → Cursor
  | 0, c => c
  | n + 1, c => advance n c.next

def takeWhile (p : Nat → Bool) (c : Cursor) : Text × Cursor :=
  let run := c.rest.takeWhile p
  (run, c.advance run.length)

def skipWhile (p : Nat → Bool) (c : Cursor) : Cursor := (c.takeWhile p).2

def skipSpaces (c : Cursor) : Cursor := c.skipWhile (· == 32)

def skipComment (c : Cursor) : Cursor :=
  if c.peek 0 = 35 then c.skipWhile (!isBreakOrEnd ·) else c

/-- Reads a line break: empty if there is none, otherwise LF, or the separator itself. -/
def lineBreak (c : Cursor) : Text × Cursor :=
  let x := c.peek 0
  if x = 13 ∧ c.peek 1 = 10 then ([10], c.advance 2)
  else if x = 10 ∨ x = 13 ∨ x = 0x85 then ([10], c.next)
  else if x = 0x2028 ∨ x = 0x2029 then ([x], c.next)
  else ([], c)

/-- Whether three equal characters and a blank mark the start or the end of a document here. -/
def marks (mark : Nat) (c : Cursor) : Bool :=
  c.rest.take 3 == [mark, mark, mark] && isBlankOrEnd (c.peek 3)

def atDocumentMark (c : Cursor) : Bool := c.marks 45 || c.marks 46

/-- The rest of a line that may hold blanks and a comment only. -/
def ignoredLine (c : Cursor) : Except Fault Cursor :=
  let c := c.skipSpaces.skipComment
  if isBreakOrEnd (c.peek 0) then .ok c.lineBreak.2 else .error .malformed

end Cursor

end EntityTagger.Yaml
