import EntityTagger.Yaml.Block
import EntityTagger.Yaml.Plain
import EntityTagger.Yaml.Quoted

/-!
Tokens of YAML. Indentation becomes tokens that open and close block collections. That a scalar or a
collection is a key shows only at the colon behind it, so the place of each possible key is kept,
and the key token is put there when the colon comes.
-/

namespace EntityTagger.Yaml

inductive Token
  | version (major : Nat)
  | tagHandle (handle tagStart : Text)
  | directive
  | documentStart
  | documentEnd
  | streamEnd
  | blockSequenceStart
  | blockMappingStart
  | blockEnd
  | flowSequenceStart
  | flowSequenceEnd
  | flowMappingStart
  | flowMappingEnd
  | flowEntry
  | blockEntry
  | key
  | value
  | alias (name : Text)
  | anchor (name : Text)
  | tag (handle : Option Text) (suffix : Text)
  | scalar (content : Text) (plain : Bool)
deriving DecidableEq, Repr

/-- A place at which a key may have begun. -/
structure PossibleKey where
  level : Nat
  /-- The number of tokens before it. -/
  place : Nat
  /-- Whether nothing but a key can stand there. -/
  isRequired : Bool
  index : Nat
  line : Nat
  column : Nat
deriving DecidableEq, Repr

/-- The state of reading tokens; the tokens are held backwards. -/
structure Scan where
  cursor : Cursor
  tokens : List Token
  flowLevel : Nat
  /-- The column of the innermost block collection, -1 outside of all. -/
  indent : Int
  outer : List Int
  keyAllowed : Bool
  keys : List PossibleKey
deriving DecidableEq, Repr

namespace Scan

def start (t : Text) : Scan :=
  let c := Cursor.start t
  ⟨if c.peek 0 = 0xFEFF then c.next else c, [], 0, -1, [], true, []⟩

def add (s : Scan) (token : Token) : Scan := { s with tokens := token :: s.tokens }

def inFlow (s : Scan) : Bool := s.flowLevel != 0

def insert (s : Scan) (place : Nat) (token : Token) : Scan :=
  let later := s.tokens.length - place
  { s with tokens := s.tokens.take later ++ token :: s.tokens.drop later }

/-- Skips blanks, comments and line breaks. Behind a line break a key may stand. -/
def skipToToken : Nat → Scan → Scan
  | 0, s => s
  | fuel + 1, s =>
    let c := s.cursor.skipSpaces.skipComment
    match c.lineBreak with
    | ([], c) => { s with cursor := c }
    | (_, c) =>
      skipToToken fuel { s with cursor := c, keyAllowed := s.keyAllowed || !s.inFlow }

/-- Forgets the places that are no key any more: a key stands on one line and is not longer than
1024 characters. -/
def dropStaleKeys (s : Scan) : Except Fault Scan :=
  let isStale (k : PossibleKey) : Bool :=
    k.line != s.cursor.line || k.index + 1024 < s.cursor.index
  if s.keys.any fun k => isStale k && k.isRequired then .error .malformed
  else .ok { s with keys := s.keys.filter (!isStale ·) }

def dropKey (s : Scan) : Except Fault Scan :=
  if s.keys.any fun k => k.level = s.flowLevel && k.isRequired then .error .malformed
  else .ok { s with keys := s.keys.filter (·.level != s.flowLevel) }

/-- Notes that a key may begin here. -/
def noteKey (s : Scan) : Except Fault Scan := do
  if s.keyAllowed then
    let s ← s.dropKey
    let c := s.cursor
    let isRequired := !s.inFlow && s.indent = c.column
    pure { s with keys :=
      ⟨s.flowLevel, s.tokens.length, isRequired, c.index, c.line, c.column⟩ :: s.keys }
  else pure s

/-- Closes the block collections that are indented deeper than `column`. -/
def unwind (column : Int) (s : Scan) : Scan :=
  if s.inFlow then s else close column s s.indent s.outer
where
  close (column : Int) (s : Scan) (indent : Int) : List Int → Scan
    | [] => { s with indent := indent, outer := [] }
    | parent :: outer =>
      if column < indent then close column (s.add .blockEnd) parent outer
      else { s with indent := indent, outer := parent :: outer }

/-- Opens a block collection at a column, if it is deeper than the innermost one: says whether. -/
def addIndent (column : Nat) (s : Scan) : Bool × Scan :=
  if s.indent < column then
    (true, { s with indent := column, outer := s.indent :: s.outer })
  else (false, s)

def take (width : Nat) (token : Token) (s : Scan) : Scan :=
  { s.add token with cursor := s.cursor.advance width }

/-! ### Directives, anchors and tags -/

def anchorName (c : Cursor) : Except Fault (Text × Cursor) :=
  let (name, c) := c.takeWhile isNameChar
  let x := c.peek 0
  if name.isEmpty || !(isBlankOrEnd x || (text "?:,]\x7d%@`").contains x) then .error .malformed
  else .ok (name, c)

/-- The characters of a tag's name. -/
def isUriChar (c : Nat) : Bool :=
  isNameChar c || (text ";/?:@&=+$,.!~*'()[]%").contains c

/-- Reads bytes that are written in hexadecimal behind percent signs. -/
def uriEscapes : Nat → Cursor → Except Fault (List UInt8 × Cursor)
  | 0, c => .ok ([], c)
  | fuel + 1, c =>
    if c.peek 0 = 37 then
      match Text.hexValue? (c.peek 1), Text.hexValue? (c.peek 2) with
      | some high, some low => do
        let (more, c) ← uriEscapes fuel (c.advance 3)
        pure ((16 * high + low).toUInt8 :: more, c)
      | _, _ => .error .malformed
    else .ok ([], c)

/-- Reads the name of a tag, which may be empty. -/
def uriFrom : Nat → Cursor → Except Fault (Text × Cursor)
  | 0, c => .ok ([], c)
  | fuel + 1, c =>
    let x := c.peek 0
    if x = 37 then do
      let (bytes, c) ← uriEscapes fuel c
      match Utf8.decode bytes with
      | .error _ => .error .malformed
      | .ok part =>
        let (more, c) ← uriFrom fuel c
        pure (part ++ more, c)
    else if isUriChar x then do
      let (more, c) ← uriFrom fuel c.next
      pure (x :: more, c)
    else .ok ([], c)

def uri (c : Cursor) : Except Fault (Text × Cursor) := do
  let (name, after) ← uriFrom (c.rest.length + 1) c
  if after.index = c.index then .error .malformed else pure (name, after)

/-- Reads the handle of a tag: a name between exclamation marks, or a single one before a space. -/
def handle (c : Cursor) : Except Fault (Text × Cursor) :=
  if c.peek 0 ≠ 33 then .error .malformed
  else if c.peek 1 = 32 then .ok ([33], c.next)
  else
    let (name, c) := c.next.takeWhile isNameChar
    if c.peek 0 = 33 then .ok (33 :: name ++ [33], c.next) else .error .malformed

/-- Whether an exclamation mark follows the first character before the next blank. -/
def hasHandle (c : Cursor) : Bool :=
  ((c.rest.drop 1).takeWhile fun x => x != 32 && !isBreakOrEnd x).contains 33

def tag (c : Cursor) : Except Fault (Token × Cursor) := do
  let x := c.peek 1
  let (token, c) ←
    if x = 60 then do
      let (suffix, c) ← uri (c.advance 2)
      if c.peek 0 = 62 then pure (Token.tag none suffix, c.next) else .error .malformed
    else if isBlankOrEnd x then pure (.tag none [33], c.next)
    else do
      let (handle, c) ← if hasHandle c then handle c else pure ([33], c.next)
      let (suffix, c) ← uri c
      pure (.tag (some handle) suffix, c)
  if c.peek 0 = 32 ∨ isBreakOrEnd (c.peek 0) then pure (token, c) else .error .malformed

def number (c : Cursor) : Except Fault (Nat × Cursor) :=
  let (digits, c) := c.takeWhile Text.isDigit
  if digits.isEmpty then .error .malformed else .ok (Text.digitsValue digits, c)

def directive (c : Cursor) : Except Fault (Token × Cursor) := do
  let (name, c) := c.takeWhile isNameChar
  let atEnd (c : Cursor) : Bool := c.peek 0 = 32 || isBreakOrEnd (c.peek 0)
  if name.isEmpty || !atEnd c then .error .malformed
  let (token, c) ←
    if name = text "YAML" then do
      let (major, c) ← number c.skipSpaces
      if c.peek 0 ≠ 46 then .error .malformed
      let (_, c) ← number c.next
      if atEnd c then pure (Token.version major, c) else .error .malformed
    else if name = text "TAG" then do
      let (handle, c) ← handle c.skipSpaces
      if c.peek 0 ≠ 32 then .error .malformed
      let (tagStart, c) ← uri c.skipSpaces
      if atEnd c then pure (.tagHandle handle tagStart, c) else .error .malformed
    else pure (.directive, c.skipWhile (!isBreakOrEnd ·))
  pure (token, (← c.ignoredLine).lineBreak.2)

/-! ### One token -/

/-- Ends all block collections before something that stands outside of all. -/
def leave (s : Scan) : Except Fault Scan := do
  pure { ← (s.unwind (-1)).dropKey with keyAllowed := false }

def blockEntry (s : Scan) : Except Fault Scan := do
  if !s.inFlow && !s.keyAllowed then .error .malformed
  let (opens, s) := if s.inFlow then (false, s) else s.addIndent s.cursor.column
  let s := if opens then s.add .blockSequenceStart else s
  pure (({ ← s.dropKey with keyAllowed := true }).take 1 .blockEntry)

def explicitKey (s : Scan) : Except Fault Scan := do
  if !s.inFlow && !s.keyAllowed then .error .malformed
  let (opens, s) := if s.inFlow then (false, s) else s.addIndent s.cursor.column
  let s := if opens then s.add .blockMappingStart else s
  pure (({ ← s.dropKey with keyAllowed := !s.inFlow }).take 1 .key)

/-- The colon before a value. If a key may have begun at this level, it did. -/
def value (s : Scan) : Except Fault Scan := do
  match s.keys.find? (·.level == s.flowLevel) with
  | some k =>
    let s := { s with keys := s.keys.filter (·.level != s.flowLevel), keyAllowed := false }
    let s := s.insert k.place .key
    let (opens, s) := if s.inFlow then (false, s) else s.addIndent k.column
    pure ((if opens then s.insert k.place .blockMappingStart else s).take 1 .value)
  | none =>
    if !s.inFlow && !s.keyAllowed then .error .malformed
    let (opens, s) := if s.inFlow then (false, s) else s.addIndent s.cursor.column
    let s := if opens then s.add .blockMappingStart else s
    pure (({ ← s.dropKey with keyAllowed := !s.inFlow }).take 1 .value)

def openFlow (token : Token) (s : Scan) : Except Fault Scan := do
  let s ← s.noteKey
  pure ({ s with flowLevel := s.flowLevel + 1, keyAllowed := true }.take 1 token)

def closeFlow (token : Token) (s : Scan) : Except Fault Scan := do
  if s.flowLevel = 0 then .error .malformed
  let s ← s.dropKey
  pure ({ s with flowLevel := s.flowLevel - 1, keyAllowed := false }.take 1 token)

/-- A token that may be, or begin, a key. -/
def keyLike (s : Scan) (read : Cursor → Except Fault (Token × Cursor)) : Except Fault Scan := do
  let s ← s.noteKey
  let (token, c) ← read s.cursor
  pure { s.add token with cursor := c, keyAllowed := false }

def fuel (s : Scan) : Nat := s.cursor.rest.length + 1

/-- A scalar below a bar or an angle bracket. -/
def blockScalar (folded : Bool) (s : Scan) : Except Fault Scan := do
  let s ← { s with keyAllowed := true }.dropKey
  let (content, c) ← Block.read folded s.indent s.fuel s.cursor.next
  pure { s.add (.scalar content false) with cursor := c }

def quotedScalar (quote : Nat) (s : Scan) : Except Fault Scan :=
  s.keyLike fun c => do
    let (content, c) ← Quoted.read quote (c.rest.length + 1) c.next
    pure (.scalar content false, c)

def plainScalar (s : Scan) : Except Fault Scan := do
  let s ← s.noteKey
  let (content, lineStart, c) := Plain.read s.inFlow (s.indent + 1).toNat s.fuel [] s.cursor
  pure { s.add (.scalar content true) with cursor := c, keyAllowed := lineStart }

/-- Reads the next token, with the ends of collections before it. -/
def step (s : Scan) : Except Fault Scan := do
  let s ← (skipToToken s.fuel s).dropStaleKeys
  let s := s.unwind s.cursor.column
  let c := s.cursor
  let x := c.peek 0
  let blankNext := isBlankOrEnd (c.peek 1)
  if c.rest.isEmpty then pure ((← s.leave).add .streamEnd)
  else if x = 37 ∧ c.column = 0 then
    let s ← s.leave
    let (token, c) ← directive c.next
    pure { s.add token with cursor := c }
  else if c.column = 0 ∧ c.marks 45 then pure ((← s.leave).take 3 .documentStart)
  else if c.column = 0 ∧ c.marks 46 then pure ((← s.leave).take 3 .documentEnd)
  else if x = 91 then s.openFlow .flowSequenceStart
  else if x = 123 then s.openFlow .flowMappingStart
  else if x = 93 then s.closeFlow .flowSequenceEnd
  else if x = 125 then s.closeFlow .flowMappingEnd
  else if x = 44 then pure ((← { s with keyAllowed := true }.dropKey).take 1 .flowEntry)
  else if x = 45 ∧ blankNext then s.blockEntry
  else if x = 63 ∧ (s.inFlow ∨ blankNext) then s.explicitKey
  else if x = 58 ∧ (s.inFlow ∨ blankNext) then s.value
  else if x = 42 then s.keyLike fun c => do
    let (name, c) ← anchorName c.next
    pure (.alias name, c)
  else if x = 38 then s.keyLike fun c => do
    let (name, c) ← anchorName c.next
    pure (.anchor name, c)
  else if x = 33 then s.keyLike tag
  else if x = 124 ∧ !s.inFlow then s.blockScalar false
  else if x = 62 ∧ !s.inFlow then s.blockScalar true
  else if x = 39 ∨ x = 34 then s.quotedScalar x
  else if Plain.starts s.inFlow c then s.plainScalar
  else .error .malformed

/-- Reads tokens up to the end of the text. Each one but the last takes at least one character. -/
def steps : Nat → Scan → Except Fault Scan
  | 0, _ => .error .malformed
  | fuel + 1, s => do
    let s ← s.step
    if s.tokens.head? = some .streamEnd then pure s else steps fuel s

end Scan

/-- The characters that a YAML text may hold. -/
def isPrintable (c : Nat) : Bool :=
  c = 9 || c = 10 || c = 13 || (32 ≤ c && c ≤ 126) || c = 0x85 || (0xA0 ≤ c && c ≤ 0xD7FF) ||
    (0xE000 ≤ c && c ≤ 0xFFFD) || (0x10000 ≤ c && c ≤ 0x10FFFF)

def tokens (t : Text) : Except Fault (List Token) :=
  if t.all isPrintable then do
    let s ← Scan.steps (t.length + 2) (Scan.start t)
    pure s.tokens.reverse
  else .error .malformed

end EntityTagger.Yaml
