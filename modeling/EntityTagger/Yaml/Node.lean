import EntityTagger.Association
import EntityTagger.Yaml.Tag
import EntityTagger.Yaml.Token

/-!
Nodes: the tree that the tokens of a document form. Tags are resolved in it, and every alias is
replaced by the node that it stands for.
-/

namespace EntityTagger.Yaml

inductive Node
  | scalar (tag : Tag) (content : Text)
  | sequence (tag : Tag) (items : List Node)
  | mapping (tag : Tag) (entries : List (Node × Node))

namespace Node

def empty : Node := .scalar .null []

/-- The tokens that are left, and the nodes that have been given a name. A name belongs to its node
from the start: inside, it stands for a node of the same kind that is cut off. -/
structure Composer where
  tokens : List Token
  anchors : List (Text × Node)

namespace Composer

def next? (c : Composer) : Option Token := c.tokens.head?

def skip (c : Composer) : Composer := { c with tokens := c.tokens.tail }

def nextIs (token : Token) (c : Composer) : Bool := c.next? = some token

def expect (token : Token) (c : Composer) : Except Fault Composer :=
  if c.nextIs token then .ok c.skip else .error .malformed

end Composer

/-- What may stand where a node is read: collections in brackets only, also collections by
indentation, or even a sequence that is indented no deeper than the mapping around it. -/
inductive Context
  | flow
  | block
  | entry
deriving DecidableEq, Repr

structure Properties where
  anchor : Option Text
  tag : Option (Option Text × Text)
deriving DecidableEq, Repr

def properties (c : Composer) : Properties × Composer :=
  match c.tokens with
  | .anchor name :: .tag handle suffix :: rest =>
    (⟨some name, some (handle, suffix)⟩, { c with tokens := rest })
  | .tag handle suffix :: .anchor name :: rest =>
    (⟨some name, some (handle, suffix)⟩, { c with tokens := rest })
  | .anchor name :: rest => (⟨some name, none⟩, { c with tokens := rest })
  | .tag handle suffix :: rest => (⟨none, some (handle, suffix)⟩, { c with tokens := rest })
  | _ => (⟨none, none⟩, c)

/-- What the beginnings of tags stand for where no directive says otherwise. -/
def defaultHandles : List (Text × Text) := [(text "!", text "!"), (text "!!", Tag.standard)]

/-- The full name of a tag; `none` if there is none, or nothing but an exclamation mark. -/
def tagName (handles : List (Text × Text)) :
    Option (Option Text × Text) → Except Fault (Option Text)
  | none => .ok none
  | some (none, suffix) => .ok (if suffix = [33] then none else some suffix)
  | some (some handle, suffix) =>
    match Association.get? handle handles with
    | some start => .ok (some (start ++ suffix))
    | none => .error .malformed

/-- The tag of a collection: its own, or the one for all collections of its kind. -/
def collectionTag (name : Option Text) (default : Tag) : Tag :=
  match name with
  | some name => .ofName name
  | none => default

/-- The tag of a scalar. One that is quoted is a text, unless an exclamation mark asks for what it
looks like. -/
def scalarTag (name : Option Text) (plain marked : Bool) (content : Text) : Tag :=
  match name with
  | some name => .ofName name
  | none => if plain || marked then .ofPlain content else .str

/-- Gives a node a name, which may not be given twice in a document. -/
def anchorAs (anchor : Option Text) (node : Node) (c : Composer) : Except Fault Composer :=
  match anchor with
  | none => .ok c
  | some name =>
    if (Association.get? name c.anchors).isSome then .error .malformed
    else .ok { c with anchors := (name, node) :: c.anchors }

/-- Lets a name that has been given stand for the whole node. -/
def complete (anchor : Option Text) (node : Node) (c : Composer) : Composer :=
  match anchor with
  | none => c
  | some name => { c with anchors := Association.put name node c.anchors }

/-- The tokens before which a node of a block mapping may be left out. -/
def pairEnds : List Token := [.key, .value, .blockEnd]

mutual

def read (handles : List (Text × Text)) (context : Context) :
    Nat → Composer → Except Fault (Node × Composer)
  | 0, _ => .error .malformed
  | fuel + 1, c =>
    match c.next? with
    | some (.alias name) =>
      match Association.get? name c.anchors with
      | some node => .ok (node, c.skip)
      | none => .error .malformed
    | _ => do
      let (said, c) := properties c
      let name ← tagName handles said.tag
      let marked := said.tag.isSome && name.isNone
      let sequence (items : Composer → Except Fault (List Node × Composer)) (c : Composer) := do
        let tag := collectionTag name .seq
        let (items, c) ← items (← anchorAs said.anchor (.sequence tag [empty]) c)
        pure (Node.sequence tag items, complete said.anchor (.sequence tag items) c)
      let mapping (entries : Composer → Except Fault (List (Node × Node) × Composer))
          (c : Composer) := do
        let tag := collectionTag name .map
        let (entries, c) ← entries (← anchorAs said.anchor (.mapping tag [(empty, empty)]) c)
        pure (Node.mapping tag entries, complete said.anchor (.mapping tag entries) c)
      match c.next?, context with
      | some .blockEntry, .entry => sequence (blockItems handles true fuel) c
      | some (.scalar content plain), _ =>
        let isPlain := plain && said.tag.isNone
        let node := Node.scalar (scalarTag name isPlain marked content) content
        pure (node, ← anchorAs said.anchor node c.skip)
      | some .flowSequenceStart, _ => sequence (flowItems handles true fuel) c.skip
      | some .flowMappingStart, _ => mapping (flowEntries handles true fuel) c.skip
      | some .blockSequenceStart, .block => sequence (blockItems handles false fuel) c.skip
      | some .blockSequenceStart, .entry => sequence (blockItems handles false fuel) c.skip
      | some .blockMappingStart, .block => mapping (blockEntries handles fuel) c.skip
      | some .blockMappingStart, .entry => mapping (blockEntries handles fuel) c.skip
      | _, _ =>
        if said.anchor.isSome || said.tag.isSome then
          let node := Node.scalar (scalarTag name true marked []) []
          pure (node, ← anchorAs said.anchor node c)
        else .error .malformed

/-- Reads a node, or leaves it out before one of some tokens. -/
def readUnless (handles : List (Text × Text)) (context : Context) (ends : List Token) :
    Nat → Composer → Except Fault (Node × Composer)
  | 0, _ => .error .malformed
  | fuel + 1, c =>
    match c.next? with
    | some token => if ends.contains token then .ok (empty, c) else read handles context fuel c
    | none => .error .malformed

/-- Reads the items of a sequence in a block. One that is not indented ends before whatever is no
item. -/
def blockItems (handles : List (Text × Text)) (isBare : Bool) :
    Nat → Composer → Except Fault (List Node × Composer)
  | 0, _ => .error .malformed
  | fuel + 1, c =>
    if c.nextIs .blockEntry then do
      let ends := .blockEntry :: if isBare then pairEnds else [.blockEnd]
      let (item, c) ← readUnless handles .block ends fuel c.skip
      let (items, c) ← blockItems handles isBare fuel c
      pure (item :: items, c)
    else if isBare then .ok ([], c)
    else do pure ([], ← c.expect .blockEnd)

def readPair (handles : List (Text × Text)) (context : Context) (ends : List Token) :
    Nat → Composer → Except Fault ((Node × Node) × Composer)
  | 0, _ => .error .malformed
  | fuel + 1, c => do
    let (key, c) ← readUnless handles context (.value :: ends) fuel c
    if c.nextIs .value then
      let (value, c) ← readUnless handles context ends fuel c.skip
      pure ((key, value), c)
    else pure ((key, empty), c)

/-- Reads the entries of a mapping in a block. -/
def blockEntries (handles : List (Text × Text)) :
    Nat → Composer → Except Fault (List (Node × Node) × Composer)
  | 0, _ => .error .malformed
  | fuel + 1, c =>
    if c.nextIs .key then do
      let (entry, c) ← readPair handles .entry pairEnds fuel c.skip
      let (entries, c) ← blockEntries handles fuel c
      pure (entry :: entries, c)
    else do pure ([], ← c.expect .blockEnd)

/-- Reads the items of a sequence in brackets. A single pair is a mapping of its own. -/
def flowItems (handles : List (Text × Text)) (isFirst : Bool) :
    Nat → Composer → Except Fault (List Node × Composer)
  | 0, _ => .error .malformed
  | fuel + 1, c =>
    if c.nextIs .flowSequenceEnd then .ok ([], c.skip)
    else do
      let c ← if isFirst then pure c else c.expect .flowEntry
      if c.nextIs .flowSequenceEnd then pure ([], c.skip)
      else
        let (item, c) ←
          if c.nextIs .key then do
            let (entry, c) ← readPair handles .flow [.flowEntry, .flowSequenceEnd] fuel c.skip
            pure (Node.mapping .map [entry], c)
          else read handles .flow fuel c
        let (items, c) ← flowItems handles false fuel c
        pure (item :: items, c)

/-- Reads the entries of a mapping in brackets. A node alone is a key without a value. -/
def flowEntries (handles : List (Text × Text)) (isFirst : Bool) :
    Nat → Composer → Except Fault (List (Node × Node) × Composer)
  | 0, _ => .error .malformed
  | fuel + 1, c =>
    if c.nextIs .flowMappingEnd then .ok ([], c.skip)
    else do
      let c ← if isFirst then pure c else c.expect .flowEntry
      if c.nextIs .flowMappingEnd then pure ([], c.skip)
      else
        let (entry, c) ←
          if c.nextIs .key then
            readPair handles .flow [.flowEntry, .flowMappingEnd] fuel c.skip
          else do
            let (key, c) ← read handles .flow fuel c
            pure ((key, empty), c)
        let (entries, c) ← flowEntries handles false fuel c
        pure (entry :: entries, c)

end

/-- Reads the directives before a document: at most one version, which begins with a 1, and the
beginnings of tags, none of them twice. -/
def directives (isVersioned : Bool) (handles : List (Text × Text)) :
    List Token → Except Fault (List (Text × Text) × List Token)
  | .version major :: rest =>
    if isVersioned || major ≠ 1 then .error .malformed else directives true handles rest
  | .tagHandle handle start :: rest =>
    if (Association.get? handle handles).isSome then .error .malformed
    else directives isVersioned ((handle, start) :: handles) rest
  | .directive :: rest => directives isVersioned handles rest
  | rest => .ok (handles ++ defaultHandles, rest)

/-- Reads a document. Its content may be left out if its start is marked. -/
def document (tokens : List Token) : Except Fault (Node × List Token) := do
  let (handles, rest) ← directives false [] tokens
  let fuel := 5 * tokens.length + 5
  match rest with
  | .documentStart :: rest =>
    let (node, c) ← readUnless handles .block [.documentEnd, .streamEnd] fuel ⟨rest, []⟩
    pure (node, c.tokens)
  | rest =>
    if tokens.length = rest.length then
      let (node, c) ← read handles .block fuel ⟨rest, []⟩
      pure (node, c.tokens)
    else .error .malformed

/-- The node of a text that holds a single document; `none` for a text that holds none. -/
def ofText? (t : Text) : Except Fault (Option Node) := do
  let tokens ← tokens t
  if tokens = [.streamEnd] then pure none
  else
    let (node, rest) ← document tokens
    if rest.dropWhile (· == .documentEnd) = [.streamEnd] then pure (some node)
    else .error .malformed

end Node

end EntityTagger.Yaml
