import EntityTagger.FileSystem
import EntityTagger.Text.Lines

/-!
Vocabularies: one token a line, whose number is the token's id. A token that stands on several lines
has the number of the last one.
-/

namespace EntityTagger

structure Vocabulary where
  tokens : List (Text × Nat)
deriving DecidableEq, Repr

namespace Vocabulary

/-- The tokens with a meaning of their own: padding, the unknown word, the two ends of a text, and
the mask. -/
def special : List Text :=
  [text "[PAD]", text "[UNK]", text "[CLS]", text "[SEP]", text "[MASK]"]

def ofLines (lines : List Text) : Vocabulary := ⟨Association.ofList lines.zipIdx⟩

def ofText (t : Text) : Vocabulary := ofLines t.lines

def id? (v : Vocabulary) (token : Text) : Option Nat := Association.get? token v.tokens

def token? (v : Vocabulary) (id : Int) : Option Text :=
  (v.tokens.find? fun entry => (entry.2 : Int) = id).map (·.1)

def missing (v : Vocabulary) : List Text := special.filter fun token => (v.id? token).isNone

def sorted (v : Vocabulary) : List (Text × Nat) :=
  v.tokens.mergeSort fun a b => decide (a.2 ≤ b.2)

/-- What a tokenizer over a vocabulary holds: the special tokens that are missing are added. -/
def completed (v : Vocabulary) : Vocabulary := ⟨v.tokens ++ v.missing.zipIdx v.tokens.length⟩

/-- The tokens that have another id, or none, in what a tokenizer holds. -/
def displaced (v held : Vocabulary) : List (Text × Nat) :=
  v.tokens.filter fun entry => held.id? entry.1 ≠ some entry.2

/-- The vocabulary of a tokenizer over a file. A tokenizer that holds other tokens than the file, or
the same ones with other ids, is refused. Every fault is laid to the vocabulary, but for one of the
test whether there is a file, which is passed on as it is. -/
def loadWith (opened : Vocabulary → Vocabulary) (fs : FileSystem) (path : Path) :
    Except Error Vocabulary :=
  let fail (fault : ResourceFault) : Except Error Vocabulary :=
    .error (.resource ⟨.vocabulary, some path.toText, fault⟩)
  match fs.testFile path with
  | .error error => .error (.file error)
  | .ok false => fail .fileNotFound
  | .ok true =>
    match fs.readBytes path with
    | .error error => fail (.file error)
    | .ok bytes =>
      match Utf8.decodeStream bytes with
      | (_, some error) => fail (.decoding error)
      | (content, none) =>
        let v := ofText content
        if v.tokens.isEmpty then fail .fileEmpty
        else
          let held := opened v
          let displaced := v.displaced held
          if held.tokens.length = v.tokens.length ∧ displaced.isEmpty then .ok held
          else fail (.tokenCount held.tokens.length v.tokens.length displaced.length)

/-- The vocabulary of a file. One without all special tokens is refused: a tokenizer adds those that
are missing, and then holds more tokens than the file. -/
def load (fs : FileSystem) (path : Path) : Except Error Vocabulary := loadWith completed fs path

end Vocabulary

end EntityTagger
