import EntityTagger.Batch
import EntityTagger.Tokenizer.Vocabulary
import EntityTagger.Unicode.Category
import EntityTagger.Unicode.Composition

/-!
Word pieces: a text is cut into words and punctuation, and every word into the longest tokens of the
vocabulary that it begins with, one after the other.
-/

namespace EntityTagger.WordPiece

/-! ### Words -/

/-- What is dropped from a text: controls other than tab and line ends, NUL, and the replacement
character. -/
def isDropped (c : Nat) : Bool :=
  c = 0 || c = 0xFFFD || (Unicode.isOther c && c != 9 && c != 10 && c != 13)

def isSpace (c : Nat) : Bool := c = 32 || c = 9 || c = 10 || c = 13 || Unicode.isSpaceSeparator c

def isIdeograph (c : Nat) : Bool :=
  (0x4E00 ≤ c && c ≤ 0x9FFF) || (0x3400 ≤ c && c ≤ 0x4DBF) || (0x20000 ≤ c && c ≤ 0x2A6DF) ||
    (0x2A700 ≤ c && c ≤ 0x2B73F) || (0x2B740 ≤ c && c ≤ 0x2B81F) ||
    (0x2B820 ≤ c && c ≤ 0x2CEAF) || (0xF900 ≤ c && c ≤ 0xFAFF) || (0x2F800 ≤ c && c ≤ 0x2FA1F)

/-- A punctuation mark; every ASCII character that is neither letter, digit nor blank is one. -/
def isPunctuation (c : Nat) : Bool :=
  (33 ≤ c && c ≤ 47) || (58 ≤ c && c ≤ 64) || (91 ≤ c && c ≤ 96) || (123 ≤ c && c ≤ 126) ||
    Unicode.isPunctuation c

/-- A text without what is dropped, with plain spaces, and with spaces around ideographs. -/
def clean (t : Text) : Text :=
  (t.filter (!isDropped ·)).flatMap fun c =>
    if isSpace c then [32] else if isIdeograph c then [32, c, 32] else [c]

/-- Cuts off every punctuation mark; `run` holds the characters before it, backwards. -/
def cutPunctuation (run : Text) : Text → List Text
  | [] => if run.isEmpty then [] else [run.reverse]
  | c :: rest =>
    if isPunctuation c then
      let after := [c] :: cutPunctuation [] rest
      if run.isEmpty then after else run.reverse :: after
    else cutPunctuation (c :: run) rest

/-- The words and punctuation marks of a text. A word that reads like a special token stays
whole. -/
def words (t : Text) : List Text :=
  (Unicode.normalize (clean t)).words.flatMap fun word =>
    if Vocabulary.special.contains word then [word]
    else (cutPunctuation [] word).flatMap Text.words

/-! ### Pieces -/

/-- The longest of the first `length` characters of a word that are a token behind `mark`: its id
and its length. -/
def longest? (v : Vocabulary) (mark word : Text) : Nat → Option (Nat × Nat)
  | 0 => none
  | length + 1 =>
    match v.id? (mark ++ word.take (length + 1)) with
    | some id => some (id, length + 1)
    | none => longest? v mark word length

def continuation : Text := text "##"

/-- The pieces of a word, if it can be cut into tokens. Each piece takes at least one character, so
as much fuel as the word has characters is enough. -/
def pieces? (v : Vocabulary) : Nat → Text → Text → Option (List Nat)
  | _, _, [] => some []
  | 0, _, _ :: _ => none
  | fuel + 1, mark, word =>
    match longest? v mark word word.length with
    | none => none
    | some (id, length) =>
      (pieces? v fuel continuation (word.drop length)).map (id :: ·)

def maxWordLength : Nat := 100

def specialId (v : Vocabulary) (token : Text) : Nat := (v.id? token).getD 0

def unknownId (v : Vocabulary) : Nat := specialId v (text "[UNK]")

def wordIds (v : Vocabulary) (word : Text) : List Nat :=
  if maxWordLength < word.length then [unknownId v]
  else match pieces? v word.length [] word with
    | some ids => ids
    | none => [unknownId v]

/-! ### Texts -/

/-- What stands between the special tokens of a text, and those tokens themselves. -/
inductive Segment
  | plain (t : Text)
  | special (token : Text)
deriving DecidableEq, Repr

/-- Cuts a text at the special tokens in it. `run` holds the plain characters before, backwards; the
second argument counts those that still belong to the last special token. -/
def segments (run : Text) : Nat → Text → List Segment
  | _, [] => if run.isEmpty then [] else [.plain run.reverse]
  | skip + 1, _ :: rest => segments run skip rest
  | 0, c :: rest =>
    match Vocabulary.special.find? fun token => token.isPrefixOf (c :: rest) with
    | none => segments (c :: run) 0 rest
    | some token =>
      let after := .special token :: segments [] (token.length - 1) rest
      if run.isEmpty then after else .plain run.reverse :: after

def contentIds (v : Vocabulary) (t : Text) : List Nat :=
  (segments [] 0 t).flatMap fun
    | .plain t => (words t).flatMap (wordIds v)
    | .special token => [specialId v token]

/-- Cuts a text's ids so that with the two ends they are at most `maxLength`. If there would be
nothing left to cut from, nothing is cut. -/
def truncate (maxLength : Int) (ids : List Nat) : List Nat :=
  let surplus := (ids.length + 2 : Int) - maxLength
  if 0 < surplus ∧ surplus < ids.length then ids.take (ids.length - surplus.toNat) else ids

/-- The ids of a text between its two ends. -/
def encode (v : Vocabulary) (maxLength : Option Int) (t : Text) : List Int :=
  let ids := contentIds v t
  let ids := match maxLength with
    | some maxLength => truncate maxLength ids
    | none => ids
  ((specialId v (text "[CLS]") :: ids) ++ [specialId v (text "[SEP]")]).map Int.ofNat

/-- What is closed up in a text, in this order. -/
def closings : List (String × String) :=
  [(" .", "."), (" ?", "?"), (" !", "!"), (" ,", ","), (" ' ", "'"), (" n't", "n't"),
    (" 'm", "'m"), (" 's", "'s"), (" 've", "'ve"), (" 're", "'re")]

/-- A token as text: without blanks at its ends, before marks of punctuation and before the endings
of contracted words. -/
def tidy (token : Text) : Text :=
  closings.foldl (fun t (old, new) => Text.replace (text old) (text new) t)
    (Text.replace (text " ##") [] token).strip

/-- The text of a single id. Special tokens have none, and an id without a token is unknown, which
is special. -/
def decode (v : Vocabulary) (id : Int) : Text :=
  match v.token? id with
  | none => []
  | some token => if Vocabulary.special.contains token then [] else tidy token

def tokenizer (v : Vocabulary) : Tokenizer :=
  Tokenizer.perText (fun t maxLength => encode v (some maxLength) t) (decode v)

end EntityTagger.WordPiece
