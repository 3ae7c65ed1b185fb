import EntityTagger.Parts
import EntityTagger.Text

/-!
UTF-8. Decoding stops at the first ill-formed sequence and says which bytes are at fault and why;
encoding stops at the first surrogate. `decode` reads a whole file at once; `decodeStream` is for
files that are read line by line, a piece of the file at a time.
-/

namespace EntityTagger.Utf8

inductive Fault
  | invalidStart
  | invalidContinuation
  | unexpectedEnd
deriving DecidableEq, Repr

/-- An ill-formed sequence: its first byte, its place and its length. -/
structure DecodeError where
  fault : Fault
  byte : Nat
  position : Nat
  length : Nat
deriving DecidableEq, Repr

/-- A surrogate that cannot be written, at a position of the text. -/
structure EncodeError where
  code : Nat
  position : Nat
deriving DecidableEq, Repr

def Fault.message : Fault → Text
  | .invalidStart => text "invalid start byte"
  | .invalidContinuation => text "invalid continuation byte"
  | .unexpectedEnd => text "unexpected end of data"

def DecodeError.message (e : DecodeError) : Text :=
  let place :=
    if e.length = 1 then
      text " byte 0x" ++ Text.ofNatHex 2 e.byte ++ text " in position " ++ Text.ofNat e.position
    else
      text " bytes in position " ++ Text.ofNat e.position ++ text "-" ++
        Text.ofNat (e.position + e.length - 1)
  text "'utf-8' codec can't decode" ++ place ++ text ": " ++ e.fault.message

def EncodeError.message (e : EncodeError) : Text :=
  text "'utf-8' codec can't encode character '\\u" ++ Text.ofNatHex 4 e.code ++
    text "' in position " ++ Text.ofNat e.position ++ text ": surrogates not allowed"

def isContinuation (b : Nat) : Bool := 0x80 ≤ b && b ≤ 0xBF

def payload (b : Nat) : Nat := b - 0x80

/-- The second bytes that may follow a lead byte of three or four: they exclude overlong forms,
surrogates and numbers above U+10FFFF. -/
def isSecond (lead b : Nat) : Bool :=
  isContinuation b &&
    (lead != 0xE0 || 0xA0 ≤ b) && (lead != 0xED || b ≤ 0x9F) &&
    (lead != 0xF0 || 0x90 ≤ b) && (lead != 0xF4 || b ≤ 0x8F)

inductive Step
  | character (code : Nat) (length : Nat)
  | faulty (fault : Fault) (length : Nat)
deriving DecidableEq, Repr

/-- The first character of a non-empty byte sequence, or what is wrong with it. -/
def step (lead : Nat) (rest : List Nat) : Step :=
  if lead < 0x80 then .character lead 1
  else if lead < 0xC2 then .faulty .invalidStart 1
  else if lead < 0xE0 then
    match rest with
    | [] => .faulty .unexpectedEnd 1
    | b :: _ =>
      if isContinuation b then .character ((lead - 0xC0) * 64 + payload b) 2
      else .faulty .invalidContinuation 1
  else if lead < 0xF0 then
    match rest with
    | [] => .faulty .unexpectedEnd 1
    | b :: rest =>
      if !isSecond lead b then .faulty .invalidContinuation 1
      else match rest with
        | [] => .faulty .unexpectedEnd 2
        | c :: _ =>
          if isContinuation c then
            .character ((lead - 0xE0) * 4096 + payload b * 64 + payload c) 3
          else .faulty .invalidContinuation 2
  else if lead < 0xF5 then
    match rest with
    | [] => .faulty .unexpectedEnd 1
    | b :: rest =>
      if !isSecond lead b then .faulty .invalidContinuation 1
      else match rest with
        | [] => .faulty .unexpectedEnd 2
        | c :: rest =>
          if !isContinuation c then .faulty .invalidContinuation 2
          else match rest with
            | [] => .faulty .unexpectedEnd 3
            | d :: _ =>
              if isContinuation d then
                .character
                  ((lead - 0xF0) * 262144 + payload b * 4096 + payload c * 64 + payload d) 4
              else .faulty .invalidContinuation 3
  else .faulty .invalidStart 1

/-- Reads characters from `position` on until the end or the first fault. The first argument counts
the bytes that still belong to the character just read. -/
def scan : Nat → Nat → List Nat → Text × Option DecodeError
  | _, _, [] => ([], none)
  | skip + 1, position, _ :: rest => scan skip (position + 1) rest
  | 0, position, b :: rest =>
    match step b rest with
    | .character code length =>
      let (codes, error) := scan (length - 1) (position + 1) rest
      (code :: codes, error)
    | .faulty fault length => ([], some ⟨fault, b, position, length⟩)

def decode (bytes : List UInt8) : Except DecodeError Text :=
  match scan 0 0 (bytes.map UInt8.toNat) with
  | (codes, none) => .ok codes
  | (_, some error) => .error error

/-- Whether a fault may be mended by the bytes that come next: a sequence is cut off. The first two
bytes of a surrogate are held back as well, though no third one mends them. -/
def isCutOff (fault : Fault) (left : List Nat) : Bool :=
  fault == .unexpectedEnd ||
    match left with
    | [0xED, b] => isContinuation b
    | _ => false

/-- Reads pieces one after the other, each behind the bytes that were held back from those before.
Where a piece has a fault, nothing of it is seen, and the position of the fault counts from the
first of the bytes that the piece was read with. -/
def decodePieces : List Nat → List (List Nat) → Text × Option DecodeError
  | held, [] => scan 0 0 held
  | held, piece :: rest =>
    match scan 0 0 (held ++ piece) with
    | (codes, none) =>
      let (more, error) := decodePieces [] rest
      (codes ++ more, error)
    | (codes, some error) =>
      let left := (held ++ piece).drop error.position
      if isCutOff error.fault left then
        let (more, later) := decodePieces left rest
        (codes ++ more, later)
      else ([], some error)

def pieceSize : Nat := 8192

/-- The text of a file that is read line by line, and the first fault in it. If there is one, the
text is what was read before the piece that the fault was found in; a sequence that the end of the
file cuts off is found after all that stands before it. -/
def decodeStream (bytes : List UInt8) : Text × Option DecodeError :=
  decodePieces [] (parts pieceSize (bytes.map UInt8.toNat))

/-- The bytes of one code point; `none` for what UTF-8 has no form for. -/
def encodeCode (c : Nat) : Option (List UInt8) :=
  if c < 0x80 then some [c.toUInt8]
  else if c < 0x800 then some [(0xC0 + c / 64).toUInt8, (0x80 + c % 64).toUInt8]
  else if Text.isSurrogate c then none
  else if c < 0x10000 then
    some [(0xE0 + c / 4096).toUInt8, (0x80 + c / 64 % 64).toUInt8, (0x80 + c % 64).toUInt8]
  else if c < 0x110000 then
    some [(0xF0 + c / 262144).toUInt8, (0x80 + c / 4096 % 64).toUInt8,
      (0x80 + c / 64 % 64).toUInt8, (0x80 + c % 64).toUInt8]
  else none

def encodeFrom (position : Nat) : Text → Except EncodeError (List UInt8)
  | [] => .ok []
  | c :: rest =>
    match encodeCode c with
    | none => .error ⟨c, position⟩
    | some bytes => (encodeFrom (position + 1) rest).map (bytes ++ ·)

/-- The bytes of a text, or the first code point that has none. -/
def encode (t : Text) : Except EncodeError (List UInt8) := encodeFrom 0 t

end EntityTagger.Utf8
