/-!
Texts as sequences of code points, with the operations on them that the rest of the library uses:
decimal numerals, blanks, cutting, joining and replacing.
-/

namespace EntityTagger

/-- A text is a sequence of code points. A surrogate may stand alone in it: the escapes of a JSON
string can name one, and such a text is refused only when it is written as UTF-8. -/
abbrev Text := List Nat

def text (s : String) : Text := s.toList.map Char.toNat

namespace Text

def ofNat (n : Nat) : Text := (Nat.toDigits 10 n).map Char.toNat

/-- The decimal numeral of an integer, with a minus sign in front of a negative one. -/
def ofInt (n : Int) : Text :=
  if n < 0 then 45 :: ofNat n.natAbs else ofNat n.natAbs

/-- The lower-case hexadecimal numeral of `n`, filled with zeros up to `width` digits. -/
def ofNatHex (width n : Nat) : Text :=
  let digits := (Nat.toDigits 16 n).map Char.toNat
  List.replicate (width - digits.length) 48 ++ digits

def isDigit (c : Nat) : Bool := 48 ≤ c && c ≤ 57

def lower (c : Nat) : Nat := if 65 ≤ c ∧ c ≤ 90 then c + 32 else c

def upper (c : Nat) : Nat := if 97 ≤ c ∧ c ≤ 122 then c - 32 else c

def digitsValue (digits : Text) : Nat := digits.foldl (fun n c => 10 * n + (c - 48)) 0

def hexValue? (c : Nat) : Option Nat :=
  if 48 ≤ c ∧ c ≤ 57 then some (c - 48)
  else if 97 ≤ c ∧ c ≤ 102 then some (c - 87)
  else if 65 ≤ c ∧ c ≤ 70 then some (c - 55)
  else none

/-- The ASCII blanks: space, tab, line feed, vertical tab, form feed and carriage return. -/
def isAsciiBlank (c : Nat) : Bool := c = 32 || (9 ≤ c && c ≤ 13)

/-- White space: the ASCII blanks, the four information separators, and every character of the
Unicode white space property. -/
def isBlank (c : Nat) : Bool :=
  isAsciiBlank c || (28 ≤ c && c ≤ 31) || c = 0x85 || c = 0xA0 || c = 0x1680 ||
    (0x2000 ≤ c && c ≤ 0x200A) || c = 0x2028 || c = 0x2029 || c = 0x202F || c = 0x205F ||
    c = 0x3000

/-- A surrogate: half of a pair, no character of its own. -/
def isSurrogate (c : Nat) : Bool := 0xD800 ≤ c && c ≤ 0xDFFF

def trim (p : Nat → Bool) (t : Text) : Text :=
  ((t.dropWhile p).reverse.dropWhile p).reverse

def strip (t : Text) : Text := t.trim isBlank

/-- A text of white space only says nothing. -/
def isBlankText (t : Text) : Bool := t.all isBlank

/-- Cuts a text into its maximal runs of characters outside `p`; `run` holds the current one,
backwards. -/
def fieldsFrom (p : Nat → Bool) (run : Text) : Text → List Text
  | [] => if run.isEmpty then [] else [run.reverse]
  | c :: rest =>
    if p c then
      if run.isEmpty then fieldsFrom p [] rest else run.reverse :: fieldsFrom p [] rest
    else fieldsFrom p (c :: run) rest

def words (t : Text) : List Text := fieldsFrom isBlank [] t

/-- Cuts at every occurrence of a separator; the parts may be empty. -/
def splitAt (separator : Nat) : Text → List Text
  | [] => [[]]
  | c :: rest =>
    if c = separator then [] :: splitAt separator rest
    else match splitAt separator rest with
      | [] => [[c]]
      | part :: parts => (c :: part) :: parts

def join (separator : Text) : List Text → Text
  | [] => []
  | [part] => part
  | part :: parts => part ++ separator ++ join separator parts

/-- Replaces the occurrences of `old` by `new` from the left, none inside another. The first
argument counts the characters still to be skipped as part of the last occurrence. -/
def replaceFrom (old new : Text) : Nat → Text → Text
  | _, [] => []
  | n + 1, _ :: rest => replaceFrom old new n rest
  | 0, c :: rest =>
    if old.isPrefixOf (c :: rest) then new ++ replaceFrom old new (old.length - 1) rest
    else c :: replaceFrom old new 0 rest

def replace (old new t : Text) : Text := replaceFrom old new 0 t

/-- Order by code points, a proper beginning first. -/
def le : Text → Text → Bool
  | [], _ => true
  | _ :: _, [] => false
  | a :: s, b :: t => a < b || (a == b && le s t)

end Text

def sortedDistinct (texts : List Text) : List Text :=
  (texts.mergeSort Text.le).eraseReps

end EntityTagger
