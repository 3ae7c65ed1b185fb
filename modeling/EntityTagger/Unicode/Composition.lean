import EntityTagger.Unicode.CompositionTable

/-!
Normalisation form C: decompose every character, sort each run of combining marks by class, and
compose what no mark stands in between of.
-/

namespace EntityTagger.Unicode

def decompositions : Array (Nat × List Nat) :=
  ((entries decompositionTable).filterMap fun entry =>
    match entry.splitAt 61 with
    | [c, parts] => some (hexNumber c, (Text.splitAt 43 parts).map hexNumber)
    | _ => none).toArray

def composites : Array ((Nat × Nat) × Nat) :=
  ((entries compositeTable).filterMap fun entry =>
    match entry.splitAt 61 with
    | [pair, c] =>
      match Text.splitAt 43 pair with
      | [a, b] => some ((hexNumber a, hexNumber b), hexNumber c)
      | _ => none
    | _ => none).toArray

def combiningClasses : Array ((Nat × Nat) × Nat) :=
  ((entries combiningTable).filterMap fun entry =>
    match entry.splitAt 58 with
    | [range, number] => some (readRange range, Text.digitsValue number)
    | _ => none).toArray

/-- The combining class of a code point; 0 for a starter. -/
def combiningClass (c : Nat) : Nat :=
  if c < 0x300 then 0
  else match combiningClasses.find? fun entry => entry.1.1 ≤ c && c ≤ entry.1.2 with
    | some entry => entry.2
    | none => 0

def hangulParts (c : Nat) : List Nat :=
  let index := c - 0xAC00
  let lead := 0x1100 + index / 588
  let vowel := 0x1161 + index % 588 / 28
  if index % 28 = 0 then [lead, vowel] else [lead, vowel, 0x11A7 + index % 28]

def decompose (c : Nat) : List Nat :=
  if c < 0xC0 then [c]
  else if 0xAC00 ≤ c && c ≤ 0xD7A3 then hangulParts c
  else match decompositions.find? fun entry => entry.1 == c with
    | some entry => entry.2
    | none => [c]

/-- Sorts the marks of each run stably by their classes; the marks of the current run are held
backwards. -/
def sortMarksFrom (marks : List Nat) : Text → Text
  | [] => marks.reverse.mergeSort fun a b => combiningClass a ≤ combiningClass b
  | c :: rest =>
    if combiningClass c = 0 then
      (marks.reverse.mergeSort fun a b => combiningClass a ≤ combiningClass b) ++
        c :: sortMarksFrom [] rest
    else sortMarksFrom (c :: marks) rest

/-- The canonical decomposition of a text, its marks in canonical order. -/
def decomposed (t : Text) : Text := sortMarksFrom [] (t.flatMap decompose)

def composite? (a b : Nat) : Option Nat :=
  if 0x1100 ≤ a && a ≤ 0x1112 && 0x1161 ≤ b && b ≤ 0x1175 then
    some (0xAC00 + ((a - 0x1100) * 21 + (b - 0x1161)) * 28)
  else if 0xAC00 ≤ a && a ≤ 0xD7A3 && (a - 0xAC00) % 28 = 0 && 0x11A7 < b && b ≤ 0x11C2 then
    some (a + (b - 0x11A7))
  else (composites.find? fun entry => entry.1.1 == a && entry.1.2 == b).map (·.2)

/-- Composes a text in canonical order. The last starter and, backwards, the characters kept after
it are held apart; a character is blocked when one kept after the starter has its class or more. -/
def composeFrom : Option Nat → List Nat → Text → Text
  | none, _, [] => []
  | some starter, kept, [] => starter :: kept.reverse
  | none, kept, c :: rest =>
    if combiningClass c = 0 then composeFrom (some c) [] rest
    else c :: composeFrom none kept rest
  | some starter, kept, c :: rest =>
    let blocked := match kept with
      | [] => false
      | last :: _ => combiningClass last = 0 || combiningClass c ≤ combiningClass last
    match if blocked then none else composite? starter c with
    | some whole => composeFrom (some whole) kept rest
    | none =>
      if combiningClass c = 0 then starter :: kept.reverse ++ composeFrom (some c) [] rest
      else composeFrom (some starter) (c :: kept) rest

/-- Normalisation form C. -/
def normalize (t : Text) : Text :=
  if t.all (· < 0xC0) then t else composeFrom none [] (decomposed t)

end EntityTagger.Unicode
