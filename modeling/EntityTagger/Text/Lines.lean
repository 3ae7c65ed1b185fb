import EntityTagger.Text

/-!
Lines of a text: they end at LF, at CR and at CR LF, and at nothing else.
-/

namespace EntityTagger.Text

/-- The lines of a text that have an end, and what stands after the last end. The line being read
is held backwards. -/
def cutLinesFrom (line : Text) : Text → List Text × Text
  | [] => ([], line.reverse)
  | 13 :: 10 :: rest =>
    let (lines, last) := cutLinesFrom [] rest
    (line.reverse :: lines, last)
  | c :: rest =>
    if c = 10 ∨ c = 13 then
      let (lines, last) := cutLinesFrom [] rest
      (line.reverse :: lines, last)
    else cutLinesFrom (c :: line) rest

def cutLines (t : Text) : List Text × Text := cutLinesFrom [] t

/-- All lines; the last one needs no end, but an empty rest is no line. -/
def lines (t : Text) : List Text :=
  let (ended, last) := t.cutLines
  if last.isEmpty then ended else ended ++ [last]

/-- Writes every line end as a single LF. -/
def unifyLineEnds : Text → Text
  | [] => []
  | 13 :: 10 :: rest => 10 :: unifyLineEnds rest
  | c :: rest => (if c = 13 then 10 else c) :: unifyLineEnds rest

end EntityTagger.Text
