import EntityTagger.FileSystem

/-!
Patterns for paths: a star for any characters, a question mark for one, brackets for one of a set,
and two stars for any directories in between.
-/

namespace EntityTagger

namespace Wildcard

abbrev Range := Nat × Nat

/-- What a pattern for a name is made of. -/
inductive Part
  | any
  | one
  | literal (c : Nat)
  | set (negated : Bool) (ranges : List Range)
deriving DecidableEq, Repr

/-- The members of a set: a hyphen between two characters makes a range of them. -/
def ranges : Text → List Range
  | low :: 45 :: high :: rest => (low, high) :: ranges rest
  | c :: rest => (c, c) :: ranges rest
  | [] => []

/-- The text of a set up to its closing bracket, and what follows it. A closing bracket right at the
front is a member. -/
def closeSet? (t : Text) : Option (Text × Text) :=
  let (mark, t) := match t with
    | 33 :: rest => ([33], rest)
    | t => ([], t)
  let (first, t) := match t with
    | 93 :: rest => ([93], rest)
    | t => ([], t)
  match t.dropWhile (· != 93) with
  | [] => none
  | _ :: rest => some (mark ++ first ++ t.takeWhile (· != 93), rest)

/-- The parts of a pattern. The first argument bounds the number of them: there are at most as many
as characters. -/
def parse : Nat → Text → List Part
  | 0, _ => []
  | _, [] => []
  | fuel + 1, c :: rest =>
    if c = 42 then .any :: parse fuel rest
    else if c = 63 then .one :: parse fuel rest
    else if c = 91 then
      match closeSet? rest with
      | none => .literal c :: parse fuel rest
      | some (33 :: members, rest) => .set true (ranges members) :: parse fuel rest
      | some (members, rest) => .set false (ranges members) :: parse fuel rest
    else .literal c :: parse fuel rest

def Part.fits (c : Nat) : Part → Bool
  | .any => true
  | .one => true
  | .literal d => c == d
  | .set negated ranges => (ranges.any fun (low, high) => low ≤ c && c ≤ high) != negated

def fits : List Part → Text → Bool
  | [], name => name.isEmpty
  | .any :: parts, [] => fits parts []
  | .any :: parts, c :: name => fits parts (c :: name) || fits (.any :: parts) name
  | _ :: _, [] => false
  | part :: parts, c :: name => part.fits c && fits parts name
termination_by parts name => parts.length + name.length

def fitsName (pattern name : Text) : Bool := fits (parse pattern.length pattern) name

/-- Whether a pattern is more than a name. -/
def isPattern (t : Text) : Bool := t.any fun c => c = 42 || c = 63 || c = 91

end Wildcard

/-- One step of a pattern for paths. -/
inductive GlobStep
  | descend
  | matching (pattern : Text)
  | named (name : Text)
  | here
deriving DecidableEq, Repr

namespace Glob

inductive Fault
  | absolute
  | starsInName
deriving DecidableEq, Repr

def stepOf (part : Text) : Except Fault GlobStep :=
  if part = text "**" then .ok .descend
  else if (part.zip part.tail).contains (42, 42) then .error .starsInName
  else if Wildcard.isPattern part then .ok (.matching part)
  else .ok (.named part)

/-- The steps of a pattern. A slash at the end asks for directories only. -/
def steps (pattern : Text) : Except Fault (List GlobStep) :=
  let path := Path.ofText pattern
  if path.isAbsolute then .error .absolute
  else do
    let steps ← path.parts.mapM stepOf
    pure (if pattern.getLast? = some 47 then steps ++ [.here] else steps)

/-- A directory and all directories below it, down to a depth. -/
def directories (fs : FileSystem) : Nat → Path → List Path
  | 0, path => [path]
  | depth + 1, path =>
    match fs.resolve path with
    | .error _ => [path]
    | .ok place =>
      path :: ((fs.names place).map (fun name => path.append ⟨.relative, [name]⟩)).flatMap
        fun child => if fs.isDirectory child then directories fs depth child else []

/-- The longest way down from the root. -/
def depth (fs : FileSystem) : Nat := fs.nodes.foldr (fun (place, _) n => max place.length n) 0

/-- The paths that the steps lead to from a directory. Every step but the last has to lead to a
directory. -/
def select (fs : FileSystem) : List GlobStep → Path → List Path
  | [], path => [path]
  | step :: rest, path =>
    let enter (child : Path) : List Path :=
      if rest.isEmpty || fs.isDirectory child then select fs rest child else []
    match step with
    | .here => [path]
    | .descend => ((directories fs (depth fs) path).flatMap (select fs rest)).eraseDups
    | .named name =>
      let child := path.append ⟨.relative, [name]⟩
      if fs.isPresent child then enter child else []
    | .matching pattern =>
      match fs.resolve path with
      | .error _ => []
      | .ok place =>
        ((fs.names place).filter (Wildcard.fitsName pattern)).flatMap fun name =>
          enter (path.append ⟨.relative, [name]⟩)

def le (a b : Path) : Bool := leParts a.parts b.parts
where
  leParts : List Text → List Text → Bool
    | [], _ => true
    | _ :: _, [] => false
    | a :: as, b :: bs => if a = b then leParts as bs else Text.le a b

/-- The paths below a directory, at any depth, that fit a pattern, ordered by their components. -/
def below (fs : FileSystem) (directory : Path) (pattern : Text) : Except Fault (List Path) := do
  let steps ← steps pattern
  if fs.isDirectory directory then
    pure ((select fs (.descend :: steps) directory).mergeSort le)
  else pure []

end Glob

end EntityTagger
