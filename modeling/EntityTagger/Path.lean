import EntityTagger.Text

/-!
Paths: a root and components. Repeated slashes and components that are a single dot say nothing and
go; two dots stay, since what they mean depends on the files.
-/

namespace EntityTagger

inductive Root
  | relative
  | absolute
  | doubled
deriving DecidableEq, Repr

structure Path where
  root : Root
  parts : List Text
deriving DecidableEq, Repr

namespace Path

def rootOf : Text → Root
  | 47 :: 47 :: 47 :: _ => .absolute
  | 47 :: 47 :: _ => .doubled
  | 47 :: _ => .absolute
  | _ => .relative

def isPart (part : Text) : Bool := !part.isEmpty && part != text "."

def ofText (t : Text) : Path := ⟨rootOf t, (Text.splitAt 47 t).filter isPart⟩

def Root.toText : Root → Text
  | .relative => []
  | .absolute => text "/"
  | .doubled => text "//"

/-- The text of a path; one without root and components is a single dot. -/
def toText (p : Path) : Text :=
  if p.root = .relative ∧ p.parts = [] then text "."
  else Root.toText p.root ++ Text.join (text "/") p.parts

def isAbsolute (p : Path) : Bool := p.root ≠ .relative

/-- A path below another one; an absolute path is taken as it is. -/
def append (base p : Path) : Path :=
  if p.root = .relative then ⟨base.root, base.parts ++ p.parts⟩ else p

def parent (p : Path) : Path := ⟨p.root, p.parts.dropLast⟩

/-- The last component from its last dot on, if the dot stands neither first nor last. -/
def suffix (p : Path) : Text :=
  match p.parts.getLast? with
  | none => []
  | some name =>
    let extension := (name.reverse.takeWhile (· != 46)).reverse
    if extension.isEmpty || name.length ≤ extension.length + 1 then [] else 46 :: extension

end Path

end EntityTagger
