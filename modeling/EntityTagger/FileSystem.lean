import EntityTagger.Association
import EntityTagger.Checkpoint
import EntityTagger.Error
import EntityTagger.Path

/-!
File systems as values: what stands at each place, with the time of its last change, in the form in
which times are compared. Operations that change something return the file system after the change
and are told what time it is, one time for a whole run.

There are no links and no permissions: a place has one name, and what is there can be read and
written. Paths have a form in bytes, and they and their names are taken to be short enough for the
system; only `testFile` says what becomes of one that is not.
-/

namespace EntityTagger

/-- The components that lead from the root to a place. -/
abbrev Location := List Text

/-- What a file holds: bytes, or a checkpoint, which is no text. -/
inductive Content
  | bytes (data : List UInt8)
  | checkpoint (weights : Checkpoint)
deriving DecidableEq, Repr

/-- The bytes of a content; the first byte of a checkpoint already begins no text. -/
def Content.toBytes : Content → List UInt8
  | .bytes data => data
  | .checkpoint _ => [0x80]

inductive Node
  | directory (modified : Int)
  | file (content : Content) (modified : Int)
deriving DecidableEq, Repr

def Node.modified : Node → Int
  | .directory time => time
  | .file _ time => time

def Node.isDirectory : Node → Bool
  | .directory _ => true
  | .file .. => false

structure FileSystem where
  nodes : List (Location × Node)
deriving DecidableEq, Repr

namespace FileSystem

def empty : FileSystem := ⟨[([], .directory 0)]⟩

def node? (fs : FileSystem) (place : Location) : Option Node := Association.get? place fs.nodes

def put (fs : FileSystem) (place : Location) (node : Node) : FileSystem :=
  ⟨Association.put place node fs.nodes⟩

def setTime (fs : FileSystem) (place : Location) (time : Int) : FileSystem :=
  match fs.node? place with
  | some (.directory _) => fs.put place (.directory time)
  | some (.file content _) => fs.put place (.file content time)
  | none => fs

/-- Puts a new node at a place: the directory it stands in changes too. -/
def create (fs : FileSystem) (place : Location) (node : Node) : FileSystem :=
  (fs.setTime place.dropLast node.modified).put place node

/-- Removes a node and all that is below it. -/
def remove (fs : FileSystem) (place : Location) (now : Int) : FileSystem :=
  ⟨((fs.setTime place.dropLast now).nodes).filter fun entry => !place.isPrefixOf entry.1⟩

def names (fs : FileSystem) (place : Location) : List Text :=
  fs.nodes.filterMap fun (other, _) =>
    if other.length = place.length + 1 ∧ place.isPrefixOf other then other.getLast? else none

/-- Walks down from a place. Two dots lead up again, but only out of a directory that is there. -/
def walk (fs : FileSystem) : Location → List Text → Except FileFault Location
  | place, [] => .ok place
  | place, part :: rest =>
    match fs.node? place with
    | none => .error .missing
    | some (.file ..) => .error .notDirectory
    | some (.directory _) =>
      if part = text ".." then fs.walk place.dropLast rest
      else fs.walk (place ++ [part]) rest

/-- The place that a path names; there may be nothing there yet. -/
def resolve (fs : FileSystem) (path : Path) : Except FileFault Location := fs.walk [] path.parts

def find? (fs : FileSystem) (path : Path) : Option Node :=
  (fs.resolve path).toOption.bind fs.node?

def isPresent (fs : FileSystem) (path : Path) : Bool := (fs.find? path).isSome

def isFile (fs : FileSystem) (path : Path) : Bool :=
  match fs.find? path with
  | some (.file ..) => true
  | _ => false

/-- How many bytes a name or a path has. A surrogate stands for a byte that is not UTF-8. -/
def encodedLength : Text → Nat
  | [] => 0
  | c :: rest => ((Utf8.encodeCode c).map List.length).getD 1 + encodedLength rest

/-- How many bytes the name of an entry may have. -/
def maxNameLength : Nat := 255

/-- How many bytes a path may have. -/
def maxPathLength : Nat := 4095

/-- Whether the way down from a place comes to a name that is too long to be looked up. A way that
ends before does not get there. -/
def meetsLongName (fs : FileSystem) : Location → List Text → Bool
  | _, [] => false
  | place, part :: rest =>
    match fs.node? place with
    | some (.directory _) =>
      if part = text ".." then fs.meetsLongName place.dropLast rest
      else maxNameLength < encodedLength part || fs.meetsLongName (place ++ [part]) rest
    | _ => false

/-- Whether a path is too long to be looked up, or a name is that its way comes to. -/
def isTooLong (fs : FileSystem) (path : Path) : Bool :=
  maxPathLength < encodedLength path.toText || fs.meetsLongName [] path.parts

/-- The test for a regular file. Where nothing is, the answer is no, but a path that is too long is
an error. -/
def testFile (fs : FileSystem) (path : Path) : Except FileError Bool :=
  if fs.isTooLong path then .error ⟨.nameTooLong, path.toText⟩ else .ok (fs.isFile path)

def isDirectory (fs : FileSystem) (path : Path) : Bool :=
  match fs.find? path with
  | some (.directory _) => true
  | _ => false

def read (fs : FileSystem) (path : Path) : Except FileError Content :=
  match fs.resolve path with
  | .error fault => .error ⟨fault, path.toText⟩
  | .ok place =>
    match fs.node? place with
    | none => .error ⟨.missing, path.toText⟩
    | some (.directory _) => .error ⟨.isDirectory, path.toText⟩
    | some (.file content _) => .ok content

def readBytes (fs : FileSystem) (path : Path) : Except FileError (List UInt8) :=
  (fs.read path).map Content.toBytes

def write (fs : FileSystem) (path : Path) (content : Content) (now : Int) :
    Except FileError FileSystem :=
  match fs.resolve path with
  | .error fault => .error ⟨fault, path.toText⟩
  | .ok place =>
    match fs.node? place with
    | some (.directory _) => .error ⟨.isDirectory, path.toText⟩
    | some (.file ..) => .ok (fs.put place (.file content now))
    | none => .ok (fs.create place (.file content now))

/-- Makes a directory whose parent is there; one that is there already is as good. -/
def makeDirectory (fs : FileSystem) (path : Path) (now : Int) : Except FileError FileSystem :=
  match fs.resolve path with
  | .error fault => .error ⟨fault, path.toText⟩
  | .ok place =>
    match fs.node? place with
    | some (.directory _) => .ok fs
    | some (.file ..) => .error ⟨.present, path.toText⟩
    | none => .ok (fs.create place (.directory now))

/-- Makes a directory and, where they are missing, the directories above it. The components are
given from the last one up. Beside the result stands what is there afterwards: directories that were
made on the way stay, also if the way leads back out of them and ends at a file. -/
def makeDirectoriesFrom (fs : FileSystem) (root : Root) (now : Int) :
    List Text → FileSystem × Except FileError Unit
  | [] => (fs, .ok ())
  | part :: above =>
    let path : Path := ⟨root, (part :: above).reverse⟩
    match fs.makeDirectory path now with
    | .ok made => (made, .ok ())
    | .error ⟨.missing, _⟩ =>
      match makeDirectoriesFrom fs root now above with
      | (made, .error error) => (made, .error error)
      | (made, .ok ()) =>
        match made.makeDirectory path now with
        | .ok last => (last, .ok ())
        | .error error => (made, .error error)
    | .error error => (fs, .error error)

def makeDirectories (fs : FileSystem) (path : Path) (now : Int) : Except FileError FileSystem :=
  let (made, result) := fs.makeDirectoriesFrom path.root now path.parts.reverse
  result.map fun _ => made

/-- What is there after an attempt to make directories, whether or not all of them could be made. -/
def withDirectories (fs : FileSystem) (path : Path) (now : Int) : FileSystem :=
  (fs.makeDirectoriesFrom path.root now path.parts.reverse).1

end FileSystem

end EntityTagger
