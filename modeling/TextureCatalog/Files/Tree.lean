import TextureCatalog.Files.Path
import TextureCatalog.Text.Quoted
import TextureCatalog.Text.Utf8

/-!
# File trees

Files and directories by location, what can go wrong in reaching one, and the two changes that are
ever made: creating directories and writing a file.
-/

namespace TextureCatalog.Files

inductive Entry
  | file (content : List UInt8)
  | directory
  deriving DecidableEq, Repr

inductive Fault
  | notFound
  | exists
  | notADirectory
  | isADirectory
  | nameTooLong
  deriving DecidableEq, Repr

namespace Fault

/-- The number by which systems know the fault. -/
def number : Fault → Nat
  | .notFound => 2
  | .exists => 17
  | .notADirectory => 20
  | .isADirectory => 21
  | .nameTooLong => 36

def reason : Fault → String
  | .notFound => "No such file or directory"
  | .exists => "File exists"
  | .notADirectory => "Not a directory"
  | .isADirectory => "Is a directory"
  | .nameTooLong => "File name too long"

/-- The fault in words, with the path at which it showed. -/
def message (fault : Fault) (path : Path) : String :=
  s!"[Errno {fault.number}] {fault.reason}: {Text.quoted path.toText}"

end Fault

def byteLength (text : String) : Nat :=
  (Text.Utf8.encode text.toList).length

def nameLimit : Nat := 255

def pathLimit : Nat := 4095

/-- The entries of a file tree by location.  Of two for the same location the first counts.  The
root is a directory without being listed. -/
structure Tree where
  entries : List (Location × Entry) := []
  deriving Repr

/-- A change that could not be finished: the fault, the location at which it showed, and the tree
that is left.  What was done before the fault stays done. -/
structure Unfinished where
  fault : Fault
  place : Location
  tree : Tree
  deriving Repr

namespace Tree

def get? (tree : Tree) (location : Location) : Option Entry :=
  if location = [] then some .directory
  else (tree.entries.find? fun (place, _) => place == location).map (·.2)

def put (tree : Tree) (location : Location) (entry : Entry) : Tree :=
  ⟨(location, entry) :: tree.entries⟩

theorem get?_put_self (tree : Tree) {location : Location} (entry : Entry) (h : location ≠ []) :
    (tree.put location entry).get? location = some entry := by
  simp [get?, put, h]

theorem get?_put_of_ne (tree : Tree) {location other : Location} (entry : Entry)
    (h : location ≠ other) : (tree.put location entry).get? other = tree.get? other := by
  simp [get?, put, h]

/-- Goes from a place along names, each of which but the last must be a directory's. -/
def walk (tree : Tree) : Location → List String → Except Fault (Location × Entry)
  | here, [] =>
    match tree.get? here with
    | none => .error .notFound
    | some entry => .ok (here, entry)
  | here, name :: rest =>
    match tree.get? here with
    | none => .error .notFound
    | some (.file _) => .error .notADirectory
    | some .directory =>
      if name = ".." then tree.walk here.dropLast rest
      else if nameLimit < byteLength name then .error .nameTooLong
      else tree.walk (here ++ [name]) rest

def reach (tree : Tree) (path : Path) (workingDirectory : Location) : Except Fault Entry :=
  if pathLimit < byteLength path.toText then .error .nameTooLong
  else
    let start := match path.anchor with
      | .working => workingDirectory
      | _ => []
    (tree.walk start path.names).map (·.2)

def reachLocation (tree : Tree) (location : Location) : Except Fault Entry :=
  tree.reach (.ofLocation location) []

/-- Creates a single directory, in a directory that exists. -/
def makeDirectory (tree : Tree) (location : Location) : Except Fault Tree :=
  match tree.reachLocation location with
  | .ok _ => .error .exists
  | .error .notFound =>
    match tree.reachLocation location.dropLast with
    | .ok .directory => .ok (tree.put location .directory)
    | .ok (.file _) => .error .notADirectory
    | .error fault => .error fault
  | .error fault => .error fault

def isDirectory (tree : Tree) (location : Location) : Bool :=
  match tree.reachLocation location with
  | .ok .directory => true
  | _ => false

/-- Creates a directory and the missing ones above it; the names of its location are given from the
last to the first.  One that exists is left alone. -/
def makeDirectoriesUpward (tree : Tree) : List String → Except Unfinished Tree
  | [] => .ok tree
  | name :: above =>
    let location := (name :: above).reverse
    match tree.makeDirectory location with
    | .ok changed => .ok changed
    | .error .notFound =>
      match tree.makeDirectoriesUpward above with
      | .error unfinished => .error unfinished
      | .ok changed =>
        match changed.makeDirectory location with
        | .ok changed => .ok changed
        | .error fault => .error ⟨fault, location, changed⟩
    | .error fault =>
      if tree.isDirectory location then .ok tree else .error ⟨fault, location, tree⟩

/-- Creates a directory and the missing ones above it. -/
def makeDirectories (tree : Tree) (location : Location) : Except Unfinished Tree :=
  tree.makeDirectoriesUpward location.reverse

/-- Writes a file into a directory that exists, whether or not there was a file before. -/
def writeFile (tree : Tree) (location : Location) (content : List UInt8) : Except Fault Tree :=
  match tree.reachLocation location with
  | .ok .directory => .error .isADirectory
  | .ok (.file _) => .ok (tree.put location (.file content))
  | .error .notFound =>
    if tree.isDirectory location.dropLast then .ok (tree.put location (.file content))
    else .error .notFound
  | .error fault => .error fault

/-- Writes a file and creates the missing directories above it. -/
def install (tree : Tree) (location : Location) (content : List UInt8) :
    Except Unfinished Tree := do
  let tree ← tree.makeDirectories location.dropLast
  match tree.writeFile location content with
  | .ok tree => return tree
  | .error fault => throw ⟨fault, location, tree⟩

end Tree

end TextureCatalog.Files
