import TextureCatalog.Text.Substring

/-!
# Paths

Paths as they are written, and locations, which are absolute and free of `..`.  Repeated separators
and single dots are dropped when a path is read; `..` is kept.
-/

namespace TextureCatalog.Files

/-- Where a path begins: at the working directory, or at the root.  Two separators at the
beginning, though not three, are kept apart from one. -/
inductive Anchor
  | working
  | root
  | doubleRoot
  deriving DecidableEq, Repr

def Anchor.text : Anchor → List Char
  | .working => []
  | .root => ['/']
  | .doubleRoot => ['/', '/']

/-- A path: where it begins and the names along it. -/
structure Path where
  anchor : Anchor := .working
  names : List String := []
  deriving DecidableEq, Repr

/-- A place in the file tree: the names from the root down to it. -/
abbrev Location := List String

namespace Path

def anchorOf (text : List Char) : Anchor :=
  match (text.takeWhile (· == '/')).length with
  | 0 => .working
  | 2 => .doubleRoot
  | _ => .root

def ofText (text : String) : Path :=
  { anchor := anchorOf text.toList
    names := ((Text.cutAt '/' text.toList).filter fun name => !name.isEmpty && name != ['.']).map
      String.ofList }

/-- A path as it is shown; the empty one is a single dot. -/
def toText (path : Path) : String :=
  if path.anchor = .working ∧ path.names = [] then "."
  else
    String.ofList (path.anchor.text ++ Text.joinWith ['/'] (path.names.map (·.toList)))

/-- The home directory that a text names.  Slashes at its end do not count, and nothing else than
slashes is the root.  A text that begins with `~` would itself need a home directory, and names
none. -/
def ofHomeText? (text : String) : Option Path :=
  match (text.toList.reverse.dropWhile (· == '/')).reverse with
  | [] => some ⟨.root, []⟩
  | '~' :: _ => none
  | kept => some (ofText (String.ofList kept))

def ofLocation (location : Location) : Path :=
  ⟨.root, location⟩

def append (path : Path) (names : List String) : Path :=
  { path with names := path.names ++ names }

/-- Goes along the names from a place, where `..` leads one step up; at the root it leads
nowhere. -/
def follow (place : Location) (names : List String) : Location :=
  names.foldl (fun here name => if name = ".." then here.dropLast else here ++ [name]) place

/-- The location that a path leads to from a working directory, whether or not anything is
there. -/
def resolve (path : Path) (workingDirectory : Location) : Location :=
  match path.anchor with
  | .working => follow workingDirectory path.names
  | _ => follow [] path.names

end Path

/-- What paths are relative to: the working directory, and the home directories of the user, if it is
known, and of other users by name. -/
structure Surroundings where
  workingDirectory : Location
  home : Option Path
  otherHomes : List (String × Path) := []
  deriving Repr

/-- Why there is no home directory: the user is unknown, or the name of the user holds a NUL. -/
inductive HomeFault
  | unknownUser
  | nulInName
  deriving DecidableEq, Repr

/-- The home directory of a user; the empty name stands for the one who runs the program. -/
def Surroundings.homeOf (surroundings : Surroundings) (user : List Char) :
    Except HomeFault Path :=
  let home :=
    if user.isEmpty then surroundings.home
    else (surroundings.otherHomes.find? fun (name, _) => name.toList == user).map (·.2)
  if '\x00' ∈ user then .error .nulInName
  else
    match home with
    | some home => .ok home
    | none => .error .unknownUser

/-- The path in which a first name `~` or `~user` has been replaced by a home directory. -/
def Path.expandHome (path : Path) (surroundings : Surroundings) : Except HomeFault Path :=
  match path.anchor, path.names with
  | .working, first :: rest =>
    match first.toList with
    | '~' :: user => (surroundings.homeOf user).map (·.append rest)
    | _ => .ok path
  | _, _ => .ok path

end TextureCatalog.Files
