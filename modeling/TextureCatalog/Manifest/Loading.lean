import TextureCatalog.Files.Tree
import TextureCatalog.Json.Reader
import TextureCatalog.Manifest.Schema

/-!
# Loading manifests

A manifest is a file of JSON in UTF-8.
-/

namespace TextureCatalog.Manifest

inductive ContentFault
  | undecodable (fault : Text.Utf8.Fault)
  | malformed (placed : Json.Placed)
  | numeralTooLong
  | invalid (violation : Violation)
  deriving DecidableEq, Repr

/-- Reads the content of a manifest file.  Line ends are unified before places are counted. -/
def materialOfBytes (content : List UInt8) : Except ContentFault Material :=
  match Text.Utf8.decode content with
  | .error fault => .error (.undecodable fault)
  | .ok decoded =>
    let text := Text.unifyNewlines decoded
    match Json.read text with
    | .error (.malformed problem remaining) => .error (.malformed (.of text problem remaining))
    | .error .numeralTooLong => .error .numeralTooLong
    | .ok document =>
      match materialOfDocument document with
      | .error violation => .error (.invalid violation)
      | .ok material => .ok material

inductive Fault
  | unknownUser
  | nulInPath
  | notFound (path : Files.Path)
  | inaccessible (fault : Files.Fault) (path : Files.Path)
  | unreadable (fault : Files.Fault) (path : Files.Path)
  | content (path : Files.Path) (fault : ContentFault)
  deriving DecidableEq, Repr

def load (tree : Files.Tree) (surroundings : Files.Surroundings) (path : Files.Path) :
    Except Fault Material :=
  match path.expandHome surroundings with
  | .error .unknownUser => .error .unknownUser
  | .error .nulInName => .error .nulInPath
  | .ok path =>
    if '\x00' ∈ path.toText.toList then .error (.notFound path)
    else
      match tree.reach path surroundings.workingDirectory with
      | .error .notFound | .error .notADirectory => .error (.notFound path)
      | .error fault => .error (.inaccessible fault path)
      | .ok .directory => .error (.unreadable .isADirectory path)
      | .ok (.file content) =>
        match materialOfBytes content with
        | .error fault => .error (.content path fault)
        | .ok material => .ok material

def Fault.message : Fault → String
  | .unknownUser => "Could not determine home directory."
  | .nulInPath => "embedded null byte"
  | .notFound path => s!"Manifest not found: {path.toText}"
  | .inaccessible fault path => fault.message path
  | .unreadable fault path => s!"Cannot read manifest {path.toText}: {fault.reason}"
  | .content path (.undecodable fault) => s!"Invalid manifest {path.toText}: {fault.message}"
  | .content path (.malformed placed) => s!"Invalid manifest {path.toText}: {placed.message}"
  | .content _ .numeralTooLong => "Exceeds the limit for integer string conversion"
  | .content _ (.invalid violation) => violation.message

end TextureCatalog.Manifest
