import TextureCatalog.Text.Numeral
import TextureCatalog.Texture.Importer

/-!
# Violations of the manifest schema

Which field of a manifest is wrong, and what it has to be.
-/

namespace TextureCatalog.Manifest

inductive Step
  | member (key : String)
  | item (index : Nat)
  deriving DecidableEq, Repr

/-- The way from the manifest to one of its fields. -/
abbrev FieldPath := List Step

/-- A field path as it is shown: keys are separated by points, and places in a list stand in
brackets. -/
def FieldPath.text (field : FieldPath) : String :=
  field.foldl (fun shown step =>
    match step with
    | .item index => shown ++ "[" ++ Text.decimalText index ++ "]"
    | .member key => if shown.isEmpty then key else shown ++ "." ++ key) ""

inductive Requirement
  | manifestObject
  | object
  | objectOrNull
  | list
  | string
  | stringOrNull
  | boolean
  | nonNegativeInteger
  | percentage
  | compressionName
  deriving DecidableEq, Repr

def Requirement.message : Requirement → String
  | .manifestObject => "manifest must be a JSON object"
  | .object => "must be an object"
  | .objectOrNull => "must be an object or null"
  | .list => "must be a list"
  | .string => "must be a string"
  | .stringOrNull => "must be a string or null"
  | .boolean => "must be a boolean"
  | .nonNegativeInteger => "must be a non-negative integer"
  | .percentage => "must be an integer 0-100"
  | .compressionName =>
    "must be one of: " ++ ", ".intercalate (Compression.all.map Compression.name)

structure Violation where
  field : FieldPath
  requirement : Requirement
  deriving DecidableEq, Repr

def Violation.message (violation : Violation) : String :=
  s!"Invalid manifest value for '{violation.field.text}': {violation.requirement.message}"

end TextureCatalog.Manifest
