import TextureCatalog.Filter

/-!
# Tabs

What one tab of a session shows: the textures of a material that match a search text and pass the
filters of the tab.
-/

namespace TextureCatalog

/-- The state of a tab.  Its material is given by its place among the materials of the session. -/
structure Tab where
  name : String := "<no mat>"
  material : Option Nat := none
  searchText : String := ""
  filter : Filter := {}
  showsFilter : Bool := false
  deriving DecidableEq, Repr

namespace Tab

def emptyName : String := ({} : Tab).name

inductive Edit
  | name (value : String)
  | material (value : Option Nat)
  | searchText (value : String)
  | filter (edit : Filter.Edit)
  | resetResolution
  | showsFilter (value : Bool)
  deriving DecidableEq, Repr

/-- The name that a tab takes from its material, where `materials` are those of the session. -/
def nameFor (materials : List Material) (material : Option Nat) : String :=
  match material.bind fun place => materials[place]? with
  | none => emptyName
  | some material => material.name

/-- The tab with another material, or without one, from which it takes its name. -/
def assign (materials : List Material) (tab : Tab) (material : Option Nat) : Tab :=
  { tab with material, name := nameFor materials material }

def edit (materials : List Material) (tab : Tab) : Edit → Tab
  | .name value => { tab with name := value }
  | .material value => tab.assign materials value
  | .searchText value => { tab with searchText := value }
  | .filter edit => { tab with filter := tab.filter.edit edit }
  | .resetResolution => { tab with filter := tab.filter.resetResolution }
  | .showsFilter value => { tab with showsFilter := value }

/-- A copy of the tab, which takes its name from the material anew. -/
def copy (materials : List Material) (tab : Tab) : Tab :=
  { tab with name := nameFor materials tab.material }

/-- The positions of the textures of the material that the tab shows. -/
def visible (materials : List Material) (tab : Tab) : Except Query.Fault (List Nat) :=
  match tab.material.bind fun place => materials[place]? with
  | none => .ok []
  | some material => searchPositions material.textures tab.searchText tab.filter

end Tab

end TextureCatalog
