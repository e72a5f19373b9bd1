import TextureCatalog.Proofs.Settings.Outcomes

/-!
# Settings in well-formed sections

Where both sections of a document are tables or absent, every key stands for itself: its value is
the setting, without a value the setting has its default, and a value of the wrong type is refused
with the name of its key.  Of several wrong values the first one in the order of the keys is named,
and members with unknown keys do not count.
-/

namespace TextureCatalog.Settings

open Document (Members)

variable {members : Members} {key : Key}

def sectionNames : List String := ["display", "filters"]

/-- Neither section is there as something else than a table. -/
def SectionsAreTables (members : Members) : Prop :=
  ∀ name ∈ sectionNames, ∀ place, members.get? name = some place →
    ∃ table, place = .table table

/-- The value under a key in the table of its section. -/
def valueAt (members : Members) (key : Key) : Option Document :=
  match members.get? key.sectionName with
  | some (.table table) => Members.get? table key.name
  | _ => none

/-- A key has a value of the wrong type. -/
def Offends (members : Members) (key : Key) : Prop :=
  ∃ value, valueAt members key = some value ∧ ¬ key.Accepts value

/-- A key has a value of the wrong type, and none of the keys before it has. -/
def OffendsFirst (members : Members) (key : Key) : Prop :=
  Offends members key ∧ ∃ earlier later, Key.all = earlier ++ key :: later ∧
    ∀ other ∈ earlier, ¬ Offends members other

/-- A setting is the given value, or its default if none is given. -/
def GivenOr {α : Type} (default : α) (write : α → Document) (value : Option Document)
    (setting : α) : Prop :=
  value = some (write setting) ∨ value = none ∧ setting = default

/-- Every setting by its own key alone. -/
structure StandIn (members : Members) (settings : Settings) : Prop where
  coloredOutput :
    GivenOr true .boolean (valueAt members .coloredOutput) settings.coloredOutput
  minResolution : GivenOr 0 .integer (valueAt members .minResolution) settings.minResolution
  maxResolution : GivenOr 8192 .integer (valueAt members .maxResolution) settings.maxResolution
  colorSpace :
    GivenOr .all (fun colorSpace => .text colorSpace.name) (valueAt members .colorSpace)
      settings.colorSpace
  format : GivenOr "" .text (valueAt members .format) settings.format

/-- The keys that are known in a section. -/
def sectionKeys (name : String) : List String :=
  (Key.all.filter fun key => key.sectionName == name).map Key.name

/-- Leaves out those members with unknown keys that are chosen, on both levels. -/
def withoutUnknown (outer : String → Bool) (inner : String → String → Bool) (members : Members) :
    Members :=
  members.prune (fun name _ => outer name && !sectionNames.contains name)
    fun name => fun
      | .table table => .table
          (Members.prune (fun key _ => inner name key && !(sectionKeys name).contains key)
            (fun _ => id) table)
      | place => place

/-! ## Faults in tables -/

theorem sectionName_mem (key : Key) : key.sectionName ∈ sectionNames := by
  cases key <;> decide

/-- In a table a key can only fail by its value. -/
theorem fails_iff_offends (h : SectionsAreTables members) {fault : DocumentFault} :
    Fails members key fault ↔ fault = .invalid key ∧ Offends members key := by
  constructor
  · intro hfails
    cases hfails with
    | invalid hplace hvalue hrefused =>
        refine ⟨rfl, _, ?_, hrefused⟩
        rw [valueAt, hplace]
        exact hvalue
    | unsearchable hplace hkind =>
        obtain ⟨table, rfl⟩ := h _ (sectionName_mem key) _ hplace
        cases hkind
    | text hplace _ =>
        obtain ⟨table, htable⟩ := h _ (sectionName_mem key) _ hplace
        cases htable
    | list hplace _ =>
        obtain ⟨table, htable⟩ := h _ (sectionName_mem key) _ hplace
        cases htable
  · rintro ⟨rfl, value, hvalue, hrefused⟩
    cases hplace : members.get? key.sectionName with
    | none => simp [valueAt, hplace] at hvalue
    | some place =>
        obtain ⟨table, rfl⟩ := h _ (sectionName_mem key) _ hplace
        rw [valueAt, hplace] at hvalue
        exact .invalid hplace hvalue hrefused

theorem failsFirst_iff_offendsFirst (h : SectionsAreTables members) {fault : DocumentFault} :
    FailsFirst members fault ↔ ∃ key, fault = .invalid key ∧ OffendsFirst members key := by
  simp only [FailsFirst, OffendsFirst, fails_iff_offends h]
  constructor
  · rintro ⟨earlier, key, later, hall, ⟨hfault, hoffends⟩, hnone⟩
    exact ⟨key, hfault, hoffends, earlier, later, hall, fun other hother hoffending =>
      hnone other hother _ ⟨rfl, hoffending⟩⟩
  · rintro ⟨key, hfault, hoffends, earlier, later, hall, hnone⟩
    exact ⟨earlier, key, later, hall, ⟨hfault, hoffends⟩, fun other hother another hfails =>
      hnone other hother hfails.2⟩

/-- A document is refused with the name of the first key that offends. -/
theorem ofDocument_eq_error_iff (h : SectionsAreTables members) (source : Files.Path)
    {fault : DocumentFault} :
    ofDocument members source = .error fault ↔
      ∃ key, fault = .invalid key ∧ OffendsFirst members key := by
  rw [← failsFirst_iff_offendsFirst h, ← findSome?_faultOf_iff, ofDocument_eq]
  cases Key.all.findSome? (faultOf members) <;> simp

theorem findSome?_faultOf_eq_none_iff (h : SectionsAreTables members) :
    Key.all.findSome? (faultOf members) = none ↔ ∀ key, ¬ Offends members key := by
  rw [List.findSome?_eq_none_iff]
  constructor
  · intro hnone key hoffends
    exact faultOf_eq_none_iff.1 (hnone key (Key.mem_all key)) _
      ((fails_iff_offends h).2 ⟨rfl, hoffends⟩)
  · intro hvalid key _
    exact faultOf_eq_none_iff.2 fun fault hfails => hvalid key ((fails_iff_offends h).1 hfails).2

theorem exists_ofDocument_eq_error_iff (h : SectionsAreTables members) (source : Files.Path) :
    (∃ fault, ofDocument members source = .error fault) ↔ ∃ key, Offends members key := by
  rw [← not_iff_not, not_exists, not_exists, ← findSome?_faultOf_eq_none_iff h, ofDocument_eq]
  cases Key.all.findSome? (faultOf members) <;> simp

/-! ## Settings from tables -/

theorem found_eq_valueAt (h : SectionsAreTables members) (key : Key) :
    found members key = valueAt members key := by
  rw [found, valueAt]
  cases hplace : members.get? key.sectionName with
  | none => rfl
  | some place =>
      obtain ⟨table, rfl⟩ := h _ (sectionName_mem key) _ hplace
      rfl

/-- What is read under a key is the value that was written, or the default without one. -/
theorem givenOr_convertedOr {α : Type} {default : α} {write : α → Document}
    {convert : Document → Option α} {value : Option Document}
    (hconvert : ∀ setting, convert (write setting) = some setting)
    (hvalue : ∀ document, value = some document → ∃ setting, document = write setting) :
    GivenOr default write value (convertedOr default convert value) := by
  cases value with
  | none => exact .inr ⟨rfl, rfl⟩
  | some document =>
      obtain ⟨setting, rfl⟩ := hvalue document rfl
      refine .inl ?_
      rw [convertedOr, Option.bind_some, hconvert, Option.getD_some]

theorem standIn_given (h : SectionsAreTables members) (hvalid : ∀ key, ¬ Offends members key)
    (source : Files.Path) : StandIn members (given members source) := by
  have haccepts : ∀ key document, valueAt members key = some document → key.Accepts document :=
    fun key document hvalue => Classical.not_not.1 fun hrefused =>
      hvalid key ⟨document, hvalue, hrefused⟩
  constructor <;> simp only [given, found_eq_valueAt h]
  case coloredOutput => exact givenOr_convertedOr (fun _ => rfl) (haccepts .coloredOutput)
  case minResolution => exact givenOr_convertedOr (fun _ => rfl) (haccepts .minResolution)
  case maxResolution => exact givenOr_convertedOr (fun _ => rfl) (haccepts .maxResolution)
  case colorSpace => exact givenOr_convertedOr ColorSpace.ofName?_name (haccepts .colorSpace)
  case format => exact givenOr_convertedOr (fun _ => rfl) (haccepts .format)

/-! ## Unknown members -/

theorem name_mem_sectionKeys (key : Key) : key.name ∈ sectionKeys key.sectionName := by
  cases key <;> decide

theorem valueIn_withoutUnknown (outer : String → Bool) (inner : String → String → Bool)
    (members : Members) (key : Key) :
    valueIn (Members.get? (withoutUnknown outer inner members) key.sectionName) key =
      valueIn (members.get? key.sectionName) key := by
  have hsection := List.contains_iff_mem.2 (sectionName_mem key)
  have hkey := List.contains_iff_mem.2 (name_mem_sectionKeys key)
  rw [withoutUnknown, Members.get?_prune]
  cases members.get? key.sectionName with
  | none => rfl
  | some place =>
      simp only [Option.filter, hsection, Bool.not_true, Bool.and_false, Bool.not_false, if_true,
        Option.map_some]
      cases place with
      | table table =>
          rw [valueIn, valueIn, Members.get?_prune, hkey]
          cases Members.get? table key.name <;> simp [Option.filter]
      | _ => rfl

theorem ofDocument_withoutUnknown (outer : String → Bool) (inner : String → String → Bool)
    (members : Members) (source : Files.Path) :
    ofDocument (withoutUnknown outer inner members) source = ofDocument members source :=
  ofDocument_congr (fun key => valueIn_withoutUnknown outer inner members key) source

/-! ## Every well-formed document -/

/-- A document whose sections are tables is refused exactly if a value in them has the wrong type,
with the first of their keys; otherwise every setting is the value under its key, or its default.
Members with unknown keys change neither. -/
theorem sections_decide_settings (h : SectionsAreTables members) (source : Files.Path) :
    ((∃ fault, ofDocument members source = .error fault) ↔ ∃ key, Offends members key) ∧
      (∀ fault, ofDocument members source = .error fault ↔
        ∃ key, fault = .invalid key ∧ OffendsFirst members key) ∧
      ((∀ key, ¬ Offends members key) → ∃ settings, ofDocument members source = .ok settings ∧
        settings.source = some source ∧ StandIn members settings) ∧
      ∀ outer inner, ofDocument (withoutUnknown outer inner members) source =
        ofDocument members source := by
  refine ⟨exists_ofDocument_eq_error_iff h source, fun fault => ofDocument_eq_error_iff h source,
    fun hvalid => ?_, fun outer inner => ofDocument_withoutUnknown outer inner members source⟩
  have hread : ofDocument members source = .ok (given members source) := by
    rw [ofDocument_eq, (findSome?_faultOf_eq_none_iff h).2 hvalid]
  exact ⟨_, hread, rfl, standIn_given h hvalid source⟩

/-- A truth value is no number, and it is found before the list under a later key. -/
theorem sections_decide_settings_truth_value :
    let filters : Members :=
      [("color_space", .list [.text "all"]), ("min_resolution", .boolean true),
       ("colored_output", .integer 3)]
    let members : Members := [("extra", .integer 1), ("filters", .table filters)]
    SectionsAreTables members ∧
      ofDocument members (.ofText "c.toml") = .error (.invalid .minResolution) ∧
        (DocumentFault.invalid .minResolution).message =
          "Invalid config value for 'filters.min_resolution': must be an integer" := by
  intro filters members
  have htables : SectionsAreTables members := by
    intro name hname place hplace
    simp only [sectionNames, List.mem_cons, List.not_mem_nil, or_false] at hname
    rcases hname with rfl | rfl
    · cases hplace
    · exact ⟨filters, (Option.some.inj hplace).symm⟩
  have hfirst : OffendsFirst members .minResolution := by
    refine ⟨⟨.boolean true, rfl, ?_⟩, [.coloredOutput], _, rfl, ?_⟩
    · rintro ⟨number, hnumber⟩
      cases hnumber
    · rintro other hother ⟨value, hvalue, -⟩
      rw [List.mem_singleton.1 hother] at hvalue
      cases hvalue
  exact ⟨htables, ((sections_decide_settings htables (.ofText "c.toml")).2.1 _).2
    ⟨.minResolution, rfl, hfirst⟩, by decide +kernel⟩

end TextureCatalog.Settings
