import TextureCatalog.Proofs.Document.Pruning
import TextureCatalog.Settings.Document

/-!
# What becomes of a document that holds settings

The keys are looked for one after the other, and the first fault ends the search.  In a table a key
has a value of its own, which is accepted or refused.  But a key is also looked for in a section
that is no table: where it is found, or where nothing can be looked for, the document is refused
without a word about the section, and where it is not found, the section counts as absent.
-/

namespace TextureCatalog.Settings

open Document (Members)

variable {members : Members} {key : Key} {fault : DocumentFault}

/-! ## The faults of a key -/

/-- The keys, in the order in which they are looked for. -/
def Key.all : List Key := [.coloredOutput, .minResolution, .maxResolution, .colorSpace, .format]

/-- The values that a key can have. -/
def Key.Accepts : Key → Document → Prop
  | .coloredOutput, value => ∃ flag, value = .boolean flag
  | .minResolution, value | .maxResolution, value => ∃ number, value = .integer number
  | .colorSpace, value => ∃ colorSpace : ColorSpace, value = .text colorSpace.name
  | .format, value => ∃ text, value = .text text

/-- The kind of a value in which nothing can be looked for. -/
def kindName? : Document → Option String
  | .null => some "NoneType"
  | .boolean _ => some "bool"
  | .integer _ => some "int"
  | .decimal _ => some "float"
  | .moment kind _ => some (momentName kind)
  | .text _ | .list _ | .table _ => none

/-- The fault with which the search for a key ends: its value in the table is not accepted, or the
section is no table, and nothing can be looked for in it or the key is found in it. -/
inductive Fails (members : Members) (key : Key) : DocumentFault → Prop
  | invalid {table : Members} {value : Document} :
      members.get? key.sectionName = some (.table table) → table.get? key.name = some value →
        ¬ key.Accepts value → Fails members key (.invalid key)
  | unsearchable {place : Document} {kind : String} :
      members.get? key.sectionName = some place → kindName? place = some kind →
        Fails members key (.misused (.unsearchable kind))
  | text {text : String} :
      members.get? key.sectionName = some (.text text) → key.name.toList <:+: text.toList →
        Fails members key (.misused .textHolds)
  | list {items : List Document} :
      members.get? key.sectionName = some (.list items) → .text key.name ∈ items →
        Fails members key (.misused .listHolds)

/-- The fault of a key is the fault of the document, if the keys before it have none. -/
def FailsFirst (members : Members) (fault : DocumentFault) : Prop :=
  ∃ earlier key later, Key.all = earlier ++ key :: later ∧ Fails members key fault ∧
    ∀ other ∈ earlier, ∀ another, ¬ Fails members other another

/-- A section that is no table, and in which none of its keys is found. -/
inductive Overlooked (name : String) : Document → Prop
  | text {text : String} :
      (∀ key : Key, key.sectionName = name → ¬ key.name.toList <:+: text.toList) →
        Overlooked name (.text text)
  | list {items : List Document} :
      (∀ key : Key, key.sectionName = name → .text key.name ∉ items) →
        Overlooked name (.list items)

/-! ## One key -/

/-- Whether a key can have a value. -/
def Key.accepts : Key → Document → Bool
  | .coloredOutput, value => (boolean? value).isSome
  | .minResolution, value | .maxResolution, value => (integer? value).isSome
  | .colorSpace, value => (colorSpace? value).isSome
  | .format, value => (text? value).isSome

theorem Key.accepts_iff {value : Document} : key.accepts value = true ↔ key.Accepts value := by
  cases key with
  | coloredOutput => cases value <;> simp [accepts, Accepts, boolean?]
  | minResolution => cases value <;> simp [accepts, Accepts, integer?]
  | maxResolution => cases value <;> simp [accepts, Accepts, integer?]
  | format => cases value <;> simp [accepts, Accepts, text?]
  | colorSpace =>
      cases value with
      | text name =>
          simp only [accepts, Accepts, colorSpace?, Option.isSome_iff_exists, Document.text.injEq]
          constructor
          · rintro ⟨colorSpace, hname⟩
            unfold ColorSpace.ofName? at hname
            have hsame := List.find?_some hname
            exact ⟨colorSpace, (beq_iff_eq.1 hsame).symm⟩
          · rintro ⟨colorSpace, rfl⟩
            exact ⟨colorSpace, ColorSpace.ofName?_name colorSpace⟩
      | _ => simp [accepts, Accepts, colorSpace?]

/-! ## Looking for a key -/

theorem valueIn_text_of_infix {text : String} (h : key.name.toList <:+: text.toList) :
    valueIn (some (.text text)) key = .error (.misused .textHolds) :=
  if_pos (Text.occursIn_iff.2 h)

theorem valueIn_text_of_not_infix {text : String} (h : ¬ key.name.toList <:+: text.toList) :
    valueIn (some (.text text)) key = .ok none :=
  if_neg fun hoccurs => h (Text.occursIn_iff.1 hoccurs)

theorem any_text_iff {items : List Document} {name : String} :
    (items.any fun | .text item => item == name | _ => false) = true ↔ .text name ∈ items := by
  rw [List.any_eq_true]
  constructor
  · rintro ⟨item, hitem, hname⟩
    cases item with
    | text text => exact beq_iff_eq.1 hname ▸ hitem
    | _ => exact absurd hname (by simp)
  · intro hname
    exact ⟨_, hname, beq_self_eq_true name⟩

theorem valueIn_list_of_mem {items : List Document} (h : .text key.name ∈ items) :
    valueIn (some (.list items)) key = .error (.misused .listHolds) :=
  if_pos (any_text_iff.2 h)

theorem valueIn_list_of_not_mem {items : List Document} (h : .text key.name ∉ items) :
    valueIn (some (.list items)) key = .ok none :=
  if_neg fun hany => h (any_text_iff.1 hany)

theorem valueIn_of_kind {place : Document} {kind : String} (h : kindName? place = some kind) :
    valueIn (some place) key = .error (.misused (.unsearchable kind)) := by
  cases place <;> simp_all [kindName?, valueIn]

/-- The fault of a key, if it has one. -/
def faultOf (members : Members) (key : Key) : Option DocumentFault :=
  match valueIn (members.get? key.sectionName) key with
  | .error fault => some fault
  | .ok none => none
  | .ok (some value) => if key.accepts value then none else some (.invalid key)

theorem faultOf_table {table : Members} (h : members.get? key.sectionName = some (.table table)) :
    faultOf members key =
      match table.get? key.name with
      | none => none
      | some value => if key.accepts value then none else some (.invalid key) := by
  rw [faultOf, h, valueIn]
  cases table.get? key.name <;> rfl

theorem faultOf_eq_some_of_fails (h : Fails members key fault) :
    faultOf members key = some fault := by
  cases h with
  | invalid hplace hvalue hrefused =>
      have haccepts : ¬ key.accepts _ = true := fun haccepts => hrefused (Key.accepts_iff.1 haccepts)
      rw [faultOf_table hplace, hvalue]
      exact if_neg haccepts
  | unsearchable hplace hkind => rw [faultOf, hplace, valueIn_of_kind hkind]
  | text hplace hoccurs => rw [faultOf, hplace, valueIn_text_of_infix hoccurs]
  | list hplace hmem => rw [faultOf, hplace, valueIn_list_of_mem hmem]

theorem fails_of_faultOf (h : faultOf members key = some fault) : Fails members key fault := by
  cases hplace : members.get? key.sectionName with
  | none => simp [faultOf, hplace, valueIn] at h
  | some place =>
      cases place with
      | table table =>
          rw [faultOf_table hplace] at h
          cases hvalue : Members.get? table key.name with
          | none => simp [hvalue] at h
          | some value =>
              rw [hvalue] at h
              by_cases haccepts : key.accepts value = true
              · simp [haccepts] at h
              · obtain rfl := Option.some.inj ((if_neg haccepts).symm.trans h)
                exact .invalid hplace hvalue fun hvalid => haccepts (Key.accepts_iff.2 hvalid)
      | text text =>
          by_cases hoccurs : key.name.toList <:+: text.toList
          · rw [faultOf, hplace, valueIn_text_of_infix hoccurs] at h
            exact Option.some.inj h ▸ .text hplace hoccurs
          · simp [faultOf, hplace, valueIn_text_of_not_infix hoccurs] at h
      | list items =>
          by_cases hmem : .text key.name ∈ items
          · rw [faultOf, hplace, valueIn_list_of_mem hmem] at h
            exact Option.some.inj h ▸ .list hplace hmem
          · simp [faultOf, hplace, valueIn_list_of_not_mem hmem] at h
      | _ =>
          rw [faultOf, hplace] at h
          exact Option.some.inj h ▸ .unsearchable hplace rfl

theorem faultOf_eq_some_iff : faultOf members key = some fault ↔ Fails members key fault :=
  ⟨fails_of_faultOf, faultOf_eq_some_of_fails⟩

theorem faultOf_eq_none_iff : faultOf members key = none ↔ ∀ fault, ¬ Fails members key fault := by
  rw [Option.eq_none_iff_forall_ne_some]
  exact forall_congr' fun fault => not_congr faultOf_eq_some_iff

/-- The first fault of the keys is the fault of the document. -/
theorem findSome?_faultOf_iff :
    Key.all.findSome? (faultOf members) = some fault ↔ FailsFirst members fault := by
  simp only [List.findSome?_eq_some_iff, faultOf_eq_some_iff, faultOf_eq_none_iff, FailsFirst]

/-! ## All keys -/

/-- The value that is found for a key, unless the search ends with a fault. -/
def found (members : Members) (key : Key) : Option Document :=
  match valueIn (members.get? key.sectionName) key with
  | .error _ => none
  | .ok value => value

/-- A value that may be absent, as it is converted. -/
def convertedOr {α : Type} (default : α) (convert : Document → Option α)
    (value : Option Document) : α :=
  (value.bind convert).getD default

/-- To look for a key and to read its value ends with the fault of the key, or goes on with what is
read. -/
theorem bind_readWith {α β : Type} {place : Option Document} {convert : Document → Option α}
    (hplace : place = members.get? key.sectionName)
    (h : ∀ value, key.accepts value = (convert value).isSome) (default : α)
    (continuation : α → Except DocumentFault β) :
    (valueIn place key >>= fun value => readWith key default convert value >>= continuation) =
      match faultOf members key with
      | some fault => .error fault
      | none => continuation (convertedOr default convert (found members key)) := by
  subst hplace
  unfold faultOf found
  cases valueIn (members.get? key.sectionName) key with
  | error fault => rfl
  | ok value =>
      cases value with
      | none => rfl
      | some value =>
          have haccepts := h value
          cases hconvert : convert value with
          | none => simp [bind, Except.bind, readWith, hconvert, haccepts]
          | some result => simp [bind, Except.bind, readWith, hconvert, haccepts, convertedOr]

/-- The settings that stand in a document, if no key has a fault. -/
def given (members : Members) (source : Files.Path) : Settings :=
  let defaults : Settings := {}
  { coloredOutput :=
      convertedOr defaults.coloredOutput boolean? (found members .coloredOutput)
    minResolution :=
      convertedOr defaults.minResolution integer? (found members .minResolution)
    maxResolution :=
      convertedOr defaults.maxResolution integer? (found members .maxResolution)
    colorSpace := convertedOr defaults.colorSpace colorSpace? (found members .colorSpace)
    format := convertedOr defaults.format text? (found members .format)
    source := some source }

/-- A document is refused with its first fault, or read as the settings that stand in it. -/
theorem ofDocument_eq (members : Members) (source : Files.Path) :
    ofDocument members source =
      match Key.all.findSome? (faultOf members) with
      | some fault => .error fault
      | none => .ok (given members source) := by
  have hcolored := @bind_readWith members .coloredOutput Bool Settings _ boolean? rfl
    (fun _ => rfl)
  have hmin := @bind_readWith members .minResolution Int Settings _ integer? rfl (fun _ => rfl)
  have hmax := @bind_readWith members .maxResolution Int Settings _ integer? rfl (fun _ => rfl)
  have hspace := @bind_readWith members .colorSpace ColorSpace Settings _ colorSpace? rfl
    (fun _ => rfl)
  have hformat := @bind_readWith members .format String Settings _ text? rfl (fun _ => rfl)
  simp only [Key.sectionName] at hcolored hmin hmax hspace hformat
  simp only [ofDocument, hcolored, hmin, hmax, hspace, hformat, Key.all, List.findSome?_cons]
  cases faultOf members .coloredOutput with
  | some fault => rfl
  | none =>
      cases faultOf members .minResolution with
      | some fault => rfl
      | none =>
          cases faultOf members .maxResolution with
          | some fault => rfl
          | none =>
              cases faultOf members .colorSpace with
              | some fault => rfl
              | none => cases faultOf members .format <;> rfl

/-! ## Sections that are no tables -/

/-- The members of a document without those of a name. -/
def without (name : String) (members : Members) : Members :=
  members.filter fun member => member.1 != name

theorem get?_without_self (name : String) (members : Members) :
    (without name members).get? name = none := by
  rw [without, Members.get?_filter members name (· != name)]
  simp

theorem get?_without_of_ne {name other : String} (h : other ≠ name) (members : Members) :
    (without name members).get? other = members.get? other := by
  rw [without, Members.get?_filter members other (· != name)]
  simp [h]

/-- Documents in which the same is looked up for every key give the same settings or fault. -/
theorem ofDocument_congr {members other : Members}
    (h : ∀ key : Key, valueIn (members.get? key.sectionName) key =
      valueIn (other.get? key.sectionName) key) (source : Files.Path) :
    ofDocument members source = ofDocument other source := by
  have hfault : faultOf members = faultOf other := by
    funext key
    rw [faultOf, h key]
    rfl
  have hfound : found members = found other := by
    funext key
    rw [found, h key]
    rfl
  have hgiven : given members source = given other source := by
    rw [given, hfound]
    rfl
  rw [ofDocument_eq, ofDocument_eq, hfault, hgiven]

theorem valueIn_of_overlooked {name : String} {place : Document} (h : Overlooked name place)
    (hkey : key.sectionName = name) : valueIn (some place) key = .ok none := by
  cases h with
  | text hnone => exact valueIn_text_of_not_infix (hnone key hkey)
  | list hnone => exact valueIn_list_of_not_mem (hnone key hkey)

/-- A section in which no key is found counts as absent. -/
theorem ofDocument_of_overlooked {name : String} {place : Document}
    (hplace : members.get? name = some place) (h : Overlooked name place) (source : Files.Path) :
    ofDocument members source = ofDocument (without name members) source := by
  refine ofDocument_congr (fun key => ?_) source
  by_cases hkey : key.sectionName = name
  · rw [hkey, hplace, valueIn_of_overlooked h hkey, get?_without_self]
    rfl
  · rw [get?_without_of_ne hkey]

theorem exists_sectionName_eq {name : String} (h : name ∈ ["display", "filters"]) :
    ∃ key : Key, key.sectionName = name := by
  rcases List.mem_cons.1 h with rfl | hfilters
  · exact ⟨.coloredOutput, rfl⟩
  · exact ⟨.format, (List.mem_singleton.1 hfilters).symm⟩

/-- A section that is no table is overlooked, or one of its keys fails, but not with a word about a
value. -/
theorem overlooked_or_fails {name : String} (hname : name ∈ ["display", "filters"])
    {place : Document} (hplace : members.get? name = some place)
    (htable : ∀ table, place ≠ .table table) :
    Overlooked name place ∨
      ∃ key misuse, key.sectionName = name ∧ Fails members key (.misused misuse) := by
  cases place with
  | table table => exact absurd rfl (htable table)
  | text text =>
      by_cases hheld : ∃ key : Key, key.sectionName = name ∧ key.name.toList <:+: text.toList
      · obtain ⟨key, rfl, hoccurs⟩ := hheld
        exact .inr ⟨key, _, rfl, .text hplace hoccurs⟩
      · exact .inl (.text fun key hkey hoccurs => hheld ⟨key, hkey, hoccurs⟩)
  | list items =>
      by_cases hheld : ∃ key : Key, key.sectionName = name ∧ .text key.name ∈ items
      · obtain ⟨key, rfl, hmem⟩ := hheld
        exact .inr ⟨key, _, rfl, .list hplace hmem⟩
      · exact .inl (.list fun key hkey hmem => hheld ⟨key, hkey, hmem⟩)
  | _ =>
      obtain ⟨key, rfl⟩ := exists_sectionName_eq hname
      exact .inr ⟨key, _, rfl, .unsearchable hplace rfl⟩

/-! ## Every document -/

theorem Key.mem_all (key : Key) : key ∈ Key.all := by
  cases key <;> decide

/-- What becomes of a document.  It is refused with the fault of the first key that fails, and it
gives settings if no key fails.  A section that is no table is never refused as such: either no key
is found in it, and the document is read as if it were not there, or a key fails in it by misuse. -/
theorem ofDocument_outcomes (members : Members) (source : Files.Path) :
    (∀ fault, ofDocument members source = .error fault ↔ FailsFirst members fault) ∧
      ((∃ settings, ofDocument members source = .ok settings) ↔
        ∀ key fault, ¬ Fails members key fault) ∧
      ∀ name ∈ ["display", "filters"], ∀ place, members.get? name = some place →
        (∀ table, place ≠ .table table) →
          (Overlooked name place ∧
            ofDocument members source = ofDocument (without name members) source) ∨
          ∃ key misuse, key.sectionName = name ∧ Fails members key (.misused misuse) := by
  have hdocument := ofDocument_eq members source
  refine ⟨fun fault => ?_, ?_, ?_⟩
  · rw [hdocument, ← findSome?_faultOf_iff]
    cases Key.all.findSome? (faultOf members) <;> simp
  · have hnone : Key.all.findSome? (faultOf members) = none ↔
        ∀ key fault, ¬ Fails members key fault := by
      simp only [List.findSome?_eq_none_iff, faultOf_eq_none_iff, Key.mem_all, forall_const]
    rw [hdocument, ← hnone]
    cases Key.all.findSome? (faultOf members) <;> simp
  · intro name hname place hplace htable
    rcases overlooked_or_fails hname hplace htable with hoverlooked | hfails
    · exact .inl ⟨hoverlooked, ofDocument_of_overlooked hplace hoverlooked source⟩
    · exact .inr hfails

/-- A number in the place of a section ends with a fault that does not name the section, and a text
in its place gives settings. -/
theorem section_without_table_is_not_refused_as_such :
    ofDocument [("filters", .integer 3)] (.ofText "c.toml") =
        .error (.misused (.unsearchable "int")) ∧
      ofDocument [("filters", .text "fast")] (.ofText "c.toml") =
        .ok { source := some (.ofText "c.toml") } :=
  ⟨rfl, rfl⟩

end TextureCatalog.Settings
