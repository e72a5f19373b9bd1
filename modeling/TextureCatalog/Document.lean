/-!
# Documents

What a structured file says once it has been read, whichever format it was written in.
-/

namespace TextureCatalog

inductive MomentKind
  | date
  | time
  | dateTime
  deriving DecidableEq, Repr

/-- A decoded value.  Numbers with a fraction or an exponent, and dates and times, are kept as they
were written, because nothing here calculates with them. -/
inductive Document where
  | null
  | boolean (value : Bool)
  | integer (value : Int)
  | decimal (literal : String)
  | moment (kind : MomentKind) (literal : String)
  | text (value : String)
  | list (items : List Document)
  | table (members : List (String × Document))
  deriving Inhabited

namespace Document

/-- The members of a table, in the order in which they were written. -/
abbrev Members := List (String × Document)

/-- The value of a member.  A key that was written twice has the value written last. -/
def Members.get? (members : Members) (key : String) : Option Document :=
  (members.reverse.find? fun member => member.1 == key).map (·.2)

def Members.has (members : Members) (key : String) : Bool :=
  members.any fun member => member.1 == key

/-- A later member of the same key hides the earlier ones. -/
theorem Members.get?_append_singleton (members : Members) (key other : String)
    (value : Document) :
    Members.get? (members ++ [(key, value)]) other =
      if key = other then some value else Members.get? members other := by
  by_cases h : key = other <;> simp [Members.get?, h]

theorem Members.isSome_get? (members : Members) (key : String) :
    (members.get? key).isSome = members.has key := by
  rw [Bool.eq_iff_iff]
  simp [Members.get?, Members.has]

end Document

end TextureCatalog
