import Mathlib.Data.List.Induction
import TextureCatalog.Document

/-!
# Tables with members left out

Leaving out members of a table, and changing the values of the others, as it is seen by looking up
keys.
-/

namespace TextureCatalog.Document.Members

variable (members : Members) (key : String)

/-- Leaving out members by their keys hides these keys and no others. -/
theorem get?_filter (keeps : String → Bool) :
    Members.get? (members.filter fun member => keeps member.1) key =
      if keeps key then members.get? key else none := by
  induction members using List.reverseRecOn with
  | nil => cases keeps key <;> rfl
  | append_singleton members member ih =>
      rw [List.filter_append, get?_append_singleton]
      cases hkept : keeps member.1 with
      | true =>
          rw [List.filter_cons_of_pos (by exact hkept), List.filter_nil, get?_append_singleton, ih]
          by_cases hkey : member.1 = key
          · simp [hkey, hkey ▸ hkept]
          · simp [hkey]
      | false =>
          rw [List.filter_cons_of_neg (by simp [hkept]), List.filter_nil, List.append_nil, ih]
          by_cases hkey : member.1 = key
          · simp [hkey ▸ hkept]
          · simp [hkey]

theorem get?_map (change : String → Document → Document) :
    Members.get? (members.map fun member => (member.1, change member.1 member.2)) key =
      (members.get? key).map (change key) := by
  induction members using List.reverseRecOn with
  | nil => rfl
  | append_singleton members member ih =>
      rw [List.map_append, List.map_singleton, get?_append_singleton, get?_append_singleton, ih]
      by_cases hkey : member.1 = key <;> simp [hkey]

/-- Leaves out the members of which the value allows it, and changes the values of the others. -/
def prune (leavesOut : String → Document → Bool) (change : String → Document → Document)
    (members : Members) : Members :=
  (members.filter fun member =>
      (members.get? member.1).all fun value => !leavesOut member.1 value).map
    fun member => (member.1, change member.1 member.2)

theorem get?_prune (leavesOut : String → Document → Bool)
    (change : String → Document → Document) :
    Members.get? (members.prune leavesOut change) key =
      ((members.get? key).filter fun value => !leavesOut key value).map (change key) := by
  rw [prune, get?_map,
    get?_filter members key fun key => (members.get? key).all fun value => !leavesOut key value]
  cases members.get? key with
  | none => rfl
  | some value => cases hout : leavesOut key value <;> simp [Option.filter, hout]

end TextureCatalog.Document.Members
