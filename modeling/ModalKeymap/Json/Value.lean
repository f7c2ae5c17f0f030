import ModalKeymap.Json
import ModalKeymap.Value

/-!
# JSON values before validation

A JSON value as a dynamic value.  Of two members of one name the later
counts.
-/

namespace ModalKeymap.Json

mutual

/-- A JSON value as a dynamic value. -/
def toValue : Json → Value
  | .null => .null
  | .boolean value => .boolean value
  | .integer value => .integer value
  | .text value => .text value
  | .array items => .list (itemsToValues items)
  | .object members => Value.ofAssignments (membersToAssignments members)
termination_by structural value => value

/-- The items of an array as dynamic values. -/
def itemsToValues : List Json → List Value
  | [] => []
  | item :: rest => item.toValue :: itemsToValues rest
termination_by structural items => items

/-- The members of an object as assignments. -/
def membersToAssignments : List (String × Json) → List (Scalar × Value)
  | [] => []
  | (name, value) :: rest =>
      (.text name, value.toValue) :: membersToAssignments rest
termination_by structural members => members

end

@[simp]
theorem itemsToValues_eq_map (items : List Json) :
    itemsToValues items = items.map toValue := by
  induction items with
  | nil => rfl
  | cons item rest ih => simp [itemsToValues, ih]

@[simp]
theorem membersToAssignments_eq_map (members : List (String × Json)) :
    membersToAssignments members =
      members.map fun member => (.text member.1, member.2.toValue) := by
  induction members with
  | nil => rfl
  | cons member rest ih => simp [membersToAssignments, ih]

end ModalKeymap.Json
