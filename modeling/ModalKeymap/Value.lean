import ModalKeymap.Number.Binary64

/-!
# Dynamic values

What a settings file or a caller hands over before it has been validated:
scalars, calendar values, lists and ordered mappings.  A mapping keeps its
members in the order in which their keys first appeared, and a repeated key
keeps its place and takes the last value (`insert`, `ofMembers`).
-/

namespace ModalKeymap

/-- A value that can also be the key of a mapping. -/
inductive Scalar where
  | null
  | boolean (value : Bool)
  | integer (value : Int)
  | real (value : Binary64)
  | text (value : String)
  deriving DecidableEq, Repr

namespace Scalar

/-- The integer that a scalar is equal to: truth values count as 0 and 1. -/
def integer? : Scalar → Option Int
  | .boolean value => some value.toInt
  | .integer value => some value
  | .real value => value.integer?
  | .null => none
  | .text _ => none

/--
Whether two scalars are one key.  Numbers are compared by value whatever
their form, and an undefined number is no key but itself.
-/
def sameKey : Scalar → Scalar → Bool
  | .null, .null => true
  | .text first, .text second => first == second
  | .real first, .real second => first.sameValue second
  | first, second =>
      match first.integer?, second.integer? with
      | some left, some right => left == right
      | _, _ => false

@[simp]
theorem sameKey_text (first second : String) :
    sameKey (.text first) (.text second) = (first == second) := rfl

end Scalar

/-- The forms of calendar values. -/
inductive Moment where
  | date
  | time
  | dateTime
  deriving DecidableEq, Repr

/-- A value before validation. -/
inductive Value where
  | scalar (value : Scalar)
  /-- A calendar value, as it was written. -/
  | moment (form : Moment) (written : String)
  | list (items : List Value)
  | mapping (members : List (Scalar × Value))
  deriving Repr, Inhabited

namespace Value

/-- The null value. -/
@[match_pattern]
abbrev null : Value := .scalar .null

/-- A truth value. -/
@[match_pattern]
abbrev boolean (value : Bool) : Value := .scalar (.boolean value)

/-- An integer. -/
@[match_pattern]
abbrev integer (value : Int) : Value := .scalar (.integer value)

/-- A floating-point number. -/
@[match_pattern]
abbrev real (value : Binary64) : Value := .scalar (.real value)

/-- A text. -/
@[match_pattern]
abbrev text (value : String) : Value := .scalar (.text value)

/-- Whether a value is a text. -/
def isText : Value → Bool
  | .text _ => true
  | _ => false

/-- Whether a value counts as given: neither null, nor zero, nor empty. -/
def isGiven : Value → Bool
  | .null => false
  | .boolean value => value
  | .integer value => value != 0
  | .real value => !value.sameValue (.finite false 0 Binary64.leastExponent)
  | .text value => !value.isEmpty
  | .moment .. => true
  | .list items => !items.isEmpty
  | .mapping members => !members.isEmpty

end Value

/-- The members of a mapping, in order. -/
abbrev Members := List (Scalar × Value)

namespace Members

/-- Set a key: in its place if it is there, and at the end if it is new. -/
def insert (key : Scalar) (value : Value) : Members → Members
  | [] => [(key, value)]
  | (present, old) :: rest =>
      if present.sameKey key then
        (present, value) :: rest
      else
        (present, old) :: insert key value rest

/-- The members that a sequence of assignments leaves. -/
def ofAssignments (assignments : List (Scalar × Value)) : Members :=
  assignments.foldl (fun members assignment =>
    insert assignment.1 assignment.2 members) []

/-- The value under a text key. -/
def get? (name : String) : Members → Option Value
  | [] => none
  | (key, value) :: rest =>
      if key = .text name then some value else get? name rest

@[simp]
theorem get?_nil (name : String) : get? name [] = none := rfl

theorem get?_cons (name : String) (key : Scalar) (value : Value)
    (rest : Members) :
    get? name ((key, value) :: rest) =
      if key = .text name then some value else get? name rest := rfl

end Members

namespace Value

/-- A mapping from assignments in order. -/
def ofAssignments (assignments : List (Scalar × Value)) : Value :=
  .mapping (Members.ofAssignments assignments)

end Value

end ModalKeymap
