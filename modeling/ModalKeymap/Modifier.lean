/-!
# Modifiers

The modifier keys that a trigger may require and that a sent key may carry.
`Modifier.any` stands for every modifier at once and only makes sense in a
trigger, so a chord never names it: `Modifier.ofChordName?` leaves it out.
-/

namespace ModalKeymap

/-- A modifier, as rules name it. -/
inductive Modifier where
  | any
  | command | control | option | shift
  | fn | capsLock
  | leftCommand | leftControl | leftOption | leftShift
  | rightCommand | rightControl | rightOption | rightShift
  deriving DecidableEq, Repr

namespace Modifier

/-- The written name of a modifier. -/
def name : Modifier → String
  | .any => "any"
  | .command => "command"
  | .control => "control"
  | .option => "option"
  | .shift => "shift"
  | .fn => "fn"
  | .capsLock => "caps_lock"
  | .leftCommand => "left_command"
  | .leftControl => "left_control"
  | .leftOption => "left_option"
  | .leftShift => "left_shift"
  | .rightCommand => "right_command"
  | .rightControl => "right_control"
  | .rightOption => "right_option"
  | .rightShift => "right_shift"

/-- Every modifier, the catch-all first. -/
def all : List Modifier :=
  [.any, .command, .control, .option, .shift, .fn, .capsLock,
    .leftCommand, .leftControl, .leftOption, .leftShift,
    .rightCommand, .rightControl, .rightOption, .rightShift]

/-- The modifier with a given name, if there is one. -/
def ofName? (text : String) : Option Modifier :=
  all.find? fun modifier => modifier.name == text

/-- The modifier that a name stands for inside a chord. -/
def ofChordName? (text : String) : Option Modifier :=
  (ofName? text).filter (· ≠ .any)

/-- Every name reads back as the modifier that it names. -/
@[simp]
theorem ofName?_name (modifier : Modifier) :
    ofName? modifier.name = some modifier := by
  cases modifier <;> decide

theorem name_of_ofName? {text : String} {modifier : Modifier}
    (found : ofName? text = some modifier) : modifier.name = text := by
  simpa using List.find?_some found

theorem name_injective {first second : Modifier}
    (same : first.name = second.name) : first = second := by
  have reread := ofName?_name first
  rw [same, ofName?_name] at reread
  exact (Option.some.inj reread).symm

theorem ofChordName?_eq_some_iff {text : String} {modifier : Modifier} :
    ofChordName? text = some modifier ↔
      modifier.name = text ∧ modifier ≠ .any := by
  constructor
  · intro found
    obtain ⟨named, notAny⟩ := Option.filter_eq_some_iff.mp found
    exact ⟨name_of_ofName? named, by simpa using notAny⟩
  · rintro ⟨rfl, notAny⟩
    simp [ofChordName?, notAny]

end Modifier

end ModalKeymap
