import ModalKeymap.Chord
import ModalKeymap.Rule

/-!
# Entering and leaving leader mode

The rule of the chord that turns the leader variable on while it is off, and
the rule of the keys that turn it off without doing anything else.
-/

namespace ModalKeymap.Rule

/-- The chord that turns the leader on. -/
def activation (leader : String) (chord : Chord) : Rule where
  description := "Activate Leader Key"
  manipulators := [
    { description := some (chord.text ++ " -> Activate Leader Key")
      trigger :=
        { key := chord.key
          modifiers := (Modifier.listed? chord.modifiers).map fun mandatory =>
            { mandatory := some mandatory } }
      events := [.switch leader true]
      conditions := [.isOn leader false] }]

/-- A key that turns the leader off. -/
def deactivationBy (leader : String) (key : KeyCode) : Manipulator where
  description := some (key.name ++ " -> Deactivate Leader Key")
  trigger := .anyModifiers key
  events := [.switch leader false]
  conditions := [.isOn leader true]

/-- The keys that turn the leader off unless others are asked for. -/
def standardDeactivationKeys : List KeyCode := [.capsLock, .escape]

/-- The keys that turn the leader off; there has to be one. -/
def deactivation? (leader : String) (keys : List KeyCode) : Option Rule :=
  match keys with
  | [] => none
  | _ :: _ => some
      { description := "Deactivate Leader Key"
        manipulators := keys.map (deactivationBy leader) }

/-- The rule that leaves leader mode has one manipulator for each key. -/
theorem manipulators_deactivation? (leader : String)
    (keys : List KeyCode) :
    (deactivation? leader keys).toList.flatMap Rule.manipulators =
      keys.map (deactivationBy leader) := by
  cases keys <;> simp [deactivation?]

end ModalKeymap.Rule
