import ModalKeymap.Command

/-!
# Rules

The rules of a keyboard remapper.  A manipulator fires when its trigger is
pressed and all its conditions on variables hold, and then sends its events
in order; a rule is a described group of manipulators.
-/

namespace ModalKeymap

/-- The modifiers that a trigger requires and those that it lets through. -/
structure TriggerModifiers where
  mandatory : Option (List Modifier) := none
  optional : Option (List Modifier) := none
  deriving DecidableEq, Repr

/-- The key press that a manipulator reacts to. -/
structure Trigger where
  key : KeyCode
  modifiers : Option TriggerModifiers := none
  deriving DecidableEq, Repr

/-- A variable and the value that it is set to. -/
structure Assignment where
  name : String
  value : VariableValue
  deriving DecidableEq, Repr

/-- What a manipulator sends: usually one of these, sometimes with modifiers. -/
structure Event where
  key : Option KeyCode := none
  consumerKey : Option String := none
  shellCommand : Option String := none
  assignment : Option Assignment := none
  modifiers : Option (List Modifier) := none
  deriving DecidableEq, Repr

/-- A variable and the value that it has to hold. -/
structure Condition where
  name : String
  value : VariableValue
  deriving DecidableEq, Repr

/-- A trigger, what it sends, and when. -/
structure Manipulator where
  description : Option String := none
  kind : String := "basic"
  trigger : Trigger
  events : List Event := []
  conditions : List Condition := []
  deriving DecidableEq, Repr

/-- A described group of manipulators. -/
structure Rule where
  description : String
  manipulators : List Manipulator
  deriving DecidableEq, Repr

/-- Modifiers as rules list them: not at all rather than as an empty list. -/
def Modifier.listed? : List Modifier → Option (List Modifier)
  | [] => none
  | first :: rest => some (first :: rest)

/-- Require some modifiers and let every other one through. -/
def TriggerModifiers.acceptAny (mandatory : List Modifier := []) :
    TriggerModifiers where
  mandatory := Modifier.listed? mandatory
  optional := some [.any]

/-- A key with any modifiers. -/
def Trigger.anyModifiers (key : KeyCode) : Trigger where
  key := key
  modifiers := some (.acceptAny)

namespace Event

/-- The event that sets a variable. -/
def set (name : String) (value : VariableValue) : Event where
  assignment := some ⟨name, value⟩

/-- The event that turns a variable on or off. -/
def switch (name : String) (on : Bool) : Event :=
  set name (.integer on.toInt)

/-- The event of an effect. -/
def ofEffect : Effect → Event
  | .key key modifiers =>
      { key := some key, modifiers := Modifier.listed? modifiers }
  | .consumerKey key => { consumerKey := some key }
  | .shell command => { shellCommand := some command }
  | .setVariable name value => set name value.toVariable

end Event

/-- The condition that a variable is on, or off. -/
def Condition.isOn (name : String) (on : Bool) : Condition where
  name := name
  value := .integer on.toInt

end ModalKeymap
