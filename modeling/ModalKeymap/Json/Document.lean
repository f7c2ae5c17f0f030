import ModalKeymap.Document
import ModalKeymap.Json.Printer

/-!
# Documents as JSON

The JSON values of rules and documents, with their members in a fixed order.
What is absent is left out rather than written as null.
-/

namespace ModalKeymap

/-- The value of a variable. -/
def VariableValue.toJson : VariableValue → Json
  | .text value => .text value
  | .integer value => .integer value
  | .boolean value => .boolean value

/-- The name of a modifier. -/
def Modifier.toJson (modifier : Modifier) : Json :=
  .text modifier.name

/-- A list of modifiers. -/
def Modifier.listToJson (modifiers : List Modifier) : Json :=
  .array (modifiers.map Modifier.toJson)

/-- The name of a key. -/
def KeyCode.toJson (key : KeyCode) : Json :=
  .text key.name

/-- The modifiers of a trigger. -/
def TriggerModifiers.toJson (modifiers : TriggerModifiers) : Json :=
  .object
    (Json.member? "mandatory" Modifier.listToJson modifiers.mandatory ++
      Json.member? "optional" Modifier.listToJson modifiers.optional)

/-- A trigger. -/
def Trigger.toJson (trigger : Trigger) : Json :=
  .object
    (("key_code", trigger.key.toJson) ::
      Json.member? "modifiers" TriggerModifiers.toJson trigger.modifiers)

/-- A variable with a value. -/
def Assignment.toJson (assignment : Assignment) : Json :=
  .object
    [("name", .text assignment.name), ("value", assignment.value.toJson)]

/-- An event. -/
def Event.toJson (event : Event) : Json :=
  .object
    (Json.member? "key_code" KeyCode.toJson event.key ++
      Json.member? "consumer_key_code" Json.text event.consumerKey ++
      Json.member? "shell_command" Json.text event.shellCommand ++
      Json.member? "set_variable" Assignment.toJson event.assignment ++
      Json.member? "modifiers" Modifier.listToJson event.modifiers)

/-- A condition. -/
def Condition.toJson (condition : Condition) : Json :=
  .object
    [("type", .text "variable_if"), ("name", .text condition.name),
      ("value", condition.value.toJson)]

/-- A manipulator. -/
def Manipulator.toJson (manipulator : Manipulator) : Json :=
  .object
    (Json.member? "description" Json.text manipulator.description ++
      [("type", .text manipulator.kind),
        ("from", manipulator.trigger.toJson),
        ("to", .array (manipulator.events.map Event.toJson)),
        ("conditions",
          .array (manipulator.conditions.map Condition.toJson))])

/-- A rule. -/
def Rule.toJson (rule : Rule) : Json :=
  .object
    [("description", .text rule.description),
      ("manipulators", .array (rule.manipulators.map Manipulator.toJson))]

/-- A profile. -/
def Profile.toJson (profile : Profile) : Json :=
  .object
    [("name", .text profile.name),
      ("complex_modifications",
        .object [("rules", .array (profile.rules.map Rule.toJson))])]

/-- A document. -/
def Document.toJson (document : Document) : Json :=
  .object
    [("global",
        .object [("show_in_menu_bar", .boolean document.showInMenuBar)]),
      ("profiles", .array (document.profiles.map Profile.toJson))]

/-- The text of a rule. -/
def Rule.render (layout : Json.Layout) (rule : Rule) : String :=
  rule.toJson.render layout

/-- The text of a document. -/
def Document.render (layout : Json.Layout) (document : Document) : String :=
  document.toJson.render layout

end ModalKeymap
