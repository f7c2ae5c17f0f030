import ModalKeymap.Document
import ModalKeymap.Validation.Bindings

/-!
# Checks of rules and documents

Rules, their parts and whole documents as dynamic values, with the names that
documents are written with.
-/

namespace ModalKeymap

/-- A text, an integer or a truth value. -/
def VariableValue.check : Check VariableValue
  | .boolean value => .valid (.boolean value)
  | value =>
      match FlagValue.check value with
      | .valid flagValue => .valid flagValue.toVariable
      | .invalid violations =>
          .invalid (violations ++ [⟨.truthValue, [.name "bool"]⟩])

/-- The modifiers of a trigger. -/
def TriggerModifiers.check : Check TriggerModifiers :=
  Check.record fun members =>
    TriggerModifiers.mk <$> members.maybe "mandatory" (.list .modifier) <*>
      members.maybe "optional" (.list .modifier)

/-- A trigger. -/
def Trigger.check : Check Trigger :=
  Check.record fun members =>
    Trigger.mk <$> members.required "key_code" .key <*>
      members.maybe "modifiers" TriggerModifiers.check

/-- A variable with a value. -/
def Assignment.check : Check Assignment :=
  Check.record fun members =>
    Assignment.mk <$> members.required "name" .text <*>
      members.required "value" VariableValue.check

/-- An event. -/
def Event.check : Check Event :=
  Check.record fun members =>
    Event.mk <$> members.maybe "key_code" .key <*>
      members.maybe "consumer_key_code" .text <*>
      members.maybe "shell_command" .text <*>
      members.maybe "set_variable" Assignment.check <*>
      members.maybe "modifiers" (.list .modifier)

/-- A condition. -/
def Condition.check : Check Condition :=
  Check.record fun members =>
    (fun _ name value => ⟨name, value⟩) <$>
      members.optional "type" () (.fixedWord "variable_if") <*>
      members.required "name" .text <*>
      members.required "value" VariableValue.check

/-- A manipulator. -/
def Manipulator.check : Check Manipulator :=
  Check.record fun members =>
    Manipulator.mk <$> members.maybe "description" .text <*>
      members.optional "type" "basic" .text <*>
      members.requiredAs "from" "from_" Trigger.check <*>
      members.optional "to" [] (.list Event.check) <*>
      members.optional "conditions" [] (.list Condition.check)

/-- A rule. -/
def Rule.check : Check Rule :=
  Check.record fun members =>
    Rule.mk <$> members.required "description" .text <*>
      members.required "manipulators" (.list Manipulator.check)

/-- The settings that apply to all profiles: one truth value. -/
def Document.checkGlobal : Check Bool :=
  Check.record fun members =>
    members.optional "show_in_menu_bar" false .truth

/-- The rules of a profile. -/
def Profile.checkRules : Check (List Rule) :=
  Check.record fun members =>
    members.optional "rules" [] (.list Rule.check)

/-- A profile. -/
def Profile.check : Check Profile :=
  Check.record fun members =>
    Profile.mk <$> members.optional "name" "Default" .text <*>
      members.optional "complex_modifications" [] Profile.checkRules

/-- A document. -/
def Document.check : Check Document :=
  Check.record fun members =>
    Document.mk <$>
      members.optionalAs "global" "global_" false Document.checkGlobal <*>
      members.optional "profiles" [] (.list Profile.check)

end ModalKeymap
