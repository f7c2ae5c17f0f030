import ModalKeymap.Bindings
import ModalKeymap.Validation

/-!
# Checks of layer trees

Effects, commands, sublayers and whole trees as dynamic values.  Effects and
entries are tagged records: their `kind` says which fields they have, and
everything inside one is placed under its tag.
-/

namespace ModalKeymap

namespace FlagValue

/-- The integer that a floating-point number counts as. -/
def ofNumber (number : Binary64) : Except Expectation Int :=
  match number.integer? with
  | some whole =>
      if isConvertible whole then .ok whole else .error .wordSized
  | none =>
      if number.isFinite then .error .wholeNumber else .error .finiteNumber

/-- What is reported of a value that is neither a text nor an integer. -/
def refusal (integerExpectation : Expectation) : List Violation :=
  [⟨.text, [.name "str"]⟩, ⟨integerExpectation, [.name "int"]⟩]

/-- A text or an integer; truth values count as 0 and 1. -/
def check : Check FlagValue
  | .text value => .valid (.text value)
  | .integer value => .valid (.integer value)
  | .boolean value => .valid (.integer value.toInt)
  | .real value =>
      match ofNumber value with
      | .ok whole => .valid (.integer whole)
      | .error expectation => .invalid (refusal expectation)
  | _ => .invalid (refusal .integer)

end FlagValue

/-- A record of which the field `kind` says which record it is. -/
def Check.tagged {α : Type} (variants : String → Option (Members → Checked α)) :
    Check α
  | .mapping members =>
      match Members.get? "kind" members with
      | none => .fail .tag
      | some (.text tag) =>
          match variants tag with
          | some fields => (fields members).within (.name tag)
          | none => .fail .knownTag
      | some _ => .fail .knownTag
  | _ => .fail .taggedRecord

namespace Effect

/-- The fields of an effect of a given kind. -/
def fields : String → Option (Members → Checked Effect)
  | "key" => some fun members =>
      Effect.key <$> members.required "key" .key <*>
        members.optional "modifiers" [] (.list .modifier)
  | "consumer_key" => some fun members =>
      Effect.consumerKey <$> members.required "key" .text
  | "shell" => some fun members =>
      Effect.shell <$> members.required "command" .text
  | "set_variable" => some fun members =>
      Effect.setVariable <$> members.required "name" .text <*>
        members.required "value" FlagValue.check
  | _ => none

/-- An effect. -/
def check : Check Effect := Check.tagged fields

end Effect

namespace Command

/-- A list of effects that is not empty. -/
def checkEffects : Check (List Effect)
  | .list [] => .fail .nonempty
  | value => Check.list Effect.check value

/-- The fields of a command. -/
def fields (members : Members) : Checked Command :=
  (fun _ effects description => ⟨description, effects⟩) <$>
    members.optional "kind" () (.fixedWord "command") <*>
    members.required "effects" checkEffects <*>
    members.maybe "description" .text

/-- A command. -/
def check : Check Command := Check.record fields

end Command

namespace Sublayer

/-- The fields of a sublayer, given what its entries are. -/
def fields (inner : Checked Bindings) (members : Members) :
    Checked Sublayer :=
  (fun _ name inner description => ⟨name, description, inner⟩) <$>
    members.optional "kind" () (.fixedWord "sublayer") <*>
    members.required "name" .key <*> inner <*>
    members.maybe "description" .text

end Sublayer

namespace Bindings

mutual

/-- A mapping from keys to entries. -/
def check : Value → Checked Bindings
  | .mapping members => checkMembers members
  | _ => .fail .mapping
termination_by structural value => value

/-- The members of a mapping from keys to entries. -/
def checkMembers : List (Scalar × Value) → Checked Bindings
  | [] => .valid .nil
  | (written, value) :: rest =>
      cons <$> Check.memberKey .key written <*>
        (checkEntry value).within (.ofKey written) <*> checkMembers rest
termination_by structural members => members

/-- An entry of a layer. -/
def checkEntry : Value → Checked Entry
  | .mapping members =>
      match Members.get? "kind" members with
      | none => .fail .tag
      | some (.text "command") =>
          (Entry.command <$> Command.fields members).within (.name "command")
      | some (.text "sublayer") =>
          (Entry.sublayer <$>
            Sublayer.fields (checkInner members) members).within
              (.name "sublayer")
      | some _ => .fail .knownTag
  | _ => .fail .taggedRecord
termination_by structural value => value

/-- The entries among the fields of a sublayer; without them it is empty. -/
def checkInner : List (Scalar × Value) → Checked Bindings
  | [] => .valid .nil
  | (name, value) :: rest =>
      if name = .text "entries" then
        (check value).within (.name "entries")
      else
        checkInner rest
termination_by structural members => members

end

end Bindings

/-- A sublayer. -/
def Sublayer.check : Check Sublayer :=
  Check.record fun members =>
    Sublayer.fields (Bindings.checkInner members) members

end ModalKeymap
