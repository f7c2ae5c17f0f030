import ModalKeymap.Bindings
import ModalKeymap.Value

/-!
# Layer trees as dynamic values

Effects, commands, sublayers and whole trees written back as plain mappings
of their fields, with the keys of a layer as the keys of a mapping.
-/

namespace ModalKeymap

/-- A list of modifiers by name. -/
def Modifier.listToValue (modifiers : List Modifier) : Value :=
  .list (modifiers.map fun modifier => .text modifier.name)

/-- A text or null. -/
def Value.ofText? : Option String → Value
  | some written => .text written
  | none => .null

/-- The value that a command may give to a variable. -/
def FlagValue.toValue : FlagValue → Value
  | .text value => .text value
  | .integer value => .integer value

/-- An effect as a mapping of its fields. -/
def Effect.toValue : Effect → Value
  | .key code modifiers => .mapping
      [(.text "kind", .text "key"), (.text "key", .text code.name),
        (.text "modifiers", Modifier.listToValue modifiers)]
  | .consumerKey name => .mapping
      [(.text "kind", .text "consumer_key"), (.text "key", .text name)]
  | .shell line => .mapping
      [(.text "kind", .text "shell"), (.text "command", .text line)]
  | .setVariable name value => .mapping
      [(.text "kind", .text "set_variable"), (.text "name", .text name),
        (.text "value", value.toValue)]

/-- A command as a mapping of its fields. -/
def Command.toValue (command : Command) : Value :=
  .mapping
    [(.text "kind", .text "command"),
      (.text "description", Value.ofText? command.description),
      (.text "effects", .list (command.effects.map Effect.toValue))]

namespace Bindings

/-- The bindings of a layer as the members of a mapping. -/
def toMembers : Bindings → Members
  | .nil => []
  | .fires key command rest =>
      (.text key.name, command.toValue) :: rest.toMembers
  | .opens key name description inner rest =>
      (.text key.name, .mapping
        [(.text "kind", .text "sublayer"),
          (.text "name", .text name.name),
          (.text "description", Value.ofText? description),
          (.text "entries", .mapping inner.toMembers)]) :: rest.toMembers

/-- A layer as a mapping. -/
def toValue (bindings : Bindings) : Value :=
  .mapping bindings.toMembers

end Bindings

/-- A sublayer as a mapping of its fields. -/
def Sublayer.toValue (sublayer : Sublayer) : Value :=
  .mapping
    [(.text "kind", .text "sublayer"),
      (.text "name", .text sublayer.name.name),
      (.text "description", Value.ofText? sublayer.description),
      (.text "entries", sublayer.inner.toValue)]

/-- An entry as a mapping of its fields. -/
def Entry.toValue : Entry → Value
  | .command action => action.toValue
  | .sublayer layer => layer.toValue

end ModalKeymap
