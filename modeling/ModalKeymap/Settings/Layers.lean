import ModalKeymap.Bindings
import ModalKeymap.Command.Expression
import ModalKeymap.Settings

/-!
# Layers in settings

Reading the table of layers: a nested table is a sublayer named by its key, a
text is a command, and a list of texts is one command made of several.  Keys
are read under the key aliases, and no two of one table may be the same key.
The first fault in the order of the file is the one that is reported.
-/

namespace ModalKeymap

/-- Why a table of layers is refused. -/
inductive TableFault where
  | unknownKey (fault : ChordFault)
  | repeatedKey (key : KeyCode) (written : Scalar)
  | expression (fault : ExpressionFault)
  /-- A list of commands holds something that is no text. -/
  | mixedList (path : KeyPath)
  /-- A key is bound to neither a table, a text nor a list. -/
  | unusable (path : KeyPath) (typeName : String)
  deriving Repr

namespace TableFault

/-- A place in a table of layers. -/
def placeText (path : KeyPath) : String :=
  ">".intercalate (path.map KeyCode.name)

/-- The wording of a fault. -/
def message : TableFault → String
  | .unknownKey fault => fault.message
  | .repeatedKey key written =>
      "duplicate key " ++ Text.quoted key.name ++ " (from " ++
        written.literal ++ ")"
  | .expression fault => fault.message
  | .mixedList path => placeText path ++ ": command lists must hold strings"
  | .unusable path typeName =>
      placeText path ++
        ": expected a table, string or list of strings, got " ++ typeName

end TableFault

namespace Value

/-- The texts of a list of values, if all of them are texts. -/
def texts? : List Value → Option (List String)
  | [] => some []
  | .text item :: rest => (texts? rest).map (item :: ·)
  | _ :: _ => none

end Value

namespace Bindings

mutual

/--
The bindings of a table at a path, given the keys that the table has bound
so far.
-/
def readTable? (aliases : Aliases) (path : KeyPath) (bound : List KeyCode) :
    List (Scalar × Value) → Except TableFault Bindings
  | [] => .ok .nil
  | (written, value) :: rest => do
      let key ← (KeyCode.read? aliases (.scalar written)).mapError
        .unknownKey
      if key ∈ bound then
        throw (.repeatedKey key written)
      let entry ← readEntry? aliases (path ++ [key]) key value
      let others ← readTable? aliases path (key :: bound) rest
      return cons key entry others
termination_by structural members => members

/-- What a key is bound to, by the value under it. -/
def readEntry? (aliases : Aliases) (path : KeyPath) (key : KeyCode) :
    Value → Except TableFault Entry
  | .mapping members => do
      let inner ← readTable? aliases path [] members
      return .sublayer ⟨key, none, inner⟩
  | .text expression => do
      let command ← (Command.read? aliases expression).mapError .expression
      return .command command
  | .list items =>
      match Value.texts? items with
      | none => throw (.mixedList path)
      | some expressions => do
          let command ←
            (Command.readAll? aliases expressions).mapError .expression
          return .command command
  | other => throw (.unusable path other.typeName)
termination_by structural value => value

end

end Bindings

/-- The tree of layers that settings describe. -/
def Settings.bindings? (settings : Settings) :
    Except TableFault Bindings :=
  Bindings.readTable? settings.aliases [] [] settings.layers

end ModalKeymap
