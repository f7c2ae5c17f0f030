import ModalKeymap.KeyCode
import ModalKeymap.Text.Quoted

/-!
# Faults of a layer tree

Why no correct rules can be made for a tree of layers.
-/

namespace ModalKeymap

/-- Why a tree of layers is refused. -/
inductive LayerFault where
  /-- A top-level sublayer stands under a key that is not its name. -/
  | misregistered (name key : KeyCode)
  /-- Two sublayers, or the leader (the empty path) and one, share a flag. -/
  | sharedFlag (flag : String) (first second : KeyPath)
  /-- A layer binds a key that already has a meaning in it. -/
  | ambiguousTrigger (layer : KeyPath) (key : KeyCode)
  /-- A command sets a variable that the rules themselves steer by. -/
  | reservedVariable (command : KeyPath) (name : String)
  deriving DecidableEq, Repr

namespace LayerFault

/-- A layer in a message; the top-level one goes by the leader. -/
def layerText (path : KeyPath) : String :=
  Text.quoted (if path.isEmpty then "<leader>" else path.describe)

/-- The wording of a shared flag, given how the flag is written. -/
def sharedFlagText (flag : String) (first second : KeyPath) : String :=
  "sublayers " ++ layerText first ++ " and " ++ layerText second ++
    " both use variable " ++ flag

/-- The wording of a fault. -/
def message : LayerFault → String
  | .misregistered name key =>
      "sublayer " ++ Text.quoted name.name ++ " is registered under key " ++
        Text.quoted key.name
  | .sharedFlag flag first second =>
      sharedFlagText (Text.quoted flag) first second
  | .ambiguousTrigger layer key =>
      "sublayer " ++ layerText layer ++ ": entry " ++ Text.quoted key.name ++
        " collides with a reserved trigger"
  | .reservedVariable command name =>
      "command " ++ Text.quoted command.describe ++
        " sets reserved variable " ++ Text.quoted name

end LayerFault

end ModalKeymap
