import ModalKeymap.FlagValue
import ModalKeymap.KeyCode
import ModalKeymap.Modifier

/-!
# Commands

What one key press does: a list of effects in order, with an optional
description.  The builders make the commands that settings files can ask for.
-/

namespace ModalKeymap

/-- One thing that a command does. -/
inductive Effect where
  /-- Send a key with modifiers. -/
  | key (key : KeyCode) (modifiers : List Modifier)
  /-- Send a media key. -/
  | consumerKey (key : String)
  /-- Run a shell command. -/
  | shell (command : String)
  /-- Set a variable. -/
  | setVariable (name : String) (value : FlagValue)
  deriving DecidableEq, Repr

/-- The variable that an effect sets. -/
def Effect.variable? : Effect → Option String
  | .setVariable name _ => some name
  | _ => none

/-- The effects that one key press fires, in order. -/
structure Command where
  description : Option String
  effects : List Effect
  deriving DecidableEq, Repr

namespace Command

/-- Run a shell command, described by what it runs unless told otherwise. -/
def run (command : String) (description : String := "") : Command where
  description :=
    if description.isEmpty then
      some ("Run shell command: " ++ command)
    else
      some description
  effects := [.shell command]

/-- Open a file, an address or an application. -/
def openTarget (target : String) : Command :=
  run ("open " ++ target) ("Open " ++ target)

/-- Open a target without bringing it to the front. -/
def openInBackground (target : String) : Command :=
  run ("open -g " ++ target) ("Open " ++ target ++ " in background")

/-- Open an application by name. -/
def launch (application : String) : Command :=
  openTarget ("-a '" ++ application ++ ".app'")

/-- Send a media key. -/
def consumer (key : String) (description : Option String := none) :
    Command where
  description := description
  effects := [.consumerKey key]

/-- Send a key with modifiers. -/
def press (key : KeyCode) (modifiers : List Modifier)
    (description : Option String := none) : Command where
  description := description
  effects := [.key key modifiers]

/-- The descriptions that say something, in order. -/
def descriptions (commands : List Command) : List String :=
  (commands.filterMap Command.description).filter (!·.isEmpty)

/--
Several commands as one: the effects one after another, the descriptions
joined.  A single command is itself.
-/
def merge : List Command → Command
  | [command] => command
  | commands =>
      { description :=
          let joined := "; ".intercalate (descriptions commands)
          if joined.isEmpty then none else some joined
        effects := commands.flatMap Command.effects }

@[simp]
theorem merge_singleton (command : Command) : merge [command] = command := rfl

theorem effects_merge (commands : List Command) :
    (merge commands).effects = commands.flatMap Command.effects := by
  match commands with
  | [] => rfl
  | [command] => simp
  | _ :: _ :: _ => rfl

end Command

end ModalKeymap
