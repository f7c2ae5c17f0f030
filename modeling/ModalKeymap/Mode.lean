import ModalKeymap.Bindings
import ModalKeymap.Rule

/-!
# Modes

What a tree of layers means to the person at the keyboard, said without
variables and rules.  The keyboard is idle, or leader mode is on, or one layer
is open; a key press changes the mode and may send events.
-/

namespace ModalKeymap

/-- The events that a command sends, in order, apart from variables. -/
def Command.emissions (command : Command) : List Event :=
  (command.effects.map Event.ofEffect).filter (·.assignment.isNone)

/-- What the keyboard is doing. -/
inductive Mode where
  | idle
  | leader
  /-- The layer that these keys lead to is open. -/
  | inside (path : KeyPath)
  deriving DecidableEq, Repr

/-- A tree of layers with the keys that lead out of modes. -/
structure ModeMap where
  tree : Bindings
  /-- The key that closes an open layer. -/
  escape : KeyCode
  /-- The keys that turn leader mode off. -/
  deactivation : List KeyCode := []
  deriving DecidableEq, Repr

namespace ModeMap

/-- What a bound key does in the layer at a path. -/
def follow (path : KeyPath) (key : KeyCode) : Entry → Mode × List Event
  | .command command => (.idle, command.emissions)
  | .sublayer _ => (.inside (path ++ [key]), [])

/-- The mode that a key press leads to, and what it sends. -/
def press (map : ModeMap) (mode : Mode) (key : KeyCode) :
    Mode × List Event :=
  match mode with
  | .idle => (.idle, [])
  | .leader =>
      match map.tree.bound? key with
      | some entry => follow [] key entry
      | none =>
          (if key ∈ map.deactivation then .idle else .leader, [])
  | .inside path =>
      if key = map.escape then
        (.idle, [])
      else
        match (map.tree.layer? path).bind (·.bound? key) with
        | some entry => follow path key entry
        | none => (.inside path, [])

/-- What each of several key presses sends, starting in a mode. -/
def outputs (map : ModeMap) (mode : Mode) :
    List KeyCode → List (List Event)
  | [] => []
  | key :: rest =>
      (map.press mode key).2 :: map.outputs (map.press mode key).1 rest

/-- The mode after several key presses. -/
def run (map : ModeMap) (mode : Mode) (keys : List KeyCode) : Mode :=
  keys.foldl (fun mode key => (map.press mode key).1) mode

end ModeMap

end ModalKeymap
