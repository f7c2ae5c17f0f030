import ModalKeymap.Alias
import ModalKeymap.Value

/-!
# Settings

What a settings file says once its shape has been checked: the profile, the
aliases, how leader mode is entered and left, remapped chords, and the layers
as a table that is still to be read.
-/

namespace ModalKeymap

/-- How leader mode is entered and left. -/
structure LeaderSettings where
  flag : String := "leader"
  escape : String := "escape"
  /-- The chord that enters leader mode; without one nothing does. -/
  activate : Option String := none
  /-- The keys that leave leader mode. -/
  deactivate : List String := ["caps_lock", "escape"]
  deriving DecidableEq, Repr

/-- A described group of remapped chords, source and target in text. -/
structure RemapSettings where
  description : String
  chords : List (String × String) := []
  deriving DecidableEq, Repr

/-- The settings of one profile. -/
structure Settings where
  profile : String := "Default"
  showInMenuBar : Bool := false
  aliases : Aliases := {}
  leader : LeaderSettings := {}
  remaps : List RemapSettings := []
  /-- Key names with a command, a list of commands or a nested table each. -/
  layers : Members := []
  deriving Repr

end ModalKeymap
