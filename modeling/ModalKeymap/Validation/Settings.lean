import ModalKeymap.Settings
import ModalKeymap.Validation

/-!
# Checks of settings

Settings as a dynamic value.  Every field has a default.  The table of layers
only has to be a mapping from texts; what is in it is read later.
-/

namespace ModalKeymap

/-- The alias tables. -/
def Aliases.check : Check Aliases :=
  Check.record fun members =>
    Aliases.mk <$> members.optional "key" [] .textMapping <*>
      members.optional "mod" [] .textMapping

/-- How leader mode is entered and left. -/
def LeaderSettings.check : Check LeaderSettings :=
  Check.record fun members =>
    LeaderSettings.mk <$> members.optional "variable" "leader" .text <*>
      members.optional "escape" "escape" .text <*>
      members.maybe "activate" .text <*>
      members.optional "deactivate" ["caps_lock", "escape"] (.list .text)

/-- A group of remapped chords. -/
def RemapSettings.check : Check RemapSettings :=
  Check.record fun members =>
    RemapSettings.mk <$> members.required "description" .text <*>
      members.optional "keys" [] .textMapping

/-- The table of layers, with its contents as they are. -/
def Settings.checkLayers : Check Members :=
  fun value =>
    (List.map fun entry : String × Value => (Scalar.text entry.1, entry.2)) <$>
      Check.mapping .text .valid value

/-- The settings of one profile. -/
def Settings.check : Check Settings :=
  Check.record fun members =>
    Settings.mk <$> members.optional "profile" "Default" .text <*>
      members.optional "show_in_menu_bar" false .truth <*>
      members.optional "alias" {} Aliases.check <*>
      members.optional "leader" {} LeaderSettings.check <*>
      members.optional "remap" [] (.list RemapSettings.check) <*>
      members.optional "layers" [] Settings.checkLayers

end ModalKeymap
