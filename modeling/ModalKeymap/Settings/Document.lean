import ModalKeymap.Document
import ModalKeymap.Rule.Layer
import ModalKeymap.Rule.Leader
import ModalKeymap.Rule.Remap
import ModalKeymap.Settings.Layers

/-!
# The document of given settings

The rules of a document come in a fixed order: remapped chords, the chord
that enters leader mode, the keys that leave it, then the layers.  The keys
that leave leader mode come before the layers and would take their keys away,
so a top-level layer key among them is refused.
-/

namespace ModalKeymap

/-- Why no document can be made of settings. -/
inductive SettingsFault where
  | table (fault : TableFault)
  | chord (fault : ChordFault)
  | emptyRemap (description : Value)
  | noDeactivationKey
  | layers (fault : LayerFault)
  deriving Repr

/-- The wording of a fault. -/
def SettingsFault.message : SettingsFault → String
  | .table fault => fault.message
  | .chord fault => fault.message
  | .emptyRemap description =>
      "remap " ++ description.literal ++ " has no mappings"
  | .noDeactivationKey => "at least one deactivation key is required"
  | .layers fault => fault.message

/-- A document and what making it reported. -/
structure Compilation where
  document : Document
  log : List LogEntry
  deriving DecidableEq, Repr

namespace RemapSettings

/-- The source and target chords of one group, in order. -/
def mappings? (aliases : Aliases) :
    List (String × String) → Except ChordFault (List (Chord × Chord))
  | [] => .ok []
  | (source, target) :: rest => do
      let sourceChord ← Chord.read? Chord.plus aliases source
      let targetChord ← Chord.read? Chord.plus aliases target
      let others ← mappings? aliases rest
      return (sourceChord, targetChord) :: others

/-- The rule of one group of remapped chords. -/
def rule? (aliases : Aliases) (remap : RemapSettings) :
    Except SettingsFault Rule := do
  let mappings ← (mappings? aliases remap.chords).mapError .chord
  match Rule.remap? remap.description mappings with
  | some rule => return rule
  | none => throw (.emptyRemap (.text remap.description))

end RemapSettings

namespace Settings

/-- The rule that enters leader mode, when a chord is given for it. -/
def activationRules? (settings : Settings) :
    Except SettingsFault (List Rule) :=
  let expression := settings.leader.activate.getD ""
  if expression.isEmpty then
    return []
  else do
    let chord ←
      (Chord.read? Chord.plus settings.aliases expression).mapError .chord
    return [Rule.activation settings.leader.flag chord]

/-- The keys that leave leader mode. -/
def deactivationKeys? (settings : Settings) :
    Except SettingsFault (List KeyCode) :=
  settings.leader.deactivate.mapM fun written =>
    (KeyCode.read? settings.aliases (.text written)).mapError .chord

/-- The rule that leaves leader mode, when keys are given for it. -/
def deactivationRules? (settings : Settings) (tree : Bindings) :
    Except SettingsFault (List Rule) := do
  let keys ← settings.deactivationKeys?
  match tree.keys.find? (· ∈ keys) with
  | some key => throw (.layers (.ambiguousTrigger [] key))
  | none => return (Rule.deactivation? settings.leader.flag keys).toList

/-- The conventions that settings fix. -/
def conventions? (settings : Settings) :
    Except SettingsFault Conventions := do
  let escapeKey ← (KeyCode.read? settings.aliases
    (.text settings.leader.escape)).mapError .chord
  return { leader := settings.leader.flag, escape := escapeKey }

/-- The document of given settings, or the first fault. -/
def compile? (settings : Settings) : Except SettingsFault Compilation := do
  let tree ← settings.bindings?.mapError .table
  let remaps ← settings.remaps.mapM (RemapSettings.rule? settings.aliases)
  let activation ← settings.activationRules?
  let deactivation ← settings.deactivationRules? tree
  let conventions ← settings.conventions?
  let layers ← (conventions.compile? tree).mapError .layers
  return {
    document := .single (remaps ++ activation ++ deactivation ++ layers)
      settings.profile settings.showInMenuBar
    log := conventions.log tree }

end Settings

end ModalKeymap
