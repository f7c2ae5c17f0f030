import ModalKeymap.Validation.Conventions
import ModalKeymap.Validation.Settings

/-!
# Operations on unchecked arguments

The operations of the library on arguments that are still dynamic values.
Each argument is checked at the point where the operation first uses it, so
of several faults the one that is met first is reported.
-/

namespace ModalKeymap

namespace Command

/-- A command that runs something in the shell. -/
def runOf (command description : Value) : Except CallFault Command := do
  let written ← (Check.text command).within (.name "command") |>.orFail
  let chosen ←
    if description.isGiven then
      ((Check.text description).within (.name "description")).orFail
    else
      pure ""
  return run written chosen

/-- A command that sends a media key. -/
def consumerOf (key description : Value) : Except CallFault Command := do
  let written ← ((Check.text key).within (.name "key")).orFail
  let chosen ←
    (((Check.nullable .text) description).within (.name "description")).orFail
  return consumer written chosen

/-- A command that sends a key. -/
def pressOf (key modifiers description : Value) :
    Except CallFault Command := do
  let named ← modifiers.items?
  let chord ← (Chord.mk <$> (Check.key key).within (.name "key") <*>
    ((Check.list .modifier) (.list named)).within
      (.name "modifiers")).orFail
  let chosen ←
    (((Check.nullable .text) description).within (.name "description")).orFail
  return press chord.key chord.modifiers chosen

end Command

/-- A sublayer from its parts. -/
def Sublayer.ofParts (name entries description : Value) :
    Except CallFault Sublayer := do
  let members ← entries.members?
  (Sublayer.check (.mapping [(.text "name", name),
    (.text "entries", .mapping members),
    (.text "description", description)])).orFail

/-- The events of effects, all of which are checked before any is used. -/
def Event.ofValues? (effects : Value) : Except CallFault (List Event) := do
  let checked ← (← effects.items?).mapM fun effect =>
    match effect with
    | .mapping _ => do
        let known ← (Effect.check effect).orFail
        return (effect, some known)
    | _ => return (effect, none)
  checked.mapM fun
    | (_, some effect) => return .ofEffect effect
    | (value, none) => throw (.unsupportedEffect value)

namespace Rule

/-- The rule that enters leader mode. -/
def activationOf (key modifiers flag : Value) : Except CallFault Rule := do
  let chordKey ← KeyCode.ofValue? key
  let held ← (← modifiers.items?).mapM Modifier.ofValue?
  let name ← ((Check.text flag).within (.name "name")).orFail
  return activation name ⟨chordKey, held⟩

/-- The rule that leaves leader mode. -/
def deactivationOf (keys flag : Value) : Except CallFault Rule := do
  let checked ← (← keys.items?).mapM fun key => do
    let known ← KeyCode.ofValue? key
    let name ← ((Check.text flag).within (.name "name")).orFail
    return (known, name)
  let name := (checked.head?.map Prod.snd).getD ""
  match deactivation? name (checked.map Prod.fst) with
  | some rule => return rule
  | none => throw (.settings .noDeactivationKey)

/-- The source of a remapped chord: its modifiers are looked at first. -/
def remapSource (key modifiers : Value) : Except CallFault Chord := do
  let held ← (((Check.list .modifier) (.list (← modifiers.items?))).within
    (.name "mandatory")).orFail
  let known ← ((Check.key key).within (.name "key_code")).orFail
  return ⟨known, held⟩

/--
What a remapped chord sends: a key with modifiers, of which the key may be
null.  Faults of both are reported.
-/
def remapTarget (key modifiers : Value) : Except CallFault Event := do
  let named ← modifiers.items?
  let event := fun key held =>
    ({ key := key, modifiers := Modifier.listed? held } : Event)
  (event <$> (Check.nullable .key key).within (.name "key_code") <*>
    ((Check.list .modifier) (.list named)).within
      (.name "modifiers")).orFail

/-- One remapped chord: a pair of pairs of a key and modifiers. -/
def remappingOf (mapping : Value) : Except CallFault Manipulator := do
  let (source, target) ← mapping.pair?
  let (sourceKey, sourceModifiers) ← source.pair?
  let (targetKey, targetModifiers) ← target.pair?
  let chord ← remapSource sourceKey sourceModifiers
  return sending chord (← remapTarget targetKey targetModifiers)

/-- The rule of a group of remapped chords. -/
def remapOf (description mappings : Value) : Except CallFault Rule := do
  let manipulators ← (← mappings.items?).mapM remappingOf
  if manipulators.isEmpty then
    throw (.settings (.emptyRemap description))
  let name ← ((Check.text description).within (.name "description")).orFail
  return { description := name, manipulators := manipulators }

end Rule

/-- The document of unchecked rules. -/
def Document.ofValues? (rules profile showInMenuBar : Value) :
    Except CallFault Document := do
  let checked ← (← rules.items?).mapM fun rule => (Rule.check rule).orFail
  let shown ←
    ((Check.truth showInMenuBar).within (.name "show_in_menu_bar")).orFail
  let name ← ((Check.text profile).within (.name "name")).orFail
  return .single checked name shown

end ModalKeymap
