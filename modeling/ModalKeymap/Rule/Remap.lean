import ModalKeymap.Chord
import ModalKeymap.Rule

/-!
# Remapped chords

One chord that sends another, whatever mode the keyboard is in.  The source
modifiers have to be held, any other modifier is let through.
-/

namespace ModalKeymap.Rule

/-- A chord that sends an event. -/
def sending (source : Chord) (event : Event) : Manipulator where
  trigger :=
    { key := source.key
      modifiers := some (.acceptAny source.modifiers) }
  events := [event]

/-- One chord sending another. -/
def remapping (source target : Chord) : Manipulator :=
  sending source (.ofEffect (.key target.key target.modifiers))

/-- A group of remapped chords; there has to be one. -/
def remap? (description : String) (mappings : List (Chord × Chord)) :
    Option Rule :=
  match mappings with
  | [] => none
  | _ :: _ => some
      { description := description
        manipulators := mappings.map fun mapping =>
          remapping mapping.1 mapping.2 }

end ModalKeymap.Rule
