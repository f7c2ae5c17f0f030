import ModalKeymap.Alias
import ModalKeymap.KeyCode
import ModalKeymap.Modifier
import ModalKeymap.Text.Pieces
import ModalKeymap.Value.Literal

/-!
# Keys and chords in text

A key is written as one name.  A chord is written as names between
separators: modifiers in any number and order, and one key.  Some names are
both a modifier and a key; such a name counts as a modifier, unless all names
do, when the last one is the key.  Reading keeps the modifiers in written
order, each once, and never among them the key itself.
-/

namespace ModalKeymap

/-- A key with the modifiers held. -/
structure Chord where
  key : KeyCode
  modifiers : List Modifier
  deriving DecidableEq, Repr

/-- Why a text is no key or no chord. -/
inductive ChordFault where
  | emptySeparator
  | noTokens
  /-- The names hold no key, or more than one. -/
  | keyCount (expression : String)
  /-- The name in the key's place names no key. -/
  | unknownChordKey (name expression : String)
  /-- The whole value names no key. -/
  | unknownKey (expression : Value)
  deriving Repr

namespace ChordFault

/-- The wording of a fault. -/
def message : ChordFault → String
  | .emptySeparator => "empty separator"
  | .noTokens => "chord expression is empty"
  | .keyCount expression =>
      "chord must have exactly one key: " ++ Text.quoted expression
  | .unknownChordKey name expression =>
      "unknown key code: " ++ Text.quoted name ++
        " (from " ++ Text.quoted expression ++ ")"
  | .unknownKey expression => "unknown key code: " ++ expression.literal

end ChordFault

namespace KeyCode

/-- The key that a value names, under the key aliases alone. -/
def read? (aliases : Aliases) (expression : Value) :
    Except ChordFault KeyCode :=
  match ofName? (aliases.keysOnly.resolve expression.display) with
  | some key => .ok key
  | none => .error (.unknownKey expression)

end KeyCode

namespace Chord

/-- The default separator of the tokens of a chord. -/
def plus : Text.Separator := .text "+"

/-- The resolved names of the non-blank pieces of an expression. -/
def tokens? (separator : Text.Separator) (aliases : Aliases)
    (expression : String) : Option (List String) :=
  (separator.pieces? expression).map fun pieces =>
    ((pieces.map Text.trim).filter (!·.isEmpty)).map aliases.resolve

/-- The names that are no modifier. -/
def keyNames (tokens : List String) : List String :=
  tokens.filter fun token => (Modifier.ofChordName? token).isNone

/-- The modifiers among the names, each at its first occurrence. -/
def modifiersOf (tokens : List String) : List Modifier :=
  (tokens.filterMap Modifier.ofChordName?).eraseDups

/-- The chord of a non-empty list of names. -/
def ofTokens? (expression : String) (tokens : List String) :
    Except ChordFault Chord :=
  match keyNames tokens with
  | [] =>
      match tokens.getLast?.bind KeyCode.ofName? with
      | some key =>
          .ok ⟨key, (modifiersOf tokens).filter (·.name ≠ key.name)⟩
      | none => .error (.keyCount expression)
  | [name] =>
      match KeyCode.ofName? name with
      | some key => .ok ⟨key, modifiersOf tokens⟩
      | none => .error (.unknownChordKey name expression)
  | _ :: _ :: _ => .error (.keyCount expression)

/-- The chord that a text writes. -/
def read? (separator : Text.Separator) (aliases : Aliases)
    (expression : String) : Except ChordFault Chord :=
  match tokens? separator aliases expression with
  | none => .error .emptySeparator
  | some [] => .error .noTokens
  | some tokens => ofTokens? expression tokens

/-- A chord in text: the modifiers in order, then the key. -/
def text (chord : Chord) : String :=
  "+".intercalate (chord.modifiers.map Modifier.name ++ [chord.key.name])

end Chord

end ModalKeymap
