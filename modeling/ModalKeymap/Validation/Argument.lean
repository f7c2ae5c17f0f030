import ModalKeymap.Settings.Document
import ModalKeymap.Text.Pieces
import ModalKeymap.Validation.Document

/-!
# Unchecked arguments

What a caller hands to an operation before anything is known about it, and
why an operation refuses it.  Where an operation takes several things it goes
through the items of a list, the keys of a mapping or the characters of a
text (`Value.items?`); where it takes named things it accepts a mapping or a
sequence of pairs (`Value.members?`).
-/

namespace ModalKeymap

/-- Why an operation on unchecked arguments fails. -/
inductive CallFault where
  | notAKey (value : Value)
  | notAModifier (value : Value)
  | emptyPath
  | unsupportedEffect (value : Value)
  /-- A value of a kind that the operation has no use for. -/
  | unusable
  /-- A sequence of some other size where a pair was expected. -/
  | pairSize (size : Nat)
  /-- The same in a sequence of pairs, at a position counted from zero. -/
  | memberSize (position size : Nat)
  /-- Two sublayers, or the leader and one, share a flag of any kind. -/
  | sharedFlag (flag : Value) (first second : KeyPath)
  | invalid (violations : List Violation)
  | settings (fault : SettingsFault)
  deriving Repr

namespace CallFault

/-- The wording of a fault; violations are reported one by one instead. -/
def message : CallFault → String
  | .notAKey value => value.literal ++ " is not a valid KeyCode"
  | .notAModifier value => value.literal ++ " is not a valid Modifier"
  | .emptyPath => "sublayer path is empty"
  | .unsupportedEffect value => "unsupported effect: " ++ value.literal
  | .unusable => "an argument is of the wrong kind"
  | .pairSize size =>
      if 2 < size then
        "too many values to unpack (expected 2)"
      else
        "not enough values to unpack (expected 2, got " ++
          toString size ++ ")"
  | .memberSize position size =>
      "dictionary update sequence element #" ++ toString position ++
        " has length " ++ toString size ++ "; 2 is required"
  | .sharedFlag flag first second =>
      LayerFault.sharedFlagText flag.literal first second
  | .invalid violations =>
      toString violations.length ++ " validation errors"
  | .settings fault => fault.message

/-- The fault of a tree of layers. -/
def ofLayer (fault : LayerFault) : CallFault := .settings (.layers fault)

/-- The fault of a variable whose name is not a text. -/
def namelessVariable : CallFault := .invalid [⟨.text, [.name "name"]⟩]

end CallFault

/-- A check, as a step of an operation. -/
def Checked.orFail {α : Type} (checked : Checked α) : Except CallFault α :=
  checked.toExcept.mapError .invalid

namespace Value

/-- The values that a value holds as a sequence. -/
def items? : Value → Except CallFault (List Value)
  | .list items => .ok items
  | .text value =>
      .ok (value.toList.map fun character => .text character.toString)
  | .mapping members => .ok (members.map fun member => .scalar member.1)
  | _ => .error .unusable

/-- The two values that a pair holds. -/
def pair? (value : Value) : Except CallFault (Value × Value) := do
  match ← value.items? with
  | [first, second] => return (first, second)
  | items => throw (.pairSize items.length)

/-- One member of a mapping that is given as a sequence of pairs. -/
def member? (item : Value) (position : Nat) :
    Except CallFault (Scalar × Value) := do
  match ← item.items? with
  | [.scalar key, content] => return (key, content)
  | [_, _] => throw .unusable
  | parts => throw (.memberSize position parts.length)

/-- The members of a mapping, or of a sequence of pairs. -/
def members? (value : Value) : Except CallFault Members := do
  match value with
  | .mapping members => return members
  | _ =>
      let assignments ← (← value.items?).zipIdx.mapM fun numbered =>
        member? numbered.1 numbered.2
      return Members.ofAssignments assignments

/-- The text that a value is. -/
def text? : Value → Option String
  | .text value => some value
  | _ => none

/-- Whether a value is a number; truth values are. -/
def isNumber : Value → Bool
  | .boolean _ => true
  | .integer _ => true
  | .real _ => true
  | _ => false

/-- Whether a value can be the key of a mapping. -/
def isScalar : Value → Bool
  | .scalar _ => true
  | _ => false

/-- Whether two values are one and the same as keys. -/
def sameKey : Value → Value → Bool
  | .scalar first, .scalar second => first.sameKey second
  | _, _ => false

end Value

/-- The separator of the tokens of a chord; null stands for blanks. -/
def Text.Separator.ofValue? : Value → Except CallFault Text.Separator
  | .null => .ok .blanks
  | .text separator => .ok (.text separator)
  | _ => .error .unusable

/-- The key that a value names exactly. -/
def KeyCode.ofValue? (value : Value) : Except CallFault KeyCode :=
  match Check.key value with
  | .valid key => .ok key
  | .invalid _ => .error (.notAKey value)

/-- The modifier that a value names exactly. -/
def Modifier.ofValue? (value : Value) : Except CallFault Modifier :=
  match Check.modifier value with
  | .valid modifier => .ok modifier
  | .invalid _ => .error (.notAModifier value)

/-- The path of keys that values name exactly. -/
def KeyPath.ofValues? (values : List Value) : Except CallFault KeyPath :=
  values.mapM KeyCode.ofValue?

namespace CallFault

/-- The fault of two layers, given by unchecked paths, with one flag. -/
def sharedFlag? (flag first second : Value) :
    Except CallFault CallFault := do
  let keys ← first.items?
  let others ← second.items?
  return .sharedFlag flag (← KeyPath.ofValues? keys)
    (← KeyPath.ofValues? others)

/-- The fault of a layer, given by an unchecked path, with a taken key. -/
def ambiguousTrigger? (layer key : Value) : Except CallFault CallFault := do
  let keys ← layer.items?
  let taken ← KeyCode.ofValue? key
  return ofLayer (.ambiguousTrigger (← KeyPath.ofValues? keys) taken)

end CallFault

end ModalKeymap
