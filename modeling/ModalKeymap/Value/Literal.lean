import ModalKeymap.Number.Decimal
import ModalKeymap.Text.Quoted
import ModalKeymap.Value

/-!
# How messages write a value

`literal` writes a value so that its type can be seen (texts are quoted);
`display` writes a text as it stands and everything else like `literal`;
`typeName` names the type alone.
-/

namespace ModalKeymap

namespace Scalar

/-- A scalar with its type visible. -/
def literal : Scalar → String
  | .null => "None"
  | .boolean true => "True"
  | .boolean false => "False"
  | .integer value => toString value
  | .real value => value.display
  | .text value => Text.quoted value

/-- A scalar as running text. -/
def display : Scalar → String
  | .text value => value
  | other => other.literal

end Scalar

namespace Value

mutual

/-- A value with its type visible. -/
def literal : Value → String
  | .scalar value => value.literal
  | .moment _ written => written
  | .list items => "[" ++ ", ".intercalate (literals items) ++ "]"
  | .mapping members =>
      "\x7b" ++ ", ".intercalate (memberLiterals members) ++ "\x7d"
termination_by structural value => value

/-- The literals of the items of a list. -/
def literals : List Value → List String
  | [] => []
  | item :: rest => item.literal :: literals rest
termination_by structural items => items

/-- The literals of the members of a mapping, each `key: value`. -/
def memberLiterals : List (Scalar × Value) → List String
  | [] => []
  | (key, value) :: rest =>
      (key.literal ++ ": " ++ value.literal) :: memberLiterals rest
termination_by structural members => members

end

/-- A value as running text. -/
def display : Value → String
  | .text value => value
  | other => other.literal

/-- The name of the type of a value. -/
def typeName : Value → String
  | .null => "NoneType"
  | .boolean _ => "bool"
  | .integer _ => "int"
  | .real _ => "float"
  | .text _ => "str"
  | .moment .date _ => "date"
  | .moment .time _ => "time"
  | .moment .dateTime _ => "datetime"
  | .list _ => "list"
  | .mapping _ => "dict"

end Value

end ModalKeymap
