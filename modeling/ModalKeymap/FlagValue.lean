/-!
# Values of variables

A command may set a variable to a text or an integer (`FlagValue`).  Rules as
a whole may also hold truth values (`VariableValue`).
-/

namespace ModalKeymap

/-- What a command may set a variable to. -/
inductive FlagValue where
  | text (value : String)
  | integer (value : Int)
  deriving DecidableEq, Repr

/-- What a variable may hold in a rule. -/
inductive VariableValue where
  | text (value : String)
  | integer (value : Int)
  | boolean (value : Bool)
  deriving DecidableEq, Repr

/-- The same value in the larger vocabulary. -/
def FlagValue.toVariable : FlagValue → VariableValue
  | .text value => .text value
  | .integer value => .integer value

end ModalKeymap
