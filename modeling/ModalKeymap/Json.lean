/-!
# JSON values

The values that JSON texts stand for, as far as documents need them: numbers
are integers.  Objects keep their members in order.
-/

namespace ModalKeymap

/-- A JSON value. -/
inductive Json where
  | null
  | boolean (value : Bool)
  | integer (value : Int)
  | text (value : String)
  | array (items : List Json)
  | object (members : List (String × Json))
  deriving Repr, Inhabited

namespace Json

/-- A member of an object that may be absent. -/
def member? {α : Type} (name : String) (encode : α → Json) :
    Option α → List (String × Json)
  | some value => [(name, encode value)]
  | none => []

end Json

end ModalKeymap
