/-!
# Ranges of characters

A set of characters given as a table of code-point ranges, which is how the
Unicode property tables of this library are written.
-/

namespace ModalKeymap.Text

/-- The code points from `first` to `last`, both included. -/
structure CharRange where
  first : Nat
  last : Nat
  deriving DecidableEq, Repr

/-- Whether one of the ranges holds a character. -/
def CharRange.covers (table : List CharRange) (character : Char) : Bool :=
  let code := character.toNat
  table.any fun range => range.first ≤ code && code ≤ range.last

end ModalKeymap.Text
