import ModalKeymap.Text.Blank
import ModalKeymap.Text.DecimalDigit

/-!
# Integers written in text

A decimal integer as a person may write it on a command line: blanks around
it, an optional sign, decimal digits of any script, and single underscores
between digits.
-/

namespace ModalKeymap.Text.IntegerText

/-- The most digits that an integer may be written with. -/
def digitLimit : Nat := 4300

/-- Blanks that may surround an integer: all but the ASCII separators. -/
def isMargin (character : Char) : Bool :=
  isBlank character && !(0x1C ≤ character.toNat && character.toNat ≤ 0x1F)

/-- The digits of an unsigned integer, once the underscores are gone. -/
def digits? : List Char → Option (List Nat)
  | [] => none
  | [last] => (decimalDigit? last).map ([·])
  | character :: '_' :: rest => do
      let digit ← decimalDigit? character
      return digit :: (← digits? rest)
  | character :: rest => do
      let digit ← decimalDigit? character
      return digit :: (← digits? rest)

/-- The number that a list of decimal digits writes. -/
def ofDigits (digits : List Nat) : Nat :=
  digits.foldl (fun number digit => 10 * number + digit) 0

/-- An unsigned integer within the digit limit. -/
def magnitude? (characters : List Char) : Option Nat := do
  let digits ← digits? characters
  if digits.length ≤ digitLimit then some (ofDigits digits) else none

/-- An integer with an optional sign. -/
def signed? : List Char → Option Int
  | '+' :: rest => (magnitude? rest).map Int.ofNat
  | '-' :: rest => (magnitude? rest).map fun magnitude => -(magnitude : Int)
  | characters => (magnitude? characters).map Int.ofNat

/-- The integer that a text writes. -/
def read? (text : String) : Option Int :=
  let inner := text.toList.dropWhile isMargin
  signed? (inner.reverse.dropWhile isMargin).reverse

example : read? " +1_0 " = some 10 := by decide +kernel
example : read? "1__0" = none := by decide +kernel

end ModalKeymap.Text.IntegerText
