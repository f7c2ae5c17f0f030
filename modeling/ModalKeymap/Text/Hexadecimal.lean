/-!
# Hexadecimal digits

Writing a number in a fixed number of lower-case hexadecimal digits, and
reading one digit back in either case.
-/

namespace ModalKeymap.Text

/-- The last `width` hexadecimal digits of a number, most significant first. -/
def hexadecimal (width number : Nat) : List Char :=
  match width with
  | 0 => []
  | width + 1 =>
      hexadecimal width (number / 16) ++ [Nat.digitChar (number % 16)]

@[simp]
theorem length_hexadecimal (width number : Nat) :
    (hexadecimal width number).length = width := by
  induction width generalizing number with
  | zero => rfl
  | succ width ih => simp [hexadecimal, ih]

/-- The value of a hexadecimal digit in either case. -/
def hexDigit? (character : Char) : Option Nat :=
  if '0' ≤ character ∧ character ≤ '9' then
    some (character.toNat - '0'.toNat)
  else if 'a' ≤ character ∧ character ≤ 'f' then
    some (character.toNat - 'a'.toNat + 10)
  else if 'A' ≤ character ∧ character ≤ 'F' then
    some (character.toNat - 'A'.toNat + 10)
  else
    none

/-- The number that a list of hexadecimal digits writes. -/
def ofHexDigits? (digits : List Char) : Option Nat :=
  digits.foldlM (fun number digit =>
    (hexDigit? digit).map (16 * number + ·)) 0

end ModalKeymap.Text
