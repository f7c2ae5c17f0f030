import ModalKeymap.Number.Binary64

/-!
# Decimal numerals

A decimal numeral, the binary number that it stands for, and the numeral that
a binary number is shown as: the fewest digits that read back as that number,
of those the nearest to it, a tie going to the even digit.
-/

namespace ModalKeymap

/-- The numeral `digits * 10 ^ exponent`, negated if `negative`. -/
structure Decimal where
  negative : Bool
  digits : Nat
  exponent : Int
  deriving DecidableEq, Repr

namespace Decimal

/-- How many digits a number is written with; none for zero. -/
def digitCount (number : Nat) : Nat :=
  if number = 0 then 0 else (Nat.toDigits 10 number).length

/--
The binary number nearest to a numeral.  Numerals far beyond the range of the
format are decided by their order of magnitude.
-/
def toBinary64 (numeral : Decimal) : Binary64 :=
  let magnitude := digitCount numeral.digits + numeral.exponent
  if numeral.digits = 0 || magnitude < -400 then
    .finite numeral.negative 0 Binary64.leastExponent
  else if magnitude > 400 then
    .infinity numeral.negative
  else
    .ofRatio numeral.negative
      (numeral.digits * Nat.pow 10 numeral.exponent.toNat)
      (Nat.pow 10 (-numeral.exponent).toNat)

/-- The value of a list of ASCII digits, and nothing if one is no digit. -/
def number? (digits : List Char) : Option Nat :=
  digits.foldlM (fun number digit =>
    if digit.isDigit then some (10 * number + (digit.toNat - '0'.toNat))
    else none) 0

/-- A list of one or more ASCII digits, with an optional sign. -/
def signedNumber? : List Char → Option Int
  | '+' :: digit :: rest => (number? (digit :: rest)).map Int.ofNat
  | '-' :: digit :: rest =>
      (number? (digit :: rest)).map fun magnitude => -(magnitude : Int)
  | digit :: rest => (number? (digit :: rest)).map Int.ofNat
  | [] => none

/--
An unsigned numeral: digits with at most one point among them, then an
optional exponent after the letter `e`.
-/
def unsigned? (negative : Bool) (characters : List Char) : Option Decimal := do
  let isMark := fun character : Char => character = 'e' || character = 'E'
  let mantissa := characters.takeWhile (!isMark ·)
  let exponent ← match characters.dropWhile (!isMark ·) with
    | [] => some 0
    | _ :: exponent => signedNumber? exponent
  let whole := mantissa.takeWhile (· ≠ '.')
  let fraction := (mantissa.dropWhile (· ≠ '.')).drop 1
  if whole.isEmpty && fraction.isEmpty then none
  let digits ← number? (whole ++ fraction)
  return ⟨negative, digits, exponent - fraction.length⟩

/-- A numeral with an optional sign. -/
def read? : List Char → Option Decimal
  | '+' :: rest => unsigned? false rest
  | '-' :: rest => unsigned? true rest
  | characters => unsigned? false characters

end Decimal

namespace Binary64

/-- The number that a text writes: a numeral or one of the special names. -/
def read? (text : String) : Option Binary64 :=
  match text.toList with
  | ['n', 'a', 'n'] | ['+', 'n', 'a', 'n'] | ['-', 'n', 'a', 'n'] =>
      some .notANumber
  | ['i', 'n', 'f'] | ['+', 'i', 'n', 'f'] => some (.infinity false)
  | ['-', 'i', 'n', 'f'] => some (.infinity true)
  | characters => (Decimal.read? characters).map (·.toBinary64)

/-- The exact value of a positive number as numerator and denominator. -/
def ratio (significand : Nat) (exponent : Int) : Nat × Nat :=
  (significand * Nat.pow 2 exponent.toNat, Nat.pow 2 (-exponent).toNat)

/-- Whether `numerator / denominator` is below `10 ^ power`. -/
def belowPowerOfTen (value : Nat × Nat) (power : Int) : Bool :=
  value.1 * Nat.pow 10 (-power).toNat < value.2 * Nat.pow 10 power.toNat

/-- The least power of ten above a positive value, found from an estimate. -/
def decimalScale (value : Nat × Nat) : Int :=
  let bits : Int := (value.1.log2 : Int) - value.2.log2
  let estimate := bits * 3 / 10 - 4
  let steps := (List.range 64).map fun step : Nat => estimate + step
  (steps.find? (belowPowerOfTen value)).getD estimate

/-- The nearest numeral with a given number of digits that reads back. -/
def numeralOfLength? (significand : Nat) (exponent : Int) (count : Nat) :
    Option Decimal :=
  let value := ratio significand exponent
  let grid := decimalScale value - count
  let numerator := value.1 * Nat.pow 10 (-grid).toNat
  let denominator := value.2 * Nat.pow 10 grid.toNat
  let below := numerator / denominator
  let rounded := divideToNearest numerator denominator
  let other := if rounded = below then below + 1 else below
  [rounded, other].findSome? fun digits =>
    let numeral : Decimal := ⟨false, digits, grid⟩
    if numeral.toBinary64 = .finite false significand exponent then
      some numeral
    else
      none

/-- The shortest numeral that reads back as a positive number. -/
def shortest (significand : Nat) (exponent : Int) : Decimal :=
  ((List.range 18).findSome?
    (numeralOfLength? significand exponent)).getD ⟨false, 0, 0⟩

/-- Digits without their trailing zeros. -/
def significantDigits (digits : Nat) : List Char :=
  ((Nat.toDigits 10 digits).reverse.dropWhile (· == '0')).reverse

/-- The exponent part of scientific notation: a sign and two digits or more. -/
def exponentText (exponent : Int) : List Char :=
  let digits := Nat.toDigits 10 exponent.natAbs
  (if exponent < 0 then '-' else '+') ::
    (if digits.length < 2 then '0' :: digits else digits)

/--
A positive number in positional notation from `0.0001` up to `10 ^ 16`, and
in scientific notation beyond.
-/
def positiveText (significand : Nat) (exponent : Int) : List Char :=
  let numeral := shortest significand exponent
  let digits := significantDigits numeral.digits
  let point : Int := Decimal.digitCount numeral.digits + numeral.exponent
  if point > 16 || point < -3 then
    let fraction := digits.drop 1
    digits.take 1 ++ (if fraction.isEmpty then [] else '.' :: fraction) ++
      'e' :: exponentText (point - 1)
  else if point ≤ 0 then
    '0' :: '.' :: List.replicate (-point).toNat '0' ++ digits
  else
    let whole := point.toNat
    let fraction := digits.drop whole
    digits.take whole ++ List.replicate (whole - digits.length) '0' ++
      '.' :: (if fraction.isEmpty then ['0'] else fraction)

/-- A number as messages show it. -/
def display : Binary64 → String
  | .finite negative significand exponent =>
      let body := if significand = 0 then ['0', '.', '0']
        else positiveText significand exponent
      String.ofList (if negative then '-' :: body else body)
  | .infinity negative => if negative then "-inf" else "inf"
  | .notANumber => "nan"

end Binary64

end ModalKeymap
