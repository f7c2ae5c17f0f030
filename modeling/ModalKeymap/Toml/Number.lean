import ModalKeymap.Number.Decimal
import ModalKeymap.Text.Hexadecimal
import ModalKeymap.Toml.Reading
import ModalKeymap.Value

/-!
# Numbers in TOML

Integers in four bases, decimal numbers with a fraction or an exponent, and
the special numbers.  Digits may be separated by single underscores.
-/

namespace ModalKeymap.Toml

/--
The digits behind a first one, each possibly behind one underscore, and the
rest.
-/
def moreDigits (isDigit : Char → Bool) : List Char → List Char × List Char
  | '_' :: character :: rest =>
      if isDigit character then
        let (digits, behind) := moreDigits isDigit rest
        (character :: digits, behind)
      else
        ([], '_' :: character :: rest)
  | character :: rest =>
      if isDigit character then
        let (digits, behind) := moreDigits isDigit rest
        (character :: digits, behind)
      else
        ([], character :: rest)
  | [] => ([], [])

/-- One or more digits, without their underscores, and the rest. -/
def digits? (isDigit : Char → Bool) :
    List Char → Option (List Char × List Char)
  | first :: rest =>
      if isDigit first then
        let (more, behind) := moreDigits isDigit rest
        some (first :: more, behind)
      else
        none
  | [] => none

/-- The digits of a base up to sixteen. -/
def isDigitOf (base : Nat) (character : Char) : Bool :=
  (Text.hexDigit? character).any (· < base)

/-- The number that digits of a base write. -/
def ofDigits (base : Nat) (digits : List Char) : Nat :=
  digits.foldl (fun number digit =>
    base * number + (Text.hexDigit? digit).getD 0) 0

/-- An integer in a base that is announced by a letter. -/
def basedInteger? (text : List Char) : Option (Value × List Char) := do
  let (base, rest) ← match text with
    | '0' :: 'x' :: rest => some (16, rest)
    | '0' :: 'o' :: rest => some (8, rest)
    | '0' :: 'b' :: rest => some (2, rest)
    | _ => none
  let (digits, behind) ← digits? (isDigitOf base) rest
  return (.integer (ofDigits base digits), behind)

/-- The whole part of a decimal number: a zero, or digits without one first. -/
def wholePart? (text : List Char) : Option (List Char × List Char) :=
  match text with
  | '0' :: rest => some (['0'], rest)
  | _ => digits? Char.isDigit text

/-- The fraction of a decimal number, which may be missing. -/
def fraction? (text : List Char) : Option (List Char × List Char) :=
  match text with
  | '.' :: rest => digits? Char.isDigit rest
  | _ => none

/-- A sign, which may be missing, and whether it is a minus. -/
def sign (text : List Char) : Bool × List Char :=
  match text with
  | '+' :: rest => (false, rest)
  | '-' :: rest => (true, rest)
  | _ => (false, text)

/-- The exponent of a decimal number, which may be missing. -/
def exponent? (text : List Char) : Option (Int × List Char) :=
  let signed := fun rest => do
    let (negative, unsigned) := sign rest
    let (digits, behind) ← digits? Char.isDigit unsigned
    let magnitude : Int := ofDigits 10 digits
    return (if negative then -magnitude else magnitude, behind)
  match text with
  | 'e' :: rest => signed rest
  | 'E' :: rest => signed rest
  | _ => none

/-- A decimal number: an integer, unless it has a fraction or an exponent. -/
def decimalNumber? (text : List Char) :
    Option (Except ReadFault (Front Value)) := do
  let (negative, unsigned) := sign text
  let (whole, afterWhole) ← wholePart? unsigned
  let fraction := fraction? afterWhole
  let (fractionDigits, afterFraction) := fraction.getD ([], afterWhole)
  let exponent := exponent? afterFraction
  let (power, rest) := exponent.getD (0, afterFraction)
  if fraction.isSome || exponent.isSome then
    let numeral : Decimal :=
      { negative := negative
        digits := ofDigits 10 (whole ++ fractionDigits)
        exponent := power - fractionDigits.length }
    return .ok (.real numeral.toBinary64, rest)
  else if whole.length > Text.IntegerText.digitLimit then
    return .error (.tooManyDigits whole.length)
  else
    let magnitude : Int := ofDigits 10 whole
    return .ok (.integer (if negative then -magnitude else magnitude), rest)

/-- An infinite or undefined number. -/
def specialNumber? (text : List Char) : Option (Value × List Char) :=
  let (negative, unsigned) := sign text
  match unsigned with
  | 'i' :: 'n' :: 'f' :: rest => some (.real (.infinity negative), rest)
  | 'n' :: 'a' :: 'n' :: rest => some (.real .notANumber, rest)
  | _ => none

/-- A number of any form. -/
def readNumber (text : List Char) : Except ReadFault (Front Value) :=
  match basedInteger? text with
  | some found => .ok found
  | none =>
      match decimalNumber? text with
      | some reading => reading
      | none =>
          match specialNumber? text with
          | some found => .ok found
          | none => malformed

end ModalKeymap.Toml
