/-!
# Binary floating point

The numbers of the 64-bit binary format, given by their exact values: a
significand below `2 ^ 53` times a power of two, or one of the special
values.  `ofRatio` rounds any fraction to the nearest such number, a tie going
to the even significand, and `integer?` gives the integer that a number is
equal to, if it is one.
-/

namespace ModalKeymap

/-- A 64-bit binary floating-point number. -/
inductive Binary64 where
  /-- The number `significand * 2 ^ exponent`, negated if `negative`. -/
  | finite (negative : Bool) (significand : Nat) (exponent : Int)
  | infinity (negative : Bool)
  | notANumber
  deriving DecidableEq, Repr

namespace Binary64

/-- The exponent of the smallest numbers. -/
def leastExponent : Int := -1074

/-- The exponent of the largest finite numbers. -/
def greatestExponent : Int := 971

/-- Division with the quotient rounded to the nearest, a tie to the even. -/
def divideToNearest (numerator denominator : Nat) : Nat :=
  let quotient := numerator / denominator
  let excess := 2 * (numerator % denominator)
  if excess > denominator || (excess == denominator && quotient % 2 == 1) then
    quotient + 1
  else
    quotient

/-- The significand of a fraction at a given exponent, rounded. -/
def significandAt (numerator denominator : Nat) (exponent : Int) : Nat :=
  divideToNearest (numerator * Nat.pow 2 (-exponent).toNat)
    (denominator * Nat.pow 2 exponent.toNat)

/--
The least exponent at which the whole part of a fraction fits a significand.
The bit lengths of numerator and denominator give it up to one step.
-/
def exponentOf (numerator denominator : Nat) : Int :=
  let estimate : Int := (numerator.log2 : Int) - denominator.log2 - 53
  let whole := numerator * Nat.pow 2 (-estimate).toNat /
    (denominator * Nat.pow 2 estimate.toNat)
  max leastExponent (if whole < Nat.pow 2 53 then estimate else estimate + 1)

/-- The number nearest to a fraction, a tie going to the even significand. -/
def ofRatio (negative : Bool) (numerator denominator : Nat) : Binary64 :=
  if numerator = 0 then
    .finite negative 0 leastExponent
  else
    let exponent := exponentOf numerator denominator
    let significand := significandAt numerator denominator exponent
    let carried := significand == Nat.pow 2 53
    let exponent := if carried then exponent + 1 else exponent
    if exponent > greatestExponent then
      .infinity negative
    else
      .finite negative (if carried then Nat.pow 2 52 else significand) exponent

/-- The integer that a number is equal to. -/
def integer? : Binary64 → Option Int
  | .finite negative significand exponent =>
      let scaled := significand * Nat.pow 2 exponent.toNat
      let unit := Nat.pow 2 (-exponent).toNat
      if scaled % unit = 0 then
        let magnitude : Int := (scaled / unit : Nat)
        some (if negative then -magnitude else magnitude)
      else
        none
  | .infinity _ => none
  | .notANumber => none

/-- Whether a number is neither infinite nor undefined. -/
def isFinite : Binary64 → Bool
  | .finite .. => true
  | _ => false

/-- Equality of values: the two zeros are one, and no undefined value is. -/
def sameValue : Binary64 → Binary64 → Bool
  | .finite _ 0 _, .finite _ 0 _ => true
  | .notANumber, .notANumber => false
  | first, second => first = second

end Binary64

end ModalKeymap
