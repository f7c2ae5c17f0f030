import ModalKeymap.Text.IntegerText

/-!
# Reading from the front of a text

A reader takes a value off the front of a list of characters and leaves the
rest.  It fails either because the text does not follow the grammar, or
because a decimal integer in it is too long to be converted.
-/

namespace ModalKeymap.Toml

/-- Why a text cannot be read. -/
inductive ReadFault where
  | malformed
  /-- A decimal integer has this many digits, more than the limit. -/
  | tooManyDigits (count : Nat)
  deriving DecidableEq, Repr

/-- The wording of a fault. -/
def ReadFault.message : ReadFault → String
  | .malformed => "the text does not follow the grammar"
  | .tooManyDigits count =>
      "Exceeds the limit (" ++ toString Text.IntegerText.digitLimit ++
        " digits) for integer string conversion: value has " ++
        toString count ++
        " digits; use sys.set_int_max_str_digits() to increase the limit"

/-- A value from the front of a text, and the rest of the text. -/
abbrev Front (α : Type) := α × List Char

/-- Give up. -/
def malformed {α : Type} : Except ReadFault α := .error .malformed

/-- The rest of a text behind a fixed beginning. -/
def after? (beginning : List Char) (text : List Char) :
    Option (List Char) :=
  if beginning.isPrefixOf text then
    some (text.drop beginning.length)
  else
    none

/-- The rest of a text that has to begin in a fixed way. -/
def expect (beginning : List Char) (text : List Char) :
    Except ReadFault (List Char) :=
  match after? beginning text with
  | some rest => .ok rest
  | none => malformed

/-- A character that may separate tokens of one line. -/
def isSpacing (character : Char) : Bool :=
  character = ' ' || character = '\t'

/-- A text without the spacing in front. -/
def skipSpacing (text : List Char) : List Char :=
  text.dropWhile isSpacing

/-- A control character that no token may hold: all but the tab. -/
def isForbidden (character : Char) : Bool :=
  (character.toNat < 0x20 || character.toNat = 0x7F) && character ≠ '\t'

/-- What follows a comment, if one stands in front of a text. -/
def skipComment : List Char → Except ReadFault (List Char)
  | '#' :: rest =>
      if (rest.takeWhile (· ≠ '\n')).any isForbidden then
        malformed
      else
        .ok (rest.dropWhile (· ≠ '\n'))
  | text => .ok text

/--
A text without the comments, spacing and line breaks in front, where a
comment may have begun before it.
-/
def skipFillerFrom (inComment : Bool) :
    List Char → Except ReadFault (List Char)
  | [] => .ok []
  | '\n' :: rest => skipFillerFrom false rest
  | character :: rest =>
      if inComment then
        if isForbidden character then malformed
        else skipFillerFrom true rest
      else if character = '#' then
        skipFillerFrom true rest
      else if isSpacing character then
        skipFillerFrom false rest
      else
        .ok (character :: rest)

/-- A text without the comments, spacing and line breaks in front. -/
def skipFiller (text : List Char) : Except ReadFault (List Char) :=
  skipFillerFrom false text

end ModalKeymap.Toml
