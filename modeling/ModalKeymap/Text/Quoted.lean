import ModalKeymap.Text.Hexadecimal
import ModalKeymap.Text.Printable

/-!
# Quoted text

How a message quotes a piece of text so that its ends and every character in
it can be seen: single quotes, or double quotes when the text holds a single
quote and no double quote; the quote in use and the backslash escaped; line
breaks and tabs by letter; anything else unprintable by its code point in the
shortest of three widths.
-/

namespace ModalKeymap.Text

/-- The quotation mark around a text. -/
def quoteMark (characters : List Char) : Char :=
  if characters.contains '\'' && !characters.contains '"' then '"' else '\''

/-- A character as it stands between two quotation marks. -/
def escaped (mark character : Char) : List Char :=
  if character = mark || character = '\\' then
    ['\\', character]
  else if character = '\t' then
    ['\\', 't']
  else if character = '\n' then
    ['\\', 'n']
  else if character = '\r' then
    ['\\', 'r']
  else if isPrintable character then
    [character]
  else
    let code := character.toNat
    if code < 0x100 then
      '\\' :: 'x' :: hexadecimal 2 code
    else if code < 0x10000 then
      '\\' :: 'u' :: hexadecimal 4 code
    else
      '\\' :: 'U' :: hexadecimal 8 code

/-- A text between quotation marks. -/
def quoted (text : String) : String :=
  let characters := text.toList
  let mark := quoteMark characters
  String.ofList (mark :: characters.flatMap (escaped mark) ++ [mark])

end ModalKeymap.Text
