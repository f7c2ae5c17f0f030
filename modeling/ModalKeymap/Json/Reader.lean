import ModalKeymap.Json
import ModalKeymap.Text.Hexadecimal

/-!
# Reading JSON texts

The JSON value that a text stands for, by the grammar of RFC 8259: any layout,
any escapes.  Numbers with a fraction or an exponent are not read, because
`Json` has integers only; everything else that the grammar allows is.
-/

namespace ModalKeymap.Json

/-- A character that may stand between tokens. -/
def isSpace (character : Char) : Bool :=
  character = ' ' || character = '\t' || character = '\n' ||
    character = '\r'

/-- A text without the space in front. -/
def skipSpace (text : List Char) : List Char :=
  text.dropWhile isSpace

/-- The 16-bit unit that four hexadecimal digits write. -/
def readUnit? : List Char → Option (Nat × List Char)
  | first :: second :: third :: fourth :: rest =>
      (Text.ofHexDigits? [first, second, third, fourth]).map (·, rest)
  | _ => none

/-- The character of a unit and, where it is half of a pair, the next unit. -/
def readCodePoint? (text : List Char) : Option (Char × List Char) := do
  let (unit, rest) ← readUnit? text
  if unit.isValidChar then
    return (Char.ofNat unit, rest)
  else
    match rest with
    | '\\' :: 'u' :: more =>
        let (low, behind) ← readUnit? more
        if unit < 0xDC00 && 0xDC00 ≤ low && low < 0xE000 then
          let code := 0x10000 + 0x400 * (unit - 0xD800) + (low - 0xDC00)
          return (Char.ofNat code, behind)
        else
          none
    | _ => none

/-- What an escape stands for, read behind its backslash. -/
def readEscape? : List Char → Option (Char × List Char)
  | '"' :: rest => some ('"', rest)
  | '\\' :: rest => some ('\\', rest)
  | '/' :: rest => some ('/', rest)
  | 'b' :: rest => some ('\x08', rest)
  | 'f' :: rest => some ('\x0c', rest)
  | 'n' :: rest => some ('\n', rest)
  | 'r' :: rest => some ('\r', rest)
  | 't' :: rest => some ('\t', rest)
  | 'u' :: rest => readCodePoint? rest
  | _ => none

/-- The rest of a string up to its closing mark, with escapes undone. -/
def readTextBody? (fuel : Nat) (text : List Char) :
    Option (List Char × List Char) :=
  match fuel, text with
  | _ + 1, '"' :: rest => some ([], rest)
  | fuel + 1, '\\' :: rest => do
      let (character, behind) ← readEscape? rest
      let (body, rest) ← readTextBody? fuel behind
      return (character :: body, rest)
  | fuel + 1, character :: rest => do
      if character.toNat < 0x20 then
        none
      let (body, rest) ← readTextBody? fuel rest
      return (character :: body, rest)
  | _, _ => none

/-- A string, with its opening mark in front. -/
def readText? : List Char → Option (String × List Char)
  | '"' :: rest => do
      let (body, behind) ← readTextBody? (rest.length + 1) rest
      return (String.ofList body, behind)
  | _ => none

/-- The number that decimal digits write. -/
def ofDigits (digits : List Char) : Nat :=
  digits.foldl (fun number digit =>
    10 * number + (digit.toNat - '0'.toNat)) 0

/-- An unsigned integer: a zero, or digits of which the first is none. -/
def readMagnitude? : List Char → Option (Nat × List Char)
  | '0' :: rest => some (0, rest)
  | first :: rest =>
      if first.isDigit then
        some (ofDigits (first :: rest.takeWhile Char.isDigit),
          rest.dropWhile Char.isDigit)
      else
        none
  | [] => none

/-- Whether a text goes on with a fraction or an exponent. -/
def continuesNumber : List Char → Bool
  | '.' :: _ => true
  | 'e' :: _ => true
  | 'E' :: _ => true
  | _ => false

/-- An integer. -/
def readInteger? (text : List Char) : Option (Int × List Char) := do
  let (number, rest) ← match text with
    | '-' :: unsigned =>
        (readMagnitude? unsigned).map fun (magnitude, rest) =>
          (-(magnitude : Int), rest)
    | unsigned =>
        (readMagnitude? unsigned).map fun (magnitude, rest) =>
          ((magnitude : Int), rest)
  if continuesNumber rest then none else some (number, rest)

mutual

/-- A value, without space in front. -/
def readValue? (fuel : Nat) (text : List Char) :
    Option (Json × List Char) :=
  match fuel, text with
  | _ + 1, 'n' :: 'u' :: 'l' :: 'l' :: rest => some (.null, rest)
  | _ + 1, 't' :: 'r' :: 'u' :: 'e' :: rest => some (.boolean true, rest)
  | _ + 1, 'f' :: 'a' :: 'l' :: 's' :: 'e' :: rest =>
      some (.boolean false, rest)
  | _ + 1, '"' :: rest =>
      (readText? ('"' :: rest)).map fun (body, behind) =>
        (.text body, behind)
  | fuel + 1, '[' :: rest =>
      match skipSpace rest with
      | ']' :: behind => some (.array [], behind)
      | inside =>
          (readItems? fuel inside).map fun (items, behind) =>
            (.array items, behind)
  | fuel + 1, '\x7b' :: rest =>
      match skipSpace rest with
      | '\x7d' :: behind => some (.object [], behind)
      | inside =>
          (readMembers? fuel inside).map fun (members, behind) =>
            (.object members, behind)
  | _ + 1, text =>
      (readInteger? text).map fun (number, behind) =>
        (.integer number, behind)
  | 0, _ => none

/-- The items of an array that has some, up to its end. -/
def readItems? (fuel : Nat) (text : List Char) :
    Option (List Json × List Char) :=
  match fuel with
  | 0 => none
  | fuel + 1 => do
      let (item, rest) ← readValue? fuel text
      match skipSpace rest with
      | ']' :: behind => return ([item], behind)
      | ',' :: more =>
          let (items, behind) ← readItems? fuel (skipSpace more)
          return (item :: items, behind)
      | _ => none

/-- The members of an object that has some, up to its end. -/
def readMembers? (fuel : Nat) (text : List Char) :
    Option (List (String × Json) × List Char) :=
  match fuel with
  | 0 => none
  | fuel + 1 => do
      let (name, rest) ← readText? text
      match skipSpace rest with
      | ':' :: content =>
          let (value, rest) ← readValue? fuel (skipSpace content)
          match skipSpace rest with
          | '\x7d' :: behind => return ([(name, value)], behind)
          | ',' :: more =>
              let (members, behind) ← readMembers? fuel (skipSpace more)
              return ((name, value) :: members, behind)
          | _ => none
      | _ => none

end

/-- The value of a complete text; each level of nesting takes two steps. -/
def read? (text : String) : Option Json := do
  let characters := text.toList
  let (value, rest) ← readValue? (2 * characters.length + 1)
    (skipSpace characters)
  if (skipSpace rest).isEmpty then some value else none

end ModalKeymap.Json
