import ModalKeymap.Json
import ModalKeymap.Text.Hexadecimal

/-!
# The grammar of JSON texts

Which texts stand for a value, by the productions of RFC 8259, said without
reading or writing any.  Every production is one constructor, so a text may
stand for a value in many ways: with any space between tokens, and with any
of the ways in which a string may hold a character.  As for `Json` itself,
numbers are integers.
-/

namespace ModalKeymap.Json

/-- Space between tokens. -/
def IsBlank (text : List Char) : Prop :=
  ∀ character ∈ text, character ∈ [' ', '\t', '\n', '\r']

/-- Decimal digits, without a zero in front of others. -/
inductive IsNumeral : List Char → Prop
  | zero : IsNumeral ['0']
  | positive {first : Char} {rest : List Char} (digit : first.isDigit)
      (notZero : first ≠ '0') (digits : ∀ other ∈ rest, other.isDigit) :
      IsNumeral (first :: rest)

/-- The numerals of an integer, with a sign where it is negative. -/
inductive SpellsInteger : Int → List Char → Prop
  | unsigned {digits : List Char} (numeral : IsNumeral digits) :
      SpellsInteger (Nat.ofDigitChars 10 digits 0) digits
  | negative {digits : List Char} (numeral : IsNumeral digits) :
      SpellsInteger (-(Nat.ofDigitChars 10 digits 0 : Int)) ('-' :: digits)

/-- The letters that stand for a character behind a backslash. -/
def escapeLetters : List (Char × Char) :=
  [('"', '"'), ('\\', '\\'), ('/', '/'), ('b', '\x08'), ('f', '\x0c'),
    ('n', '\n'), ('r', '\r'), ('t', '\t')]

/-- Four hexadecimal digits of a 16-bit unit. -/
def SpellsUnit (unit : Nat) (digits : List Char) : Prop :=
  digits.length = 4 ∧ Text.ofHexDigits? digits = some unit

/-- The ways in which a string holds a character. -/
inductive SpellsCharacter : Char → List Char → Prop
  | plain {character : Char} (printable : 0x20 ≤ character.toNat)
      (notMark : character ≠ '"') (notEscape : character ≠ '\\') :
      SpellsCharacter character [character]
  | letter {letter character : Char}
      (listed : (letter, character) ∈ escapeLetters) :
      SpellsCharacter character ['\\', letter]
  | unit {character : Char} {digits : List Char}
      (spelled : SpellsUnit character.toNat digits) :
      SpellsCharacter character ('\\' :: 'u' :: digits)
  /-- A character above the first 65536, by two surrogates. -/
  | pair {character : Char} {high low : Nat}
      {highDigits lowDigits : List Char}
      (isHigh : 0xD800 ≤ high ∧ high < 0xDC00)
      (isLow : 0xDC00 ≤ low ∧ low < 0xE000)
      (code : character.toNat =
        0x10000 + 0x400 * (high - 0xD800) + (low - 0xDC00))
      (highSpelled : SpellsUnit high highDigits)
      (lowSpelled : SpellsUnit low lowDigits) :
      SpellsCharacter character
        ('\\' :: 'u' :: highDigits ++ '\\' :: 'u' :: lowDigits)

/-- What stands for several characters between quotation marks. -/
inductive SpellsCharacters : List Char → List Char → Prop
  | nil : SpellsCharacters [] []
  | cons {character : Char} {characters front behind : List Char}
      (first : SpellsCharacter character front)
      (later : SpellsCharacters characters behind) :
      SpellsCharacters (character :: characters) (front ++ behind)

/-- The strings of a text. -/
inductive SpellsText : String → List Char → Prop
  | quoted {value : String} {body : List Char}
      (spelled : SpellsCharacters value.toList body) :
      SpellsText value ('"' :: body ++ ['"'])

mutual

/-- The texts of a value, with no space around it. -/
inductive Spells : Json → List Char → Prop
  | null : Spells .null ['n', 'u', 'l', 'l']
  | isTrue : Spells (.boolean true) ['t', 'r', 'u', 'e']
  | isFalse : Spells (.boolean false) ['f', 'a', 'l', 's', 'e']
  | integer {number : Int} {text : List Char}
      (spelled : SpellsInteger number text) : Spells (.integer number) text
  | text {value : String} {text : List Char}
      (spelled : SpellsText value text) : Spells (.text value) text
  | emptyArray {space : List Char} (blank : IsBlank space) :
      Spells (.array []) ('[' :: space ++ [']'])
  | array {items : List Json} {body : List Char}
      (spelled : SpellsItems items body) :
      Spells (.array items) ('[' :: body ++ [']'])
  | emptyObject {space : List Char} (blank : IsBlank space) :
      Spells (.object []) ('\x7b' :: space ++ ['\x7d'])
  | object {members : List (String × Json)} {body : List Char}
      (spelled : SpellsMembers members body) :
      Spells (.object members) ('\x7b' :: body ++ ['\x7d'])

/-- Items between commas, with the space around them; there has to be one. -/
inductive SpellsItems : List Json → List Char → Prop
  | last {item : Json} {before text after : List Char}
      (leading : IsBlank before) (spelled : Spells item text)
      (trailing : IsBlank after) :
      SpellsItems [item] (before ++ text ++ after)
  | more {item : Json} {rest : List Json}
      {before text after behind : List Char}
      (leading : IsBlank before) (spelled : Spells item text)
      (trailing : IsBlank after) (later : SpellsItems rest behind) :
      SpellsItems (item :: rest) (before ++ text ++ after ++ ',' :: behind)

/-- Members between commas, with the space around them. -/
inductive SpellsMembers : List (String × Json) → List Char → Prop
  | last {name : String} {value : Json} {before after text : List Char}
      (leading : IsBlank before) (spelled : SpellsMember name value text)
      (trailing : IsBlank after) :
      SpellsMembers [(name, value)] (before ++ text ++ after)
  | more {name : String} {value : Json} {rest : List (String × Json)}
      {before text after behind : List Char}
      (leading : IsBlank before) (spelled : SpellsMember name value text)
      (trailing : IsBlank after) (later : SpellsMembers rest behind) :
      SpellsMembers ((name, value) :: rest)
        (before ++ text ++ after ++ ',' :: behind)

/-- A name and a value around a colon, with no space around them. -/
inductive SpellsMember : String → Json → List Char → Prop
  | colon {name : String} {value : Json}
      {nameText before after text : List Char}
      (named : SpellsText name nameText) (leading : IsBlank before)
      (trailing : IsBlank after) (spelled : Spells value text) :
      SpellsMember name value (nameText ++ before ++ ':' :: after ++ text)

end

/-- A complete text of a value, with any space around it. -/
inductive IsText : Json → List Char → Prop
  | padded {value : Json} {before text after : List Char}
      (leading : IsBlank before) (spelled : Spells value text)
      (trailing : IsBlank after) : IsText value (before ++ text ++ after)

end ModalKeymap.Json
