import ModalKeymap.Json
import ModalKeymap.Text.Hexadecimal

/-!
# JSON texts

Writing a JSON value, either without any blank space or with one item to a
line, where each level is indented by a fixed number of spaces.  Strings
escape the two characters that they must and the control characters; every
other character is written as it is.  A text is refused if it would be longer
than any text can be (`render?`).
-/

namespace ModalKeymap.Json

/-- How a JSON text is laid out. -/
inductive Layout where
  | compact
  /-- One item to a line, each level indented by so many spaces. -/
  | lines (indent : Nat)
  deriving DecidableEq, Repr

namespace Layout

/--
Indents from this one on are more than a machine word and refused at once.  A
smaller one is a layout, but the text may still be too long (`render?`).
-/
def indentLimit : Int := Nat.pow 2 64

/-- The layout for an indent; negative and huge ones are refused. -/
def ofIndent? (indent : Int) : Option Layout :=
  if 0 ≤ indent && indent < indentLimit then
    some (.lines indent.toNat)
  else
    none

/-- The number of blanks for one level. -/
def indent : Layout → Nat
  | .compact => 0
  | .lines indent => indent

/-- What stands before an item at a given depth. -/
def lineStart (layout : Layout) (depth : Nat) : List Char :=
  match layout with
  | .compact => []
  | .lines indent => '\n' :: List.replicate (indent * depth) ' '

/-- What stands between the name and the value of a member. -/
def colon : Layout → List Char
  | .compact => [':']
  | .lines _ => [':', ' ']

end Layout

/-- A character as it stands inside a string. -/
def escape (character : Char) : List Char :=
  match character with
  | '"' => ['\\', '"']
  | '\\' => ['\\', '\\']
  | '\x08' => ['\\', 'b']
  | '\t' => ['\\', 't']
  | '\n' => ['\\', 'n']
  | '\x0c' => ['\\', 'f']
  | '\r' => ['\\', 'r']
  | other =>
      if other.toNat < 0x20 then
        '\\' :: 'u' :: Text.hexadecimal 4 other.toNat
      else
        [other]

/-- A string between quotation marks. -/
def printText (value : String) : List Char :=
  '"' :: value.toList.flatMap escape ++ ['"']

mutual

/-- A JSON value in a layout, as part of a text at a given depth. -/
def print (layout : Layout) (depth : Nat) : Json → List Char
  | .null => ['n', 'u', 'l', 'l']
  | .boolean true => ['t', 'r', 'u', 'e']
  | .boolean false => ['f', 'a', 'l', 's', 'e']
  | .integer value => (toString value).toList
  | .text value => printText value
  | .array [] => ['[', ']']
  | .array (first :: rest) =>
      '[' :: layout.lineStart (depth + 1) ++ print layout (depth + 1) first ++
        printItems layout (depth + 1) rest ++
        layout.lineStart depth ++ [']']
  | .object [] => ['\x7b', '\x7d']
  | .object ((name, value) :: rest) =>
      '\x7b' :: layout.lineStart (depth + 1) ++ printText name ++
        layout.colon ++ print layout (depth + 1) value ++
        printMembers layout (depth + 1) rest ++
        layout.lineStart depth ++ ['\x7d']
termination_by structural value => value

/-- The items of an array after the first, each behind a comma. -/
def printItems (layout : Layout) (depth : Nat) : List Json → List Char
  | [] => []
  | item :: rest =>
      ',' :: layout.lineStart depth ++ print layout depth item ++
        printItems layout depth rest
termination_by structural items => items

/-- The members of an object after the first, each behind a comma. -/
def printMembers (layout : Layout) (depth : Nat) :
    List (String × Json) → List Char
  | [] => []
  | (name, value) :: rest =>
      ',' :: layout.lineStart depth ++ printText name ++ layout.colon ++
        print layout depth value ++ printMembers layout depth rest
termination_by structural members => members

end

/-- The text of a JSON value. -/
def render (layout : Layout) (value : Json) : String :=
  String.ofList (print layout 0 value)

/-- Texts of so many bytes, and longer ones, are refused. -/
def sizeLimit : Nat := Nat.pow 2 63

/--
The text of a JSON value, unless it is too long.  The blanks for one level are
made first and must not be too many either.
-/
def render? (layout : Layout) (value : Json) : Option String :=
  if layout.indent < sizeLimit then
    let text := value.render layout
    if text.utf8ByteSize < sizeLimit then some text else none
  else
    none

theorem render?_eq_some_iff {layout : Layout} {value : Json}
    {text : String} :
    value.render? layout = some text ↔
      layout.indent < sizeLimit ∧ value.render layout = text ∧
        text.utf8ByteSize < sizeLimit := by
  by_cases inside : layout.indent < sizeLimit
  · by_cases short : (value.render layout).utf8ByteSize < sizeLimit
    · simp only [render?, inside, short, if_true, true_and,
        Option.some.injEq]
      constructor
      · rintro rfl
        exact ⟨rfl, short⟩
      · exact And.left
    · simp only [render?, inside, short, if_true, if_false, true_and,
        reduceCtorEq, false_iff]
      rintro ⟨rfl, size⟩
      exact short size
  · simp [render?, inside]

end ModalKeymap.Json
