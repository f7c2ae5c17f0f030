import ModalKeymap.Text.LineBreak
import ModalKeymap.Toml.Moment
import ModalKeymap.Toml.Number
import ModalKeymap.Toml.Table
import ModalKeymap.Toml.Text

/-!
# TOML documents

Values, statements and whole documents of TOML 1.0.  A document is read line
by line: each line holds nothing, a header, or a key with its value, and may
end in a comment.
-/

namespace ModalKeymap.Toml

mutual

/-- A value. -/
def readValue (fuel : Nat) (text : List Char) :
    Except ReadFault (Front Value) :=
  match fuel, text with
  | fuel + 1, '[' :: rest => do
      readArray fuel [] (← skipFiller rest)
  | fuel + 1, '\x7b' :: rest =>
      match skipSpacing rest with
      | '\x7d' :: behind => .ok (.mapping [], behind)
      | inside => readInlineTable fuel {} inside
  | _ + 1, '"' :: rest => do
      let (body, behind) ← readText ('"' :: rest)
      return (.text body, behind)
  | _ + 1, '\'' :: rest => do
      let (body, behind) ← readText ('\'' :: rest)
      return (.text body, behind)
  | _ + 1, 't' :: 'r' :: 'u' :: 'e' :: rest => .ok (.boolean true, rest)
  | _ + 1, 'f' :: 'a' :: 'l' :: 's' :: 'e' :: rest =>
      .ok (.boolean false, rest)
  | _ + 1, text =>
      match moment? text with
      | some reading => reading
      | none => readNumber text
  | 0, _ => malformed

/--
The rest of an array, where a value or its end may stand, behind the items
that have been read, in reverse.
-/
def readArray (fuel : Nat) (done : List Value) (text : List Char) :
    Except ReadFault (Front Value) :=
  match fuel, text with
  | _ + 1, ']' :: rest => .ok (.list done.reverse, rest)
  | fuel + 1, text => do
      let (value, behind) ← readValue fuel text
      match ← skipFiller behind with
      | ']' :: rest => return (.list (value :: done).reverse, rest)
      | ',' :: rest => readArray fuel (value :: done) (← skipFiller rest)
      | _ => malformed
  | 0, _ => malformed

/-- The rest of a table in braces, where a key has to stand. -/
def readInlineTable (fuel : Nat) (builder : InlineBuilder)
    (text : List Char) : Except ReadFault (Front Value) :=
  match fuel with
  | 0 => malformed
  | fuel + 1 => do
      let ((first, more), behind) ← readKey text
      let start ← expect ['='] behind
      let (value, behind) ← readValue fuel (skipSpacing start)
      let builder ← builder.assign (first :: more) value
      match skipSpacing behind with
      | '\x7d' :: rest => return (.mapping builder.table, rest)
      | ',' :: rest => readInlineTable fuel builder (skipSpacing rest)
      | _ => malformed

end

/-- One header, or one key with its value, in front of a text. -/
def readStatement (builder : Builder) (text : List Char) :
    Except ReadFault (Front Builder) :=
  match text with
  | '[' :: '[' :: rest => do
      let ((first, more), behind) ← readKey (skipSpacing rest)
      let changed ←
        builder.beginHeader.declareArrayTable (first :: more)
      return (changed, ← expect [']', ']'] behind)
  | '[' :: rest => do
      let ((first, more), behind) ← readKey (skipSpacing rest)
      let changed ← builder.beginHeader.declareTable (first :: more)
      return (changed, ← expect [']'] behind)
  | '#' :: _ => .ok (builder, text)
  | _ => do
      let ((first, more), behind) ← readKey text
      let start ← expect ['='] behind
      let (value, rest) ←
        readValue (text.length + 1) (skipSpacing start)
      return (← builder.assign (first :: more) value, rest)

/-- The lines of a document. -/
def readLines (fuel : Nat) (builder : Builder) (text : List Char) :
    Except ReadFault Builder :=
  match fuel, skipSpacing text with
  | _, [] => .ok builder
  | fuel + 1, '\n' :: rest => readLines fuel builder rest
  | fuel + 1, line => do
      let (changed, behind) ← readStatement builder line
      match ← skipComment (skipSpacing behind) with
      | [] => return changed
      | '\n' :: rest => readLines fuel changed rest
      | _ => malformed
  | 0, _ => malformed

/-- The value of a document given as characters. -/
def parse (text : List Char) : Except ReadFault Value := do
  let builder ← readLines (text.length + 1) {} text
  return .mapping builder.tables

end ModalKeymap.Toml

namespace ModalKeymap

/-- Why the bytes of a settings file cannot be read. -/
inductive FileFault where
  /-- The bytes are no UTF-8. -/
  | notText
  | malformed (fault : Toml.ReadFault)
  deriving DecidableEq, Repr

/-- The value of a settings file, from its bytes. -/
def Toml.ofBytes (bytes : ByteArray) : Except FileFault Value :=
  match String.fromUTF8? bytes with
  | none => .error .notText
  | some text =>
      (Toml.parse (Text.unifyLineBreaks text.toList)).mapError .malformed

end ModalKeymap
