import ModalKeymap.Json.Document
import ModalKeymap.Settings.Document
import ModalKeymap.Toml
import ModalKeymap.Validation.Settings

/-!
# From a settings file to a document file

The whole way from the bytes of a settings file to the text of a document:
reading, checking, making the rules, writing.  The first step that fails
decides what is reported.
-/

namespace ModalKeymap

/-- How far each level of a document file is asked to be indented. -/
inductive Indent where
  /-- Not at all, with everything on one line. -/
  | compact
  | spaces (count : Int)
  /-- An indent was announced, but no number given. -/
  | unspecified
  deriving DecidableEq, Repr

/-- The indent that a value asks for; null asks for none. -/
def Indent.ofValue : Value → Indent
  | .null => .compact
  | .boolean value => .spaces value.toInt
  | .integer value => .spaces value
  | _ => .unspecified

/-- Why no document file can be made of a settings file. -/
inductive BuildFault where
  | file (fault : FileFault)
  | invalid (violations : List Violation)
  | settings (fault : SettingsFault)
  /-- The indent is negative or huge. -/
  | indentRange
  /-- No number was given for the indent. -/
  | noIndent
  /-- The text is longer than any can be. -/
  | textSize
  deriving Repr

/-- The wording of a fault. -/
def BuildFault.message : BuildFault → String
  | .file .notText => "the settings file is not UTF-8"
  | .file (.malformed fault) => fault.message
  | .invalid violations =>
      "\n".intercalate (violations.map Violation.message)
  | .settings fault => fault.message
  | .indentRange => "the indent is out of range"
  | .noIndent => "the indent is not a number"
  | .textSize => "the text is too long"

/-- The layout that an indent asks for. -/
def Indent.layout? : Indent → Except BuildFault Json.Layout
  | .compact => .ok .compact
  | .spaces count =>
      match Json.Layout.ofIndent? count with
      | some layout => .ok layout
      | none => .error .indentRange
  | .unspecified => .error .noIndent

/-- The text of a JSON value with the indent that is asked for. -/
def Indent.dump? (indent : Indent) (value : Json) :
    Except BuildFault String := do
  let layout ← indent.layout?
  match value.render? layout with
  | some text => return text
  | none => throw .textSize

/-- The text of a rule with the indent that is asked for. -/
def Rule.dump? (indent : Indent) (rule : Rule) :
    Except BuildFault String :=
  indent.dump? rule.toJson

/-- The text of a document with the indent that is asked for. -/
def Document.dump? (indent : Indent) (document : Document) :
    Except BuildFault String :=
  indent.dump? document.toJson

/-- A document file and what making it reported. -/
structure Build where
  document : Document
  text : String
  log : List LogEntry
  deriving DecidableEq, Repr

namespace Build

/-- The settings in the bytes of a settings file. -/
def settings? (bytes : ByteArray) : Except BuildFault Settings := do
  let value ← (Toml.ofBytes bytes).mapError .file
  (Settings.check value).toExcept.mapError .invalid

/-- The document file for the bytes of a settings file. -/
def ofBytes? (indent : Indent) (bytes : ByteArray) :
    Except BuildFault Build := do
  let settings ← settings? bytes
  let compilation ← settings.compile?.mapError .settings
  let text ← compilation.document.dump? indent
  return {
    document := compilation.document
    text := text ++ "\n"
    log := compilation.log }

end Build

end ModalKeymap
