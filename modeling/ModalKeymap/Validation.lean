import ModalKeymap.KeyCode
import ModalKeymap.Modifier
import ModalKeymap.Value.Literal

/-!
# Validation

Checking dynamic values against the shape that is expected of them.  A check
goes on past a violation, so that all violations of a value are reported, in
the order in which its fields are declared.  Each violation says what was
expected and at which place in the value.

Checks are lenient: a floating-point number that is equal to an integer
counts as one unless it is huge, and truth values may be written as numbers or
words.
-/

namespace ModalKeymap

/-- What a value was expected to be, and was not. -/
inductive Expectation where
  | given
  | text
  | list
  | mapping
  | nonempty
  | memberOfEnumeration
  | fixedWord
  | record
  | taggedRecord
  | tag
  | knownTag
  | truthWord
  | truthValue
  | integer
  | wholeNumber
  | finiteNumber
  /-- A floating-point number that is an integer of at most 64 bits. -/
  | wordSized
  deriving DecidableEq, Repr

/-- The name under which an unmet expectation is reported. -/
def Expectation.code : Expectation → String
  | .given => "missing"
  | .text => "string_type"
  | .list => "list_type"
  | .mapping => "dict_type"
  | .nonempty => "too_short"
  | .memberOfEnumeration => "enum"
  | .fixedWord => "literal_error"
  | .record => "model_type"
  | .taggedRecord => "model_attributes_type"
  | .tag => "union_tag_not_found"
  | .knownTag => "union_tag_invalid"
  | .truthWord => "bool_parsing"
  | .truthValue => "bool_type"
  | .integer => "int_type"
  | .wholeNumber => "int_from_float"
  | .finiteNumber => "finite_number"
  | .wordSized => "int_parsing_size"

/-- One step from a value to a part of it. -/
inductive Step where
  | name (name : String)
  | number (number : Int)
  deriving DecidableEq, Repr

/-- The first integer above those of a signed 64-bit word. -/
def wordBound : Int := Nat.pow 2 63

/-- Whether an integer fits a signed 64-bit word. -/
def fitsWord (number : Int) : Bool :=
  -wordBound ≤ number && number < wordBound

/--
Whether a floating-point number that is equal to an integer counts as one.
The least integer of a word is left out.
-/
def isConvertible (whole : Int) : Bool :=
  -wordBound < whole && whole < wordBound

/-- The step to the value under a key. -/
def Step.ofKey : Scalar → Step
  | .text key => .name key
  | .boolean key => .number key.toInt
  | .integer key =>
      if fitsWord key then .number key else .name (toString key)
  | key => .name key.literal

/-- The step that marks a key itself, after the step to its value. -/
def Step.key : Step := .name "[key]"

/-- An expectation that was not met, and where. -/
structure Violation where
  expected : Expectation
  place : List Step
  deriving DecidableEq, Repr

/-- A step in a message. -/
def Step.text : Step → String
  | .name written => written
  | .number position => toString position

/-- The place of a violation and what was expected there. -/
def Violation.message (violation : Violation) : String :=
  ".".intercalate (violation.place.map Step.text) ++ ": " ++
    violation.expected.code

/-- The outcome of a check: what was read, or all violations in order. -/
inductive Checked (α : Type) where
  | valid (value : α)
  | invalid (violations : List Violation)
  deriving Repr

namespace Checked

variable {α β : Type}

/-- The outcome for a value that fails one expectation as a whole. -/
def fail (expected : Expectation) : Checked α :=
  .invalid [⟨expected, []⟩]

/-- Apply a function to what was read. -/
def map (function : α → β) : Checked α → Checked β
  | .valid value => .valid (function value)
  | .invalid violations => .invalid violations

/-- Two checks side by side: the violations of both are reported. -/
def apply : Checked (α → β) → Checked α → Checked β
  | .valid function, .valid value => .valid (function value)
  | .valid _, .invalid violations => .invalid violations
  | .invalid violations, .valid _ => .invalid violations
  | .invalid first, .invalid second => .invalid (first ++ second)

instance : Functor Checked where
  map := map

instance : Seq Checked where
  seq function argument := apply function (argument ())

/-- A check of a part, seen from the whole. -/
def within (step : Step) : Checked α → Checked α
  | .valid value => .valid value
  | .invalid violations =>
      .invalid (violations.map fun violation =>
        { violation with place := step :: violation.place })

/-- The outcome without the list of violations. -/
def value? : Checked α → Option α
  | .valid value => some value
  | .invalid _ => none

/-- The outcome as a result or a list of violations. -/
def toExcept : Checked α → Except (List Violation) α
  | .valid value => .ok value
  | .invalid violations => .error violations

@[simp]
theorem within_valid (step : Step) (value : α) :
    (Checked.valid value).within step = .valid value := rfl

theorem map_eq_valid_iff {function : α → β} {checked : Checked α}
    {result : β} :
    (function <$> checked) = .valid result ↔
      ∃ value, checked = .valid value ∧ function value = result := by
  cases checked <;> simp [Functor.map, map]

theorem seq_eq_valid_iff {functions : Checked (α → β)}
    {checked : Checked α} {result : β} :
    (functions <*> checked) = .valid result ↔
      ∃ function value, functions = .valid function ∧
        checked = .valid value ∧ function value = result := by
  cases functions <;> cases checked <;> simp [Seq.seq, apply]

theorem within_eq_valid_iff {step : Step} {checked : Checked α}
    {result : α} :
    checked.within step = .valid result ↔ checked = .valid result := by
  cases checked <;> simp [within]

end Checked

/-! ### Checks of single values -/

/-- A check of one value. -/
abbrev Check (α : Type) := Value → Checked α

namespace Check

variable {α κ : Type}

/-- A text. -/
def text : Check String
  | .text value => .valid value
  | _ => .fail .text

/-- A text that is one of the words of a vocabulary. -/
def word (read? : String → Option α) : Check α
  | .text value =>
      match read? value with
      | some member => .valid member
      | none => .fail .memberOfEnumeration
  | _ => .fail .memberOfEnumeration

/-- The key code of a name. -/
def key : Check KeyCode := word KeyCode.ofName?

/-- The modifier of a name. -/
def modifier : Check Modifier := word Modifier.ofName?

/-- A fixed word. -/
def fixedWord (expected : String) : Check Unit
  | .text value => if value = expected then .valid () else .fail .fixedWord
  | _ => .fail .fixedWord

/-- The truth value of a word, in any case. -/
def truthOfWord? (written : String) : Option Bool :=
  let lowered := written.toList.map Char.toLower
  if ["0", "f", "n", "no", "off", "false"].any (·.toList == lowered) then
    some false
  else if ["1", "t", "y", "yes", "on", "true"].any
      (·.toList == lowered) then
    some true
  else
    none

/-- The truth value of a number. -/
def truthOfNumber (number : Int) : Checked Bool :=
  if number = 0 then
    .valid false
  else if number = 1 then
    .valid true
  else
    .fail .truthWord

/-- A truth value, a word for one, or a number equal to 0 or 1. -/
def truth : Check Bool
  | .boolean value => .valid value
  | .text written =>
      match truthOfWord? written with
      | some value => .valid value
      | none => .fail .truthWord
  | .integer number =>
      if fitsWord number then truthOfNumber number else .fail .truthValue
  | .real number =>
      match number.integer? with
      | some whole =>
          if isConvertible whole then
            truthOfNumber whole
          else
            .fail .truthValue
      | none => .fail .truthValue
  | _ => .fail .truthValue

/-- Null or a value of the given kind. -/
def nullable (check : Check α) : Check (Option α)
  | .null => .valid none
  | value => some <$> check value

/-- The items of a list, counted from a given number. -/
def items (check : Check α) (start : Nat) :
    List Value → Checked (List α)
  | [] => .valid []
  | item :: rest =>
      List.cons <$> (check item).within (.number start) <*>
        items check (start + 1) rest

/-- A list of values of the given kind. -/
def list (check : Check α) : Check (List α)
  | .list values => items check 0 values
  | _ => .fail .list

/-- A key of a mapping, checked like a value. -/
def memberKey (check : Check κ) (written : Scalar) : Checked κ :=
  ((check (.scalar written)).within .key).within (.ofKey written)

/-- The members of a mapping, each key before its value. -/
def members (key : Check κ) (value : Check α) :
    List (Scalar × Value) → Checked (List (κ × α))
  | [] => .valid []
  | (written, content) :: rest =>
      (fun key value others => (key, value) :: others) <$>
        memberKey key written <*>
        (value content).within (.ofKey written) <*>
        members key value rest

/-- A mapping with keys and values of given kinds. -/
def mapping (key : Check κ) (value : Check α) : Check (List (κ × α))
  | .mapping content => members key value content
  | _ => .fail .mapping

/-- A mapping from texts to texts. -/
def textMapping : Check (List (String × String)) :=
  mapping text text

/-- A record: a mapping whose members are fields. -/
def record (fields : Members → Checked α) : Check α
  | .mapping members => fields members
  | _ => .fail .record

end Check

/-! ### Fields of records -/

namespace Members

variable {α : Type}

/-- A field that has to be there. -/
def required (name : String) (check : Check α) (members : Members) :
    Checked α :=
  match members.get? name with
  | some value => (check value).within (.name name)
  | none => (Checked.fail .given).within (.name name)

/-- A field with a default. -/
def optional (name : String) (default : α) (check : Check α)
    (members : Members) : Checked α :=
  match members.get? name with
  | some value => (check value).within (.name name)
  | none => .valid default

/-- A field of which the value may be null as well as absent. -/
def maybe (name : String) (check : Check α) (members : Members) :
    Checked (Option α) :=
  members.optional name none check.nullable

/-- A required field with an alias, which goes before its name. -/
def requiredAs (aliasName name : String) (check : Check α)
    (members : Members) : Checked α :=
  match members.get? aliasName, members.get? name with
  | none, some _ => members.required name check
  | _, _ => members.required aliasName check

/-- A field with a default and an alias, which goes before its name. -/
def optionalAs (aliasName name : String) (default : α) (check : Check α)
    (members : Members) : Checked α :=
  match members.get? aliasName with
  | some _ => members.optional aliasName default check
  | none => members.optional name default check

end Members

end ModalKeymap
