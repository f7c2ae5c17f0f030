import ModalKeymap.Chord
import ModalKeymap.Command

/-!
# Command expressions

A command in a settings file is written `kind:argument`.  The kind says what
to do with the argument: `open`, `bg-open`, `app`, `shell` and `consumer`
take it as it stands, `key` reads it as a chord.  Everything after the first
colon belongs to the argument.
-/

namespace ModalKeymap

/-- Why a text is no command expression. -/
inductive ExpressionFault where
  | malformed (expression : String)
  | unknownKind (kind expression : String)
  | noExpressions
  | chord (fault : ChordFault)
  deriving Repr

/-- The wording of a fault. -/
def ExpressionFault.message : ExpressionFault → String
  | .malformed expression =>
      "invalid command expression (expected prefix:argument): " ++
        Text.quoted expression
  | .unknownKind kind expression =>
      "unknown command prefix: " ++ Text.quoted kind ++
        " (from " ++ Text.quoted expression ++ ")"
  | .noExpressions => "command list is empty"
  | .chord fault => fault.message

namespace Command

/-- The command of a kind with a literal argument. -/
def ofKind? (kind argument : String) : Option Command :=
  match kind with
  | "open" => some (openTarget argument)
  | "bg-open" => some (openInBackground argument)
  | "app" => some (launch argument)
  | "shell" => some (run argument)
  | "consumer" => some (consumer argument)
  | _ => none

/-- The kind and the argument of an expression, neither trimmed. -/
def parts? (expression : String) : Option (String × String) :=
  (Text.cutAt? ':' expression.toList).map fun parts =>
    (String.ofList parts.1, String.ofList parts.2)

/-- The kind is what stands before the first colon. -/
theorem parts?_append {kind : String} (kindIs : ':' ∉ kind.toList)
    (argument : String) :
    parts? (kind ++ ":" ++ argument) = some (kind, argument) := by
  have cut : Text.cutAt? ':' (kind ++ ":" ++ argument).toList =
      some (kind.toList, argument.toList) :=
    Text.cutAt?_eq_some_iff.mpr ⟨by simp, kindIs⟩
  rw [parts?, cut]
  simp

/-- The command that an expression writes. -/
def read? (aliases : Aliases) (expression : String) :
    Except ExpressionFault Command :=
  match parts? expression with
  | none => .error (.malformed expression)
  | some (writtenKind, writtenArgument) =>
      let kind := Text.normalize writtenKind
      let argument := Text.trim writtenArgument
      if argument.isEmpty then
        .error (.malformed expression)
      else if kind = "key" then
        match Chord.read? Chord.plus aliases argument with
        | .ok chord => .ok (press chord.key chord.modifiers)
        | .error fault => .error (.chord fault)
      else
        match ofKind? kind argument with
        | some command => .ok command
        | none => .error (.unknownKind kind expression)

/-- The command that a list of expressions writes, one after another. -/
def readAll? (aliases : Aliases) (expressions : List String) :
    Except ExpressionFault Command := do
  let commands ← expressions.mapM (read? aliases)
  if commands.isEmpty then
    .error .noExpressions
  else
    return merge commands

end Command

end ModalKeymap
