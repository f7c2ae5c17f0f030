import ModalKeymap.KeyCode
import ModalKeymap.Text.Quoted

/-!
# The log

What a run reports beside its result: a warning for each sublayer that binds
nothing, and progress at two levels of detail.
-/

namespace ModalKeymap

/-- How much an entry of the log matters, least first. -/
inductive Severity where
  | debug
  | info
  | warning
  deriving DecidableEq, Repr

/-- The written name of a severity. -/
def Severity.name : Severity → String
  | .debug => "DEBUG"
  | .info => "INFO"
  | .warning => "WARNING"

/-- Something worth reporting. -/
inductive LogEntry where
  | emptySublayer (path : KeyPath)
  | sublayerDone (path : KeyPath) (manipulators : Nat)
  | layersDone (groups sublayers : Nat)
  | written (rules : Nat) (target : String)
  deriving DecidableEq, Repr

namespace LogEntry

/-- How much an entry matters. -/
def severity : LogEntry → Severity
  | .emptySublayer _ => .warning
  | .sublayerDone .. => .debug
  | .layersDone .. => .debug
  | .written .. => .info

/-- The part of the program that an entry comes from. -/
def origin : LogEntry → String
  | .written .. => "leader_layers.karabiner.compiler"
  | _ => "leader_layers.karabiner.backend"

/-- The text of an entry. -/
def message : LogEntry → String
  | .emptySublayer path =>
      "sublayer " ++ Text.quoted path.describe ++ " has no entries"
  | .sublayerDone path manipulators =>
      "sublayer " ++ Text.quoted path.describe ++ " -> " ++
        toString manipulators ++ " manipulators"
  | .layersDone groups sublayers =>
      "compiled " ++ toString groups ++ " rule groups (" ++
        toString sublayers ++ " sublayers)"
  | .written rules target =>
      "wrote " ++ toString rules ++ " rules to " ++ target

/-- An entry as a line of the log. -/
def line (entry : LogEntry) : String :=
  entry.severity.name ++ " " ++ entry.origin ++ ": " ++ entry.message ++ "\n"

/-- Whether an entry is shown; every one is if more detail is asked for. -/
def isShown (verbose : Bool) (entry : LogEntry) : Bool :=
  verbose || entry.severity != .debug

end LogEntry

end ModalKeymap
