import ModalKeymap.Rule

/-!
# Documents

A complete settings document of the remapper: whether it shows itself in the
menu bar, and profiles with their rules.
-/

namespace ModalKeymap

/-- A named list of rules. -/
structure Profile where
  name : String := "Default"
  rules : List Rule := []
  deriving DecidableEq, Repr

/-- A complete settings document. -/
structure Document where
  showInMenuBar : Bool := false
  profiles : List Profile := []
  deriving DecidableEq, Repr

namespace Document

/-- The document with a single profile. -/
def single (rules : List Rule) (profile : String := "Default")
    (showInMenuBar : Bool := false) : Document where
  showInMenuBar := showInMenuBar
  profiles := [{ name := profile, rules := rules }]

/-- All rules of a document, in order. -/
def rules (document : Document) : List Rule :=
  document.profiles.flatMap Profile.rules

/-- All manipulators of a document, in order. -/
def manipulators (document : Document) : List Manipulator :=
  document.rules.flatMap Rule.manipulators

@[simp]
theorem rules_single (rules : List Rule) (profile : String)
    (showInMenuBar : Bool) :
    (single rules profile showInMenuBar).rules = rules := by
  simp [single, Document.rules]

end Document

end ModalKeymap
