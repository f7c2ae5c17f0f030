import ModalKeymap.KeyCode

/-!
# Flags of sublayers

Every sublayer has a variable of its own that says whether it is live: its
flag, derived from the names on the way to it.  The usual naming joins the
names with underscores behind a fixed lead; any other function may be used.
-/

namespace ModalKeymap

/-- How the flag of a sublayer is derived from its path. -/
inductive FlagNaming where
  /-- A fixed lead, then the names joined by underscores. -/
  | underscored (lead : String)
  /-- Any function of the path. -/
  | custom (flag : KeyPath → String)

namespace FlagNaming

/-- The naming that is used unless another is asked for. -/
def standard : FlagNaming := .underscored "sublayer_"

/-- The flag of the sublayer at a path. -/
def flag : FlagNaming → KeyPath → String
  | .underscored lead, path =>
      lead ++ "_".intercalate (path.map KeyCode.name)
  | .custom flag, path => flag path

/-- The flag at a path, where the usual naming refuses the empty path. -/
def flag? (naming : FlagNaming) (path : KeyPath) : Option String :=
  match naming, path with
  | .underscored _, [] => none
  | _, _ => some (naming.flag path)

theorem flag?_of_ne_nil (naming : FlagNaming) {path : KeyPath}
    (notEmpty : path ≠ []) : naming.flag? path = some (naming.flag path) := by
  cases path with
  | nil => exact absurd rfl notEmpty
  | cons first rest => cases naming <;> rfl

end FlagNaming

/--
What the rules of one document have in common: the flags of sublayers, the
variable of the leader, and the key that leaves a sublayer.
-/
structure Conventions where
  naming : FlagNaming := .standard
  leader : String := "leader"
  escape : KeyCode := .escape

/-- The flag of the sublayer at a path. -/
def Conventions.flag (conventions : Conventions) (path : KeyPath) : String :=
  conventions.naming.flag path

end ModalKeymap
