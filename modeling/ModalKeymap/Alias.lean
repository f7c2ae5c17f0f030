import ModalKeymap.Text.Blank
import ModalKeymap.Text.Lowercase

/-!
# Aliases

Other names for keys and modifiers.  Names are compared after trimming and
lower-casing, on both sides of a table, and of two entries for one name the
later counts.  A token is looked up among the modifier aliases first and what
comes out among the key aliases, so that one step of chaining is possible.
-/

namespace ModalKeymap

/-- A name as tokens are compared: without margins, in lower case. -/
def Text.normalize (text : String) : String :=
  Text.lower (Text.trim text)

@[simp]
theorem Text.normalize_trim (text : String) :
    Text.normalize (Text.trim text) = Text.normalize text := by
  simp [Text.normalize]

/-- Alias entries as they were written, in order. -/
abbrev AliasTable := List (String × String)

namespace AliasTable

/-- The entries with both sides normalised. -/
def normalized (table : AliasTable) : AliasTable :=
  table.map fun entry => (Text.normalize entry.1, Text.normalize entry.2)

/-- What a normalised name stands for: the last entry for it counts. -/
def lookup? (table : AliasTable) (name : String) : Option String :=
  table.normalized.reverse.lookup name

/-- A normalised name with its alias replaced. -/
def resolve (table : AliasTable) (name : String) : String :=
  (table.lookup? name).getD name

/-- A name that no entry is for stands for itself. -/
theorem resolve_eq_self {table : AliasTable} {name : String}
    (absent : ∀ entry ∈ table, Text.normalize entry.1 ≠ name) :
    table.resolve name = name := by
  have missing : table.lookup? name = none := by
    rw [lookup?, List.lookup_eq_none_iff]
    intro entry member
    simp only [normalized, List.mem_reverse, List.mem_map] at member
    obtain ⟨written, inTable, rfl⟩ := member
    simpa using Ne.symm (absent written inTable)
  simp [resolve, missing]

end AliasTable

/-- The alias tables of a configuration. -/
structure Aliases where
  keys : AliasTable := []
  modifiers : AliasTable := []
  deriving DecidableEq, Repr

namespace Aliases

/-- The name that a token stands for. -/
def resolve (aliases : Aliases) (token : String) : String :=
  aliases.keys.resolve (aliases.modifiers.resolve (Text.normalize token))

/-- Only the key aliases. -/
def keysOnly (aliases : Aliases) : Aliases :=
  { aliases with modifiers := [] }

@[simp]
theorem resolve_trim (aliases : Aliases) (token : String) :
    aliases.resolve (Text.trim token) = aliases.resolve token := by
  simp [resolve]

@[simp]
theorem resolve_empty (token : String) :
    ({} : Aliases).resolve token = Text.normalize token := rfl

end Aliases

end ModalKeymap
