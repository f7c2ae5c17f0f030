import ModalKeymap.Command

/-!
# Layers of bindings

A layer binds keys, in order, to commands or to further layers.  `Bindings`
is the list of bindings of one layer with the nested layers inside it, so
that one induction covers a whole tree; `Bindings.toList` is the same layer
as a list of keys and entries.  Two properties that a tree may have are
stated beside it: the keys of each layer are distinct (`KeysDistinct`), and
each sublayer is registered under its own name (`SelfNamed`).
-/

namespace ModalKeymap

/-- The bindings of one layer, in order, with everything nested in them. -/
inductive Bindings where
  | nil
  /-- A key that fires a command. -/
  | fires (key : KeyCode) (command : Command) (rest : Bindings)
  /-- A key that opens a sublayer, which also has a name of its own. -/
  | opens (key name : KeyCode) (description : Option String)
      (inner rest : Bindings)
  deriving DecidableEq, Repr

/-- A layer that another layer opens. -/
structure Sublayer where
  name : KeyCode
  description : Option String
  inner : Bindings
  deriving DecidableEq, Repr

/-- What a key of a layer is bound to. -/
inductive Entry where
  | command (command : Command)
  | sublayer (sublayer : Sublayer)
  deriving DecidableEq, Repr

namespace Bindings

/-- Bind one more key, in front of the others. -/
def cons (key : KeyCode) : Entry → Bindings → Bindings
  | .command command, rest => .fires key command rest
  | .sublayer ⟨name, description, inner⟩, rest =>
      .opens key name description inner rest

/-- The bindings of a layer as keys and entries. -/
def toList : Bindings → List (KeyCode × Entry)
  | .nil => []
  | .fires key command rest => (key, .command command) :: rest.toList
  | .opens key name description inner rest =>
      (key, .sublayer ⟨name, description, inner⟩) :: rest.toList

/-- The layer with given keys and entries. -/
def ofList : List (KeyCode × Entry) → Bindings
  | [] => .nil
  | (key, entry) :: rest => cons key entry (ofList rest)

@[simp]
theorem toList_nil : Bindings.nil.toList = [] := rfl

@[simp]
theorem toList_cons (key : KeyCode) (entry : Entry) (rest : Bindings) :
    (cons key entry rest).toList = (key, entry) :: rest.toList := by
  cases entry <;> rfl

@[simp]
theorem toList_ofList (entries : List (KeyCode × Entry)) :
    (ofList entries).toList = entries := by
  induction entries with
  | nil => rfl
  | cons first rest ih => simp [ofList, ih]

/-- The keys that a layer binds, in order. -/
def keys (bindings : Bindings) : List KeyCode :=
  bindings.toList.map Prod.fst

@[simp]
theorem keys_nil : Bindings.nil.keys = [] := rfl

@[simp]
theorem keys_fires (key : KeyCode) (command : Command) (rest : Bindings) :
    (Bindings.fires key command rest).keys = key :: rest.keys := rfl

@[simp]
theorem keys_opens (key name : KeyCode) (description : Option String)
    (inner rest : Bindings) :
    (Bindings.opens key name description inner rest).keys =
      key :: rest.keys := rfl

/-- The commands of a layer itself, in order, with their keys. -/
def commands : Bindings → List (KeyCode × Command)
  | .nil => []
  | .fires key command rest => (key, command) :: rest.commands
  | .opens _ _ _ _ rest => rest.commands

/-- The sublayers of a layer itself, in order, with their keys. -/
def sublayers : Bindings → List (KeyCode × Sublayer)
  | .nil => []
  | .fires _ _ rest => rest.sublayers
  | .opens key name description inner rest =>
      (key, ⟨name, description, inner⟩) :: rest.sublayers

/-- What a key of a layer is bound to; of two bindings the first counts. -/
def bound? (key : KeyCode) : Bindings → Option Entry
  | .nil => none
  | .fires bound command rest =>
      if bound = key then some (.command command) else rest.bound? key
  | .opens bound name description inner rest =>
      if bound = key then some (.sublayer ⟨name, description, inner⟩)
      else rest.bound? key

/-- The layer that a sequence of keys leads to from a layer. -/
def layer? : KeyPath → Bindings → Option Bindings
  | [], layer => some layer
  | key :: rest, layer =>
      match layer.bound? key with
      | some (.sublayer sublayer) => sublayer.inner.layer? rest
      | _ => none

theorem bound?_eq_lookup (key : KeyCode) (bindings : Bindings) :
    bindings.bound? key = bindings.toList.lookup key := by
  induction bindings with
  | nil => rfl
  | fires bound command rest ih =>
      by_cases same : bound = key
      · simp [bound?, toList, same]
      · have different : (key == bound) = false := by
          simpa using Ne.symm same
        simp [bound?, toList, List.lookup_cons, same, different, ih]
  | opens bound name description inner rest _ ih =>
      by_cases same : bound = key
      · simp [bound?, toList, same]
      · have different : (key == bound) = false := by
          simpa using Ne.symm same
        simp [bound?, toList, List.lookup_cons, same, different, ih]

theorem bound?_eq_none_iff {key : KeyCode} {bindings : Bindings} :
    bindings.bound? key = none ↔ key ∉ bindings.keys := by
  induction bindings with
  | nil => simp [bound?]
  | fires bound command rest ih => grind [bound?, keys_fires]
  | opens bound name description inner rest _ ih =>
      grind [bound?, keys_opens]

/-- No layer of the tree binds a key twice. -/
def KeysDistinct : Bindings → Prop
  | .nil => True
  | .fires key _ rest => key ∉ rest.keys ∧ rest.KeysDistinct
  | .opens key _ _ inner rest =>
      key ∉ rest.keys ∧ inner.KeysDistinct ∧ rest.KeysDistinct

/-- Every sublayer of the tree is registered under its own name. -/
def SelfNamed : Bindings → Prop
  | .nil => True
  | .fires _ _ rest => rest.SelfNamed
  | .opens key name _ inner rest =>
      name = key ∧ inner.SelfNamed ∧ rest.SelfNamed

/-- How deep sublayers are nested: 0 where there are none. -/
def depth : Bindings → Nat
  | .nil => 0
  | .fires _ _ rest => rest.depth
  | .opens _ _ _ inner rest => max (inner.depth + 1) rest.depth

/--
Every command of the tree with the keys that lead to it, depth first, given
the keys that lead to this layer.
-/
def commandsBelow (path : KeyPath) : Bindings → List (KeyPath × Command)
  | .nil => []
  | .fires key command rest =>
      (path ++ [key], command) :: rest.commandsBelow path
  | .opens key _ _ inner rest =>
      inner.commandsBelow (path ++ [key]) ++ rest.commandsBelow path

instance decidableKeysDistinct :
    (bindings : Bindings) → Decidable bindings.KeysDistinct
  | .nil => .isTrue trivial
  | .fires key _ rest =>
      have := decidableKeysDistinct rest
      inferInstanceAs (Decidable (key ∉ rest.keys ∧ rest.KeysDistinct))
  | .opens key _ _ inner rest =>
      have := decidableKeysDistinct inner
      have := decidableKeysDistinct rest
      inferInstanceAs (Decidable
        (key ∉ rest.keys ∧ inner.KeysDistinct ∧ rest.KeysDistinct))

instance decidableSelfNamed :
    (bindings : Bindings) → Decidable bindings.SelfNamed
  | .nil => .isTrue trivial
  | .fires _ _ rest => decidableSelfNamed rest
  | .opens key name _ inner rest =>
      have := decidableSelfNamed inner
      have := decidableSelfNamed rest
      inferInstanceAs (Decidable
        (name = key ∧ inner.SelfNamed ∧ rest.SelfNamed))

end Bindings

end ModalKeymap
