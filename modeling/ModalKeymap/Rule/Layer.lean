import ModalKeymap.Bindings
import ModalKeymap.FlagNaming
import ModalKeymap.LayerFault
import ModalKeymap.Log
import ModalKeymap.Rule

/-!
# The rules of a layer tree

Every sublayer has a flag.  It is entered by its name while the layer above
it (the leader, for a top-level one) is live and every other flag is off,
left by the escape key, and left by each of its commands once the command is
done.  A layer whose flag is the empty text has none to enter from; its
sublayers are entered from the leader.  `Bindings.groups` lists the
sublayers of a tree depth first, parents before children;
`Conventions.rules` makes one group of manipulators for each;
`Conventions.fault?` says why a tree is refused, and `Conventions.compile?`
makes the rules of a tree that is not.
-/

namespace ModalKeymap

/-- A sublayer of a tree, with its place in it. -/
structure LayerGroup where
  /-- The names from the top level down to this sublayer. -/
  path : KeyPath
  name : KeyCode
  inner : Bindings
  /-- The variable of the layer that this one is entered from. -/
  parentFlag : String
  deriving DecidableEq, Repr

namespace Bindings

/--
The sublayers of a tree, depth first and parents before children, given the
path and the variable of the layer that holds the tree.
-/
def groups (entryFlag : KeyPath → String) (path : KeyPath)
    (parentFlag : String) : Bindings → List LayerGroup
  | .nil => []
  | .fires _ _ rest => rest.groups entryFlag path parentFlag
  | .opens _ name _ inner rest =>
      { path := path ++ [name]
        name := name
        inner := inner
        parentFlag := parentFlag } ::
        (inner.groups entryFlag (path ++ [name])
            (entryFlag (path ++ [name])) ++
          rest.groups entryFlag path parentFlag)

end Bindings

namespace Conventions

/--
The variable that the sublayers of the layer at a path are entered from: the
flag of that layer, or the leader where the flag is the empty text.
-/
def entryFlag (conventions : Conventions) (path : KeyPath) : String :=
  if (conventions.flag path).isEmpty then conventions.leader
  else conventions.flag path

/-- The sublayers of a tree under these conventions. -/
def groups (conventions : Conventions) (tree : Bindings) :
    List LayerGroup :=
  tree.groups conventions.entryFlag [] conventions.leader

/-- The flags of a tree with the paths that they belong to, in order. -/
def flagTable (conventions : Conventions) (tree : Bindings) :
    List (String × KeyPath) :=
  (conventions.groups tree).map fun group =>
    (conventions.flag group.path, group.path)

/-- The flags of a tree, in order. -/
def flags (conventions : Conventions) (tree : Bindings) : List String :=
  (conventions.flagTable tree).map Prod.fst

/-- What entering a sublayer does to the variables. -/
def entering (conventions : Conventions) (group : LayerGroup) :
    List Event :=
  [.switch (conventions.flag group.path) true,
    .switch group.parentFlag false] ++
    (if group.parentFlag = conventions.leader then []
      else [.switch conventions.leader false])

/--
When a sublayer may be entered: its parent is live and all flags but the two
are off, in the order of the flags' names.
-/
def entryConditions (conventions : Conventions) (flags : List String)
    (group : LayerGroup) : List Condition :=
  ((flags.mergeSort (· ≤ ·)).filter fun other =>
      other ≠ conventions.flag group.path && other ≠ group.parentFlag).map
    (Condition.isOn · false) ++ [.isOn group.parentFlag true]

/-- The manipulator that enters a sublayer. -/
def entryManipulator (conventions : Conventions) (flags : List String)
    (group : LayerGroup) : Manipulator where
  description := some ("Enable Leader sublayer " ++ group.path.describe)
  trigger := .anyModifiers group.name
  events := conventions.entering group
  conditions := conventions.entryConditions flags group

/-- The manipulator that leaves a sublayer by the escape key. -/
def escapeManipulator (conventions : Conventions) (group : LayerGroup) :
    Manipulator where
  description := some ("Disable Leader sublayer " ++ group.path.describe)
  trigger := .anyModifiers conventions.escape
  events := [.switch (conventions.flag group.path) false]
  conditions := [.isOn (conventions.flag group.path) true]

/-- The manipulator of a command of a sublayer. -/
def commandManipulator (conventions : Conventions) (group : LayerGroup)
    (key : KeyCode) (command : Command) : Manipulator where
  description := command.description
  trigger := .anyModifiers key
  events := command.effects.map Event.ofEffect ++
    [.switch (conventions.flag group.path) false,
      .switch conventions.leader false]
  conditions := [.isOn (conventions.flag group.path) true]

/-- The manipulators of a sublayer, without those of sublayers in it. -/
def groupManipulators (conventions : Conventions) (flags : List String)
    (group : LayerGroup) : List Manipulator :=
  conventions.entryManipulator flags group ::
    conventions.escapeManipulator group ::
    group.inner.commands.map fun entry =>
      conventions.commandManipulator group entry.1 entry.2

/-- The rule of a sublayer. -/
def groupRule (conventions : Conventions) (flags : List String)
    (group : LayerGroup) : Rule where
  description := "Leader Key sublayer \"" ++ group.path.describe ++ "\""
  manipulators := conventions.groupManipulators flags group

/-- The manipulator of a command of the top level. -/
def leaderManipulator (conventions : Conventions) (key : KeyCode)
    (command : Command) : Manipulator where
  description := command.description
  trigger := .anyModifiers key
  events := command.effects.map Event.ofEffect ++
    [.switch conventions.leader false]
  conditions := [.isOn conventions.leader true]

/-- The rule of a command of the top level. -/
def leaderRule (conventions : Conventions) (key : KeyCode)
    (command : Command) : Rule where
  description := "Leader Key + " ++ key.name
  manipulators := [conventions.leaderManipulator key command]

/-- The rules of a tree, given all its flags. -/
def rulesWith (conventions : Conventions) (flags : List String) :
    Bindings → List Rule
  | .nil => []
  | .fires key command rest =>
      conventions.leaderRule key command :: conventions.rulesWith flags rest
  | .opens key name description inner rest =>
      (conventions.groups (.opens key name description inner .nil)).map
          (conventions.groupRule flags) ++
        conventions.rulesWith flags rest

/-- The rules of a tree. -/
def rules (conventions : Conventions) (tree : Bindings) : List Rule :=
  conventions.rulesWith (conventions.flags tree) tree

/-! ### Faults -/

/-- The first top-level sublayer that stands where it must not. -/
def misplaced? (conventions : Conventions) : Bindings → Option LayerFault
  | .nil => none
  | .fires _ _ rest => conventions.misplaced? rest
  | .opens key name _ _ rest =>
      if name ≠ key then
        some (.misregistered name key)
      else if key = conventions.escape then
        some (.ambiguousTrigger [] key)
      else
        conventions.misplaced? rest

/-- The first flag that is already taken, given those taken before. -/
def takenFlag? (conventions : Conventions) (taken : List (String × KeyPath)) :
    List (String × KeyPath) → Option LayerFault
  | [] => none
  | (flag, path) :: rest =>
      if flag = conventions.leader then
        some (.sharedFlag flag [] path)
      else
        match taken.lookup flag with
        | some owner => some (.sharedFlag flag owner path)
        | none => conventions.takenFlag? ((flag, path) :: taken) rest

/-- The first sublayer whose flag is not its own. -/
def sharedFlag? (conventions : Conventions) (tree : Bindings) :
    Option LayerFault :=
  conventions.takenFlag? [] (conventions.flagTable tree)

/-- The first command that sets one of the given variables. -/
def writeTo? (reserved : List String) (tree : Bindings) :
    Option LayerFault :=
  (tree.commandsBelow []).findSome? fun (path, command) =>
    ((command.effects.filterMap Effect.variable?).find? (· ∈ reserved)).map
      (LayerFault.reservedVariable path)

/-- The first command that sets a variable the rules steer by. -/
def reservedWrite? (conventions : Conventions) (tree : Bindings) :
    Option LayerFault :=
  writeTo? (conventions.leader :: conventions.flags tree) tree

/-- The first key of a sublayer that already has a meaning in it. -/
def ambiguousKey? (conventions : Conventions) (group : LayerGroup) :
    Option KeyCode :=
  group.inner.keys.find? fun key =>
    key = group.name || key = conventions.escape

/-- The first sublayer with a key that already has a meaning in it. -/
def ambiguousEntry? (conventions : Conventions) (tree : Bindings) :
    Option LayerFault :=
  (conventions.groups tree).findSome? fun group =>
    (conventions.ambiguousKey? group).map
      (LayerFault.ambiguousTrigger group.path)

/-- Why a tree is refused: its first fault of the first kind that it has. -/
def fault? (conventions : Conventions) (tree : Bindings) :
    Option LayerFault :=
  conventions.misplaced? tree <|> conventions.sharedFlag? tree <|>
    conventions.reservedWrite? tree <|> conventions.ambiguousEntry? tree

/-- The rules of a tree, or why it is refused. -/
def compile? (conventions : Conventions) (tree : Bindings) :
    Except LayerFault (List Rule) :=
  match conventions.fault? tree with
  | some fault => .error fault
  | none => .ok (conventions.rules tree)

/-- The flags of a tree with their paths, or the first that is shared. -/
def flagTable? (conventions : Conventions) (tree : Bindings) :
    Except LayerFault (List (String × KeyPath)) :=
  match conventions.sharedFlag? tree with
  | some fault => .error fault
  | none => .ok (conventions.flagTable tree)

/-- The manipulators of one sublayer on its own, or why it is refused. -/
def compileGroup? (conventions : Conventions) (flags : List String)
    (group : LayerGroup) : Except LayerFault (List Manipulator) :=
  match conventions.ambiguousKey? group with
  | some key => .error (.ambiguousTrigger group.path key)
  | none => .ok (conventions.groupManipulators flags group)

theorem compile?_eq_ok_iff {conventions : Conventions} {tree : Bindings}
    {rules : List Rule} :
    conventions.compile? tree = .ok rules ↔
      conventions.fault? tree = none ∧ conventions.rules tree = rules := by
  unfold compile?
  split <;> simp [*]

theorem compile?_eq_error_iff {conventions : Conventions} {tree : Bindings}
    {fault : LayerFault} :
    conventions.compile? tree = .error fault ↔
      conventions.fault? tree = some fault := by
  unfold compile?
  split <;> simp [*]

/-! ### Log -/

/-- What making the rules of one sublayer reports. -/
def groupLog (conventions : Conventions) (flags : List String)
    (group : LayerGroup) : List LogEntry :=
  (if group.inner.keys.isEmpty then [.emptySublayer group.path] else []) ++
    [.sublayerDone group.path
      (conventions.groupManipulators flags group).length]

/-- What making the rules of a tree reports. -/
def log (conventions : Conventions) (tree : Bindings) : List LogEntry :=
  let flags := conventions.flags tree
  (conventions.groups tree).flatMap (conventions.groupLog flags) ++
    [.layersDone (conventions.rules tree).length flags.length]

end Conventions

end ModalKeymap
