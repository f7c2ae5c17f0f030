import ModalKeymap.Rule.Layer
import ModalKeymap.Validation.Argument

/-!
# Unchecked conventions

The conventions of a layer tree where variables may be named by any value.
Only a text can be the name of a variable, but this comes to light no sooner
than the first manipulator that would use the name is made; faults of the
tree that are found before that go first.  With nothing but texts
(`ConventionArguments.conventions?`) the rules are those of `Conventions`.
-/

namespace ModalKeymap

/-- How flags are named, before it has been checked. -/
inductive NamingArgument where
  /-- A fixed lead, then the names joined by underscores. -/
  | underscored (lead : Value)
  /-- The same flag at every path. -/
  | constant (flag : Value)
  /-- Any function of the path. -/
  | custom (flag : KeyPath → String)

namespace NamingArgument

/-- The naming that is used unless another is asked for. -/
def standard : NamingArgument := .underscored (.text "sublayer_")

/-- The naming, if it leads to texts. -/
def naming? : NamingArgument → Option FlagNaming
  | .underscored lead => lead.text?.map .underscored
  | .constant flag => flag.text?.map fun name => .custom fun _ => name
  | .custom flag => some (.custom flag)

/-- The flag at a path; a lead has to be a text, and a path after it. -/
def flag? (naming : NamingArgument) (path : KeyPath) :
    Except CallFault Value :=
  match naming with
  | .underscored (.text lead) =>
      match (FlagNaming.underscored lead).flag? path with
      | some flag => .ok (.text flag)
      | none => .error .emptyPath
  | .underscored _ => .error (if path.isEmpty then .emptyPath else .unusable)
  | .constant flag => .ok flag
  | .custom flag => .ok (.text (flag path))

/-- The flag at a path of unchecked keys. -/
def flagOfValue? (naming : NamingArgument) (path : Value) :
    Except CallFault Value := do
  if !path.isGiven then
    throw .emptyPath
  naming.flag? (← KeyPath.ofValues? (← path.items?))

end NamingArgument

/-- Conventions of which the names of variables are unchecked. -/
structure ConventionArguments where
  naming : NamingArgument := .standard
  leader : Value := .text "leader"
  escape : KeyCode := .escape

namespace ConventionArguments

/-- Arguments of which the escape key is unchecked as well. -/
def ofValues? (naming : NamingArgument) (leader escape : Value) :
    Except CallFault ConventionArguments := do
  let escapeKey ← KeyCode.ofValue? escape
  return { naming := naming, leader := leader, escape := escapeKey }

/-- The conventions, if all names are texts. -/
def conventions? (arguments : ConventionArguments) : Option Conventions := do
  let naming ← arguments.naming.naming?
  let leader ← arguments.leader.text?
  return { naming := naming, leader := leader, escape := arguments.escape }

/-- Conventions for what does not depend on flags. -/
def withoutFlags (arguments : ConventionArguments) : Conventions where
  leader := arguments.leader.display
  escape := arguments.escape

/-- The flags of a tree with their paths, or the first that is shared. -/
def flagTable? (arguments : ConventionArguments) (tree : Bindings) :
    Except CallFault (List (Value × KeyPath)) :=
  (arguments.withoutFlags.groups tree).foldlM (fun table group => do
    let flag ← arguments.naming.flag? group.path
    if flag.sameKey arguments.leader then
      throw (.sharedFlag flag [] group.path)
    if !flag.isScalar then
      throw .unusable
    match table.find? fun entry => entry.1.sameKey flag with
    | some (_, owner) => throw (.sharedFlag flag owner group.path)
    | none => return table ++ [(flag, group.path)]) []

/--
Why no rules can be made of a tree when some name is not a text: the first
command for want of the leader, or the first sublayer.
-/
def nameless? (arguments : ConventionArguments) :
    Bindings → Option CallFault
  | .nil => none
  | .fires _ _ rest =>
      if arguments.leader.isText then
        arguments.nameless? rest
      else
        some .namelessVariable
  | .opens _ name _ inner _ =>
      match arguments.withoutFlags.ambiguousKey? ⟨[name], name, inner, ""⟩ with
      | some key => some (.ofLayer (.ambiguousTrigger [name] key))
      | none => some .namelessVariable

/-- The rules of a tree, with the log, when some name is not a text. -/
def compileNameless? (arguments : ConventionArguments) (tree : Bindings) :
    Except CallFault (List Rule × List LogEntry) := do
  let conventions := arguments.withoutFlags
  if let some fault := conventions.misplaced? tree then
    throw (.ofLayer fault)
  let table ← arguments.flagTable? tree
  if !arguments.leader.isScalar then
    throw .unusable
  let reserved :=
    (arguments.leader :: table.map Prod.fst).filterMap Value.text?
  if let some fault := Conventions.writeTo? reserved tree then
    throw (.ofLayer fault)
  match arguments.nameless? tree with
  | some fault => throw fault
  | none => return (conventions.rules tree, conventions.log tree)

/-- The rules of an unchecked tree, with the log. -/
def compileValue? (arguments : ConventionArguments) (value : Value) :
    Except CallFault (List Rule × List LogEntry) := do
  let members ← value.members?
  let tree ← (Bindings.check (.mapping members)).orFail
  match arguments.conventions? with
  | some conventions =>
      let rules ← (conventions.compile? tree).mapError .ofLayer
      return (rules, conventions.log tree)
  | none => arguments.compileNameless? tree

/-- The flags of an unchecked tree with their paths. -/
def flagTableOfValue? (arguments : ConventionArguments) (value : Value) :
    Except CallFault (List (Value × KeyPath)) := do
  let tree ← (Bindings.check value).orFail
  match arguments.conventions? with
  | some conventions =>
      let table ← (conventions.flagTable? tree).mapError .ofLayer
      return table.map fun entry => (.text entry.1, entry.2)
  | none => arguments.flagTable? tree

/--
The names of unchecked flags.  They are put in order before any is used as a
name, and values of different kinds have no order.
-/
def flagNames? (flags : Value) : Except CallFault (List String) := do
  let items ← flags.items?
  match items.mapM Value.text? with
  | some names => return names
  | none =>
      if items.length < 2 || items.all Value.isNumber then
        throw .namelessVariable
      else
        throw .unusable

/--
The manipulators of one sublayer, with the log.  Without a path of its own it
stands at the top level under its name, and without a parent flag it is
entered from the leader.
-/
def compileSublayer? (arguments : ConventionArguments)
    (sublayer : Sublayer) (flags path parentFlag : Value) :
    Except CallFault (List Manipulator × List LogEntry) := do
  let place ← match path with
    | .null => pure [sublayer.name]
    | _ => do KeyPath.ofValues? (← path.items?)
  let _ ← arguments.naming.flag? place
  let parent :=
    if parentFlag.isGiven then parentFlag else arguments.leader
  let group : LayerGroup :=
    { path := place
      name := sublayer.name
      inner := sublayer.inner
      parentFlag := parent.display }
  if let some key := arguments.withoutFlags.ambiguousKey? group then
    throw (.ofLayer (.ambiguousTrigger place key))
  match arguments.conventions?, parent with
  | some conventions, .text _ =>
      let names ← flagNames? flags
      let manipulators ←
        (conventions.compileGroup? names group).mapError .ofLayer
      return (manipulators, conventions.groupLog names group)
  | _, _ => throw .namelessVariable

end ConventionArguments

end ModalKeymap
