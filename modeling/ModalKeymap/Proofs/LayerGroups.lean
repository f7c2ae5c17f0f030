import ModalKeymap.Proofs.Bindings
import ModalKeymap.Rule.Layer
import Mathlib.Data.List.Perm.Basic

/-!
# The sublayers of a tree

`Bindings.groups` lists the sublayers of a tree at all depths.  Each of them
stands either right in the tree or right in another one of the list, and the
list holds each just once (`groups_perm`).  What holds of the sublayers right
in the tree and passes from every layer to the sublayers right in it
therefore holds of all of them (`forall_mem_groups`).  The manipulators of the
rules of a tree are, up to their order, those of the top-level commands and
those of the sublayers (`manipulators_rules_perm`).

`Bindings.sublayersBelow` is the same walk without any variables; the variable
that a sublayer is entered from is a matter of its path (`groups_eq_map`).
-/

namespace ModalKeymap

/-- A sublayer in its place, given the path and variable of its layer. -/
def Sublayer.placed (path : KeyPath) (parentFlag : String)
    (sublayer : Sublayer) : LayerGroup where
  path := path ++ [sublayer.name]
  name := sublayer.name
  inner := sublayer.inner
  parentFlag := parentFlag

/-- The sublayers right in a layer, each in its place. -/
def Bindings.placedSublayers (path : KeyPath) (parentFlag : String)
    (layer : Bindings) : List LayerGroup :=
  layer.sublayers.map fun entry => entry.2.placed path parentFlag

/-- The sublayers right in a sublayer, each in its place. -/
def LayerGroup.children (entryFlag : KeyPath → String)
    (group : LayerGroup) : List LayerGroup :=
  group.inner.placedSublayers group.path (entryFlag group.path)

/-- What is right in a sublayer is entered from the variable of its path. -/
theorem LayerGroup.parentFlag_of_mem_children
    {entryFlag : KeyPath → String} {parent child : LayerGroup}
    (isChild : child ∈ parent.children entryFlag) :
    child.parentFlag = entryFlag parent.path := by
  rcases List.mem_map.mp isChild with ⟨entry, _, rfl⟩
  rfl

namespace Bindings

variable {entryFlag : KeyPath → String} {path : KeyPath}
  {parentFlag : String} {tree : Bindings} {group : LayerGroup}

theorem mem_placedSublayers_iff :
    group ∈ tree.placedSublayers path parentFlag ↔
      ∃ key sublayer, (key, sublayer) ∈ tree.sublayers ∧
        sublayer.placed path parentFlag = group := by
  simp [placedSublayers]

theorem entrywise_groups (entryFlag : KeyPath → String) (path : KeyPath)
    (parentFlag : String) :
    Entrywise (groups entryFlag path parentFlag) where
  nil := rfl
  cons key entry rest := by cases entry <;> simp [cons, groups]

/-- Every sublayer of a layer is followed by those nested in it. -/
theorem groups_eq_flatMap (entryFlag : KeyPath → String) (path : KeyPath)
    (parentFlag : String) (layer : Bindings) :
    layer.groups entryFlag path parentFlag =
      layer.sublayers.flatMap fun entry =>
        entry.2.placed path parentFlag ::
          entry.2.inner.groups entryFlag (path ++ [entry.2.name])
            (entryFlag (path ++ [entry.2.name])) := by
  induction layer with
  | nil => rfl
  | fires key command rest ih => exact ih
  | opens key name description inner rest _ ih =>
      rw [groups, sublayers, List.flatMap_cons, ← ih]
      rfl

/--
The sublayers of a tree are those right in it and those right in one of its
sublayers, each listed once.
-/
theorem groups_perm (tree : Bindings) (path : KeyPath)
    (parentFlag : String) :
    (tree.groups entryFlag path parentFlag).Perm
      (tree.placedSublayers path parentFlag ++
        (tree.groups entryFlag path parentFlag).flatMap
          (LayerGroup.children entryFlag)) := by
  induction tree generalizing path parentFlag with
  | nil => exact .nil
  | fires key command rest ih => exact ih path parentFlag
  | opens key name description inner rest innerIH restIH =>
      have below :=
        (innerIH (path ++ [name]) (entryFlag (path ++ [name]))).append
          (restIH path parentFlag)
      simp only [groups, placedSublayers, sublayers, List.map_cons,
        List.cons_append, List.flatMap_cons, List.flatMap_append]
      refine .cons _ (below.trans ?_)
      -- those right in the tree move in front of the first one's subtree
      refine List.perm_append_comm_assoc _ _ _ |>.trans ?_
      rw [List.append_assoc]
      exact .refl _

theorem mem_groups_iff :
    group ∈ tree.groups entryFlag path parentFlag ↔
      group ∈ tree.placedSublayers path parentFlag ∨
        ∃ parent ∈ tree.groups entryFlag path parentFlag,
          group ∈ parent.children entryFlag := by
  rw [(groups_perm tree path parentFlag).mem_iff, List.mem_append,
    List.mem_flatMap]

theorem path_ne_nil (member : group ∈ tree.groups entryFlag path parentFlag) :
    group.path ≠ [] := by
  rcases mem_groups_iff.mp member with placed | ⟨parent, _, placed⟩
  all_goals
    rcases mem_placedSublayers_iff.mp placed with ⟨key, sublayer, _, rfl⟩
    exact List.concat_ne_nil _ _

/--
What holds of the sublayers right in a tree, and passes from each sublayer to
those right in it, holds of all sublayers of the tree.
-/
theorem forall_mem_groups (property : LayerGroup → Prop)
    (outermost : ∀ group ∈ tree.placedSublayers path parentFlag,
      property group)
    (nested : ∀ parent ∈ tree.groups entryFlag path parentFlag,
      property parent → ∀ group ∈ parent.children entryFlag,
        property group)
    (member : group ∈ tree.groups entryFlag path parentFlag) :
    property group := by
  induction tree generalizing path parentFlag group with
  | nil => cases member
  | fires key command rest ih => exact ih outermost nested member
  | opens key name description inner rest innerIH restIH =>
      have first : property (Sublayer.placed path parentFlag
          ⟨name, description, inner⟩) :=
        outermost _ List.mem_cons_self
      rcases List.mem_cons.mp member with rfl | member
      · exact first
      rcases List.mem_append.mp member with member | member
      · refine innerIH (fun child childMember => ?_)
          (fun parent parentMember => ?_) member
        · exact nested _ List.mem_cons_self first child childMember
        · exact nested parent (List.mem_cons_of_mem _
            (List.mem_append_left _ parentMember))
      · refine restIH (fun child childMember => ?_)
          (fun parent parentMember => ?_) member
        · exact outermost child (List.mem_cons_of_mem _ childMember)
        · exact nested parent (List.mem_cons_of_mem _
            (List.mem_append_right _ parentMember))

/-- What passes from a layer to those right in it passes to all below. -/
theorem inner_of_mem_groups (property : Bindings → Prop)
    (passes : ∀ layer key sublayer, property layer →
      (key, sublayer) ∈ layer.sublayers → property sublayer.inner)
    (initially : property tree)
    (member : group ∈ tree.groups entryFlag path parentFlag) :
    property group.inner := by
  refine forall_mem_groups (fun group => property group.inner) ?_ ?_ member
  · intro outermost listed
    rcases mem_placedSublayers_iff.mp listed with ⟨key, sublayer, bound, rfl⟩
    exact passes tree key sublayer initially bound
  · intro parent _ ofParent child listed
    rcases mem_placedSublayers_iff.mp listed with ⟨key, sublayer, bound, rfl⟩
    exact passes parent.inner key sublayer ofParent bound

/-! ### The walk without variables -/

/--
Every sublayer of the tree with the names that lead to it, depth first and
parents before children, given the names that lead to this layer.
-/
def sublayersBelow (path : KeyPath) : Bindings → List (KeyPath × Sublayer)
  | .nil => []
  | .fires _ _ rest => rest.sublayersBelow path
  | .opens _ name description inner rest =>
      (path ++ [name], ⟨name, description, inner⟩) ::
        (inner.sublayersBelow (path ++ [name]) ++ rest.sublayersBelow path)

theorem sublayersBelow_eq_flatMap (path : KeyPath) (layer : Bindings) :
    layer.sublayersBelow path = layer.sublayers.flatMap fun entry =>
      (path ++ [entry.2.name], entry.2) ::
        entry.2.inner.sublayersBelow (path ++ [entry.2.name]) := by
  induction layer with
  | nil => rfl
  | fires key command rest ih => exact ih
  | opens key name description inner rest _ ih =>
      rw [sublayersBelow, sublayers, List.flatMap_cons, ← ih]
      rfl

/-- The walk tells each sublayer's variable of origin by the path above it. -/
theorem groups_eq_map {source : KeyPath → String}
    (enters : ∀ path ≠ [], source path = entryFlag path)
    (layer : Bindings) (path : KeyPath) :
    layer.groups entryFlag path (source path) =
      (layer.sublayersBelow path).map fun below =>
        ⟨below.1, below.2.name, below.2.inner, source below.1.dropLast⟩ := by
  induction layer generalizing path with
  | nil => rfl
  | fires key command rest ih => exact ih path
  | opens key name description inner rest innerIH restIH =>
      rw [groups, sublayersBelow, List.map_cons, List.map_append,
        ← innerIH, ← restIH, enters _ (List.concat_ne_nil _ _),
        List.dropLast_concat]

theorem KeysDistinct.of_mem_groups (distinct : tree.KeysDistinct)
    (member : group ∈ tree.groups entryFlag path parentFlag) :
    group.inner.KeysDistinct :=
  inner_of_mem_groups KeysDistinct
    (fun _ _ _ ofLayer bound => ofLayer.inner bound) distinct member

theorem SelfNamed.of_mem_groups (named : tree.SelfNamed)
    (member : group ∈ tree.groups entryFlag path parentFlag) :
    group.inner.SelfNamed :=
  inner_of_mem_groups SelfNamed
    (fun _ _ _ ofLayer bound => ofLayer.inner bound) named member

end Bindings

namespace Conventions

theorem mem_groups_of_mem_placedSublayers {conventions : Conventions}
    {tree : Bindings} {group : LayerGroup}
    (placed : group ∈ tree.placedSublayers [] conventions.leader) :
    group ∈ conventions.groups tree :=
  Bindings.mem_groups_iff.mpr (.inl placed)

theorem mem_groups_of_mem_children {conventions : Conventions}
    {tree : Bindings} {parent child : LayerGroup}
    (member : parent ∈ conventions.groups tree)
    (isChild : child ∈ parent.children conventions.entryFlag) :
    child ∈ conventions.groups tree :=
  Bindings.mem_groups_iff.mpr (.inr ⟨parent, member, isChild⟩)

/-- The walk over the sublayers, whatever they are entered from. -/
theorem exists_groups_eq_map (conventions : Conventions)
    (tree : Bindings) :
    ∃ source : KeyPath → String, conventions.groups tree =
      (tree.sublayersBelow []).map fun below =>
        ⟨below.1, below.2.name, below.2.inner, source below.1.dropLast⟩ := by
  let source : KeyPath → String := fun path =>
    if path = [] then conventions.leader else conventions.entryFlag path
  exact ⟨source, Bindings.groups_eq_map
    (fun _ notEmpty => if_neg notEmpty) tree []⟩

theorem flagTable_eq_map (conventions : Conventions) (tree : Bindings) :
    conventions.flagTable tree = (tree.sublayersBelow []).map fun below =>
      (conventions.flag below.1, below.1) := by
  rcases conventions.exists_groups_eq_map tree with ⟨source, listed⟩
  rw [flagTable, listed, List.map_map]
  rfl

theorem flags_eq_map_groups (conventions : Conventions) (tree : Bindings) :
    conventions.flags tree = (conventions.groups tree).map fun group =>
      conventions.flag group.path := by
  rw [flags, flagTable, List.map_map]
  rfl

theorem flags_eq_map (conventions : Conventions) (tree : Bindings) :
    conventions.flags tree = (tree.sublayersBelow []).map fun below =>
      conventions.flag below.1 := by
  rw [flags, flagTable_eq_map, List.map_map]
  rfl

/-- The sublayers of a tree, those of the first one's subtree in front. -/
theorem groups_opens (conventions : Conventions) (key name : KeyCode)
    (description : Option String) (inner rest : Bindings) :
    conventions.groups (.opens key name description inner rest) =
      conventions.groups (.opens key name description inner .nil) ++
        conventions.groups rest :=
  (Bindings.entrywise_groups _ _ _).cons key
    (.sublayer ⟨name, description, inner⟩) rest

theorem entrywise_rulesWith (conventions : Conventions)
    (flags : List String) :
    Bindings.Entrywise (conventions.rulesWith flags) where
  nil := rfl
  cons key entry rest := by cases entry <;> simp [Bindings.cons, rulesWith]

/-- A tree has a rule for each command on top and one for each sublayer. -/
theorem rulesWith_perm (conventions : Conventions) (flags : List String)
    (tree : Bindings) :
    (conventions.rulesWith flags tree).Perm
      (tree.commands.map
          (fun entry => conventions.leaderRule entry.1 entry.2) ++
        (conventions.groups tree).map (conventions.groupRule flags)) := by
  induction tree with
  | nil => exact .nil
  | fires key command rest ih => exact ih.cons _
  | opens key name description inner rest _ ih =>
      rw [rulesWith, conventions.groups_opens key name description inner rest,
        List.map_append]
      exact (ih.append_left _).trans (List.perm_append_comm_assoc _ _ _)

/-- The rules of a tree hold its commands' and its sublayers' manipulators. -/
theorem manipulators_rulesWith_perm (conventions : Conventions)
    (flags : List String) (tree : Bindings) :
    ((conventions.rulesWith flags tree).flatMap Rule.manipulators).Perm
      (tree.commands.map
          (fun entry => conventions.leaderManipulator entry.1 entry.2) ++
        (conventions.groups tree).flatMap
          (conventions.groupManipulators flags)) := by
  have perm := (conventions.rulesWith_perm flags tree).flatMap_right
    Rule.manipulators
  rw [List.flatMap_append, List.flatMap_map, List.flatMap_map] at perm
  rw [List.map_eq_flatMap]
  exact perm

theorem manipulators_rules_perm (conventions : Conventions)
    (tree : Bindings) :
    ((conventions.rules tree).flatMap Rule.manipulators).Perm
      (tree.commands.map
          (fun entry => conventions.leaderManipulator entry.1 entry.2) ++
        (conventions.groups tree).flatMap
          (conventions.groupManipulators (conventions.flags tree))) :=
  conventions.manipulators_rulesWith_perm _ tree

/-- The four kinds of manipulators in the rules of a tree. -/
theorem mem_manipulators_rules_iff {conventions : Conventions}
    {tree : Bindings} {manipulator : Manipulator} :
    manipulator ∈ (conventions.rules tree).flatMap Rule.manipulators ↔
      (∃ key command, (key, command) ∈ tree.commands ∧
        manipulator = conventions.leaderManipulator key command) ∨
      ∃ group ∈ conventions.groups tree,
        manipulator =
          conventions.entryManipulator (conventions.flags tree) group ∨
        manipulator = conventions.escapeManipulator group ∨
        ∃ key command, (key, command) ∈ group.inner.commands ∧
          manipulator = conventions.commandManipulator group key command := by
  rw [(conventions.manipulators_rules_perm tree).mem_iff]
  simp [groupManipulators, eq_comm]

end Conventions

end ModalKeymap
