import ModalKeymap.Proofs.Exclusion
import Mathlib.Data.List.Sort
import Mathlib.Data.String.Basic

/-!
# The layout of the rules

`Conventions.LaidOut` writes out which rules a tree is to have: a rule for
each command of the top level and, for each top-level sublayer, a rule for it
and then one for each sublayer nested in it, each with all its manipulators.
It speaks of names, paths and flags only, and of the variables that guard a
sublayer only by which they are and how they are ordered.  A tree that is not
refused has the rules that it is laid out to have and no others
(`laidOut_iff_eq`).
-/

namespace ModalKeymap

namespace Conventions

/-! ## What is laid out -/

/-- The variable that is on while the layer at a path is live. -/
def liveVariable (conventions : Conventions) (path : KeyPath) : String :=
  if path = [] then conventions.leader else conventions.flag path

/--
The variables that have to be off when a sublayer is entered: the flags of
all sublayers but its own and that of the layer above it, each once, in the
order of their characters.
-/
structure Guards (conventions : Conventions) (tree : Bindings)
    (path : KeyPath) (guards : List String) : Prop where
  ordered : guards.Pairwise (· < ·)
  mem_iff : ∀ name, name ∈ guards ↔
    (∃ below ∈ tree.sublayersBelow [], conventions.flag below.1 = name) ∧
      name ≠ conventions.flag path ∧
      name ≠ conventions.liveVariable path.dropLast

/-- The rule of a sublayer, given the variables that guard it. -/
def sublayerRule (conventions : Conventions) (guards : List String)
    (path : KeyPath) (sublayer : Sublayer) : Rule :=
  let own := conventions.flag path
  let above := conventions.liveVariable path.dropLast
  { description := "Leader Key sublayer \"" ++ path.describe ++ "\""
    manipulators :=
      { description := some ("Enable Leader sublayer " ++ path.describe)
        trigger := .anyModifiers sublayer.name
        conditions := guards.map (.isOn · false) ++ [.isOn above true]
        events := [.switch own true, .switch above false] ++
          if path.dropLast = [] then []
          else [.switch conventions.leader false] } ::
      { description := some ("Disable Leader sublayer " ++ path.describe)
        trigger := .anyModifiers conventions.escape
        conditions := [.isOn own true]
        events := [.switch own false] } ::
      sublayer.inner.commands.map fun (key, command) =>
        { description := command.description
          trigger := .anyModifiers key
          conditions := [.isOn own true]
          events := command.effects.map Event.ofEffect ++
            [.switch own false, .switch conventions.leader false] } }

/-- A rule is the one of a sublayer of the tree. -/
def SublayerLaidOut (conventions : Conventions) (tree : Bindings)
    (below : KeyPath × Sublayer) (rule : Rule) : Prop :=
  ∃ guards, conventions.Guards tree below.1 guards ∧
    rule = conventions.sublayerRule guards below.1 below.2

/-- Rules are those of a binding of the top level, in order. -/
def EntryLaidOut (conventions : Conventions) (tree : Bindings) :
    KeyCode × Entry → List Rule → Prop
  | (key, .command command), rules =>
      rules = [
        { description := "Leader Key + " ++ key.name
          manipulators := [
            { description := command.description
              trigger := .anyModifiers key
              conditions := [.isOn conventions.leader true]
              events := command.effects.map Event.ofEffect ++
                [.switch conventions.leader false] }] }]
  | (_, .sublayer sublayer), rules =>
      List.Forall₂ (conventions.SublayerLaidOut tree)
        (([sublayer.name], sublayer) ::
          sublayer.inner.sublayersBelow [sublayer.name]) rules

/-- Rules are those of a tree, binding after binding. -/
def LaidOut (conventions : Conventions) (tree : Bindings)
    (rules : List Rule) : Prop :=
  ∃ blocks, List.Forall₂ (conventions.EntryLaidOut tree) tree.toList blocks ∧
    rules = blocks.flatten

/-! ## What the walk yields -/

variable {conventions : Conventions} {tree : Bindings} {lead : String}
  {below : KeyPath × Sublayer}

/-- A sublayer as the walk yields it. -/
def walked (conventions : Conventions) (below : KeyPath × Sublayer) :
    LayerGroup where
  path := below.1
  name := below.2.name
  inner := below.2.inner
  parentFlag := conventions.liveVariable below.1.dropLast

/-- The walk below a path starts from the variable of the layer there. -/
theorem groups_eq_map_walked
    (underscored : conventions.naming = .underscored lead)
    (layer : Bindings) (path : KeyPath) :
    layer.groups conventions.entryFlag path
        (conventions.liveVariable path) =
      (layer.sublayersBelow path).map conventions.walked := by
  apply Bindings.groups_eq_map
  intro path notEmpty
  rw [entryFlag_eq_flag_of_underscored underscored notEmpty,
    liveVariable, if_neg notEmpty]

theorem walked_mem_groups
    (underscored : conventions.naming = .underscored lead)
    (member : below ∈ tree.sublayersBelow []) :
    conventions.walked below ∈ conventions.groups tree := by
  have listed : conventions.groups tree =
      (tree.sublayersBelow []).map conventions.walked :=
    conventions.groups_eq_map_walked underscored tree []
  exact listed ▸ List.mem_map_of_mem member

/-- Only the sublayers of the top level are entered from the leader. -/
theorem Accepts.liveVariable_eq_leader_iff
    (accepts : conventions.Accepts tree)
    (underscored : conventions.naming = .underscored lead)
    (member : below ∈ tree.sublayersBelow []) :
    conventions.liveVariable below.1.dropLast = conventions.leader ↔
      below.1.dropLast = [] := by
  rcases Bindings.mem_groups_iff.mp
      (walked_mem_groups underscored member) with
    outermost | ⟨parent, parentMember, isChild⟩
  · rcases Bindings.mem_placedSublayers_iff.mp outermost with
      ⟨key, sublayer, _, same⟩
    have top : below.1 = [sublayer.name] :=
      (congrArg LayerGroup.path same).symm
    simp [top, liveVariable]
  · rcases Bindings.mem_placedSublayers_iff.mp isChild with
      ⟨key, sublayer, _, same⟩
    have nested : below.1 = parent.path ++ [sublayer.name] :=
      (congrArg LayerGroup.path same).symm
    have parentNamed := Bindings.path_ne_nil parentMember
    have parentFlag := accepts.flag_ne_leader parentMember
    simp [nested, liveVariable, parentNamed, parentFlag]

/-! ## Guards -/

theorem Guards.unique {path : KeyPath} {first second : List String}
    (ofFirst : conventions.Guards tree path first)
    (ofSecond : conventions.Guards tree path second) : first = second := by
  apply ofFirst.ordered.eq_of_mem_iff ofSecond.ordered
  intro name
  rw [ofFirst.mem_iff, ofSecond.mem_iff]

/-- The walk guards a sublayer by the flags that it is to be guarded by. -/
theorem Accepts.exists_guards (accepts : conventions.Accepts tree)
    (below : KeyPath × Sublayer) :
    ∃ guards, conventions.Guards tree below.1 guards ∧
      conventions.entryConditions (conventions.flags tree)
          (conventions.walked below) =
        guards.map (.isOn · false) ++
          [.isOn (conventions.liveVariable below.1.dropLast) true] := by
  refine ⟨_, ⟨?_, ?_⟩, rfl⟩
  · have nodup := (List.mergeSort_perm (conventions.flags tree)
      (· ≤ ·)).nodup_iff.mpr (List.nodup_cons.mp accepts.steering_nodup).2
    have sorted := List.pairwise_mergeSort' (· ≤ ·) (conventions.flags tree)
    exact (sorted.sortedLE.sortedLT_of_nodup nodup).pairwise.filter _
  · intro name
    rw [List.mem_filter, (List.mergeSort_perm _ _).mem_iff, flags_eq_map,
      List.mem_map, Bool.and_eq_true, decide_eq_true_eq, decide_eq_true_eq]
    rfl

/-! ## Rules -/

/-- The walk's rule of a sublayer is the one that it is laid out to have. -/
theorem Accepts.sublayerLaidOut_iff (accepts : conventions.Accepts tree)
    (underscored : conventions.naming = .underscored lead)
    (member : below ∈ tree.sublayersBelow []) (rule : Rule) :
    conventions.SublayerLaidOut tree below rule ↔
      rule = conventions.groupRule (conventions.flags tree)
        (conventions.walked below) := by
  rcases accepts.exists_guards below with
    ⟨guards, isGuards, conditions⟩
  have events : conventions.entering (conventions.walked below) =
      [.switch (conventions.flag below.1) true,
        .switch (conventions.liveVariable below.1.dropLast) false] ++
      if below.1.dropLast = [] then []
      else [.switch conventions.leader false] := by
    have fromLeader := accepts.liveVariable_eq_leader_iff underscored member
    simp only [entering, walked, fromLeader]
  have built : conventions.groupRule (conventions.flags tree)
      (conventions.walked below) =
        conventions.sublayerRule guards below.1 below.2 := by
    -- only what enters the sublayer is written out in another way
    unfold groupRule groupManipulators entryManipulator
    rw [events, conditions]
    rfl
  rw [built]
  constructor
  · rintro ⟨others, areGuards, rfl⟩
    rw [areGuards.unique isGuards]
  · rintro rfl
    exact ⟨guards, isGuards, rfl⟩

end Conventions

/-- A relation that determines its second side relates a list to one. -/
theorem List.forall₂_iff_eq_map {α β : Type} {relation : α → β → Prop}
    {image : α → β} {items : List α}
    (determined : ∀ item ∈ items, ∀ result,
      relation item result ↔ result = image item) (results : List β) :
    List.Forall₂ relation items results ↔ results = items.map image := by
  induction items generalizing results with
  | nil => simp
  | cons first rest ih =>
      rw [List.forall₂_cons_left_iff]
      have later := ih fun item listed =>
        determined item (List.mem_cons_of_mem _ listed)
      simp only [determined first List.mem_cons_self, later]
      simp

namespace Conventions

variable {conventions : Conventions} {tree : Bindings} {lead : String}

theorem Accepts.entryLaidOut_iff (accepts : conventions.Accepts tree)
    (underscored : conventions.naming = .underscored lead)
    (entry : KeyCode × Entry) (bound : entry ∈ tree.toList)
    (rules : List Rule) :
    conventions.EntryLaidOut tree entry rules ↔
      rules = conventions.rulesWith (conventions.flags tree)
        (.cons entry.1 entry.2 .nil) := by
  rcases entry with ⟨key, command | sublayer⟩
  · exact Iff.rfl
  · let nested := ([sublayer.name], sublayer) ::
      sublayer.inner.sublayersBelow [sublayer.name]
    have included : nested ⊆ tree.sublayersBelow [] := by
      intro below member
      rw [Bindings.sublayersBelow_eq_flatMap]
      exact List.mem_flatMap.mpr
        ⟨_, Bindings.mem_sublayers_iff.mpr bound, member⟩
    have built : conventions.rulesWith (conventions.flags tree)
        (.cons key (.sublayer sublayer) .nil) =
          nested.map fun below => conventions.groupRule
            (conventions.flags tree) (conventions.walked below) := by
      have walk := conventions.groups_eq_map_walked underscored
        (.opens key sublayer.name sublayer.description sublayer.inner .nil)
        []
      simp only [Bindings.sublayersBelow, List.append_nil] at walk
      simp only [Bindings.cons, rulesWith, List.append_nil]
      exact (congrArg _ walk).trans (List.map_map ..)
    rw [built]
    exact List.forall₂_iff_eq_map (fun below member =>
      accepts.sublayerLaidOut_iff underscored (included member)) rules

/--
With flags that join names behind a lead, a tree that is not refused has just
the rules that it is laid out to have.
-/
theorem laidOut_iff_eq {rules : List Rule}
    (underscored : conventions.naming = .underscored lead)
    (compiled : conventions.compile? tree = .ok rules)
    (candidate : List Rule) :
    conventions.LaidOut tree candidate ↔ candidate = rules := by
  rcases compile?_eq_ok_iff_accepts.mp compiled with ⟨accepts, rfl⟩
  have blocks := List.forall₂_iff_eq_map fun entry bound =>
    accepts.entryLaidOut_iff underscored entry bound
  rw [LaidOut, rules, (conventions.entrywise_rulesWith _).eq_flatMap,
    List.flatMap_def]
  constructor
  · rintro ⟨_, laidOut, rfl⟩
    rw [(blocks _).mp laidOut]
  · rintro rfl
    exact ⟨_, (blocks _).mpr rfl, rfl⟩

/-- A sublayer nested in another, beside a command of the top level. -/
theorem nestedExample_laidOut_iff :
    let conventions : Conventions := {}
    ∃ rules, conventions.compile? Bindings.nestedExample = .ok rules ∧
      rules.map Rule.description =
        ["Leader Key + q", "Leader Key sublayer \"s\"",
          "Leader Key sublayer \"s > w\""] ∧
      ∀ candidate, conventions.LaidOut Bindings.nestedExample candidate ↔
        candidate = rules := by
  intro conventions
  have compiled : conventions.compile? Bindings.nestedExample =
      .ok (conventions.rules Bindings.nestedExample) :=
    compile?_eq_ok_iff.mpr ⟨by decide +kernel, rfl⟩
  exact ⟨_, compiled, by decide +kernel, laidOut_iff_eq rfl compiled⟩

end Conventions

end ModalKeymap
