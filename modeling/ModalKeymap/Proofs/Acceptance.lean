import ModalKeymap.Proofs.LayerGroups

/-!
# Trees that are not refused

`Conventions.Accepts` says what a tree keeps to when `Conventions.fault?`
finds nothing: top-level sublayers stand under their own names and off the
escape key, flags are distinct from one another and from the leader, no
command writes a variable the rules steer by, and no layer binds its own key
or the escape key.  From it follows what the rest of the theory uses: a flag
belongs to one sublayer, and sublayers are entered from variables of the tree.
-/

namespace ModalKeymap

/-- A command that sets none of the given variables. -/
def Command.Spares (names : List String) (command : Command) : Prop :=
  ∀ name ∈ command.effects.filterMap Effect.variable?, name ∉ names

namespace Conventions

/-- The variables that the rules of a tree steer by. -/
def steering (conventions : Conventions) (tree : Bindings) : List String :=
  conventions.leader :: conventions.flags tree

/-- What a tree keeps to when it is not refused. -/
structure Accepts (conventions : Conventions) (tree : Bindings) : Prop where
  selfNamed : ∀ key sublayer, (key, sublayer) ∈ tree.sublayers →
    sublayer.name = key
  notEscape : ∀ key sublayer, (key, sublayer) ∈ tree.sublayers →
    key ≠ conventions.escape
  steering_nodup : (conventions.steering tree).Nodup
  spares : ∀ path command, (path, command) ∈ tree.commandsBelow [] →
    command.Spares (conventions.steering tree)
  unambiguous : ∀ group ∈ conventions.groups tree,
    ∀ key ∈ group.inner.keys, key ≠ group.name ∧ key ≠ conventions.escape

variable {conventions : Conventions} {tree : Bindings}

/-! ## One kind of fault at a time -/

theorem misplaced?_eq_none_iff :
    conventions.misplaced? tree = none ↔
      ∀ key sublayer, (key, sublayer) ∈ tree.sublayers →
        sublayer.name = key ∧ key ≠ conventions.escape := by
  induction tree with
  | nil => simp [misplaced?, Bindings.sublayers]
  | fires key command rest ih => exact ih
  | opens key name description inner rest _ ih =>
      simp only [misplaced?, Bindings.sublayers, List.mem_cons,
        Prod.mk.injEq]
      constructor
      · intro faultless
        split at faultless
        · cases faultless
        split at faultless
        · cases faultless
        rename_i named leaves
        rintro bound sublayer (⟨rfl, rfl⟩ | member)
        · exact ⟨not_not.mp named, leaves⟩
        · exact ih.mp faultless bound sublayer member
      · intro placed
        rcases placed key _ (.inl ⟨rfl, rfl⟩) with ⟨named, leaves⟩
        rw [if_neg (not_not.mpr named), if_neg leaves]
        exact ih.mpr fun bound sublayer member =>
          placed bound sublayer (.inr member)

/-- No flag is taken twice, and none by the leader or by an earlier owner. -/
theorem takenFlag?_eq_none_iff {taken table : List (String × KeyPath)} :
    conventions.takenFlag? taken table = none ↔
      conventions.leader ∉ table.map Prod.fst ∧
        (table.map Prod.fst).Nodup ∧
          (table.map Prod.fst).Disjoint (taken.map Prod.fst) := by
  induction table generalizing taken with
  | nil => simp [takenFlag?]
  | cons first rest ih =>
      rcases first with ⟨flag, path⟩
      rw [List.map_cons, List.mem_cons, List.nodup_cons,
        List.disjoint_cons_left]
      by_cases shared : flag = conventions.leader
      · simp [takenFlag?, shared]
      have owned : taken.lookup flag = none ↔ flag ∉ taken.map Prod.fst :=
        Bindings.lookup_eq_none_iff_not_mem
      rw [takenFlag?, if_neg shared]
      cases found : taken.lookup flag with
      | some owner =>
          have member : flag ∈ taken.map Prod.fst := by
            by_contra absent
            rw [owned.mpr absent] at found
            cases found
          constructor
          · intro faultless
            cases faultless
          · rintro ⟨_, _, free, _⟩
            exact absurd member free
      | none =>
          rw [ih, List.map_cons, List.disjoint_cons_right]
          have free := owned.mp found
          have other := Ne.symm shared
          tauto

theorem sharedFlag?_eq_none_iff :
    conventions.sharedFlag? tree = none ↔
      (conventions.steering tree).Nodup := by
  rw [sharedFlag?, takenFlag?_eq_none_iff, steering, List.nodup_cons, flags]
  simp

theorem writeTo?_eq_none_iff {reserved : List String} :
    writeTo? reserved tree = none ↔
      ∀ path command, (path, command) ∈ tree.commandsBelow [] →
        command.Spares reserved := by
  rw [writeTo?, List.findSome?_eq_none_iff, Prod.forall]
  simp only [Option.map_eq_none_iff, List.find?_eq_none,
    decide_eq_true_eq]
  rfl

theorem ambiguousEntry?_eq_none_iff :
    conventions.ambiguousEntry? tree = none ↔
      ∀ group ∈ conventions.groups tree, ∀ key ∈ group.inner.keys,
        key ≠ group.name ∧ key ≠ conventions.escape := by
  simp [ambiguousKey?, ambiguousEntry?, List.findSome?_eq_none_iff]

/-- Nothing is wrong with a tree exactly if it keeps to the conditions. -/
theorem fault?_eq_none_iff :
    conventions.fault? tree = none ↔ conventions.Accepts tree := by
  simp only [fault?, Option.orElse_eq_orElse, Option.orElse_eq_or,
    Option.or_eq_none_iff, misplaced?_eq_none_iff,
    sharedFlag?_eq_none_iff, reservedWrite?, writeTo?_eq_none_iff,
    ambiguousEntry?_eq_none_iff]
  constructor
  · rintro ⟨placed, nodup, spares, unambiguous⟩
    exact
      ⟨fun key sublayer member => (placed key sublayer member).1,
        fun key sublayer member => (placed key sublayer member).2,
        nodup, spares, unambiguous⟩
  · rintro ⟨selfNamed, notEscape, nodup, spares, unambiguous⟩
    exact
      ⟨fun key sublayer member =>
          ⟨selfNamed key sublayer member, notEscape key sublayer member⟩,
        nodup, spares, unambiguous⟩

/-- Rules are made of just the trees that keep to the conditions. -/
theorem compile?_eq_ok_iff_accepts {rules : List Rule} :
    conventions.compile? tree = .ok rules ↔
      conventions.Accepts tree ∧ conventions.rules tree = rules := by
  rw [compile?_eq_ok_iff, fault?_eq_none_iff]

/-! ## Flags and the sublayers that they belong to -/

theorem mem_flags_iff {name : String} :
    name ∈ conventions.flags tree ↔
      ∃ group ∈ conventions.groups tree,
        conventions.flag group.path = name := by
  simp [flags, flagTable]

theorem flag_mem_flags {group : LayerGroup}
    (member : group ∈ conventions.groups tree) :
    conventions.flag group.path ∈ conventions.flags tree :=
  mem_flags_iff.mpr ⟨group, member, rfl⟩

theorem leader_mem_steering :
    conventions.leader ∈ conventions.steering tree :=
  List.mem_cons_self

theorem flag_mem_steering {group : LayerGroup}
    (member : group ∈ conventions.groups tree) :
    conventions.flag group.path ∈ conventions.steering tree :=
  List.mem_cons_of_mem _ (flag_mem_flags member)

/-- A layer's sublayers are entered from the leader or from its own flag. -/
theorem entryFlag_eq_or (conventions : Conventions) (path : KeyPath) :
    conventions.entryFlag path = conventions.leader ∨
      conventions.entryFlag path = conventions.flag path := by
  unfold entryFlag
  split
  · exact .inl rfl
  · exact .inr rfl

/-- The usual flags are never empty, so every layer has one to enter from. -/
theorem entryFlag_eq_flag_of_standard
    (standard : conventions.naming = .standard) (path : KeyPath) :
    conventions.entryFlag path = conventions.flag path := by
  have notEmpty : (conventions.flag path).isEmpty = false := by
    rw [flag, standard, FlagNaming.standard, FlagNaming.flag]
    simp
  simp [entryFlag, notEmpty]

/-- Whatever the lead is, no flag but the empty path's is the empty text. -/
theorem flag_ne_empty_of_underscored {lead : String} {path : KeyPath}
    (underscored : conventions.naming = .underscored lead)
    (notEmpty : path ≠ []) : conventions.flag path ≠ "" := by
  rcases path with _ | ⟨first, rest⟩
  · exact absurd rfl notEmpty
  have firstNamed := first.name_ne_empty
  rw [flag, underscored, FlagNaming.flag]
  cases rest <;> simp [firstNamed]

theorem entryFlag_eq_flag_of_underscored {lead : String} {path : KeyPath}
    (underscored : conventions.naming = .underscored lead)
    (notEmpty : path ≠ []) :
    conventions.entryFlag path = conventions.flag path := by
  simp [entryFlag, flag_ne_empty_of_underscored underscored notEmpty]

/-- The commands of a sublayer are among those of the tree. -/
theorem exists_mem_commandsBelow_of_mem_group {group : LayerGroup}
    (member : group ∈ conventions.groups tree)
    {key : KeyCode} {command : Command}
    (bound : (key, command) ∈ group.inner.commands) :
    ∃ path, (path, command) ∈ tree.commandsBelow [] := by
  have below : ∃ path, group.inner.commandsBelow path ⊆
      tree.commandsBelow [] := by
    refine Bindings.inner_of_mem_groups
      (fun layer => ∃ path, layer.commandsBelow path ⊆
        tree.commandsBelow []) ?_ ⟨[], List.Subset.refl _⟩ member
    rintro layer key sublayer ⟨path, included⟩ inLayer
    exact ⟨_, List.Subset.trans
      (Bindings.commandsBelow_subset_of_mem_sublayers inLayer) included⟩
  rcases below with ⟨path, included⟩
  exact ⟨_, included (Bindings.mem_commandsBelow_of_mem_commands bound)⟩

namespace Accepts

variable {group other : LayerGroup}

theorem leader_not_mem_flags (accepts : conventions.Accepts tree) :
    conventions.leader ∉ conventions.flags tree :=
  (List.nodup_cons.mp accepts.steering_nodup).1

theorem ne_leader_of_mem_flags (accepts : conventions.Accepts tree)
    {flag : String} (member : flag ∈ conventions.flags tree) :
    flag ≠ conventions.leader := by
  rintro rfl
  exact accepts.leader_not_mem_flags member

theorem flag_ne_leader (accepts : conventions.Accepts tree)
    (member : group ∈ conventions.groups tree) :
    conventions.flag group.path ≠ conventions.leader :=
  accepts.ne_leader_of_mem_flags (flag_mem_flags member)

theorem map_flag_nodup (accepts : conventions.Accepts tree) :
    ((conventions.groups tree).map fun group =>
      conventions.flag group.path).Nodup := by
  have flagsNodup := (List.nodup_cons.mp accepts.steering_nodup).2
  rwa [flags_eq_map_groups] at flagsNodup

/-- No two sublayers of the tree share a flag. -/
theorem eq_of_flag_eq (accepts : conventions.Accepts tree)
    (member : group ∈ conventions.groups tree)
    (otherMember : other ∈ conventions.groups tree)
    (same : conventions.flag group.path = conventions.flag other.path) :
    group = other :=
  List.inj_on_of_nodup_map accepts.map_flag_nodup member otherMember same

/-- No two sublayers of the tree stand at the same path. -/
theorem map_path_nodup (accepts : conventions.Accepts tree) :
    ((conventions.groups tree).map LayerGroup.path).Nodup := by
  have nodup := accepts.map_flag_nodup
  rw [← Function.comp_def conventions.flag, ← List.map_map] at nodup
  exact nodup.of_map _

/-- A sublayer is entered from a variable of the tree other than its own. -/
theorem parentFlag_mem_steering (accepts : conventions.Accepts tree)
    (member : group ∈ conventions.groups tree) :
    group.parentFlag ∈ conventions.steering tree ∧
      group.parentFlag ≠ conventions.flag group.path := by
  have fromLeader : ∀ parentFlag, parentFlag = conventions.leader →
      parentFlag ∈ conventions.steering tree ∧
        parentFlag ≠ conventions.flag group.path := by
    rintro _ rfl
    exact ⟨leader_mem_steering, (accepts.flag_ne_leader member).symm⟩
  rcases Bindings.mem_groups_iff.mp member with outermost | nested
  · rcases Bindings.mem_placedSublayers_iff.mp outermost with
      ⟨key, sublayer, _, rfl⟩
    exact fromLeader _ rfl
  · rcases nested with ⟨parent, parentMember, child⟩
    rcases Bindings.mem_placedSublayers_iff.mp child with
      ⟨key, sublayer, _, rfl⟩
    rcases conventions.entryFlag_eq_or parent.path with isLeader | isFlag
    · exact fromLeader _ isLeader
    · constructor
      · show conventions.entryFlag parent.path ∈ _
        rw [isFlag]
        exact flag_mem_steering parentMember
      · intro same
        -- the parent would be its own sublayer, at a longer path
        have equal := accepts.eq_of_flag_eq parentMember member
          (isFlag.symm.trans same)
        have lengths := congrArg (List.length ∘ LayerGroup.path) equal
        simp [Sublayer.placed] at lengths

/-! ## Commands write nothing that the rules steer by -/

theorem spares_of_mem_commands (accepts : conventions.Accepts tree)
    {key : KeyCode} {command : Command}
    (member : (key, command) ∈ tree.commands) :
    command.Spares (conventions.steering tree) :=
  accepts.spares _ _ (Bindings.mem_commandsBelow_of_mem_commands member)

theorem spares_of_mem_group (accepts : conventions.Accepts tree)
    (member : group ∈ conventions.groups tree)
    {key : KeyCode} {command : Command}
    (bound : (key, command) ∈ group.inner.commands) :
    command.Spares (conventions.steering tree) := by
  rcases exists_mem_commandsBelow_of_mem_group member bound with
    ⟨path, below⟩
  exact accepts.spares _ _ below

end Accepts

end Conventions

end ModalKeymap
