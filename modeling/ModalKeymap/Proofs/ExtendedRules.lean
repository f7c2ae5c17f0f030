import ModalKeymap.Proofs.Acceptance
import Mathlib.Data.List.Sort

/-!
# The rules with one more sublayer

A sublayer that is bound at one more key of the top level, at any place, has
rules of its own, one for itself and one for each sublayer nested in it.  They
stand between those of the bindings ahead of it and those of the bindings
behind it.  The other rules change in one way only: to enter any sublayer, all
flags of the added ones have to be off too (`Conventions.Extends`).
-/

namespace ModalKeymap

/-! ## Bindings taken together -/

namespace Conventions

variable {conventions : Conventions} {front back : List (KeyCode × Entry)}
  {key : KeyCode} {added : Sublayer}

theorem rulesWith_ofList_append (flags : List String) :
    conventions.rulesWith flags (.ofList (front ++ back)) =
      conventions.rulesWith flags (.ofList front) ++
        conventions.rulesWith flags (.ofList back) :=
  (conventions.entrywise_rulesWith flags).ofList_append front back

theorem groups_ofList_append :
    conventions.groups (.ofList (front ++ back)) =
      conventions.groups (.ofList front) ++
        conventions.groups (.ofList back) :=
  (Bindings.entrywise_groups _ _ _).ofList_append front back

/-- A sublayer of the top level with all that are nested in it. -/
def subtree (conventions : Conventions) (added : Sublayer) :
    List LayerGroup :=
  added.placed [] conventions.leader ::
    added.inner.groups conventions.entryFlag [added.name]
      (conventions.entryFlag [added.name])

/-- The flags of a sublayer of the top level and of those nested in it. -/
def ownFlags (conventions : Conventions) (added : Sublayer) : List String :=
  (conventions.subtree added).map fun group => conventions.flag group.path

/-- The bindings of the top level with one more, a sublayer, among them. -/
def extended (front back : List (KeyCode × Entry)) (key : KeyCode)
    (added : Sublayer) : Bindings :=
  .ofList (front ++ (key, .sublayer added) :: back)

theorem groups_alone (key : KeyCode) :
    conventions.groups (.opens key added.name added.description added.inner
      .nil) = conventions.subtree added := by
  simp [groups, Bindings.groups, subtree, Sublayer.placed]

theorem groups_extended :
    conventions.groups (extended front back key added) =
      conventions.groups (.ofList front) ++ conventions.subtree added ++
        conventions.groups (.ofList back) := by
  rw [extended, groups_ofList_append, List.append_assoc]
  rfl

theorem rulesWith_extended (flags : List String) :
    conventions.rulesWith flags (extended front back key added) =
      conventions.rulesWith flags (.ofList front) ++
        (conventions.subtree added).map (conventions.groupRule flags) ++
          conventions.rulesWith flags (.ofList back) := by
  rw [extended, rulesWith_ofList_append, List.append_assoc,
    ← groups_alone key]
  rfl

/-- The manipulators of the added sublayers stand between the others. -/
theorem manipulators_rules_extended :
    let flags := conventions.flags (extended front back key added)
    (conventions.rules (extended front back key added)).flatMap
        Rule.manipulators =
      (conventions.rulesWith flags (.ofList front)).flatMap
          Rule.manipulators ++
        (conventions.subtree added).flatMap
          (conventions.groupManipulators flags) ++
        (conventions.rulesWith flags (.ofList back)).flatMap
          Rule.manipulators := by
  intro flags
  rw [rules, rulesWith_extended, List.flatMap_append, List.flatMap_append,
    List.flatMap_map]
  rfl

theorem flags_extended_perm :
    (conventions.flags (extended front back key added)).Perm
      (conventions.ownFlags added ++
        conventions.flags (.ofList (front ++ back))) := by
  rw [flags_eq_map_groups, flags_eq_map_groups, groups_extended,
    groups_ofList_append, List.map_append, List.map_append, List.map_append,
    ownFlags, ← List.append_assoc]
  exact List.perm_append_comm.append_right _

theorem mem_groups_extended {group : LayerGroup}
    (member : group ∈ conventions.groups (.ofList (front ++ back))) :
    group ∈ conventions.groups (extended front back key added) := by
  rw [groups_ofList_append, List.mem_append] at member
  rw [groups_extended, List.mem_append, List.mem_append]
  rcases member with inFront | inBack
  · exact .inl (.inl inFront)
  · exact .inr inBack

theorem mem_groups_of_mem_subtree {group : LayerGroup}
    (member : group ∈ conventions.subtree added) :
    group ∈ conventions.groups (extended front back key added) := by
  rw [groups_extended, List.mem_append, List.mem_append]
  exact .inl (.inr member)

theorem mem_commands_extended {bound : KeyCode} {command : Command}
    (member : (bound, command) ∈ (Bindings.ofList (front ++ back)).commands) :
    (bound, command) ∈ (extended front back key added).commands := by
  rw [Bindings.mem_commands_iff, Bindings.toList_ofList] at member
  rw [Bindings.mem_commands_iff, extended, Bindings.toList_ofList]
  rcases List.mem_append.mp member with inFront | inBack
  · exact List.mem_append_left _ inFront
  · exact List.mem_append_right _ (List.mem_cons_of_mem _ inBack)

theorem mem_subtree_iff {group : LayerGroup} :
    group ∈ conventions.subtree added ↔
      group = added.placed [] conventions.leader ∨
        ∃ parent ∈ conventions.subtree added,
          group ∈ parent.children conventions.entryFlag := by
  rw [← groups_alone added.name, groups, Bindings.mem_groups_iff]
  apply or_congr_left
  exact List.mem_singleton

/-- The added sublayers are entered from the leader or from one another. -/
theorem parentFlag_of_mem_subtree {group : LayerGroup}
    (member : group ∈ conventions.subtree added) :
    group.parentFlag = conventions.leader ∨
      group.parentFlag ∈ conventions.ownFlags added := by
  rcases mem_subtree_iff.mp member with
    rfl | ⟨parent, parentMember, isChild⟩
  · exact .inl rfl
  · rw [LayerGroup.parentFlag_of_mem_children isChild]
    rcases conventions.entryFlag_eq_or parent.path with isLeader | isFlag
    · exact .inl isLeader
    · rw [isFlag]
      exact .inr (List.mem_map_of_mem parentMember)

/-! ## What changes in the rules -/

/--
A rule beside the one that it becomes when some flags are added: the rule of
a command stays as it is, and a sublayer's rule differs in what has to hold
for entering it, where every added flag has to be off as well.
-/
inductive Extends (conventions : Conventions) (flags own : List String) :
    Rule → Rule → Prop
  | command (key : KeyCode) (command : Command) :
      Extends conventions flags own (conventions.leaderRule key command)
        (conventions.leaderRule key command)
  | sublayer (group : LayerGroup) (conditions : List Condition)
      (kept : (conventions.entryConditions flags group).Sublist conditions)
      (guarded : conditions.Perm
        (own.map (Condition.isOn · false) ++
          conventions.entryConditions flags group)) :
      Extends conventions flags own (conventions.groupRule flags group)
        { conventions.groupRule flags group with
          manipulators :=
            { conventions.entryManipulator flags group with
              conditions := conditions } ::
                (conventions.groupManipulators flags group).tail }

/-- A sublayer that none of some flags is the flag or the parent's flag of. -/
def Apart (conventions : Conventions) (own : List String)
    (group : LayerGroup) : Prop :=
  conventions.flag group.path ∉ own ∧ group.parentFlag ∉ own

variable {flags flags' own : List String} {group : LayerGroup}

theorem entryConditions_perm (more : flags'.Perm (own ++ flags))
    (apart : conventions.Apart own group) :
    (conventions.entryConditions flags' group).Perm
      (own.map (Condition.isOn · false) ++
        conventions.entryConditions flags group) := by
  unfold entryConditions
  rw [← List.append_assoc]
  apply List.Perm.append_right
  have guards : own.filter (fun other =>
      other ≠ conventions.flag group.path && other ≠ group.parentFlag) =
        own := by
    apply List.filter_eq_self.mpr
    intro other inOwn
    have notFlag : other ≠ conventions.flag group.path := by
      rintro rfl
      exact apart.1 inOwn
    have notParent : other ≠ group.parentFlag := by
      rintro rfl
      exact apart.2 inOwn
    simp [notFlag, notParent]
  have sorted : (flags'.mergeSort (· ≤ ·)).Perm
      (own ++ flags.mergeSort (· ≤ ·)) :=
    (List.mergeSort_perm _ _).trans
      (more.trans ((List.mergeSort_perm _ _).symm.append_left own))
  have filtered := (sorted.filter fun other =>
    other ≠ conventions.flag group.path && other ≠ group.parentFlag).map
      (Condition.isOn · false)
  rwa [List.filter_append, guards, List.map_append] at filtered

theorem entryConditions_sublist (more : flags'.Perm (own ++ flags)) :
    (conventions.entryConditions flags group).Sublist
      (conventions.entryConditions flags' group) := by
  have sublist : (flags.mergeSort (· ≤ ·)).Sublist
      (flags'.mergeSort (· ≤ ·)) := by
    have among : flags.Subperm flags' :=
      (List.sublist_append_right own flags).subperm.trans more.symm.subperm
    refine List.sublist_of_subperm_of_pairwise ?_
      (List.pairwise_mergeSort' (· ≤ ·) flags)
      (List.pairwise_mergeSort' (· ≤ ·) flags')
    exact (List.mergeSort_perm _ _).subperm.trans
      (among.trans (List.mergeSort_perm _ _).symm.subperm)
  exact ((sublist.filter _).map _).append_right _

theorem extends_groupRule (more : flags'.Perm (own ++ flags))
    (apart : conventions.Apart own group) :
    conventions.Extends flags own (conventions.groupRule flags group)
      (conventions.groupRule flags' group) :=
  .sublayer group (conventions.entryConditions flags' group)
    (entryConditions_sublist more) (entryConditions_perm more apart)

theorem forall₂_extends_rulesWith (more : flags'.Perm (own ++ flags))
    {layer : Bindings}
    (apart : ∀ group ∈ conventions.groups layer,
      conventions.Apart own group) :
    List.Forall₂ (conventions.Extends flags own)
      (conventions.rulesWith flags layer)
      (conventions.rulesWith flags' layer) := by
  induction layer with
  | nil => exact .nil
  | fires key command rest ih => exact .cons (.command key command) (ih apart)
  | opens key name description inner rest _ ih =>
      rw [groups_opens] at apart
      apply List.rel_append
      · rw [List.forall₂_map_left_iff, List.forall₂_map_right_iff,
          List.forall₂_same]
        intro group member
        exact extends_groupRule more
          (apart group (List.mem_append_left _ member))
      · exact ih fun group member =>
          apart group (List.mem_append_right _ member)

/-- The sublayers of a tree have no flag of an added one. -/
theorem Accepts.apart
    (accepts : conventions.Accepts (.ofList (front ++ back)))
    (accepts' : conventions.Accepts (extended front back key added))
    (member : group ∈ conventions.groups (.ofList (front ++ back))) :
    conventions.Apart (conventions.ownFlags added) group := by
  have nodup : (conventions.leader :: (conventions.ownFlags added ++
      conventions.flags (.ofList (front ++ back)))).Nodup :=
    (flags_extended_perm.cons _).nodup_iff.mp accepts'.steering_nodup
  rw [List.nodup_cons, List.mem_append, not_or, List.nodup_append'] at nodup
  rcases nodup with ⟨⟨leaderApart, _⟩, _, _, disjoint⟩
  constructor
  · exact fun inOwn => disjoint inOwn (flag_mem_flags member)
  · rcases List.mem_cons.mp (accepts.parentFlag_mem_steering member).1 with
      isLeader | isFlag
    · rw [isLeader]
      exact leaderApart
    · exact fun inOwn => disjoint inOwn isFlag

/-- The rules with the added sublayers beside those without them. -/
theorem Accepts.forall₂_extends
    (accepts : conventions.Accepts (.ofList (front ++ back)))
    (accepts' : conventions.Accepts (extended front back key added)) :
    let flags := conventions.flags (.ofList (front ++ back))
    let flags' := conventions.flags (extended front back key added)
    let own := conventions.ownFlags added
    List.Forall₂ (conventions.Extends flags own)
        (conventions.rulesWith flags (.ofList front))
        (conventions.rulesWith flags' (.ofList front)) ∧
      List.Forall₂ (conventions.Extends flags own)
        (conventions.rulesWith flags (.ofList back))
        (conventions.rulesWith flags' (.ofList back)) := by
  intro flags flags' own
  have apart (group : LayerGroup)
      (member : group ∈ conventions.groups (.ofList front) ++
        conventions.groups (.ofList back)) :
      conventions.Apart own group :=
    accepts.apart accepts' (groups_ofList_append ▸ member)
  constructor
  · apply forall₂_extends_rulesWith flags_extended_perm
    exact fun group member => apart group (List.mem_append_left _ member)
  · apply forall₂_extends_rulesWith flags_extended_perm
    exact fun group member => apart group (List.mem_append_right _ member)

end Conventions

end ModalKeymap
