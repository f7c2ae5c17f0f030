import ModalKeymap.Proofs.Exclusion

/-!
# Entering nested sublayers

A sublayer that stands in another one is meant to be entered from that one:
what enters it waits until the flag of the layer above is on, and turns that
flag off (`Conventions.EntersFromAbove`).  Whatever the naming is, only what
enters a sublayer turns its flag on (`Accepts.source_of_turned_on`), so this
depends on where sublayers are entered from.  There is one exception.  A layer
whose flag is the empty text counts as having none, and what is nested right
in it is entered from the leader, past it.  So nested sublayers are entered
from above in all runs exactly if no layer above one has the empty text for a
flag (`nested_entered_from_above_iff`).
-/

namespace ModalKeymap

open Replay

namespace Conventions

variable {conventions : Conventions} {tree : Bindings} {group : LayerGroup}
  {manipulator : Manipulator} {values : Variables} {live : Option String}
  {press : Press}

/--
Where the flag of a nested sublayer comes on, the flag of the layer above was
on and is now off.
-/
def EntersFromAbove (conventions : Conventions) (tree : Bindings)
    (values next : Variables) : Prop :=
  ∀ above ∈ tree.sublayersBelow [], ∀ nested ∈ above.2.inner.sublayers,
    values (conventions.flag (above.1 ++ [nested.2.name])) = .integer 0 →
    next (conventions.flag (above.1 ++ [nested.2.name])) = .integer 1 →
      values (conventions.flag above.1) = .integer 1 ∧
        next (conventions.flag above.1) = .integer 0

/-! ## Where a sublayer is entered from -/

/-- Only what enters a sublayer turns its flag on. -/
theorem Accepts.source_of_turned_on (accepts : conventions.Accepts tree)
    (listed : manipulator ∈
      (conventions.rules tree).flatMap Rule.manipulators)
    (enabled : manipulator.isEnabled values press)
    (shows : values.Shows (conventions.steering tree) live)
    (member : group ∈ conventions.groups tree)
    (turnedOn : manipulator.update values (conventions.flag group.path) =
      .integer 1) :
    live = some group.parentFlag ∧
      (manipulator.update values).Shows (conventions.steering tree)
        (some (conventions.flag group.path)) := by
  have ownFlag : conventions.flag group.path ∈ conventions.steering tree :=
    flag_mem_steering member
  -- a manipulator that makes nothing live leaves no flag on
  have idle : ∀ {source key sent}, manipulator.Binds
      (conventions.steering tree) source key none sent → False := by
    intro source key sent binds
    rcases (binds.isEnabled_iff shows).mp enabled with ⟨rfl, _⟩
    have none := (binds.shows_update values shows).on_iff ownFlag
    cases none.mp turnedOn
  rcases mem_manipulators_rules_iff.mp listed with
    ⟨key, command, bound, rfl⟩ | ⟨entered, enteredMember, kind⟩
  · exact (idle (accepts.binds_leader bound)).elim
  rcases kind with rfl | rfl | ⟨key, command, bound, rfl⟩
  · have binds := accepts.binds_entry enteredMember
    rcases (binds.isEnabled_iff shows).mp enabled with ⟨isLive, _⟩
    have nextShows := binds.shows_update values (isLive ▸ shows)
    have sameFlag := Option.some.inj ((nextShows.on_iff ownFlag).mp turnedOn)
    have same := accepts.eq_of_flag_eq enteredMember member sameFlag
    subst same
    exact ⟨isLive, nextShows⟩
  · exact (idle (conventions.binds_escape enteredMember)).elim
  · exact (idle (accepts.binds_command enteredMember bound)).elim

/-- Every sublayer of a tree has its place among the groups. -/
theorem exists_group_of_mem_sublayersBelow {below : KeyPath × Sublayer}
    (member : below ∈ tree.sublayersBelow []) :
    ∃ group ∈ conventions.groups tree, group.path = below.1 ∧
      group.inner = below.2.inner := by
  rcases conventions.exists_groups_eq_map tree with ⟨source, listed⟩
  rw [listed]
  exact ⟨_, List.mem_map_of_mem member, rfl, rfl⟩

/-- A sublayer in another one is entered from what that one is left by. -/
theorem exists_child_of_nested {above : KeyPath × Sublayer}
    {nested : KeyCode × Sublayer}
    (member : above ∈ tree.sublayersBelow [])
    (isNested : nested ∈ above.2.inner.sublayers) :
    ∃ parent ∈ conventions.groups tree, ∃ child ∈ conventions.groups tree,
      parent.path = above.1 ∧ child.path = above.1 ++ [nested.2.name] ∧
      child.name = nested.2.name ∧
      child.parentFlag = conventions.entryFlag above.1 := by
  rcases exists_group_of_mem_sublayersBelow member with
    ⟨parent, parentMember, path, inner⟩
  refine ⟨parent, parentMember,
    nested.2.placed parent.path (conventions.entryFlag parent.path),
    mem_groups_of_mem_children parentMember ?_, path, ?_, rfl, ?_⟩
  · apply List.mem_map_of_mem (f := fun entry : KeyCode × Sublayer =>
      entry.2.placed parent.path (conventions.entryFlag parent.path))
    rwa [inner]
  · rw [← path]
    rfl
  · rw [← path]
    rfl

/-- A layer with a flag is the only one that what is in it is entered from. -/
theorem Accepts.entersFromAbove_update (accepts : conventions.Accepts tree)
    (flagged : ∀ above ∈ tree.sublayersBelow [],
      above.2.inner.sublayers ≠ [] → conventions.flag above.1 ≠ "")
    (listed : manipulator ∈
      (conventions.rules tree).flatMap Rule.manipulators)
    (enabled : manipulator.isEnabled values press)
    (shows : values.Shows (conventions.steering tree) live) :
    conventions.EntersFromAbove tree values (manipulator.update values) := by
  intro above member nested isNested _ turnedOn
  rcases exists_child_of_nested member isNested with
    ⟨parent, parentMember, child, childMember, parentPath, childPath, _,
      source⟩
  have hasFlag := flagged above member (List.ne_nil_of_mem isNested)
  have fromFlag : child.parentFlag = conventions.flag above.1 := by
    rw [source, entryFlag, if_neg (by simpa using hasFlag)]
  have parentFlag : conventions.flag above.1 ∈ conventions.steering tree :=
    parentPath ▸ flag_mem_steering parentMember
  rw [← childPath] at turnedOn
  rcases accepts.source_of_turned_on listed enabled shows childMember
    turnedOn with ⟨isLive, nextShows⟩
  constructor
  · rw [shows.on_iff parentFlag, isLive, fromFlag]
  · rw [nextShows.off_iff parentFlag, ← fromFlag]
    intro same
    exact (accepts.parentFlag_mem_steering childMember).2
      (Option.some.inj same).symm

/-! ## Layers whose flag is the empty text -/

/-- What is in a layer without a flag is entered from the leader. -/
theorem exists_child_of_unflagged {above : KeyPath × Sublayer}
    {nested : KeyCode × Sublayer}
    (member : above ∈ tree.sublayersBelow [])
    (isNested : nested ∈ above.2.inner.sublayers)
    (unflagged : conventions.flag above.1 = "") :
    ∃ child ∈ conventions.groups tree,
      child.path = above.1 ++ [nested.2.name] ∧
      child.name = nested.2.name ∧
      child.parentFlag = conventions.leader := by
  rcases exists_child_of_nested member isNested with
    ⟨_, _, child, childMember, _, path, name, source⟩
  refine ⟨child, childMember, path, name, ?_⟩
  rw [source, entryFlag, unflagged]
  rfl

/-- Entering it from there goes past that layer, which is not live. -/
theorem Accepts.not_entersFromAbove (accepts : conventions.Accepts tree)
    {above : KeyPath × Sublayer} {nested : KeyCode × Sublayer}
    (member : above ∈ tree.sublayersBelow [])
    (isNested : nested ∈ above.2.inner.sublayers)
    (shows : values.Shows (conventions.steering tree)
      (some conventions.leader))
    {next : Variables}
    (nextShows : next.Shows (conventions.steering tree)
      (some (conventions.flag (above.1 ++ [nested.2.name])))) :
    ¬conventions.EntersFromAbove tree values next := by
  rcases exists_child_of_nested member isNested with
    ⟨parent, parentMember, child, childMember, parentPath, childPath, _⟩
  have ownFlag : conventions.flag (above.1 ++ [nested.2.name]) ∈
      conventions.flags tree := childPath ▸ flag_mem_flags childMember
  have aboveFlag : conventions.flag above.1 ∈ conventions.flags tree :=
    parentPath ▸ flag_mem_flags parentMember
  have wasOff : ∀ flag ∈ conventions.flags tree,
      values flag = .integer 0 := by
    intro flag inFlags
    rw [shows.off_iff (List.mem_cons_of_mem _ inFlags)]
    intro same
    exact accepts.ne_leader_of_mem_flags inFlags (Option.some.inj same).symm
  intro fromAbove
  have aboveOn := (fromAbove above member nested isNested
    (wasOff _ ownFlag)
    ((nextShows.on_iff (List.mem_cons_of_mem _ ownFlag)).mpr rfl)).1
  rw [wasOff _ aboveFlag] at aboveOn
  cases aboveOn

/-- What is entered from the leader by an unbound name is in such a layer. -/
theorem Accepts.exists_unflagged (accepts : conventions.Accepts tree)
    (member : group ∈ conventions.groups tree)
    (fromLeader : group.parentFlag = conventions.leader)
    (unbound : group.name ∉ tree.keys) :
    ∃ parent ∈ conventions.groups tree, conventions.flag parent.path = "" ∧
      group.path = parent.path ++ [group.name] := by
  rcases Bindings.mem_groups_iff.mp member with
    outermost | ⟨parent, parentMember, isChild⟩
  · rcases Bindings.mem_placedSublayers_iff.mp outermost with
      ⟨key, sublayer, bound, rfl⟩
    refine absurd ?_ unbound
    show sublayer.name ∈ tree.keys
    rw [accepts.selfNamed key sublayer bound]
    exact Bindings.mem_keys_of_mem_sublayers bound
  · have sourceIsLeader : conventions.entryFlag parent.path =
        conventions.leader :=
      (LayerGroup.parentFlag_of_mem_children isChild).symm.trans fromLeader
    rcases Bindings.mem_placedSublayers_iff.mp isChild with
      ⟨key, sublayer, _, rfl⟩
    refine ⟨parent, parentMember, ?_, rfl⟩
    by_contra flagged
    rw [entryFlag, if_neg (by simpa using flagged)] at sourceIsLeader
    exact accepts.flag_ne_leader parentMember sourceIsLeader

/-- Only one layer can have the empty text for a flag. -/
theorem Accepts.path_eq_of_fromLeader (accepts : conventions.Accepts tree)
    {other : LayerGroup}
    (member : group ∈ conventions.groups tree)
    (otherMember : other ∈ conventions.groups tree)
    (fromLeader : group.parentFlag = conventions.leader)
    (otherFromLeader : other.parentFlag = conventions.leader)
    (sameName : group.name = other.name) (unbound : group.name ∉ tree.keys) :
    group.path = other.path := by
  rcases accepts.exists_unflagged member fromLeader unbound with
    ⟨parent, parentMember, unflagged, path⟩
  rcases accepts.exists_unflagged otherMember otherFromLeader
    (sameName ▸ unbound) with
    ⟨otherParent, otherParentMember, otherUnflagged, otherPath⟩
  have sameParent := accepts.eq_of_flag_eq parentMember otherParentMember
    (unflagged.trans otherUnflagged.symm)
  rw [path, otherPath, sameParent, sameName]

/-- In leader mode, nothing else waits for a name that is not bound there. -/
theorem Accepts.eq_entryManipulator_of_enabled
    (accepts : conventions.Accepts tree)
    (shows : values.Shows (conventions.steering tree)
      (some conventions.leader))
    (member : group ∈ conventions.groups tree)
    (fromLeader : group.parentFlag = conventions.leader)
    (unbound : group.name ∉ tree.keys)
    (listed : manipulator ∈
      (conventions.rules tree).flatMap Rule.manipulators)
    (enabled : manipulator.isEnabled values ⟨group.name, []⟩) :
    manipulator =
      conventions.entryManipulator (conventions.flags tree) group := by
  rcases mem_manipulators_rules_iff.mp listed with
    ⟨key, command, bound, rfl⟩ | ⟨other, otherMember, kind⟩
  · rcases ((accepts.binds_leader bound).isEnabled_iff shows).mp enabled
      with ⟨_, sameKey⟩
    have isBound := Bindings.mem_keys_of_mem_commands bound
    rw [← sameKey] at isBound
    exact absurd isBound unbound
  · have notFlag : some conventions.leader ≠
        some (conventions.flag other.path) := fun same =>
      accepts.flag_ne_leader otherMember (Option.some.inj same).symm
    rcases kind with rfl | rfl | ⟨key, command, bound, rfl⟩
    · rcases ((accepts.binds_entry otherMember).isEnabled_iff shows).mp
        enabled with ⟨isLive, sameName⟩
      have samePath := accepts.path_eq_of_fromLeader member otherMember
        fromLeader (Option.some.inj isLive).symm sameName unbound
      rw [accepts.eq_of_flag_eq member otherMember
        (congrArg conventions.flag samePath)]
    · exact absurd (((conventions.binds_escape otherMember).isEnabled_iff
        shows).mp enabled).1 notFlag
    · exact absurd (((accepts.binds_command otherMember
        bound).isEnabled_iff shows).mp enabled).1 notFlag

/-- So such a name enters what waits for it there. -/
theorem Accepts.firing?_eq_of_unbound (accepts : conventions.Accepts tree)
    (shows : values.Shows (conventions.steering tree)
      (some conventions.leader))
    (member : group ∈ conventions.groups tree)
    (fromLeader : group.parentFlag = conventions.leader)
    (unbound : group.name ∉ tree.keys) :
    firing? ((conventions.rules tree).flatMap Rule.manipulators) values
        ⟨group.name, []⟩ =
      some (conventions.entryManipulator (conventions.flags tree) group) := by
  have enters : (conventions.entryManipulator (conventions.flags tree)
      group).isEnabled values ⟨group.name, []⟩ :=
    ((accepts.binds_entry member).isEnabled_iff shows).mpr
      ⟨congrArg some fromLeader.symm, rfl⟩
  have listed := mem_manipulators_rules_iff.mpr
    (.inr ⟨group, member, .inl rfl⟩)
  cases found : firing? ((conventions.rules tree).flatMap
      Rule.manipulators) values ⟨group.name, []⟩ with
  | none => exact absurd enters (List.find?_eq_none.mp found _ listed)
  | some first =>
      rcases enabled_of_firing? found with ⟨firstListed, firstEnabled⟩
      rw [accepts.eq_entryManipulator_of_enabled shows member fromLeader
        unbound firstListed firstEnabled]

/-- In leader mode such a name enters a sublayer past the layer above it. -/
theorem Accepts.after_enters_past (accepts : conventions.Accepts tree)
    {above : KeyPath × Sublayer} {nested : KeyCode × Sublayer}
    (member : above ∈ tree.sublayersBelow [])
    (isNested : nested ∈ above.2.inner.sublayers)
    (unflagged : conventions.flag above.1 = "")
    (unbound : nested.2.name ∉ tree.keys)
    (shows : values.Shows (conventions.steering tree)
      (some conventions.leader)) :
    (after ((conventions.rules tree).flatMap Rule.manipulators) values
        ⟨nested.2.name, []⟩).Shows (conventions.steering tree)
      (some (conventions.flag (above.1 ++ [nested.2.name]))) := by
  rcases exists_child_of_unflagged member isNested unflagged with
    ⟨child, childMember, path, name, fromLeader⟩
  have fired := accepts.firing?_eq_of_unbound shows childMember fromLeader
    (name ▸ unbound)
  have binds := accepts.binds_entry childMember
  rw [fromLeader, path] at binds
  have updated : after ((conventions.rules tree).flatMap Rule.manipulators)
      values ⟨nested.2.name, []⟩ =
        (conventions.entryManipulator (conventions.flags tree) child).update
          values := by
    rw [after, ← name, fired]
  rw [updated]
  exact binds.shows_update values shows

/-! ## All runs -/

/--
Take the rules of an accepted tree and start in leader mode.  Whatever enabled
manipulators fire, a nested sublayer is only entered from the layer above, and
that one is left, exactly if no layer with sublayers in it has the empty text
for a flag.  Then it is so in every run.  Where a layer has that flag, the
first press of a name in it that the top level does not bind goes past it.
-/
theorem nested_entered_from_above_iff {rules : List Rule}
    (start : Variables)
    (compiled : conventions.compile? tree = .ok rules)
    (leaderOn : start conventions.leader = .integer 1)
    (flagsOff : ∀ flag ∈ conventions.flags tree, start flag = .integer 0) :
    let manipulators := rules.flatMap Rule.manipulators
    let flagged := ∀ above ∈ tree.sublayersBelow [],
      above.2.inner.sublayers ≠ [] → conventions.flag above.1 ≠ ""
    ((∀ values press manipulator next, Reaches manipulators start values →
        Fires manipulators values press manipulator next →
          conventions.EntersFromAbove tree values next) ↔ flagged) ∧
    (flagged → ∀ presses press,
      let values := run manipulators start presses
      conventions.EntersFromAbove tree values
        (after manipulators values press)) ∧
    ∀ above ∈ tree.sublayersBelow [], ∀ nested ∈ above.2.inner.sublayers,
      conventions.flag above.1 = "" → nested.2.name ∉ tree.keys →
        ¬conventions.EntersFromAbove tree start
          (after manipulators start ⟨nested.2.name, []⟩) := by
  intro manipulators flagged
  rcases compile?_eq_ok_iff_accepts.mp compiled with ⟨accepts, rfl⟩
  have initially := accepts.shows_leader leaderOn flagsOff
  have showing : ∀ values, Reaches manipulators start values →
      ∃ live, values.Shows (conventions.steering tree) live :=
    fun values reached => reached.shows
      (fun _ listed => accepts.exists_binds listed) ⟨_, initially⟩
  have entering : flagged → ∀ values press manipulator next,
      Reaches manipulators start values →
      Fires manipulators values press manipulator next →
        conventions.EntersFromAbove tree values next := by
    rintro hasFlags values press manipulator next reached ⟨listed, enabled⟩
    rcases showing values reached with ⟨live, shows⟩
    exact accepts.entersFromAbove_update hasFlags listed enabled shows
  refine ⟨⟨?_, entering⟩, ?_, ?_⟩
  · intro always above member hasNested unflagged
    rcases List.exists_mem_of_ne_nil _ hasNested with ⟨nested, isNested⟩
    rcases exists_child_of_unflagged member isNested unflagged with
      ⟨child, childMember, path, name, fromLeader⟩
    have binds := accepts.binds_entry childMember
    rw [fromLeader, path] at binds
    refine accepts.not_entersFromAbove member isNested initially
      (binds.shows_update start initially) ?_
    refine always start ⟨child.name, []⟩ _ _ .start (.mk ?_ ?_)
    · exact mem_manipulators_rules_iff.mpr
        (.inr ⟨child, childMember, .inl rfl⟩)
    · exact (binds.isEnabled_iff initially).mpr ⟨rfl, rfl⟩
  · intro hasFlags presses press values
    cases found : firing? manipulators values press with
    | none =>
        have unchanged : after manipulators values press = values := by
          rw [after, found]
        -- nothing comes on where nothing fires
        intro above _ nested _ wasOff turnedOn
        rw [unchanged, wasOff] at turnedOn
        cases turnedOn
    | some manipulator =>
        have updated : after manipulators values press =
            manipulator.update values := by
          rw [after, found]
        rcases enabled_of_firing? found with ⟨listed, enabled⟩
        rw [updated]
        exact entering hasFlags _ _ _ _ (reaches_run _ _ .start presses)
          (.mk listed enabled)
  · intro above member nested isNested unflagged unbound
    exact accepts.not_entersFromAbove member isNested initially
      (accepts.after_enters_past member isNested unflagged unbound initially)

/-- With the usual naming the nested sublayer is entered from the other. -/
theorem nestedExample_entered_from_above :
    let conventions : Conventions := {}
    let tree := Bindings.nestedExample
    let manipulators := (conventions.rules tree).flatMap Rule.manipulators
    let inside := run manipulators
      (Variables.unset.assign ⟨"leader", .integer 1⟩) [⟨.s, []⟩]
    conventions.compile? tree = .ok (conventions.rules tree) ∧
      conventions.EntersFromAbove tree inside
        (after manipulators inside ⟨.w, []⟩) := by
  intro conventions tree manipulators inside
  have compiled : conventions.compile? tree =
      .ok (conventions.rules tree) :=
    compile?_eq_ok_iff.mpr ⟨by decide +kernel, rfl⟩
  have entered := nested_entered_from_above_iff
    (Variables.unset.assign ⟨"leader", .integer 1⟩) compiled
    (by decide +kernel) (by decide +kernel)
  exact ⟨compiled, entered.2.1 (by decide +kernel) [⟨.s, []⟩] ⟨.w, []⟩⟩

/-- Every top-level sublayer has the empty text for a flag. -/
def unnamedExample : Conventions where
  naming := .custom fun path =>
    if path.length = 1 then "" else FlagNaming.standard.flag path

/--
From leader mode `w` enters the sublayer `w` inside `s`, with `s` not entered
before.
-/
theorem unnamedExample_enters_past_layer :
    let tree := Bindings.nestedExample
    let rules := unnamedExample.rules tree
    let start := Variables.unset.assign ⟨"leader", .integer 1⟩
    let next := after (rules.flatMap Rule.manipulators) start ⟨.w, []⟩
    tree.KeysDistinct ∧ tree.SelfNamed ∧
      unnamedExample.compile? tree = .ok rules ∧
      (∀ flag ∈ unnamedExample.flags tree, start flag = .integer 0) ∧
      next (unnamedExample.flag [.s, .w]) = .integer 1 ∧
      start (unnamedExample.flag [.s]) ≠ .integer 1 ∧
      ¬unnamedExample.EntersFromAbove tree start next := by
  intro tree rules start next
  have compiled : unnamedExample.compile? tree = .ok rules :=
    compile?_eq_ok_iff.mpr ⟨by decide +kernel, rfl⟩
  have flagsOff : ∀ flag ∈ unnamedExample.flags tree,
      start flag = .integer 0 := by
    decide +kernel
  have accepts := (compile?_eq_ok_iff_accepts.mp compiled).1
  have initially := accepts.shows_leader (by decide +kernel) flagsOff
  have inTree : ∃ above ∈ tree.sublayersBelow [], above.1 = [.s] ∧
      ∃ nested ∈ above.2.inner.sublayers, nested.2.name = .w := by
    decide +kernel
  rcases inTree with ⟨above, member, path, nested, isNested, name⟩
  have shows := accepts.after_enters_past member isNested
    (by rw [path]; rfl) (by rw [name]; decide +kernel) initially
  have past := accepts.not_entersFromAbove member isNested initially shows
  rw [path, name] at shows
  rw [name] at past
  exact ⟨by decide +kernel, by decide +kernel, compiled, flagsOff,
    (shows.on_iff (by decide +kernel)).mpr rfl, by decide +kernel, past⟩

end Conventions
end ModalKeymap
