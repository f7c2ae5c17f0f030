import ModalKeymap.Proofs.ExtendedRules
import ModalKeymap.Proofs.NestedEntry

/-!
# One more sublayer

A sublayer that is bound at one more key of the top level changes what has to
be off for entering any other one, and nothing else.  As long as no press
enters one of the new sublayers from the leader, their flags stay off, and
nobody can tell the two documents apart; the first press that does so makes a
difference (`Accepts.run_extended_iff`).  Such a press is of the added key,
unless a layer below it has the empty text for a flag: what is nested right in
that one is entered from the leader too (`conservative_extension_iff`).
-/

namespace ModalKeymap

/-! ## Manipulators that cannot be told apart -/

namespace Replay

variable {manipulators manipulators' : List Manipulator}
  {values : Variables} {press : Press}

/-- Manipulators with the same events that are enabled alike do the same. -/
theorem after_eq_and_emitted_eq
    (alike : List.Forall₂ (fun first second =>
      second.events = first.events ∧
        second.isEnabled values press = first.isEnabled values press)
      manipulators manipulators') :
    after manipulators' values press = after manipulators values press ∧
      emitted manipulators' values press =
        emitted manipulators values press := by
  induction alike with
  | nil => exact ⟨rfl, rfl⟩
  | @cons first second _ _ one _ ih =>
      rcases one with ⟨sameEvents, enabled⟩
      by_cases fires : first.isEnabled values press = true
      · simp [after, emitted, firing?, enabled, fires, Manipulator.update,
          Manipulator.assignments, Manipulator.emissions, sameEvents]
      · simpa [after, emitted, firing?, enabled, fires] using ih

/--
Manipulators may be left out if none of them is enabled, or if they stand
behind one that is.
-/
theorem firing?_append_append {front idle back : List Manipulator}
    (passed : (∃ manipulator ∈ front, manipulator.isEnabled values press) ∨
      ∀ manipulator ∈ idle, ¬manipulator.isEnabled values press) :
    firing? (front ++ idle ++ back) values press =
      firing? (front ++ back) values press := by
  cases fired : firing? front values press with
  | some manipulator =>
      rw [List.append_assoc, firing?_append_of_fired fired,
        firing?_append_of_fired fired]
  | none =>
      have unfired : ¬∃ manipulator ∈ front,
          manipulator.isEnabled values press := by
        simpa using List.find?_eq_none.mp fired
      have idleUnfired : firing? idle values press = none :=
        List.find?_eq_none.mpr (passed.resolve_left unfired)
      rw [List.append_assoc, firing?_append_of_unfired fired,
        firing?_append_of_unfired idleUnfired,
        firing?_append_of_unfired fired]

end Replay

namespace Conventions

open Replay

variable {conventions : Conventions} {front back : List (KeyCode × Entry)}
  {key : KeyCode} {added : Sublayer} {flags own : List String}
  {group : LayerGroup} {values : Variables} {press : Press}

theorem Extends.forall₂_enabled {rule rule' : Rule}
    (becomes : conventions.Extends flags own rule rule')
    (off : ∀ flag ∈ own, values flag = .integer 0) (press : Press) :
    List.Forall₂ (fun first second =>
      second.events = first.events ∧
        second.isEnabled values press = first.isEnabled values press)
      rule.manipulators rule'.manipulators := by
  cases becomes with
  | command key command => exact List.forall₂_same.mpr fun _ _ => ⟨rfl, rfl⟩
  | sublayer group conditions kept guarded =>
      have unguarded : conditions.all (·.holds values) =
          (conventions.entryConditions flags group).all (·.holds values) := by
        have ownOff : (own.map (Condition.isOn · false)).all
            (·.holds values) = true := by
          simpa using off
        rw [guarded.all_eq, List.all_append, ownOff, Bool.true_and]
      constructor
      · refine ⟨rfl, ?_⟩
        simp only [Manipulator.isEnabled, entryManipulator, unguarded]
      · exact List.forall₂_same.mpr fun _ _ => ⟨rfl, rfl⟩

/-! ## What answers to a key in leader mode -/

/--
A key that something in a layer of the top level answers to while the leader
is on: a command, or a sublayer that is entered from the leader.
-/
def Answers (conventions : Conventions) (layer : Bindings)
    (key : KeyCode) : Prop :=
  (∃ command, (key, command) ∈ layer.commands) ∨
    ∃ group ∈ conventions.groups layer,
      group.parentFlag = conventions.leader ∧ group.name = key

theorem entryManipulator_enabled_iff :
    (conventions.entryManipulator flags group).isEnabled values press ↔
      group.name = press.key ∧ values group.parentFlag = .integer 1 ∧
        ∀ other ∈ flags, other ≠ conventions.flag group.path →
          other ≠ group.parentFlag → values other = .integer 0 := by
  rw [Manipulator.isEnabled, Bool.and_eq_true, ← holds_entryConditions_iff]
  apply and_congr_left'
  simp [entryManipulator]

theorem leaderManipulator_enabled_iff {command : Command} :
    (conventions.leaderManipulator key command).isEnabled values press ↔
      key = press.key ∧ values conventions.leader = .integer 1 := by
  simp [Manipulator.isEnabled, leaderManipulator]

/-- While a sublayer is off, nothing of it is enabled but what enters it. -/
theorem eq_entry_of_enabled
    (off : values (conventions.flag group.path) = .integer 0)
    {manipulator : Manipulator}
    (listed : manipulator ∈ conventions.groupManipulators flags group)
    (enabled : manipulator.isEnabled values press) :
    manipulator = conventions.entryManipulator flags group := by
  rw [groupManipulators, List.mem_cons, List.mem_cons, List.mem_map] at listed
  rcases listed with rfl | rfl | ⟨⟨key, command⟩, _, rfl⟩
  · rfl
  · simp [Manipulator.isEnabled, escapeManipulator, off] at enabled
  · simp [Manipulator.isEnabled, commandManipulator, off] at enabled

/-- In leader mode just the keys that are answered to enable something. -/
theorem Accepts.exists_enabled_iff {tree layer : Bindings}
    (accepts : conventions.Accepts tree)
    (inTree : conventions.groups layer ⊆ conventions.groups tree)
    (leaderOn : values conventions.leader = .integer 1)
    (off : ∀ flag ∈ conventions.flags tree, values flag = .integer 0) :
    (∃ manipulator ∈ (conventions.rulesWith (conventions.flags tree)
        layer).flatMap Rule.manipulators,
      manipulator.isEnabled values press) ↔
        conventions.Answers layer press.key := by
  simp only [(conventions.manipulators_rulesWith_perm _ layer).mem_iff,
    List.mem_append, List.mem_map, List.mem_flatMap]
  constructor
  · rintro ⟨manipulator, ⟨⟨key, command⟩, bound, rfl⟩ |
      ⟨group, member, listed⟩, enabled⟩
    · rw [← (leaderManipulator_enabled_iff.mp enabled).1]
      exact .inl ⟨command, bound⟩
    · have flagOff := off _ (flag_mem_flags (inTree member))
      rw [eq_entry_of_enabled flagOff listed enabled,
        entryManipulator_enabled_iff] at enabled
      rcases enabled with ⟨name, parentOn, _⟩
      refine .inr ⟨group, member, ?_, name⟩
      rcases List.mem_cons.mp
        (accepts.parentFlag_mem_steering (inTree member)).1 with
        isLeader | isFlag
      · exact isLeader
      · rw [off _ isFlag] at parentOn
        cases parentOn
  · rintro (⟨command, bound⟩ | ⟨group, member, fromLeader, name⟩)
    · exact ⟨_, .inl ⟨_, bound, rfl⟩,
        leaderManipulator_enabled_iff.mpr ⟨rfl, leaderOn⟩⟩
    · refine ⟨_, .inr ⟨group, member, List.mem_cons_self⟩,
        entryManipulator_enabled_iff.mpr ⟨name, ?_, ?_⟩⟩
      · rw [fromLeader, leaderOn]
      · exact fun other isFlag _ _ => off other isFlag

/-- Firing leaves the leader off unless a flag was on beside it. -/
theorem Accepts.update_leader_ne_one {tree : Bindings}
    (accepts : conventions.Accepts tree) {manipulator : Manipulator}
    (listed : manipulator ∈
      (conventions.rules tree).flatMap Rule.manipulators)
    (enabled : manipulator.isEnabled values press)
    (alone : values conventions.leader = .integer 1 →
      ∀ flag ∈ conventions.flags tree, values flag = .integer 0) :
    manipulator.update values conventions.leader ≠ .integer 1 := by
  rcases mem_manipulators_rules_iff.mp listed with
    ⟨key, command, bound, rfl⟩ | ⟨group, member, own⟩
  · rw [update_leaderManipulator (accepts.spares_of_mem_commands bound)
      leader_mem_steering]
    simp
  have notFlag := (accepts.flag_ne_leader member).symm
  rcases own with rfl | rfl | ⟨key, command, bound, rfl⟩
  · rw [update_entryManipulator (accepts.parentFlag_mem_steering member).2
      (accepts.flag_ne_leader member)]
    simp [notFlag]
  · rw [update_escapeManipulator, if_neg notFlag]
    intro leaderOn
    have flagOff := alone leaderOn _ (flag_mem_flags member)
    simp [Manipulator.isEnabled, escapeManipulator, flagOff] at enabled
  · rw [update_commandManipulator (accepts.spares_of_mem_group member bound)
      leader_mem_steering]
    simp

/-! ## Runs -/

/--
Unless something ahead of it answers to the key, a press in leader mode is of
no key by which one of the added sublayers is entered from the leader.
-/
def Avoids (conventions : Conventions) (front : List (KeyCode × Entry))
    (added : Sublayer) (values : Variables) (press : Press) : Prop :=
  values conventions.leader = .integer 1 →
    ∀ group ∈ conventions.subtree added,
      group.parentFlag = conventions.leader → group.name = press.key →
        conventions.Answers (.ofList front) press.key

/-- No added sublayer is live, and beside the leader no other one is. -/
structure Untouched (conventions : Conventions)
    (front back : List (KeyCode × Entry)) (added : Sublayer)
    (values : Variables) : Prop where
  ownOff : ∀ flag ∈ conventions.ownFlags added, values flag = .integer 0
  othersOff : values conventions.leader = .integer 1 →
    ∀ flag ∈ conventions.flags (.ofList (front ++ back)),
      values flag = .integer 0

/-- That is so if all flags are off, whatever the leader is. -/
theorem untouched_of_off
    (off : ∀ flag ∈ conventions.flags (extended front back key added),
      values flag = .integer 0) :
    conventions.Untouched front back added values := by
  constructor
  · intro flag isOwn
    exact off flag (flags_extended_perm.mem_iff.mpr
      (List.mem_append_left _ isOwn))
  · intro _ flag isOther
    exact off flag (flags_extended_perm.mem_iff.mpr
      (List.mem_append_right _ isOther))

theorem Untouched.off (untouched : conventions.Untouched front back added
      values) (leaderOn : values conventions.leader = .integer 1) :
    ∀ flag ∈ conventions.flags (extended front back key added),
      values flag = .integer 0 := by
  intro flag isFlag
  rcases List.mem_append.mp (flags_extended_perm.mem_iff.mp isFlag) with
    isOwn | isOther
  · exact untouched.ownOff flag isOwn
  · exact untouched.othersOff leaderOn flag isOther

/-- While they are off, the added sublayers are only entered, in leader mode. -/
theorem entered_of_enabled
    (off : ∀ flag ∈ conventions.ownFlags added, values flag = .integer 0)
    (member : group ∈ conventions.subtree added)
    {manipulator : Manipulator}
    (listed : manipulator ∈ conventions.groupManipulators flags group)
    (enabled : manipulator.isEnabled values press) :
    values conventions.leader = .integer 1 ∧
      group.parentFlag = conventions.leader ∧ group.name = press.key ∧
        manipulator = conventions.entryManipulator flags group := by
  have flagOff : values (conventions.flag group.path) = .integer 0 :=
    off _ (List.mem_map_of_mem member)
  have entering := eq_entry_of_enabled flagOff listed enabled
  rw [entering, entryManipulator_enabled_iff] at enabled
  rcases enabled with ⟨name, parentOn, _⟩
  rcases parentFlag_of_mem_subtree member with isLeader | isFlag
  · exact ⟨isLeader ▸ parentOn, isLeader, name, entering⟩
  · rw [off _ isFlag] at parentOn
    cases parentOn

/-- The rules of a tree leave flags of the added sublayers off. -/
theorem Accepts.update_off
    (accepts : conventions.Accepts (.ofList (front ++ back)))
    (accepts' : conventions.Accepts (extended front back key added))
    {manipulator : Manipulator}
    (listed : manipulator ∈ (conventions.rules
      (.ofList (front ++ back))).flatMap Rule.manipulators)
    {flag : String} (isOwn : flag ∈ conventions.ownFlags added)
    (off : values flag = .integer 0) :
    manipulator.update values flag = .integer 0 := by
  have inSteering : flag ∈
      conventions.steering (extended front back key added) :=
    List.mem_cons_of_mem _ (flags_extended_perm.mem_iff.mpr
      (List.mem_append_left _ isOwn))
  rcases mem_manipulators_rules_iff.mp listed with
    ⟨bound, command, inTree, rfl⟩ | ⟨group, member, own⟩
  · rw [update_leaderManipulator (accepts'.spares_of_mem_commands
      (mem_commands_extended inTree)) inSteering, off, ite_self]
  · have inExtended : group ∈
        conventions.groups (extended front back key added) :=
      mem_groups_extended member
    rcases own with rfl | rfl | ⟨bound, command, inGroup, rfl⟩
    · have notFlag : flag ≠ conventions.flag group.path := by
        rintro rfl
        exact (accepts.apart accepts' member).1 isOwn
      rw [update_entryManipulator (accepts.parentFlag_mem_steering member).2
        (accepts.flag_ne_leader member), if_neg notFlag, off, ite_self]
    · rw [update_escapeManipulator, off, ite_self]
    · rw [update_commandManipulator (accepts'.spares_of_mem_group inExtended
        inGroup) inSteering, off, ite_self]

section Pressing

variable (accepts : conventions.Accepts (.ofList (front ++ back)))
  (accepts' : conventions.Accepts (extended front back key added))
  (untouched : conventions.Untouched front back added values)
include accepts accepts' untouched

/-- Without the added sublayers a press never touches them. -/
theorem Accepts.untouched_after (press : Press) :
    conventions.Untouched front back added
      (after ((conventions.rules (.ofList (front ++ back))).flatMap
        Rule.manipulators) values press) := by
  unfold after
  split
  · next manipulator fired =>
      rcases enabled_of_firing? fired with ⟨listed, enabled⟩
      constructor
      · intro flag isOwn
        exact accepts.update_off accepts' listed isOwn
          (untouched.ownOff flag isOwn)
      · intro leaderOn
        exact absurd leaderOn (accepts.update_leader_ne_one listed enabled
          untouched.othersOff)
  · exact untouched

omit accepts in
/-- What stands ahead of the added sublayers answers to a press, or not. -/
theorem Accepts.answers_iff
    (leaderOn : values conventions.leader = .integer 1) :
    (∃ manipulator ∈ (conventions.rulesWith
        (conventions.flags (extended front back key added))
        (.ofList front)).flatMap Rule.manipulators,
      manipulator.isEnabled values press) ↔
        conventions.Answers (.ofList front) press.key := by
  apply accepts'.exists_enabled_iff _ leaderOn (untouched.off leaderOn)
  intro group member
  apply mem_groups_extended
  rw [groups_ofList_append]
  exact List.mem_append_left _ member

/-- A press that avoids the added sublayers does the same without them. -/
theorem Accepts.after_extended
    (avoids : conventions.Avoids front added values press) :
    let manipulators := (conventions.rules
      (.ofList (front ++ back))).flatMap Rule.manipulators
    let manipulators' := (conventions.rules
      (extended front back key added)).flatMap Rule.manipulators
    after manipulators' values press = after manipulators values press ∧
      emitted manipulators' values press =
        emitted manipulators values press := by
  intro manipulators manipulators'
  let flags' := conventions.flags (extended front back key added)
  let ahead := (conventions.rulesWith flags' (.ofList front)).flatMap
    Rule.manipulators
  let behind := (conventions.rulesWith flags' (.ofList back)).flatMap
    Rule.manipulators
  have same : after (ahead ++ behind) values press =
        after manipulators values press ∧
      emitted (ahead ++ behind) values press =
        emitted manipulators values press := by
    rcases accepts.forall₂_extends accepts' with ⟨early, late⟩
    have alike := List.rel_flatMap (List.rel_append early late)
      fun _ _ becomes => becomes.forall₂_enabled untouched.ownOff press
    have parted : manipulators = (conventions.rulesWith _
        (.ofList front) ++ conventions.rulesWith _ (.ofList back)).flatMap
          Rule.manipulators :=
      congrArg (List.flatMap _) (rulesWith_ofList_append _)
    rw [parted, ← List.flatMap_append]
    exact after_eq_and_emitted_eq alike
  have sameFiring : firing? manipulators' values press =
      firing? (ahead ++ behind) values press := by
    show firing? (List.flatMap _ _) values press = _
    rw [manipulators_rules_extended]
    apply firing?_append_append
    refine or_iff_not_imp_left.mpr fun unfired manipulator listed enabled => ?_
    rcases List.mem_flatMap.mp listed with ⟨group, member, inGroup⟩
    rcases entered_of_enabled untouched.ownOff member inGroup enabled with
      ⟨leaderOn, fromLeader, name, _⟩
    exact unfired ((accepts'.answers_iff untouched leaderOn).mpr
      (avoids leaderOn group member fromLeader name))
  constructor
  · rw [← same.1, after, after, sameFiring]
  · rw [← same.2, emitted, emitted, sameFiring]

/-- A press that enters an added sublayer leads to other values. -/
theorem Accepts.avoids_of_after_eq
    (same : after ((conventions.rules
        (extended front back key added)).flatMap Rule.manipulators) values
          press =
      after ((conventions.rules (.ofList (front ++ back))).flatMap
        Rule.manipulators) values press) :
    conventions.Avoids front added values press := by
  intro leaderOn group member fromLeader name
  let flags' := conventions.flags (extended front back key added)
  let added' := (conventions.subtree added).flatMap
    (conventions.groupManipulators flags')
  by_contra unanswered
  have unfired : firing? ((conventions.rulesWith flags'
      (.ofList front)).flatMap Rule.manipulators) values press = none := by
    apply List.find?_eq_none.mpr
    intro manipulator listed enabled
    exact unanswered ((accepts'.answers_iff untouched leaderOn).mp
      ⟨manipulator, listed, enabled⟩)
  have enters : (conventions.entryManipulator flags' group).isEnabled values
      press := by
    rw [entryManipulator_enabled_iff, fromLeader]
    exact ⟨name, leaderOn,
      fun other isFlag _ _ => untouched.off leaderOn other isFlag⟩
  have listed : conventions.entryManipulator flags' group ∈ added' :=
    List.mem_flatMap.mpr ⟨group, member, List.mem_cons_self⟩
  cases fired : firing? added' values press with
  | none => exact List.find?_eq_none.mp fired _ listed enters
  | some manipulator =>
      rcases enabled_of_firing? fired with ⟨firedListed, enabled⟩
      rcases List.mem_flatMap.mp firedListed with
        ⟨entered, enteredMember, inGroup⟩
      rcases entered_of_enabled untouched.ownOff enteredMember inGroup
        enabled with ⟨_, _, _, rfl⟩
      have inTree : entered ∈
          conventions.groups (extended front back key added) :=
        mem_groups_of_mem_subtree enteredMember
      have stillOff := (accepts.untouched_after accepts' untouched
        press).ownOff _ (List.mem_map_of_mem enteredMember)
      rw [← same, manipulators_rules_extended, List.append_assoc,
        after_append_of_unfired unfired, after_append_of_fired fired,
        update_entryManipulator (accepts'.parentFlag_mem_steering inTree).2
          (accepts'.flag_ne_leader inTree), if_pos rfl] at stillOff
      cases stillOff

omit untouched in
/--
Presses do the same with and without the added sublayers exactly if each of
them avoids those.
-/
theorem Accepts.run_extended_iff
    (untouched : conventions.Untouched front back added values)
    (presses : List Press) :
    let manipulators := (conventions.rules
      (.ofList (front ++ back))).flatMap Rule.manipulators
    let manipulators' := (conventions.rules
      (extended front back key added)).flatMap Rule.manipulators
    (outputs manipulators' values presses =
        outputs manipulators values presses ∧
      ∀ count, run manipulators' values (presses.take count) =
        run manipulators values (presses.take count)) ↔
    ∀ earlier press later, presses = earlier ++ press :: later →
      conventions.Avoids front added (run manipulators values earlier)
        press := by
  intro manipulators manipulators'
  -- what carries over from press to press is that nothing added is touched
  induction presses generalizing values with
  | nil =>
      refine ⟨fun _ earlier press later parted => ?_, fun _ => ⟨rfl, ?_⟩⟩
      · simp at parted
      · simp
  | cons press rest ih =>
      have next := ih (accepts.untouched_after accepts' untouched press)
      constructor
      · rintro ⟨sameOutputs, sameRuns⟩
        have sameAfter : after manipulators' values press =
            after manipulators values press := sameRuns 1
        have sameRest : outputs manipulators'
            (after manipulators values press) rest =
              outputs manipulators (after manipulators values press) rest := by
          rw [outputs, outputs, sameAfter] at sameOutputs
          exact (List.cons.inj sameOutputs).2
        have later := next.mp ⟨sameRest, fun count => by
          have same := sameRuns (count + 1)
          rwa [List.take_succ_cons, run_cons, run_cons, sameAfter] at same⟩
        intro earlier pressed behind parted
        rcases earlier with _ | ⟨first, earlier⟩
        · cases parted
          exact accepts.avoids_of_after_eq accepts' untouched sameAfter
        · cases parted
          exact later earlier pressed behind rfl
      · intro avoids
        rcases accepts.after_extended accepts' untouched
          (avoids [] press rest rfl) with ⟨sameAfter, sameEmitted⟩
        rcases next.mpr fun earlier pressed behind parted =>
          avoids (press :: earlier) pressed behind (by rw [parted]; rfl)
          with ⟨sameOutputs, sameRuns⟩
        constructor
        · rw [outputs, outputs, sameAfter, sameEmitted]
          exact congrArg _ sameOutputs
        · intro count
          cases count with
          | zero => rfl
          | succ count =>
              rw [List.take_succ_cons, run_cons, run_cons, sameAfter]
              exact sameRuns count

end Pressing

/-! ## Entering by other keys -/

theorem Accepts.entryFlag_eq_leader_iff {tree : Bindings}
    (accepts : conventions.Accepts tree)
    (member : group ∈ conventions.groups tree) :
    conventions.entryFlag group.path = conventions.leader ↔
      conventions.flag group.path = "" := by
  have notLeader := accepts.flag_ne_leader member
  by_cases unflagged : conventions.flag group.path = ""
  · simp [entryFlag, unflagged]
  · simp [entryFlag, unflagged, notLeader]

/--
What is right in an added layer with the empty text for a flag goes by the
added key or by a key that is bound ahead of it.
-/
def KeepsToKey (conventions : Conventions)
    (front : List (KeyCode × Entry)) (key : KeyCode) (added : Sublayer) :
    Prop :=
  ∀ parent ∈ conventions.subtree added, conventions.flag parent.path = "" →
    ∀ nested ∈ parent.inner.sublayers,
      nested.2.name = key ∨ nested.2.name ∈ front.map Prod.fst

/-- With the usual flags there is no such layer. -/
theorem keepsToKey_of_underscored {lead : String}
    (underscored : conventions.naming = .underscored lead) :
    conventions.KeepsToKey front key added := by
  intro parent member unflagged
  rw [← groups_alone key] at member
  exact absurd unflagged (flag_ne_empty_of_underscored underscored
    (Bindings.path_ne_nil member))

section Entering

variable (accepts : conventions.Accepts (.ofList (front ++ back)))
  (accepts' : conventions.Accepts (extended front back key added))
include accepts'

/-- Something answers to each key that is bound ahead. -/
theorem Accepts.answers_of_mem_front {bound : KeyCode}
    (member : bound ∈ front.map Prod.fst) :
    conventions.Answers (.ofList front) bound := by
  rcases List.mem_map.mp member with ⟨⟨own, entry⟩, listed, rfl⟩
  cases entry with
  | command action =>
      refine .inl ⟨action, ?_⟩
      rwa [Bindings.mem_commands_iff, Bindings.toList_ofList]
  | sublayer layer =>
      have inFront : (own, layer) ∈ (Bindings.ofList front).sublayers := by
        rwa [Bindings.mem_sublayers_iff, Bindings.toList_ofList]
      have inTree : (own, layer) ∈
          (extended front back key added).sublayers := by
        rw [Bindings.mem_sublayers_iff, extended, Bindings.toList_ofList]
        exact List.mem_append_left _ listed
      refine .inr ⟨layer.placed [] conventions.leader, ?_, rfl,
        accepts'.selfNamed _ _ inTree⟩
      exact mem_groups_of_mem_placedSublayers
        (Bindings.mem_placedSublayers_iff.mpr ⟨own, layer, inFront, rfl⟩)

include accepts

/-- Where an added layer has the empty text, nothing else answers ahead. -/
theorem Accepts.mem_front_of_answers {parent : LayerGroup}
    (parentMember : parent ∈ conventions.subtree added)
    (unflagged : conventions.flag parent.path = "") {bound : KeyCode}
    (answers : conventions.Answers (.ofList front) bound) :
    bound ∈ front.map Prod.fst := by
  have keys : (Bindings.ofList front).keys = front.map Prod.fst := by
    rw [Bindings.keys, Bindings.toList_ofList]
  rw [← keys]
  rcases answers with ⟨command, isBound⟩ | ⟨group, member, fromLeader, rfl⟩
  · exact Bindings.mem_keys_of_mem_commands isBound
  have inTree {other : LayerGroup}
      (listed : other ∈ conventions.groups (.ofList front)) :
      other ∈ conventions.groups (.ofList (front ++ back)) := by
    rw [groups_ofList_append]
    exact List.mem_append_left _ listed
  rcases Bindings.mem_groups_iff.mp member with
    outermost | ⟨above, aboveMember, isChild⟩
  · rcases Bindings.mem_placedSublayers_iff.mp outermost with
      ⟨own, sublayer, isBound, rfl⟩
    have inWhole : (own, sublayer) ∈
        (Bindings.ofList (front ++ back)).sublayers := by
      rw [Bindings.mem_sublayers_iff, Bindings.toList_ofList] at isBound ⊢
      exact List.mem_append_left _ isBound
    show sublayer.name ∈ _
    rw [accepts.selfNamed own sublayer inWhole]
    exact Bindings.mem_keys_of_mem_sublayers isBound
  · rw [LayerGroup.parentFlag_of_mem_children isChild,
      accepts.entryFlag_eq_leader_iff (inTree aboveMember)] at fromLeader
    refine absurd ?_ (accepts.apart accepts' (inTree aboveMember)).1
    rw [fromLeader, ← unflagged]
    exact List.mem_map_of_mem parentMember

omit accepts in
/-- Then a press in leader mode of another key avoids what is added. -/
theorem Accepts.avoids_of_keepsToKey
    (keeps : conventions.KeepsToKey front key added)
    (elsewhere : values conventions.leader = .integer 1 → press.key ≠ key) :
    conventions.Avoids front added values press := by
  intro leaderOn group member fromLeader name
  have ownKey : added.name = key :=
    accepts'.selfNamed key added (Bindings.mem_sublayers_iff.mpr (by
      simp [extended]))
  rcases mem_subtree_iff.mp member with
    rfl | ⟨parent, parentMember, isChild⟩
  · exact absurd (name.symm.trans ownKey) (elsewhere leaderOn)
  · have inTree : parent ∈
        conventions.groups (extended front back key added) :=
      mem_groups_of_mem_subtree parentMember
    rw [LayerGroup.parentFlag_of_mem_children isChild,
      accepts'.entryFlag_eq_leader_iff inTree] at fromLeader
    rcases Bindings.mem_placedSublayers_iff.mp isChild with
      ⟨own, sublayer, isBound, rfl⟩
    have same : sublayer.name = press.key := name
    rcases keeps parent parentMember fromLeader (own, sublayer) isBound with
      isKey | inFront
    · exact absurd (same.symm.trans isKey) (elsewhere leaderOn)
    · rw [← same]
      exact accepts'.answers_of_mem_front inFront

/-- If all such presses do so, that is how the added layers are named. -/
theorem Accepts.keepsToKey_of_avoids
    (leaderOn : values conventions.leader = .integer 1)
    (avoids : ∀ press : Press, press.key ≠ key →
      conventions.Avoids front added values press) :
    conventions.KeepsToKey front key added := by
  rintro parent parentMember unflagged ⟨own, sublayer⟩ isBound
  by_cases isKey : sublayer.name = key
  · exact .inl isKey
  have inTree : parent ∈
      conventions.groups (extended front back key added) :=
    mem_groups_of_mem_subtree parentMember
  have isChild : sublayer.placed parent.path
      (conventions.entryFlag parent.path) ∈
        parent.children conventions.entryFlag :=
    Bindings.mem_placedSublayers_iff.mpr ⟨own, sublayer, isBound, rfl⟩
  have answers := avoids ⟨sublayer.name, []⟩ isKey leaderOn _
    (mem_subtree_iff.mpr (.inr ⟨parent, parentMember, isChild⟩))
    ((accepts'.entryFlag_eq_leader_iff inTree).mpr unflagged) rfl
  exact .inr (accepts.mem_front_of_answers accepts' parentMember unflagged
    answers)

end Entering

end Conventions

open Conventions Replay

/--
A sublayer more, at any place of the top level, puts its rules and those of
all that is nested in it between the others, which stay the same in the same
order but for one thing: what enters a sublayer also waits until the added
flags are off.

From a state where all flags are off, presses send the same and set the same
variables as without the added sublayer, press by press, exactly if none of
them enters anything added from the leader.  That is the same as saying that
none of them is of the added key while the leader is on, in all states and for
all presses, exactly if what is right in an added layer with the empty text
for a flag goes by that key or by one that is bound ahead.
-/
theorem conservative_extension_iff {conventions : Conventions}
    {front back : List (KeyCode × Entry)} {key : KeyCode} {added : Sublayer}
    {rules rules' : List Rule}
    (compiled : conventions.compile? (.ofList (front ++ back)) = .ok rules)
    (compiled' : conventions.compile?
      (.ofList (front ++ (key, .sublayer added) :: back)) = .ok rules') :
    let flags := conventions.flags (.ofList (front ++ back))
    let flags' := conventions.flags
      (.ofList (front ++ (key, .sublayer added) :: back))
    let own := conventions.ownFlags added
    let manipulators := rules.flatMap Rule.manipulators
    let manipulators' := rules'.flatMap Rule.manipulators
    let same := fun (start : Variables) (presses : List Press) =>
      outputs manipulators' start presses =
          outputs manipulators start presses ∧
        ∀ count, run manipulators' start (presses.take count) =
          run manipulators start (presses.take count)
    (∃ early late early' late', rules = early ++ late ∧
      rules' = early' ++ (conventions.subtree added).map
        (conventions.groupRule flags') ++ late' ∧
      List.Forall₂ (conventions.Extends flags own) early early' ∧
      List.Forall₂ (conventions.Extends flags own) late late') ∧
    ((∀ (start : Variables) (presses : List Press),
      (∀ flag ∈ flags', start flag = .integer 0) →
      (∀ earlier press later, presses = earlier ++ press :: later →
        run manipulators start earlier conventions.leader = .integer 1 →
          press.key ≠ key) →
      same start presses) ↔ conventions.KeepsToKey front key added) ∧
    ∀ (start : Variables) (presses : List Press),
      (∀ flag ∈ flags', start flag = .integer 0) →
      (same start presses ↔
        ∀ earlier press later, presses = earlier ++ press :: later →
          conventions.Avoids front added (run manipulators start earlier)
            press) := by
  intro flags flags' own manipulators manipulators' same
  rcases compile?_eq_ok_iff_accepts.mp compiled with ⟨accepts, rfl⟩
  rcases compile?_eq_ok_iff_accepts.mp compiled' with ⟨accepts', rfl⟩
  have sameIff (start : Variables) (presses : List Press)
      (off : ∀ flag ∈ flags', start flag = .integer 0) :
      same start presses ↔
        ∀ earlier press later, presses = earlier ++ press :: later →
          conventions.Avoids front added (run manipulators start earlier)
            press :=
    accepts.run_extended_iff accepts' (untouched_of_off off) presses
  refine ⟨?rules, ⟨?named, ?keeping⟩, sameIff⟩
  case rules =>
    rcases accepts.forall₂_extends accepts' with ⟨early, late⟩
    exact ⟨_, _, _, _, rulesWith_ofList_append flags,
      rulesWith_extended flags', early, late⟩
  case named =>
    intro always
    let start := Variables.unset.assign ⟨conventions.leader, .integer 1⟩
    have off : ∀ flag ∈ flags', start flag = .integer 0 := by
      intro flag isFlag
      have notLeader : flag ≠ conventions.leader :=
        accepts'.ne_leader_of_mem_flags isFlag
      exact Variables.assign_of_ne _ notLeader
    have leaderOn : start conventions.leader = .integer 1 :=
      Variables.assign_self _ _ _
    refine accepts.keepsToKey_of_avoids accepts' leaderOn ?_
    intro press notKey
    refine (sameIff start [press] off).mp (always start [press] off ?_)
      [] press [] rfl
    intro earlier pressed later parted _
    have isPress : pressed ∈ [press] := by simp [parted]
    rw [List.mem_singleton.mp isPress]
    exact notKey
  case keeping =>
    intro keeps start presses off elsewhere
    refine (sameIff start presses off).mpr ?_
    intro earlier press later parted
    exact accepts'.avoids_of_keepsToKey keeps
      (elsewhere earlier press later parted)

/-- Inside a sublayer the added key is as dead as it was before. -/
theorem conservative_extension_by_nested :
    let conventions : Conventions := {}
    let front := [(KeyCode.q, Entry.command (.run "quit"))]
    let back := [(KeyCode.s, Entry.sublayer
      ⟨.s, none, .fires .a (.openTarget "A") .nil⟩)]
    let added : Sublayer :=
      ⟨.d, none, .opens .w .w none (.fires .u (.openTarget "U") .nil) .nil⟩
    let tree := Bindings.ofList (front ++ back)
    let tree' := Bindings.ofList (front ++ (.d, .sublayer added) :: back)
    let outputsOf (tree : Bindings) := outputs
      ((conventions.rules tree).flatMap Rule.manipulators)
      (Variables.unset.assign ⟨"leader", .integer 1⟩)
      [⟨.s, []⟩, ⟨.d, []⟩, ⟨.a, []⟩]
    conventions.compile? tree = .ok (conventions.rules tree) ∧
      conventions.compile? tree' = .ok (conventions.rules tree') ∧
        outputsOf tree' = outputsOf tree := by
  intro conventions front back added tree tree' outputsOf
  have compiled : conventions.compile? tree =
      .ok (conventions.rules tree) :=
    Conventions.compile?_eq_ok_iff.mpr ⟨by decide +kernel, rfl⟩
  have compiled' : conventions.compile? tree' =
      .ok (conventions.rules tree') :=
    Conventions.compile?_eq_ok_iff.mpr ⟨by decide +kernel, rfl⟩
  have extension := conservative_extension_iff compiled compiled'
  refine ⟨compiled, compiled', ?_⟩
  refine (extension.2.1.mpr (keepsToKey_of_underscored rfl) _ _ ?_ ?_).1
  · decide +kernel
  · intro earlier press later parted
    rcases earlier with _ | ⟨first, _ | ⟨second, rest⟩⟩
    · cases parted
      decide
    · cases parted
      decide +kernel
    · have listed : press ∈ rest ++ press :: later := by simp
      rw [List.cons_append, List.cons_append, List.cons.injEq,
        List.cons.injEq] at parted
      rw [← parted.2.2] at listed
      cases List.mem_singleton.mp listed
      exact fun _ => by decide

/--
Where top-level sublayers have the empty text for a flag, `w` enters the
sublayer `w` inside the added one, though it is not the added key.
-/
theorem unnamedExample_not_conservative :
    let front := [(KeyCode.q, Entry.command (.run "quit"))]
    let added : Sublayer :=
      ⟨.s, none, .fires .a (.openTarget "A")
        (.opens .w .w none (.fires .u (.openTarget "U") .nil) .nil)⟩
    let tree := Bindings.ofList front
    let tree' := Bindings.ofList (front ++ [(.s, .sublayer added)])
    let start := Variables.unset.assign ⟨"leader", .integer 1⟩
    let press : Press := ⟨.w, []⟩
    let flagAfter (tree : Bindings) := run
      ((unnamedExample.rules tree).flatMap Rule.manipulators) start [press]
        "sublayer_s_w"
    unnamedExample.compile? tree = .ok (unnamedExample.rules tree) ∧
      unnamedExample.compile? tree' = .ok (unnamedExample.rules tree') ∧
      tree'.KeysDistinct ∧ press.key ≠ .s ∧
      (∀ flag ∈ unnamedExample.flags tree', start flag = .integer 0) ∧
      flagAfter tree = .integer 0 ∧ flagAfter tree' = .integer 1 := by
  intro front added tree tree' start press flagAfter
  have compiled : unnamedExample.compile? tree =
      .ok (unnamedExample.rules tree) :=
    Conventions.compile?_eq_ok_iff.mpr ⟨by decide +kernel, rfl⟩
  have compiled' : unnamedExample.compile? tree' =
      .ok (unnamedExample.rules tree') :=
    Conventions.compile?_eq_ok_iff.mpr ⟨by decide +kernel, rfl⟩
  have flagsOff : ∀ flag ∈ unnamedExample.flags tree',
      start flag = .integer 0 := by
    decide +kernel
  have accepts := (compile?_eq_ok_iff_accepts.mp compiled').1
  have initially := accepts.shows_leader (Variables.assign_self _ _ _) flagsOff
  have listed : ([.s], added) ∈ tree'.sublayersBelow [] :=
    List.mem_cons_self
  have isNested : (.w, ⟨.w, none, .fires .u (.openTarget "U") .nil⟩) ∈
      added.inner.sublayers := List.mem_cons_self
  have shows := accepts.after_enters_past listed isNested rfl (by decide)
    initially
  have inSteering : "sublayer_s_w" ∈ unnamedExample.steering tree' := by
    decide +kernel
  exact ⟨compiled, compiled', by decide, by decide, flagsOff, rfl,
    (shows.on_iff inSteering).mpr rfl⟩

end ModalKeymap
