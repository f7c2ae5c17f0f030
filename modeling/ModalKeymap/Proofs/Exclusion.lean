import ModalKeymap.Proofs.Steering

/-!
# At most one layer is live

Whatever enabled manipulators fire, and in whatever order, the rules of a tree
never have two of the variables they steer by on at once, and rules that leave
leader mode do not change that.  Rules that enter leader mode do: the leader
may come on while a sublayer is live.  But still no two sublayers are live at
once, because a sublayer is entered only while all flags but its own and its
parent's are off.
-/

namespace ModalKeymap

open Replay

/-! ## The leader and the flags -/

/-- Manipulators that wait for one variable and set another keep to that. -/
theorem Replay.Reaches.shows {manipulators : List Manipulator}
    {names : List String} {start state : Variables}
    (bind : ∀ manipulator ∈ manipulators, ∃ source key target sent,
      manipulator.Binds names source key target sent)
    (initially : ∃ live, start.Shows names live)
    (reached : Reaches manipulators start state) :
    ∃ live, state.Shows names live := by
  refine reached.invariant (fun values => ∃ live, values.Shows names live)
    initially ?_
  rintro values press manipulator listed enabled ⟨live, shows⟩
  rcases bind manipulator listed with ⟨source, key, target, sent, binds⟩
  rcases (binds.isEnabled_iff shows).mp enabled with ⟨rfl, _⟩
  exact ⟨target, binds.shows_update values shows⟩

namespace Conventions

variable {conventions : Conventions} {tree : Bindings}
  {manipulator : Manipulator}

theorem Accepts.shows_leader (accepts : conventions.Accepts tree)
    {start : Variables}
    (leaderOn : start conventions.leader = .integer 1)
    (flagsOff : ∀ flag ∈ conventions.flags tree, start flag = .integer 0) :
    start.Shows (conventions.steering tree) (some conventions.leader) := by
  intro name inSteering
  rcases List.mem_cons.mp inSteering with rfl | member
  · rw [leaderOn, if_pos rfl]
  · rw [flagsOff name member, if_neg]
    rintro same
    exact accepts.leader_not_mem_flags (Option.some.inj same ▸ member)

/-- Flags that are off and a leader that is off or on show what is live. -/
theorem Accepts.exists_shows (accepts : conventions.Accepts tree)
    {start : Variables}
    (flagsOff : ∀ flag ∈ conventions.flags tree, start flag = .integer 0)
    (leaderSet : start conventions.leader = .integer 0 ∨
      start conventions.leader = .integer 1) :
    ∃ live, start.Shows (conventions.steering tree) live := by
  rcases leaderSet with off | on
  · refine ⟨none, fun name inSteering => ?_⟩
    rcases List.mem_cons.mp inSteering with rfl | member
    · rw [off, if_neg nofun]
    · rw [flagsOff name member, if_neg nofun]
  · exact ⟨_, accepts.shows_leader on flagsOff⟩

/-- Every manipulator of the rules waits for one variable to be live. -/
theorem Accepts.exists_binds (accepts : conventions.Accepts tree)
    (listed : manipulator ∈
      (conventions.rules tree).flatMap Rule.manipulators) :
    ∃ source key target sent, manipulator.Binds
      (conventions.steering tree) source key target sent := by
  rcases mem_manipulators_rules_iff.mp listed with
    ⟨key, command, bound, rfl⟩ | ⟨group, member, kind⟩
  · exact ⟨_, _, _, _, accepts.binds_leader bound⟩
  · rcases kind with rfl | rfl | ⟨key, command, bound, rfl⟩
    · exact ⟨_, _, _, _, accepts.binds_entry member⟩
    · exact ⟨_, _, _, _, conventions.binds_escape member⟩
    · exact ⟨_, _, _, _, accepts.binds_command member bound⟩

/-! ## The flags alone -/

/-- Whatever the leader is, firing leaves one flag on at most. -/
theorem Accepts.exists_shows_flags_update
    (accepts : conventions.Accepts tree)
    (listed : manipulator ∈
      (conventions.rules tree).flatMap Rule.manipulators)
    {values : Variables} {press : Press}
    (enabled : manipulator.isEnabled values press)
    (shows : ∃ live, values.Shows (conventions.flags tree) live) :
    ∃ live, (manipulator.update values).Shows (conventions.flags tree)
      live := by
  rcases shows with ⟨live, shows⟩
  rcases Bool.and_eq_true_iff.mp enabled with ⟨_, holds⟩
  have steering : ∀ flag ∈ conventions.flags tree,
      flag ∈ conventions.steering tree := fun _ => List.mem_cons_of_mem _
  rcases mem_manipulators_rules_iff.mp listed with
    ⟨key, command, bound, rfl⟩ | ⟨group, member, kind⟩
  · refine ⟨live, fun flag inFlags => ?_⟩
    rw [update_leaderManipulator (accepts.spares_of_mem_commands bound)
      (steering flag inFlags),
      if_neg (accepts.ne_leader_of_mem_flags inFlags), shows flag inFlags]
  · have ownFlag := flag_mem_flags member
    rcases kind with rfl | rfl | ⟨key, command, bound, rfl⟩
    · -- the conditions alone say that all other flags are off
      have off := (holds_entryConditions_iff.mp holds).2
      refine ⟨some (conventions.flag group.path), fun flag inFlags => ?_⟩
      rw [update_entryManipulator
        (accepts.parentFlag_mem_steering member).2
        (accepts.flag_ne_leader member)]
      have others := off flag inFlags
      grind
    · have isLive : live = some (conventions.flag group.path) := by
        simpa [escapeManipulator, shows.on_iff ownFlag] using holds
      refine ⟨none, fun flag inFlags => ?_⟩
      rw [update_escapeManipulator, shows flag inFlags]
      grind
    · have isLive : live = some (conventions.flag group.path) := by
        simpa [commandManipulator, shows.on_iff ownFlag] using holds
      refine ⟨none, fun flag inFlags => ?_⟩
      rw [update_commandManipulator
        (accepts.spares_of_mem_group member bound)
        (steering flag inFlags), shows flag inFlags]
      grind

/-- Manipulators that write the leader alone leave the flags as they are. -/
theorem Accepts.shows_flags_of_leader_only
    (accepts : conventions.Accepts tree)
    (leaderOnly : ∀ assignment ∈ manipulator.assignments,
      assignment.name = conventions.leader)
    {values : Variables} {live : Option String}
    (shows : values.Shows (conventions.flags tree) live) :
    (manipulator.update values).Shows (conventions.flags tree) live := by
  intro flag inFlags
  rw [Manipulator.update_of_not_mem values, shows flag inFlags]
  rintro assignment listed rfl
  rw [leaderOnly assignment listed] at inFlags
  exact accepts.leader_not_mem_flags inFlags

end Conventions

/-! ## Whole runs -/

/--
Let any enabled manipulators fire, of the rules of a tree and of rules that
leave leader mode.  The variables the rules steer by stay off or on, and at
most one of them is on.  With rules that enter leader mode as well, at most
one flag is on.
-/
theorem at_most_one_variable_on {conventions : Conventions}
    {tree : Bindings} {rules : List Rule} (leaving entering : List Rule)
    (start : Variables)
    (compiled : conventions.compile? tree = .ok rules)
    (leavingOnly : ∀ rule ∈ leaving, ∃ keys,
      Rule.deactivation? conventions.leader keys = some rule)
    (enteringOnly : ∀ rule ∈ entering, ∃ chord,
      rule = Rule.activation conventions.leader chord)
    (flagsOff : ∀ flag ∈ conventions.flags tree, start flag = .integer 0)
    (leaderSet : start conventions.leader = .integer 0 ∨
      start conventions.leader = .integer 1) :
    (∀ state,
      Reaches ((leaving ++ rules).flatMap Rule.manipulators) start state →
        (∀ name ∈ conventions.leader :: conventions.flags tree,
          state name = .integer 0 ∨ state name = .integer 1) ∧
        (conventions.leader :: conventions.flags tree).countP
          (fun name => state name = .integer 1) ≤ 1) ∧
    (∀ state,
      Reaches ((entering ++ leaving ++ rules).flatMap Rule.manipulators)
          start state →
        (conventions.flags tree).countP
          (fun flag => state flag = .integer 1) ≤ 1) := by
  rcases Conventions.compile?_eq_ok_iff_accepts.mp compiled with
    ⟨accepts, rfl⟩
  have flagsNodup := (List.nodup_cons.mp accepts.steering_nodup).2
  have leaves : ∀ manipulator ∈ leaving.flatMap Rule.manipulators,
      ∃ key, manipulator = Rule.deactivationBy conventions.leader key := by
    intro manipulator listed
    rcases List.mem_flatMap.mp listed with ⟨rule, isLeaving, inRule⟩
    rcases leavingOnly rule isLeaving with ⟨keys, made⟩
    have inMade := Rule.manipulators_deactivation? conventions.leader keys
    rw [made, Option.toList_some, List.flatMap_singleton] at inMade
    rw [inMade] at inRule
    rcases List.mem_map.mp inRule with ⟨key, _, rfl⟩
    exact ⟨key, rfl⟩
  constructor
  · intro state reached
    have bind : ∀ manipulator ∈
        (leaving ++ conventions.rules tree).flatMap Rule.manipulators,
        ∃ source key target sent, manipulator.Binds
          (conventions.steering tree) source key target sent := by
      intro manipulator listed
      rw [List.flatMap_append, List.mem_append] at listed
      rcases listed with isLeaving | inRules
      · rcases leaves manipulator isLeaving with ⟨key, rfl⟩
        exact ⟨_, _, _, _, conventions.binds_deactivation tree key⟩
      · exact accepts.exists_binds inRules
    rcases reached.shows bind (accepts.exists_shows flagsOff leaderSet) with
      ⟨live, shows⟩
    exact ⟨fun name inSteering => shows.off_or_on inSteering,
      shows.countP_le_one accepts.steering_nodup⟩
  · intro state reached
    have shows : ∃ live, state.Shows (conventions.flags tree) live := by
      refine reached.invariant
        (fun values => ∃ live, values.Shows (conventions.flags tree) live)
        ⟨none, fun flag inFlags => by simp [flagsOff flag inFlags]⟩ ?_
      rintro values press manipulator listed enabled ⟨live, shows⟩
      rw [List.flatMap_append, List.flatMap_append, List.mem_append,
        List.mem_append] at listed
      rcases listed with (isEntering | isLeaving) | inRules
      · rcases List.mem_flatMap.mp isEntering with ⟨rule, member, inRule⟩
        rcases enteringOnly rule member with ⟨chord, rfl⟩
        rcases List.mem_singleton.mp inRule with rfl
        refine ⟨live, accepts.shows_flags_of_leader_only ?_ shows⟩
        simp [Manipulator.assignments, Event.switch, Event.set]
      · rcases leaves manipulator isLeaving with ⟨key, rfl⟩
        refine ⟨live, accepts.shows_flags_of_leader_only ?_ shows⟩
        simp [Manipulator.assignments, Rule.deactivationBy, Event.switch,
          Event.set]
      · exact accepts.exists_shows_flags_update inRules enabled
          ⟨live, shows⟩
    rcases shows with ⟨live, shows⟩
    exact shows.countP_le_one flagsNodup

/-- A command beside a sublayer that binds a command and a further one. -/
def Bindings.nestedExample : Bindings :=
  .fires .q (.run "quit")
    (.opens .s .s none
      (.fires .a (.openTarget "A")
        (.opens .w .w none (.fires .u (.openTarget "U") .nil) .nil))
      .nil)

/-- Two sublayers deep, and with the leader on again, it is still so. -/
theorem at_most_one_variable_on_nested :
    let conventions : Conventions := {}
    let tree := Bindings.nestedExample
    let start := Variables.unset.assign ⟨"leader", .integer 1⟩
    let leaving := (Rule.deactivation? "leader" [.capsLock, .escape]).toList
    let entering := [Rule.activation "leader" ⟨.spacebar, [.leftShift]⟩]
    let ofRules (rules : List Rule) := run (rules.flatMap Rule.manipulators)
      start [⟨.s, []⟩, ⟨.w, []⟩, ⟨.spacebar, [.leftShift]⟩]
    conventions.compile? tree = .ok (conventions.rules tree) ∧
      (conventions.leader :: conventions.flags tree).countP
        (fun name => ofRules (leaving ++ conventions.rules tree) name =
          .integer 1) ≤ 1 ∧
      (conventions.flags tree).countP
        (fun flag => ofRules (entering ++ leaving ++ conventions.rules tree)
          flag = .integer 1) ≤ 1 := by
  intro conventions tree start leaving entering ofRules
  have compiled : conventions.compile? tree =
      .ok (conventions.rules tree) :=
    Conventions.compile?_eq_ok_iff.mpr ⟨by decide +kernel, rfl⟩
  have safe := at_most_one_variable_on leaving entering start compiled
    (fun rule listed => ⟨_, Option.mem_toList.mp listed⟩)
    (fun rule listed => ⟨_, List.mem_singleton.mp listed⟩)
    (by decide +kernel) (.inr (by decide +kernel))
  exact
    ⟨compiled, (safe.1 _ (reaches_run _ start .start _)).2,
      safe.2 _ (reaches_run _ start .start _)⟩

end ModalKeymap
