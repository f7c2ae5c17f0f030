import ModalKeymap.Mode
import ModalKeymap.Proofs.Acceptance
import ModalKeymap.Replay
import ModalKeymap.Rule.Leader

/-!
# Steering by variables

The rules of a tree steer by the leader and the flags of its sublayers.  The
values of these variables *show* a live one when that one is on and all
others are off (`Variables.Shows`).  Every manipulator made for an accepted
tree waits for one variable to be live and makes another one live, or none
(`Manipulator.Binds`); there is one such lemma for each kind of manipulator,
built on what its conditions ask for and what its events do.
-/

namespace ModalKeymap

/-! ## Showing what is live -/

namespace Variables

/-- Among some variables the live one, if any, is on; the others are off. -/
def Shows (values : Variables) (names : List String)
    (live : Option String) : Prop :=
  ∀ name ∈ names,
    values name = if live = some name then .integer 1 else .integer 0

variable {values : Variables} {names : List String} {live : Option String}
  {name : String}

theorem Shows.on_iff (shows : values.Shows names live)
    (member : name ∈ names) :
    values name = .integer 1 ↔ live = some name := by
  rw [shows name member]
  split <;> simp [*]

theorem Shows.off_iff (shows : values.Shows names live)
    (member : name ∈ names) :
    values name = .integer 0 ↔ live ≠ some name := by
  rw [shows name member]
  split <;> simp [*]

theorem Shows.off_or_on (shows : values.Shows names live)
    (member : name ∈ names) :
    values name = .integer 0 ∨ values name = .integer 1 := by
  rw [shows.on_iff member, shows.off_iff member]
  exact (em _).symm

theorem Shows.countP_le_one (shows : values.Shows names live)
    (nodup : names.Nodup) :
    names.countP (fun name => values name = .integer 1) ≤ 1 := by
  cases live with
  | none =>
      have allOff : names.countP (fun name => values name = .integer 1) =
          0 := by
        rw [List.countP_eq_zero]
        intro name member
        simp [shows name member]
      omega
  | some source =>
      calc
        names.countP (fun name => values name = .integer 1) =
            names.count source := by
          apply List.countP_congr
          intro name member
          rw [decide_eq_true_iff, beq_iff_eq, shows.on_iff member,
            Option.some.injEq, eq_comm]
        _ ≤ 1 := List.nodup_iff_count_le_one.mp nodup source

end Variables

/-! ## What manipulators do to variables -/

theorem Event.assignment_ofEffect (effect : Effect) :
    (ofEffect effect).assignment.map Assignment.name =
      effect.variable? := by
  cases effect <;> rfl

/-- A command that spares variables leaves their values alone. -/
theorem Command.Spares.foldl_assign {names : List String}
    {command : Command} (spares : command.Spares names) {name : String}
    (member : name ∈ names) (values : Variables) :
    ((command.effects.map Event.ofEffect).filterMap
      Event.assignment).foldl Variables.assign values name =
        values name := by
  apply Variables.foldl_assign_of_not_mem
  rintro assignment listed rfl
  simp only [List.mem_filterMap, List.mem_map] at listed
  rcases listed with ⟨_, ⟨effect, inCommand, rfl⟩, assigned⟩
  have written : effect.variable? = some assignment.name := by
    rw [← Event.assignment_ofEffect, assigned]
    rfl
  exact spares _ (List.mem_filterMap.mpr ⟨effect, inCommand, written⟩) member

namespace Conventions

variable {conventions : Conventions} {names flags : List String}
  {group : LayerGroup} {command : Command} {values : Variables}
  {name : String}

/-- Entering turns the own flag on, the parent's and the leader off. -/
theorem update_entryManipulator
    (ownParent : group.parentFlag ≠ conventions.flag group.path)
    (ownLeader : conventions.flag group.path ≠ conventions.leader) :
    (conventions.entryManipulator flags group).update values name =
      if name = conventions.flag group.path then .integer 1
      else if name = group.parentFlag ∨ name = conventions.leader then
        .integer 0
      else values name := by
  by_cases outermost : group.parentFlag = conventions.leader <;>
    by_cases own : name = conventions.flag group.path <;>
    by_cases parent : name = group.parentFlag <;>
    by_cases leader : name = conventions.leader <;>
    simp_all [Manipulator.update, Manipulator.assignments,
      entryManipulator, entering, Event.switch, Event.set,
      Variables.assign]

/-- Escaping turns the own flag off and does nothing else. -/
theorem update_escapeManipulator :
    (conventions.escapeManipulator group).update values name =
      if name = conventions.flag group.path then .integer 0
      else values name := rfl

/-- A command of a sublayer turns the own flag and the leader off. -/
theorem update_commandManipulator (spares : command.Spares names)
    (member : name ∈ names) (key : KeyCode) :
    (conventions.commandManipulator group key command).update values name =
      if name = conventions.flag group.path ∨ name = conventions.leader then
        .integer 0
      else values name := by
  have kept := spares.foldl_assign member values
  by_cases own : name = conventions.flag group.path <;>
    by_cases leader : name = conventions.leader <;>
    simp [Manipulator.update, Manipulator.assignments, commandManipulator,
      List.filterMap_append, Event.switch, Event.set, Variables.assign,
      own, leader, ← kept]

/-- A command of the top level turns the leader off. -/
theorem update_leaderManipulator (spares : command.Spares names)
    (member : name ∈ names) (key : KeyCode) :
    (conventions.leaderManipulator key command).update values name =
      if name = conventions.leader then .integer 0 else values name := by
  have kept := spares.foldl_assign member values
  by_cases leader : name = conventions.leader <;>
    simp [Manipulator.update, Manipulator.assignments, leaderManipulator,
      List.filterMap_append, Event.switch, Event.set, Variables.assign,
      leader, ← kept]

/-- A sublayer may be entered when its parent is live and no other flag is. -/
theorem holds_entryConditions_iff :
    (conventions.entryConditions flags group).all (·.holds values) ↔
      values group.parentFlag = .integer 1 ∧
        ∀ other ∈ flags, other ≠ conventions.flag group.path →
          other ≠ group.parentFlag → values other = .integer 0 := by
  simp only [entryConditions, List.all_append, Bool.and_eq_true]
  rw [and_comm]
  simp [or_iff_not_imp_left]

end Conventions

/-! ## From one live variable to another -/

/--
Seen from the given variables, a manipulator waits for a key while its source
is live, makes its target live, or none, and sends what it sends besides.
-/
structure Manipulator.Binds (names : List String) (source : String)
    (key : KeyCode) (target : Option String) (sent : List Event)
    (manipulator : Manipulator) : Prop where
  trigger : manipulator.trigger = .anyModifiers key
  holds_iff : ∀ values live, Variables.Shows values names live →
    (manipulator.conditions.all (·.holds values) ↔ live = some source)
  shows_update : ∀ values, Variables.Shows values names (some source) →
    (manipulator.update values).Shows names target
  emissions : manipulator.emissions = sent

theorem Manipulator.Binds.isEnabled_iff {names : List String}
    {source : String} {key : KeyCode} {target live : Option String}
    {sent : List Event} {manipulator : Manipulator} {values : Variables}
    {press : Press}
    (binds : manipulator.Binds names source key target sent)
    (shows : values.Shows names live) :
    manipulator.isEnabled values press ↔
      live = some source ∧ press.key = key := by
  rw [Manipulator.isEnabled, Bool.and_eq_true, binds.trigger,
    Trigger.isMetBy_anyModifiers, decide_eq_true_iff,
    binds.holds_iff values live shows, and_comm, eq_comm (a := key)]

/-- A manipulator whose conditions look at none but the given variables. -/
def Manipulator.Reads (names : List String) (manipulator : Manipulator) :
    Prop :=
  ∀ condition ∈ manipulator.conditions, condition.name ∈ names

namespace Conventions.Accepts

variable {conventions : Conventions} {tree : Bindings} {group : LayerGroup}
  {key : KeyCode} {command : Command}

/-- Whether a manipulator of the rules fires is up to what they steer by. -/
theorem reads_of_mem_rules (accepts : conventions.Accepts tree)
    {manipulator : Manipulator}
    (listed : manipulator ∈
      (conventions.rules tree).flatMap Rule.manipulators) :
    manipulator.Reads (conventions.steering tree) := by
  rcases mem_manipulators_rules_iff.mp listed with
    ⟨key, command, _, rfl⟩ | ⟨group, member, own⟩
  · have leader : conventions.leader ∈ conventions.steering tree :=
      leader_mem_steering
    simp [Manipulator.Reads, leaderManipulator, Condition.isOn, leader]
  have flag := flag_mem_steering member
  rcases own with rfl | rfl | ⟨key, command, _, rfl⟩
  · intro condition tested
    simp only [entryManipulator, entryConditions, List.mem_append,
      List.mem_map, List.mem_filter, List.mem_mergeSort,
      List.mem_singleton] at tested
    rcases tested with ⟨other, ⟨inFlags, _⟩, rfl⟩ | rfl
    · exact List.mem_cons_of_mem _ inFlags
    · exact (accepts.parentFlag_mem_steering member).1
  · simp [Manipulator.Reads, escapeManipulator, Condition.isOn, flag]
  · simp [Manipulator.Reads, commandManipulator, Condition.isOn, flag]

theorem binds_entry (accepts : conventions.Accepts tree)
    (member : group ∈ conventions.groups tree) :
    (conventions.entryManipulator (conventions.flags tree) group).Binds
      (conventions.steering tree) group.parentFlag group.name
      (some (conventions.flag group.path)) [] where
  trigger := rfl
  holds_iff := by
    intro values live shows
    have parent := accepts.parentFlag_mem_steering member
    rw [entryManipulator, holds_entryConditions_iff,
      shows.on_iff parent.1]
    refine ⟨And.left, fun isLive => ⟨isLive, ?_⟩⟩
    intro other inFlags _ notParent
    rw [shows.off_iff (List.mem_cons_of_mem _ inFlags), isLive]
    exact fun same => notParent (Option.some.inj same).symm
  shows_update := by
    intro values shows name inSteering
    rw [update_entryManipulator (accepts.parentFlag_mem_steering member).2
      (accepts.flag_ne_leader member), shows name inSteering]
    grind
  emissions := by
    by_cases outermost : group.parentFlag = conventions.leader <;>
      simp [Manipulator.emissions, entryManipulator, entering,
        Event.switch, Event.set, outermost]

theorem binds_command (accepts : conventions.Accepts tree)
    (member : group ∈ conventions.groups tree)
    (bound : (key, command) ∈ group.inner.commands) :
    (conventions.commandManipulator group key command).Binds
      (conventions.steering tree) (conventions.flag group.path) key none
      command.emissions where
  trigger := rfl
  holds_iff := by
    intro values live shows
    simp [commandManipulator, shows.on_iff (flag_mem_steering member)]
  shows_update := by
    intro values shows name inSteering
    rw [update_commandManipulator
      (accepts.spares_of_mem_group member bound) inSteering,
      shows name inSteering]
    grind
  emissions := by
    simp [Manipulator.emissions, commandManipulator, Command.emissions,
      Event.switch, Event.set]

theorem binds_leader (accepts : conventions.Accepts tree)
    (bound : (key, command) ∈ tree.commands) :
    (conventions.leaderManipulator key command).Binds
      (conventions.steering tree) conventions.leader key none
      command.emissions where
  trigger := rfl
  holds_iff := by
    intro values live shows
    simp [leaderManipulator, shows.on_iff leader_mem_steering]
  shows_update := by
    intro values shows name inSteering
    rw [update_leaderManipulator
      (accepts.spares_of_mem_commands bound) inSteering,
      shows name inSteering]
    grind
  emissions := by
    simp [Manipulator.emissions, leaderManipulator, Command.emissions,
      Event.switch, Event.set]

end Conventions.Accepts

theorem Conventions.binds_escape (conventions : Conventions)
    {tree : Bindings} {group : LayerGroup}
    (member : group ∈ conventions.groups tree) :
    (conventions.escapeManipulator group).Binds
      (conventions.steering tree) (conventions.flag group.path)
      conventions.escape none [] where
  trigger := rfl
  holds_iff := by
    intro values live shows
    simp [escapeManipulator, shows.on_iff (flag_mem_steering member)]
  shows_update := by
    intro values shows name inSteering
    rw [update_escapeManipulator, shows name inSteering]
    grind
  emissions := rfl

theorem Conventions.binds_deactivation (conventions : Conventions)
    (tree : Bindings) (key : KeyCode) :
    (Rule.deactivationBy conventions.leader key).Binds
      (conventions.steering tree) conventions.leader key none [] where
  trigger := rfl
  holds_iff := by
    intro values live shows
    simp [Rule.deactivationBy, shows.on_iff leader_mem_steering]
  shows_update := by
    intro values shows name inSteering
    have updated : (Rule.deactivationBy conventions.leader key).update
        values name =
          if name = conventions.leader then .integer 0
          else values name := rfl
    rw [updated, shows name inSteering]
    grind
  emissions := rfl

end ModalKeymap
