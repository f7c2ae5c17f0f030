import ModalKeymap.Proofs.Overlap

/-!
# Which variables a document uses

Every condition and every assignment in a document is about the leader or
about a flag of its layers.  `Manipulator.raisings` lists what turns one
variable on: of a whole document that is the chord that enters leader mode,
for the leader, and the entry of its own sublayer, for a flag
(`Settings.variables_closed`).
-/

namespace ModalKeymap

/-! ## Turning one variable on -/

namespace Manipulator

/-- What a manipulator sets a variable to apart from 0. -/
def raised (name : String) (manipulator : Manipulator) : List Assignment :=
  manipulator.assignments.filter fun assignment =>
    assignment.name = name && assignment.value ≠ .integer 0

/-- All that sets a variable to something other than 0, in order. -/
def raisings (name : String) (manipulators : List Manipulator) :
    List (Manipulator × Assignment) :=
  manipulators.flatMap fun manipulator =>
    (manipulator.raised name).map (manipulator, ·)

/-- A manipulator that tests and sets no variables but some. -/
def KeepsTo (names : List String) (manipulator : Manipulator) : Prop :=
  (∀ condition ∈ manipulator.conditions, condition.name ∈ names) ∧
    ∀ assignment ∈ manipulator.assignments, assignment.name ∈ names

variable {name : String} {manipulators more : List Manipulator}

@[simp]
theorem raisings_nil : raisings name [] = [] := rfl

@[simp]
theorem raisings_cons (manipulator : Manipulator) :
    raisings name (manipulator :: manipulators) =
      (manipulator.raised name).map (manipulator, ·) ++
        raisings name manipulators := rfl

@[simp]
theorem raisings_append :
    raisings name (manipulators ++ more) =
      raisings name manipulators ++ raisings name more :=
  List.flatMap_append

theorem raisings_eq_nil
    (idle : ∀ manipulator ∈ manipulators, manipulator.raised name = []) :
    raisings name manipulators = [] := by
  apply List.flatMap_eq_nil_iff.mpr
  intro manipulator listed
  rw [idle manipulator listed, List.map_nil]

end Manipulator

/-! ## One manipulator at a time -/

/-- A command without effects on variables. -/
def Command.SetsNothing (command : Command) : Prop :=
  ∀ effect ∈ command.effects, effect.variable? = none

theorem Command.SetsNothing.filterMap_assignment {command : Command}
    (setsNothing : command.SetsNothing) :
    (command.effects.map Event.ofEffect).filterMap Event.assignment = [] := by
  apply List.filterMap_eq_nil_iff.mpr
  intro event sent
  rcases List.mem_map.mp sent with ⟨effect, inCommand, rfl⟩
  have unset := Event.assignment_ofEffect effect
  rw [setsNothing effect inCommand] at unset
  exact Option.map_eq_none_iff.mp unset

/-- A tree none of whose commands has effects on variables. -/
def Bindings.SetsNothing (tree : Bindings) : Prop :=
  ∀ path command, (path, command) ∈ tree.commandsBelow [] →
    command.SetsNothing

theorem Bindings.SetsNothing.of_mem_commands {tree : Bindings}
    (setsNothing : tree.SetsNothing) {key : KeyCode} {command : Command}
    (bound : (key, command) ∈ tree.commands) : command.SetsNothing :=
  setsNothing _ _ (mem_commandsBelow_of_mem_commands bound)

theorem Bindings.SetsNothing.of_mem_group {tree : Bindings}
    (setsNothing : tree.SetsNothing) {conventions : Conventions}
    {group : LayerGroup} (member : group ∈ conventions.groups tree)
    {key : KeyCode} {command : Command}
    (bound : (key, command) ∈ group.inner.commands) :
    command.SetsNothing := by
  rcases Conventions.exists_mem_commandsBelow_of_mem_group member bound with
    ⟨path, below⟩
  exact setsNothing path command below

open Manipulator

theorem Rule.raised_deactivationBy (leader name : String) (key : KeyCode) :
    (Rule.deactivationBy leader key).raised name = [] := by
  simp [raised, assignments, Rule.deactivationBy, Event.switch, Event.set]

theorem Rule.raisings_activation (leader name : String) (chord : Chord) :
    raisings name (Rule.activation leader chord).manipulators =
      if leader = name then
        (Rule.activation leader chord).manipulators.map
          (·, ⟨name, .integer 1⟩)
      else [] := by
  by_cases same : leader = name <;>
    simp [raised, assignments, Rule.activation, Event.switch, Event.set,
      same]

namespace Conventions

variable {conventions : Conventions} {flags : List String}
  {group : LayerGroup} {command : Command}

theorem raised_leaderManipulator (setsNothing : command.SetsNothing)
    (key : KeyCode) (name : String) :
    (conventions.leaderManipulator key command).raised name = [] := by
  simp [raised, assignments, leaderManipulator, List.filterMap_append,
    setsNothing.filterMap_assignment, Event.switch, Event.set]

theorem raised_commandManipulator (setsNothing : command.SetsNothing)
    (key : KeyCode) (name : String) :
    (conventions.commandManipulator group key command).raised name = [] := by
  simp [raised, assignments, commandManipulator, List.filterMap_append,
    setsNothing.filterMap_assignment, Event.switch, Event.set]

theorem raised_escapeManipulator (name : String) :
    (conventions.escapeManipulator group).raised name = [] := by
  simp [raised, assignments, escapeManipulator, Event.switch, Event.set]

theorem raised_entryManipulator (name : String) :
    (conventions.entryManipulator flags group).raised name =
      if conventions.flag group.path = name then
        [⟨conventions.flag group.path, .integer 1⟩]
      else [] := by
  by_cases outermost : group.parentFlag = conventions.leader <;>
    simp [raised, assignments, entryManipulator, entering, Event.switch,
      Event.set, outermost, List.filter_cons]

end Conventions

/-! ## The rules of the layers -/

namespace Conventions

variable {conventions : Conventions} {tree : Bindings} {name : String}

/-- In a group of manipulators the entry alone turns a variable on. -/
theorem raisings_groupManipulators {flags : List String}
    {group : LayerGroup}
    (setNothing : ∀ key command, (key, command) ∈ group.inner.commands →
      command.SetsNothing) :
    raisings name (conventions.groupManipulators flags group) =
      if conventions.flag group.path = name then
        [(conventions.entryManipulator flags group,
          ⟨conventions.flag group.path, .integer 1⟩)]
      else [] := by
  have commandsIdle : raisings name
      (group.inner.commands.map fun entry =>
        conventions.commandManipulator group entry.1 entry.2) = [] := by
    apply raisings_eq_nil
    intro manipulator listed
    rcases List.mem_map.mp listed with ⟨⟨key, command⟩, bound, rfl⟩
    exact raised_commandManipulator (setNothing key command bound) key name
  rw [groupManipulators, raisings_cons, raisings_cons, commandsIdle,
    raised_entryManipulator, raised_escapeManipulator]
  split <;> simp

theorem raisings_groups {flags : List String} {groups : List LayerGroup}
    (setNothing : ∀ group ∈ groups, ∀ key command,
      (key, command) ∈ group.inner.commands → command.SetsNothing) :
    raisings name (groups.flatMap (conventions.groupManipulators flags)) =
      (groups.filter fun group => conventions.flag group.path = name).map
        fun group => (conventions.entryManipulator flags group,
          ⟨conventions.flag group.path, .integer 1⟩) := by
  induction groups with
  | nil => rfl
  | cons first rest ih =>
      rw [List.flatMap_cons, raisings_append,
        ih fun group member => setNothing group (List.mem_cons_of_mem _ member),
        raisings_groupManipulators (setNothing first List.mem_cons_self),
        List.filter_cons]
      by_cases own : conventions.flag first.path = name <;> simp [own]

/-- What turns a variable on in the rules of a tree: entries with that flag. -/
theorem raisings_rules_perm (conventions : Conventions) (name : String)
    (setsNothing : tree.SetsNothing) :
    (raisings name
      ((conventions.rules tree).flatMap Rule.manipulators)).Perm
      (((conventions.groups tree).filter fun group =>
          conventions.flag group.path = name).map fun group =>
        (conventions.entryManipulator (conventions.flags tree) group,
          ⟨conventions.flag group.path, .integer 1⟩)) := by
  have commandsIdle : raisings name
      (tree.commands.map fun entry =>
        conventions.leaderManipulator entry.1 entry.2) = [] := by
    apply raisings_eq_nil
    intro manipulator listed
    rcases List.mem_map.mp listed with ⟨⟨key, command⟩, bound, rfl⟩
    exact raised_leaderManipulator (setsNothing.of_mem_commands bound) key
      name
  have everywhere : ∀ group ∈ conventions.groups tree, ∀ key command,
      (key, command) ∈ group.inner.commands → command.SetsNothing :=
    fun _ member _ _ => setsNothing.of_mem_group member
  -- what is permuted with the manipulators is what they turn on
  have moved := (conventions.manipulators_rules_perm tree).flatMap_right
    fun manipulator => (manipulator.raised name).map (manipulator, ·)
  rw [← raisings_groups everywhere]
  refine moved.trans (.of_eq ?_)
  show raisings name (_ ++ _) = _
  rw [raisings_append, commandsIdle, List.nil_append]

namespace Accepts

theorem raisings_leader (accepts : conventions.Accepts tree)
    (setsNothing : tree.SetsNothing) :
    raisings conventions.leader
      ((conventions.rules tree).flatMap Rule.manipulators) = [] := by
  have listed := raisings_rules_perm conventions conventions.leader
    setsNothing
  have none : ((conventions.groups tree).filter fun group =>
      conventions.flag group.path = conventions.leader) = [] := by
    apply List.filter_eq_nil_iff.mpr
    intro group member
    simpa using accepts.flag_ne_leader member
  rw [none] at listed
  exact List.perm_nil.mp listed

theorem raisings_flag (accepts : conventions.Accepts tree)
    (setsNothing : tree.SetsNothing)
    {group : LayerGroup} (member : group ∈ conventions.groups tree) :
    raisings (conventions.flag group.path)
        ((conventions.rules tree).flatMap Rule.manipulators) =
      [(conventions.entryManipulator (conventions.flags tree) group,
        ⟨conventions.flag group.path, .integer 1⟩)] := by
  have listed := raisings_rules_perm conventions (conventions.flag group.path)
    setsNothing
  have groupsNodup : (conventions.groups tree).Nodup :=
    .of_map _ accepts.map_flag_nodup
  have one : ((conventions.groups tree).filter fun other =>
      conventions.flag other.path = conventions.flag group.path).Perm
        [group] := by
    apply (List.perm_ext_iff_of_nodup (groupsNodup.filter _)
      (List.nodup_singleton group)).mpr
    intro other
    rw [List.mem_filter, List.mem_singleton, decide_eq_true_iff]
    constructor
    · rintro ⟨otherMember, same⟩
      exact accepts.eq_of_flag_eq otherMember member same
    · rintro rfl
      exact ⟨member, rfl⟩
  exact List.perm_singleton.mp (listed.trans (one.map _))

/-- The rules of a tree use no variables but the leader and the flags. -/
theorem keepsTo_of_mem_rules (accepts : conventions.Accepts tree)
    (setsNothing : tree.SetsNothing) {manipulator : Manipulator}
    (listed : manipulator ∈
      (conventions.rules tree).flatMap Rule.manipulators) :
    manipulator.KeepsTo (conventions.steering tree) := by
  have leader : conventions.leader ∈ conventions.steering tree :=
    leader_mem_steering
  refine ⟨accepts.reads_of_mem_rules listed, ?_⟩
  rcases mem_manipulators_rules_iff.mp listed with
    ⟨key, command, bound, rfl⟩ | ⟨group, member, own⟩
  · simp [Manipulator.assignments, leaderManipulator,
      List.filterMap_append,
      (setsNothing.of_mem_commands bound).filterMap_assignment,
      Event.switch, Event.set, leader]
  have parent := (accepts.parentFlag_mem_steering member).1
  have flag := flag_mem_steering member
  rcases own with rfl | rfl | ⟨key, command, bound, rfl⟩
  · by_cases outermost : group.parentFlag = conventions.leader <;>
      simp_all [Manipulator.assignments, entryManipulator, entering,
        Event.switch, Event.set]
  · simp [Manipulator.assignments, escapeManipulator, Event.switch,
      Event.set, flag]
  · simp [Manipulator.assignments, commandManipulator,
      List.filterMap_append,
      (setsNothing.of_mem_group member bound).filterMap_assignment,
      Event.switch, Event.set, flag, leader]

end Accepts

end Conventions

/-! ## The whole document -/

namespace Settings

variable {settings : Settings}

theorem rule?_manipulators {remap : RemapSettings} {rule : Rule}
    (read : remap.rule? settings.aliases = .ok rule)
    {manipulator : Manipulator}
    (listed : manipulator ∈ rule.manipulators) :
    manipulator.conditions = [] ∧ manipulator.assignments = [] := by
  rw [RemapSettings.rule?] at read
  rcases Except.bind_eq_ok_iff.mp read with ⟨mappings, _, made⟩
  cases mappings with
  | nil => cases made
  | cons first rest =>
      cases made
      rcases List.mem_map.mp listed with ⟨mapping, _, rfl⟩
      exact ⟨rfl, rfl⟩

theorem deactivation?_isSome_iff {leader : String} {keys : List KeyCode}
    (read : settings.deactivationKeys? = .ok keys) :
    (Rule.deactivation? leader keys).isSome ↔
      settings.leader.deactivate ≠ [] := by
  have sameLength := (Except.forall₂_of_mapM read).length_eq
  cases keys with
  | nil => simpa [Rule.deactivation?] using sameLength
  | cons first rest =>
      rw [List.length_cons] at sameLength
      simpa [Rule.deactivation?] using List.ne_nil_of_length_eq_add_one
        sameLength

namespace Reading

variable (reading : settings.Reading)

theorem setsNothing : reading.tree.SetsNothing :=
  fun _ _ => variable?_of_bindings? reading.tree_read

theorem remaps_idle {rule : Rule} (inRemaps : rule ∈ reading.remaps)
    {manipulator : Manipulator}
    (inRule : manipulator ∈ rule.manipulators) :
    manipulator.conditions = [] ∧ manipulator.assignments = [] := by
  rcases Except.exists_of_mem_mapM reading.remaps_read inRemaps with
    ⟨remap, _, read⟩
  exact rule?_manipulators read inRule

/-- What turns a variable on: the chord for the leader, else the layers. -/
theorem raisings_manipulators (name : String) :
    raisings name reading.manipulators =
      (if reading.conventions.leader = name then
        reading.activation.flatMap fun rule =>
          rule.manipulators.map (·, ⟨name, .integer 1⟩)
      else []) ++
        raisings name ((reading.conventions.rules reading.tree).flatMap
          Rule.manipulators) := by
  have remapsIdle :
      raisings name (reading.remaps.flatMap Rule.manipulators) = [] := by
    apply raisings_eq_nil
    intro manipulator listed
    rcases List.mem_flatMap.mp listed with ⟨rule, inRemaps, inRule⟩
    rw [raised, (reading.remaps_idle inRemaps inRule).2, List.filter_nil]
  have leavingIdle : raisings name (reading.deactivation.map
      (Rule.deactivationBy reading.conventions.leader)) = [] := by
    apply raisings_eq_nil
    intro manipulator listed
    rcases List.mem_map.mp listed with ⟨key, _, rfl⟩
    exact Rule.raised_deactivationBy _ name key
  have entering :
      raisings name (reading.activation.flatMap Rule.manipulators) =
        if reading.conventions.leader = name then
          reading.activation.flatMap fun rule =>
            rule.manipulators.map (·, ⟨name, .integer 1⟩)
        else [] := by
    rcases reading.activation_eq with ⟨_, none⟩ | ⟨_, chord, one⟩
    · simp [none]
    · rw [one, List.flatMap_singleton, List.flatMap_singleton]
      exact Rule.raisings_activation _ name chord
  rw [manipulators, raisings_append, raisings_append, List.flatMap_append,
    raisings_append, remapsIdle, leavingIdle, entering, List.nil_append,
    List.append_nil]

theorem keepsTo_of_mem_manipulators {manipulator : Manipulator}
    (listed : manipulator ∈ reading.manipulators) :
    manipulator.KeepsTo (reading.conventions.steering reading.tree) := by
  have leader : reading.conventions.leader ∈
      reading.conventions.steering reading.tree :=
    Conventions.leader_mem_steering
  rw [manipulators, List.mem_append, List.mem_append,
    List.flatMap_append, List.mem_append] at listed
  rcases listed with ((inRemaps | inActivation) | inDeactivation) | inLayers
  · rcases List.mem_flatMap.mp inRemaps with ⟨rule, inRemaps, inRule⟩
    rcases reading.remaps_idle inRemaps inRule with ⟨untested, unset⟩
    simp [KeepsTo, untested, unset]
  · rcases reading.activation_eq with ⟨_, none⟩ | ⟨_, chord, one⟩
    · simp [none] at inActivation
    · rw [one, List.flatMap_singleton] at inActivation
      rcases List.mem_singleton.mp inActivation with rfl
      simp [KeepsTo, Manipulator.assignments, Condition.isOn, Event.switch,
        Event.set, leader]
  · rcases List.mem_map.mp inDeactivation with ⟨key, _, rfl⟩
    simp [KeepsTo, Manipulator.assignments, Rule.deactivationBy,
      Condition.isOn, Event.switch, Event.set, leader]
  · exact reading.accepts.keepsTo_of_mem_rules reading.setsNothing inLayers

end Reading

/--
A document uses no variables but the leader and the flags of its layers.  Its
remaps come first and use none; then comes the rule that enters leader mode,
if a chord is given, and nothing else turns the leader on; then the rule that
leaves it, if keys are given, none of which the layers bind at the top; then
the rules of the layers, where each flag is turned on once, by the entry of
its own sublayer.
-/
theorem variables_closed {compilation : Compilation}
    (compiled : settings.compile? = .ok compilation) :
    ∃ (tree : Bindings) (conventions : Conventions)
        (remaps entering : List Rule) (keys : List KeyCode),
      let leader := conventions.leader
      let flags := conventions.flags tree
      let document := compilation.document
      settings.bindings? = .ok tree ∧
      settings.conventions? = .ok conventions ∧
      leader = settings.leader.flag ∧
      settings.deactivationKeys? = .ok keys ∧
      document.rules = remaps ++ entering ++
        (Rule.deactivation? leader keys).toList ++ conventions.rules tree ∧
      List.Forall₂ (fun (remap : RemapSettings) rule =>
        remap.rule? settings.aliases = .ok rule) settings.remaps remaps ∧
      (settings.leader.activate.getD "" = "" ∧ entering = [] ∨
        settings.leader.activate.getD "" ≠ "" ∧
          ∃ chord, entering = [Rule.activation leader chord]) ∧
      ((Rule.deactivation? leader keys).isSome ↔
        settings.leader.deactivate ≠ []) ∧
      (∀ key ∈ tree.keys, key ∉ keys) ∧
      leader ∉ flags ∧
      (∀ manipulator ∈ document.manipulators,
        manipulator.KeepsTo (leader :: flags)) ∧
      (∀ rule ∈ remaps, ∀ manipulator ∈ rule.manipulators,
        manipulator.conditions = [] ∧ manipulator.assignments = []) ∧
      raisings leader document.manipulators =
        entering.flatMap (fun rule =>
          rule.manipulators.map (·, ⟨leader, .integer 1⟩)) ∧
      ∀ flag ∈ flags, ∃ group ∈ conventions.groups tree,
        conventions.flag group.path = flag ∧
          raisings flag document.manipulators =
            [(conventions.entryManipulator flags group,
              ⟨flag, .integer 1⟩)] := by
  rcases exists_reading_rules compiled with ⟨reading, listed⟩
  have documented : compilation.document.manipulators =
      reading.manipulators := by
    rw [Document.manipulators, listed, reading.flatMap_manipulators_rules]
  have accepts := reading.accepts
  refine ⟨reading.tree, reading.conventions, reading.remaps,
    reading.activation, reading.deactivation, reading.tree_read,
    reading.conventions_read, reading.leader_eq, reading.deactivation_read,
    listed, Except.forall₂_of_mapM reading.remaps_read,
    reading.activation_eq, deactivation?_isSome_iff reading.deactivation_read,
    reading.deactivation_free, accepts.leader_not_mem_flags, ?_,
    fun rule inRemaps _ => reading.remaps_idle inRemaps, ?_, ?_⟩
  · intro manipulator inDocument
    rw [documented] at inDocument
    exact reading.keepsTo_of_mem_manipulators inDocument
  · rw [documented, reading.raisings_manipulators, if_pos rfl,
      accepts.raisings_leader reading.setsNothing, List.append_nil]
  · intro flag inFlags
    rcases Conventions.mem_flags_iff.mp inFlags with ⟨group, member, rfl⟩
    refine ⟨group, member, rfl, ?_⟩
    rw [documented, reading.raisings_manipulators,
      if_neg (accepts.flag_ne_leader member).symm,
      accepts.raisings_flag reading.setsNothing member, List.nil_append]

/-- With a chord, that chord alone turns the leader on. -/
theorem chordExample_variables_closed :
    ∃ compilation chord, chordExample.compile? = .ok compilation ∧
      raisings "leader" compilation.document.manipulators =
        (Rule.activation "leader" chord).manipulators.map
          (·, ⟨"leader", .integer 1⟩) := by
  have compiles : chordExample.compile?.toOption.isSome := by
    decide +kernel
  cases made : chordExample.compile? with
  | error fault =>
      rw [made] at compiles
      cases compiles
  | ok compilation =>
      rcases variables_closed made with
        ⟨tree, conventions, remaps, entering, keys, _, _, leader, _, _, _,
          chorded, _, _, _, _, _, raised, _⟩
      rcases chorded with ⟨noChord, _⟩ | ⟨_, chord, rfl⟩
      · exact absurd noChord (by decide)
      · refine ⟨compilation, chord, rfl, ?_⟩
        rw [leader, List.flatMap_singleton] at raised
        exact raised

end Settings

end ModalKeymap
