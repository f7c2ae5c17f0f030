import ModalKeymap.Mode
import ModalKeymap.Proofs.Reading
import ModalKeymap.Proofs.Steering

/-!
# Rules as modes

A table of rules is searched for the first manipulator that a press enables;
the modal reading of a tree (`ModeMap`) knows neither tables nor variables.
Both say the same.  The variables the rules steer by encode the mode
(`Conventions.Encodes`): none is on in the idle mode, the leader in leader
mode, and the flag of a sublayer inside it.  Whatever manipulator is enabled
does what the mode map does (`ReadsAsModes.press_of_enabled`), and where none
is, the mode map does nothing (`ReadsAsModes.press_of_none`), so one press
keeps the encoding and sends the same events, and so does every run.
-/

namespace ModalKeymap

open Replay

/-! ## Following keys in a mode map -/

namespace ModeMap

variable (map : ModeMap) {path : KeyPath} {key : KeyCode} {entry : Entry}

theorem press_leader_of_bound (bound : map.tree.bound? key = some entry) :
    map.press .leader key = follow [] key entry := by
  simp [press, bound]

theorem press_leader_of_unbound (unbound : map.tree.bound? key = none) :
    map.press .leader key =
      (if key ∈ map.deactivation then .idle else .leader, []) := by
  simp [press, unbound]

theorem press_inside_escape :
    map.press (.inside path) map.escape = (.idle, []) := by
  simp [press]

theorem press_inside_of_bound {layer : Bindings}
    (reached : map.tree.layer? path = some layer)
    (bound : layer.bound? key = some entry) (stays : key ≠ map.escape) :
    map.press (.inside path) key = follow path key entry := by
  simp [press, reached, bound, stays]

theorem press_inside_of_unbound {layer : Bindings}
    (reached : map.tree.layer? path = some layer)
    (unbound : layer.bound? key = none) (stays : key ≠ map.escape) :
    map.press (.inside path) key = (.inside path, []) := by
  simp [press, reached, unbound, stays]

theorem run_concat (mode : Mode) (keys : List KeyCode) (key : KeyCode) :
    map.run mode (keys ++ [key]) = (map.press (map.run mode keys) key).1 := by
  exact List.foldl_concat ..

theorem outputs_concat (mode : Mode) (keys : List KeyCode)
    (key : KeyCode) :
    map.outputs mode (keys ++ [key]) =
      map.outputs mode keys ++ [(map.press (map.run mode keys) key).2] := by
  induction keys generalizing mode with
  | nil => rfl
  | cons first rest ih => exact congrArg (List.cons _) (ih _)

end ModeMap

namespace Conventions

/-- The keys that lead through a tree in the modal reading. -/
def modeMap (conventions : Conventions) (tree : Bindings)
    (deactivation : List KeyCode) : ModeMap where
  tree := tree
  escape := conventions.escape
  deactivation := deactivation

/-- The manipulators of a tree, behind those that leave leader mode. -/
def modalManipulators (conventions : Conventions) (tree : Bindings)
    (deactivation : List KeyCode) : List Manipulator :=
  deactivation.map (Rule.deactivationBy conventions.leader) ++
    (conventions.rules tree).flatMap Rule.manipulators

/-- The variable that is on in a mode. -/
def modeVariable? (conventions : Conventions) : Mode → Option String
  | .idle => none
  | .leader => some conventions.leader
  | .inside path => some (conventions.flag path)

/-- The variables show a mode that the tree has. -/
structure Encodes (conventions : Conventions) (tree : Bindings)
    (mode : Mode) (values : Variables) : Prop where
  shows : values.Shows (conventions.steering tree)
    (conventions.modeVariable? mode)
  placed : ∀ path, mode = .inside path →
    ∃ group ∈ conventions.groups tree, group.path = path

/-- What makes the rules of a tree read as modes. -/
structure ReadsAsModes (conventions : Conventions) (tree : Bindings)
    (deactivation : List KeyCode) : Prop where
  accepts : conventions.Accepts tree
  keysDistinct : tree.KeysDistinct
  selfNamed : tree.SelfNamed
  free : ∀ key ∈ tree.keys, key ∉ deactivation
  entered : ∀ path, conventions.entryFlag path = conventions.flag path

variable {conventions : Conventions} {tree : Bindings}
  {deactivation : List KeyCode} {mode : Mode} {values : Variables}
  {press : Press} {manipulator : Manipulator} {group : LayerGroup}

/-! ## The mode that variables encode -/

theorem Encodes.eq_leader (encodes : conventions.Encodes tree mode values)
    (accepts : conventions.Accepts tree)
    (live : conventions.modeVariable? mode = some conventions.leader) :
    mode = .leader := by
  cases mode with
  | idle => cases live
  | leader => rfl
  | inside path =>
      rcases encodes.placed path rfl with ⟨group, member, rfl⟩
      exact absurd (Option.some.inj live) (accepts.flag_ne_leader member)

theorem Encodes.eq_inside (encodes : conventions.Encodes tree mode values)
    (accepts : conventions.Accepts tree)
    (member : group ∈ conventions.groups tree)
    (live : conventions.modeVariable? mode =
      some (conventions.flag group.path)) :
    mode = .inside group.path := by
  cases mode with
  | idle => cases live
  | leader =>
      exact absurd (Option.some.inj live).symm
        (accepts.flag_ne_leader member)
  | inside path =>
      rcases encodes.placed path rfl with ⟨other, otherMember, rfl⟩
      have same := accepts.eq_of_flag_eq otherMember member
        (Option.some.inj live)
      rw [same]

theorem layer?_of_mem_groups (distinct : tree.KeysDistinct)
    (named : tree.SelfNamed) (member : group ∈ conventions.groups tree) :
    tree.layer? group.path = some group.inner := by
  refine Bindings.forall_mem_groups
    (fun group => tree.layer? group.path = some group.inner) ?_ ?_ member
  · intro outermost listed
    rcases Bindings.mem_placedSublayers_iff.mp listed with
      ⟨key, sublayer, bound, rfl⟩
    rw [← named.name_eq bound] at bound
    exact Bindings.layer?_append_singleton rfl
      (distinct.bound?_eq_some_iff.mpr (Bindings.mem_sublayers_iff.mp bound))
  · intro parent parentMember reached child listed
    rcases Bindings.mem_placedSublayers_iff.mp listed with
      ⟨key, sublayer, bound, rfl⟩
    rw [← (named.of_mem_groups parentMember).name_eq bound] at bound
    exact Bindings.layer?_append_singleton reached
      ((distinct.of_mem_groups parentMember).bound?_eq_some_iff.mpr
        (Bindings.mem_sublayers_iff.mp bound))

/-! ## One press -/

/-- Firing leads to the mode whose variable the manipulator makes live. -/
theorem Encodes.update (encodes : conventions.Encodes tree mode values)
    {source : String} {key : KeyCode} {sent : List Event} {next : Mode}
    (binds : manipulator.Binds (conventions.steering tree) source key
      (conventions.modeVariable? next) sent)
    (live : conventions.modeVariable? mode = some source)
    (placed : ∀ path, next = .inside path →
      ∃ group ∈ conventions.groups tree, group.path = path) :
    conventions.Encodes tree next (manipulator.update values) where
  shows := binds.shows_update values (live ▸ encodes.shows)
  placed := placed

/-- In leader mode the name of a sublayer of the top level opens it. -/
theorem ReadsAsModes.press_outermost
    (reads : conventions.ReadsAsModes tree deactivation)
    (placed : group ∈ tree.placedSublayers [] conventions.leader) :
    (conventions.modeMap tree deactivation).press .leader group.name =
      (.inside group.path, []) := by
  rcases Bindings.mem_placedSublayers_iff.mp placed with
    ⟨key, sublayer, inTree, rfl⟩
  rw [← reads.selfNamed.name_eq inTree] at inTree
  exact (conventions.modeMap tree deactivation).press_leader_of_bound
    (reads.keysDistinct.bound?_eq_some_iff.mpr
      (Bindings.mem_sublayers_iff.mp inTree))

/-- Inside a sublayer the name of a sublayer right in it opens that one. -/
theorem ReadsAsModes.press_child
    (reads : conventions.ReadsAsModes tree deactivation)
    {parent : LayerGroup} (member : parent ∈ conventions.groups tree)
    (child : group ∈ parent.children conventions.entryFlag) :
    (conventions.modeMap tree deactivation).press (.inside parent.path)
        group.name = (.inside group.path, []) := by
  rcases Bindings.mem_placedSublayers_iff.mp child with
    ⟨key, sublayer, inParent, rfl⟩
  have reached := layer?_of_mem_groups reads.keysDistinct
    reads.selfNamed member
  have innerDistinct := reads.keysDistinct.of_mem_groups member
  have innerNamed := reads.selfNamed.of_mem_groups member
  rw [← innerNamed.name_eq inParent] at inParent
  have stays := (reads.accepts.unambiguous parent member _
    (Bindings.mem_keys_of_mem_sublayers inParent)).2
  exact ModeMap.press_inside_of_bound _ reached
    (innerDistinct.bound?_eq_some_iff.mpr
      (Bindings.mem_sublayers_iff.mp inParent)) stays

/-- Where a sublayer may be entered, its name opens it. -/
theorem ReadsAsModes.press_name
    (reads : conventions.ReadsAsModes tree deactivation)
    (encodes : conventions.Encodes tree mode values)
    (member : group ∈ conventions.groups tree)
    (live : conventions.modeVariable? mode = some group.parentFlag) :
    (conventions.modeMap tree deactivation).press mode group.name =
      (.inside group.path, []) := by
  rcases Bindings.mem_groups_iff.mp member with outermost | nested
  · have fromLeader : group.parentFlag = conventions.leader := by
      rcases Bindings.mem_placedSublayers_iff.mp outermost with
        ⟨_, _, _, rfl⟩
      rfl
    rw [fromLeader] at live
    rcases encodes.eq_leader reads.accepts live with rfl
    exact reads.press_outermost outermost
  · rcases nested with ⟨parent, parentMember, child⟩
    have fromParent :
        group.parentFlag = conventions.flag parent.path := by
      rcases Bindings.mem_placedSublayers_iff.mp child with
        ⟨_, _, _, rfl⟩
      exact reads.entered parent.path
    rw [fromParent] at live
    rcases encodes.eq_inside reads.accepts parentMember live with rfl
    exact reads.press_child parentMember child

/-- An enabled manipulator does what the modal reading says of the press. -/
theorem ReadsAsModes.press_of_enabled
    (reads : conventions.ReadsAsModes tree deactivation)
    (encodes : conventions.Encodes tree mode values)
    (listed : manipulator ∈
      conventions.modalManipulators tree deactivation)
    (enabled : manipulator.isEnabled values press) :
    ∃ next,
      (conventions.modeMap tree deactivation).press mode press.key =
        (next, manipulator.emissions) ∧
      conventions.Encodes tree next (manipulator.update values) := by
  have accepts := reads.accepts
  have bound : ∀ {key entry}, (key, entry) ∈ tree.toList →
      tree.bound? key = some entry :=
    fun member => reads.keysDistinct.bound?_eq_some_iff.mpr member
  have notInside : ∀ path, Mode.idle = .inside path →
      ∃ group ∈ conventions.groups tree, group.path = path := by
    intro path impossible
    cases impossible
  rcases List.mem_append.mp listed with leaves | inRules
  · rcases List.mem_map.mp leaves with ⟨key, isKey, rfl⟩
    have binds := conventions.binds_deactivation tree key
    rcases (binds.isEnabled_iff encodes.shows).mp enabled with
      ⟨live, rfl⟩
    rcases encodes.eq_leader accepts live with rfl
    have unbound : tree.bound? press.key = none :=
      Bindings.bound?_eq_none_iff.mpr fun member =>
        reads.free press.key member isKey
    refine ⟨.idle, ?_, encodes.update binds live notInside⟩
    rw [ModeMap.press_leader_of_unbound _ unbound, binds.emissions]
    exact congrArg (·, []) (if_pos isKey)
  rcases mem_manipulators_rules_iff.mp inRules with
    ⟨key, command, member, rfl⟩ | ⟨group, member, kind⟩
  · have binds := accepts.binds_leader member
    rcases (binds.isEnabled_iff encodes.shows).mp enabled with
      ⟨live, rfl⟩
    rcases encodes.eq_leader accepts live with rfl
    refine ⟨.idle, ?_, encodes.update binds live notInside⟩
    rw [ModeMap.press_leader_of_bound _
      (bound (Bindings.mem_commands_iff.mp member)), binds.emissions]
    rfl
  have reached := layer?_of_mem_groups reads.keysDistinct
    reads.selfNamed member
  have innerDistinct := reads.keysDistinct.of_mem_groups member
  rcases kind with rfl | rfl | ⟨key, command, inLayer, rfl⟩
  · have binds := accepts.binds_entry member
    rcases (binds.isEnabled_iff encodes.shows).mp enabled with
      ⟨live, sameKey⟩
    refine ⟨.inside group.path, ?_, encodes.update binds live ?_⟩
    · rw [sameKey, binds.emissions]
      exact reads.press_name encodes member live
    · intro path same
      cases same
      exact ⟨group, member, rfl⟩
  · have binds := conventions.binds_escape member
    rcases (binds.isEnabled_iff encodes.shows).mp enabled with
      ⟨live, sameKey⟩
    rcases encodes.eq_inside accepts member live with rfl
    refine ⟨.idle, ?_, encodes.update binds live notInside⟩
    rw [sameKey, binds.emissions]
    exact ModeMap.press_inside_escape _
  · have binds := accepts.binds_command member inLayer
    rcases (binds.isEnabled_iff encodes.shows).mp enabled with
      ⟨live, rfl⟩
    rcases encodes.eq_inside accepts member live with rfl
    have stays := (accepts.unambiguous group member press.key
      (Bindings.mem_keys_of_mem_commands inLayer)).2
    refine ⟨.idle, ?_, encodes.update binds live notInside⟩
    rw [ModeMap.press_inside_of_bound _ reached
      (innerDistinct.bound?_eq_some_iff.mpr
        (Bindings.mem_commands_iff.mp inLayer)) stays, binds.emissions]
    rfl

theorem Accepts.exists_enabled_of_name (accepts : conventions.Accepts tree)
    (member : group ∈ conventions.groups tree)
    (shows : values.Shows (conventions.steering tree)
      (some group.parentFlag))
    (sameKey : group.name = press.key) :
    ∃ manipulator ∈ (conventions.rules tree).flatMap Rule.manipulators,
      manipulator.isEnabled values press := by
  refine ⟨_, mem_manipulators_rules_iff.mpr
    (.inr ⟨group, member, .inl rfl⟩), ?_⟩
  exact ((accepts.binds_entry member).isEnabled_iff shows).mpr
    ⟨rfl, sameKey.symm⟩

/-- In leader mode every bound key of the top level fires something. -/
theorem ReadsAsModes.exists_enabled_of_bound
    (reads : conventions.ReadsAsModes tree deactivation)
    (encodes : conventions.Encodes tree .leader values) {entry : Entry}
    (bound : tree.bound? press.key = some entry) :
    ∃ manipulator ∈ (conventions.rules tree).flatMap Rule.manipulators,
      manipulator.isEnabled values press := by
  have inTree := reads.keysDistinct.bound?_eq_some_iff.mp bound
  cases entry with
  | command command =>
      have member := Bindings.mem_commands_iff.mpr inTree
      refine ⟨_, mem_manipulators_rules_iff.mpr
        (.inl ⟨_, _, member, rfl⟩), ?_⟩
      have binds := reads.accepts.binds_leader member
      exact (binds.isEnabled_iff encodes.shows).mpr ⟨rfl, rfl⟩
  | sublayer sublayer =>
      have member := Bindings.mem_sublayers_iff.mpr inTree
      have placed : sublayer.placed [] conventions.leader ∈
          conventions.groups tree :=
        mem_groups_of_mem_placedSublayers
          (Bindings.mem_placedSublayers_iff.mpr ⟨_, _, member, rfl⟩)
      exact reads.accepts.exists_enabled_of_name placed encodes.shows
        (reads.selfNamed.name_eq member)

/-- Inside a sublayer every bound key of it fires something. -/
theorem ReadsAsModes.exists_enabled_of_bound_inside
    (reads : conventions.ReadsAsModes tree deactivation)
    (member : group ∈ conventions.groups tree)
    (encodes : conventions.Encodes tree (.inside group.path) values)
    {entry : Entry} (bound : group.inner.bound? press.key = some entry) :
    ∃ manipulator ∈ (conventions.rules tree).flatMap Rule.manipulators,
      manipulator.isEnabled values press := by
  have innerDistinct := reads.keysDistinct.of_mem_groups member
  have inLayer := innerDistinct.bound?_eq_some_iff.mp bound
  cases entry with
  | command command =>
      have inCommands := Bindings.mem_commands_iff.mpr inLayer
      refine ⟨_, mem_manipulators_rules_iff.mpr
        (.inr ⟨group, member, .inr (.inr ⟨_, _, inCommands, rfl⟩)⟩), ?_⟩
      have binds := reads.accepts.binds_command member inCommands
      exact (binds.isEnabled_iff encodes.shows).mpr ⟨rfl, rfl⟩
  | sublayer sublayer =>
      have inSublayers := Bindings.mem_sublayers_iff.mpr inLayer
      have placed : sublayer.placed group.path
          (conventions.entryFlag group.path) ∈ conventions.groups tree :=
        mem_groups_of_mem_children member
          (Bindings.mem_placedSublayers_iff.mpr ⟨_, _, inSublayers, rfl⟩)
      have shows := encodes.shows
      rw [modeVariable?, ← reads.entered] at shows
      exact reads.accepts.exists_enabled_of_name placed shows
        ((reads.selfNamed.of_mem_groups member).name_eq inSublayers)

/-- Where no manipulator is enabled, the press means nothing. -/
theorem ReadsAsModes.press_of_none
    (reads : conventions.ReadsAsModes tree deactivation)
    (encodes : conventions.Encodes tree mode values)
    (none : ∀ manipulator ∈ conventions.modalManipulators tree deactivation,
      ¬manipulator.isEnabled values press) :
    (conventions.modeMap tree deactivation).press mode press.key =
      (mode, []) := by
  have noRule : ¬∃ manipulator ∈
      (conventions.rules tree).flatMap Rule.manipulators,
      manipulator.isEnabled values press := by
    rintro ⟨manipulator, listed, enabled⟩
    exact none manipulator (List.mem_append_right _ listed) enabled
  cases mode with
  | idle => rfl
  | leader =>
      have unbound : tree.bound? press.key = .none :=
        Option.eq_none_iff_forall_ne_some.mpr fun entry bound =>
          noRule (reads.exists_enabled_of_bound encodes bound)
      have stays : press.key ∉ deactivation := by
        intro isKey
        apply none _ (List.mem_append_left _
          (List.mem_map.mpr ⟨press.key, isKey, rfl⟩))
        have binds := conventions.binds_deactivation tree press.key
        exact (binds.isEnabled_iff encodes.shows).mpr ⟨rfl, rfl⟩
      rw [ModeMap.press_leader_of_unbound _ unbound]
      exact congrArg (·, []) (if_neg stays)
  | inside path =>
      rcases encodes.placed path rfl with ⟨group, member, rfl⟩
      have stays : press.key ≠ conventions.escape := by
        intro leaves
        apply noRule
        refine ⟨_, mem_manipulators_rules_iff.mpr
          (.inr ⟨group, member, .inr (.inl rfl)⟩), ?_⟩
        have binds := conventions.binds_escape member
        exact (binds.isEnabled_iff encodes.shows).mpr ⟨rfl, leaves⟩
      have unbound : group.inner.bound? press.key = .none :=
        Option.eq_none_iff_forall_ne_some.mpr fun entry bound =>
          noRule (reads.exists_enabled_of_bound_inside member encodes bound)
      have reached := layer?_of_mem_groups reads.keysDistinct
        reads.selfNamed member
      exact ModeMap.press_inside_of_unbound _ reached unbound stays

/-- One press of the table is one press of the modal reading. -/
theorem ReadsAsModes.press_eq
    (reads : conventions.ReadsAsModes tree deactivation)
    (encodes : conventions.Encodes tree mode values) (press : Press) :
    let map := conventions.modeMap tree deactivation
    let manipulators := conventions.modalManipulators tree deactivation
    emitted manipulators values press = (map.press mode press.key).2 ∧
      conventions.Encodes tree (map.press mode press.key).1
        (after manipulators values press) := by
  intro map manipulators
  rw [emitted, after]
  cases found : firing? manipulators values press with
  | some manipulator =>
      rcases enabled_of_firing? found with ⟨listed, enabled⟩
      rcases reads.press_of_enabled encodes listed enabled with
        ⟨next, pressed, encodesNext⟩
      rw [pressed]
      exact ⟨rfl, encodesNext⟩
  | none =>
      have unfired := List.find?_eq_none.mp found
      rw [reads.press_of_none encodes unfired]
      exact ⟨rfl, encodes⟩

/-! ## Whole runs -/

/-- A run of the table sends what the modal reading sends, in its modes. -/
theorem ReadsAsModes.outputs_eq
    (reads : conventions.ReadsAsModes tree deactivation)
    (encodes : conventions.Encodes tree mode values)
    (presses : List Press) :
    let map := conventions.modeMap tree deactivation
    let manipulators := conventions.modalManipulators tree deactivation
    outputs manipulators values presses =
        map.outputs mode (presses.map Press.key) ∧
      conventions.Encodes tree (map.run mode (presses.map Press.key))
        (run manipulators values presses) := by
  intro map manipulators
  induction presses generalizing mode values with
  | nil => exact ⟨rfl, encodes⟩
  | cons press rest ih =>
      rcases reads.press_eq encodes press with ⟨sent, encodesNext⟩
      rcases ih encodesNext with ⟨sentLater, encodesLater⟩
      refine ⟨?_, encodesLater⟩
      rw [outputs, sent, sentLater]
      rfl

/-- With the leader off or on and all else unset, the mode is idle or not. -/
theorem Accepts.encodes_start (accepts : conventions.Accepts tree)
    (on : Bool) :
    conventions.Encodes tree (if on then .leader else .idle)
      (Variables.unset.assign
        ⟨conventions.leader, .integer on.toInt⟩) where
  shows := by
    intro name inSteering
    rcases List.mem_cons.mp inSteering with rfl | member
    · cases on <;> simp [modeVariable?]
    · have notLeader := accepts.ne_leader_of_mem_flags member
      rw [Variables.assign_of_ne _ notLeader]
      cases on <;> simp [modeVariable?, Variables.unset, notLeader.symm]
  placed := by
    intro path inside
    cases on <;> cases inside

end Conventions

/-! ## Documents -/

namespace Settings

/-- What settings mean to the person at the keyboard. -/
def modeMap? (settings : Settings) : Except SettingsFault ModeMap := do
  let tree ← settings.bindings?.mapError .table
  let deactivation ← settings.deactivationKeys?
  let conventions ← settings.conventions?
  return conventions.modeMap tree deactivation

variable {settings : Settings}

namespace Reading

theorem modeMap?_eq (reading : settings.Reading) :
    settings.modeMap? =
      .ok (reading.conventions.modeMap reading.tree
        reading.deactivation) := by
  rw [modeMap?, reading.tree_read, reading.deactivation_read,
    reading.conventions_read]
  rfl

theorem readsAsModes (reading : settings.Reading) :
    reading.conventions.ReadsAsModes reading.tree
      reading.deactivation where
  accepts := reading.accepts
  keysDistinct := reading.keysDistinct
  selfNamed := reading.selfNamed
  free := reading.deactivation_free
  entered := by
    apply Conventions.entryFlag_eq_flag_of_standard
    rw [reading.conventions_eq]

/-- Without remaps only the activation stands before the modal rules. -/
theorem manipulators_eq (reading : settings.Reading)
    (noRemaps : settings.remaps = []) :
    reading.manipulators =
      reading.activation.flatMap Rule.manipulators ++
        reading.conventions.modalManipulators reading.tree
          reading.deactivation := by
  have none : reading.remaps = [] := by
    have read := reading.remaps_read
    rw [noRemaps, List.mapM_nil] at read
    exact (Except.ok.inj read).symm
  rw [manipulators, Conventions.modalManipulators, none, List.nil_append,
    List.append_assoc]

theorem activation_eq_nil (reading : settings.Reading)
    (noChord : settings.leader.activate.getD "" = "") :
    reading.activation = [] := by
  rcases reading.activation_eq with ⟨_, none⟩ | ⟨chord, _⟩
  · exact none
  · exact absurd noChord chord

end Reading

/--
Settings without remaps and without a chord for leader mode: press by press,
the first enabled manipulator of the document sends what the modal reading of
the layers sends, whatever modifiers are held, and the variables go on
encoding the mode.
-/
theorem document_runs_as_modes {compilation : Compilation}
    (noRemaps : settings.remaps = [])
    (noChord : settings.leader.activate.getD "" = "")
    (compiled : settings.compile? = .ok compilation) :
    ∃ map conventions, settings.modeMap? = .ok map ∧
      settings.conventions? = .ok conventions ∧
      ∀ (on : Bool) (presses : List Press),
        let mode := if on then Mode.leader else .idle
        let start := Variables.unset.assign
          ⟨settings.leader.flag, .integer on.toInt⟩
        outputs compilation.document.manipulators start presses =
            map.outputs mode (presses.map Press.key) ∧
          conventions.Encodes map.tree (map.run mode (presses.map Press.key))
            (run compilation.document.manipulators start presses) := by
  rcases exists_reading compiled with ⟨reading, documented⟩
  refine ⟨_, _, reading.modeMap?_eq, reading.conventions_read, ?_⟩
  intro on presses mode start
  rw [documented, reading.manipulators_eq noRemaps,
    reading.activation_eq_nil noChord]
  have encodes := reading.accepts.encodes_start on
  rw [reading.leader_eq] at encodes
  exact reading.readsAsModes.outputs_eq encodes presses

/-- A command, and a sublayer with a command and a further sublayer in it. -/
def nestedExample : Settings where
  layers := [(.text "q", .text "shell:quit"),
    (.text "s", .mapping [(.text "a", .text "open:A"),
      (.text "w", .mapping [(.text "u",
        .list [.text "key:left_command+8", .text "open:U"])])])]

/-- Going two sublayers deep, with a modifier held for a while. -/
theorem nestedExample_runs_as_modes :
    ∃ compilation map, nestedExample.compile? = .ok compilation ∧
      nestedExample.modeMap? = .ok map ∧
      outputs compilation.document.manipulators
          (Variables.unset.assign ⟨"leader", .integer 1⟩)
          [⟨.s, [.leftShift]⟩, ⟨.w, [.leftShift]⟩, ⟨.u, []⟩] =
        map.outputs .leader [.s, .w, .u] := by
  have compiles : nestedExample.compile?.toOption.isSome := by
    decide +kernel
  cases made : nestedExample.compile? with
  | error fault =>
      rw [made] at compiles
      cases compiles
  | ok compilation =>
      rcases document_runs_as_modes rfl (by decide) made with
        ⟨map, conventions, mapped, _, runs⟩
      exact ⟨compilation, map, rfl, mapped, (runs true _).1⟩

end Settings

end ModalKeymap
