import ModalKeymap.Proofs.Exclusion

/-!
# How long leader mode lasts

Every firing moves deeper into the tree or makes nothing live, and nothing
turns the leader on again.  So what is live bounds how many presses can still
fire something (`Conventions.remaining`): one more than the tree is deep in
leader mode, one less for every name of a live sublayer, and none where
nothing is live.  Each manipulator of the rules, and each of the rules that
leave leader mode, goes down by one at least (`Accepts.remaining_lt`), which
bounds all runs (`Accepts.count_add_remaining_le`).
-/

namespace ModalKeymap

namespace Replay

/--
Some presses lead from one state to another while so many of them fire
something.  A press may fire any manipulator that it enables, or none.
-/
inductive Plays (manipulators : List Manipulator) :
    Variables → List Press → Nat → Variables → Prop
  | nil {values : Variables} : Plays manipulators values [] 0 values
  | fires {values next last : Variables} {press : Press}
      {rest : List Press} {manipulator : Manipulator} {count : Nat}
      (fired : Fires manipulators values press manipulator next)
      (played : Plays manipulators next rest count last) :
      Plays manipulators values (press :: rest) (count + 1) last
  | idles {values last : Variables} {press : Press} {rest : List Press}
      {count : Nat} (played : Plays manipulators values rest count last) :
      Plays manipulators values (press :: rest) count last

/-- What several presses fire, in order. -/
def firings (manipulators : List Manipulator) (values : Variables) :
    List Press → List Manipulator
  | [] => []
  | press :: rest =>
      (firing? manipulators values press).toList ++
        firings manipulators (after manipulators values press) rest

/-- Firing the first enabled manipulators is one way to go on. -/
theorem plays_run (manipulators : List Manipulator) (values : Variables)
    (presses : List Press) :
    Plays manipulators values presses
      (firings manipulators values presses).length
      (run manipulators values presses) := by
  induction presses generalizing values with
  | nil => exact .nil
  | cons press rest ih =>
      have played := ih (after manipulators values press)
      rw [run_cons, firings]
      cases found : firing? manipulators values press with
      | none =>
          have unchanged : after manipulators values press = values := by
            rw [after, found]
          rw [unchanged] at played ⊢
          exact .idles played
      | some manipulator =>
          have updated : after manipulators values press =
              manipulator.update values := by
            rw [after, found]
          rcases enabled_of_firing? found with ⟨listed, enabled⟩
          rw [updated] at played ⊢
          rw [Option.toList_some, List.singleton_append, List.length_cons]
          exact .fires (.mk listed enabled) played

end Replay

open Replay

/-! ## The bound on what is left -/

/-- No sublayer of a tree has more names than the tree is deep. -/
theorem Bindings.length_path_le {entryFlag : KeyPath → String}
    {path : KeyPath} {parentFlag : String} {tree : Bindings}
    {group : LayerGroup}
    (member : group ∈ tree.groups entryFlag path parentFlag) :
    group.path.length ≤ path.length + tree.depth := by
  induction tree generalizing path parentFlag with
  | nil => cases member
  | fires key command rest ih => exact ih member
  | opens key name description inner rest innerIH restIH =>
      rw [depth]
      rcases List.mem_cons.mp member with rfl | below
      · rw [List.length_append, List.length_singleton]
        omega
      rcases List.mem_append.mp below with inInner | inRest
      · have bound := innerIH inInner
        rw [List.length_append, List.length_singleton] at bound
        omega
      · have bound := restIH inRest
        omega

/-- A sublayer has one name more than the one it is in. -/
theorem LayerGroup.length_path_of_mem_children
    {entryFlag : KeyPath → String} {parent child : LayerGroup}
    (isChild : child ∈ parent.children entryFlag) :
    child.path.length = parent.path.length + 1 := by
  rcases List.mem_map.mp isChild with ⟨entry, _, rfl⟩
  exact List.length_append

namespace Conventions

variable {conventions : Conventions} {tree : Bindings} {group : LayerGroup}
  {manipulator : Manipulator} {values last : Variables}
  {live : Option String} {press : Press}

/-- How many presses can still fire something, by what is live. -/
def remaining (conventions : Conventions) (tree : Bindings) :
    Option String → Nat
  | none => 0
  | some name =>
      match (conventions.flagTable tree).lookup name with
      | some path => tree.depth + 1 - path.length
      | none => tree.depth + 1

theorem Accepts.remaining_leader (accepts : conventions.Accepts tree) :
    conventions.remaining tree (some conventions.leader) =
      tree.depth + 1 := by
  have absent := Bindings.lookup_eq_none_iff_not_mem.mpr
    accepts.leader_not_mem_flags
  rw [remaining, absent]

theorem Accepts.remaining_flag (accepts : conventions.Accepts tree)
    (member : group ∈ conventions.groups tree) :
    conventions.remaining tree (some (conventions.flag group.path)) =
      tree.depth + 1 - group.path.length := by
  have flagsNodup := (List.nodup_cons.mp accepts.steering_nodup).2
  have found := (Bindings.lookup_eq_some_iff_mem flagsNodup).mpr
    (List.mem_map.mpr ⟨group, member, rfl⟩)
  rw [remaining, found]

/-- Only where nothing is live nothing is left. -/
theorem Accepts.remaining_pos (accepts : conventions.Accepts tree)
    (name : String) : 0 < conventions.remaining tree (some name) := by
  rw [remaining]
  split
  · next path found =>
      have flagsNodup := (List.nodup_cons.mp accepts.steering_nodup).2
      have listed := (Bindings.lookup_eq_some_iff_mem flagsNodup).mp found
      rcases List.mem_map.mp listed with ⟨group, member, same⟩
      have within := Bindings.length_path_le member
      rw [(Prod.mk.inj same).2, List.length_nil] at within
      omega
  · exact Nat.succ_pos _

/-- A sublayer leaves less than what it is entered from. -/
theorem Accepts.remaining_flag_lt (accepts : conventions.Accepts tree)
    (member : group ∈ conventions.groups tree) :
    conventions.remaining tree (some (conventions.flag group.path)) <
      conventions.remaining tree (some group.parentFlag) := by
  have within := Bindings.length_path_le member
  have named := List.length_pos_iff.mpr (Bindings.path_ne_nil member)
  rw [List.length_nil] at within
  have fromLeader : group.parentFlag = conventions.leader →
      conventions.remaining tree (some (conventions.flag group.path)) <
        conventions.remaining tree (some group.parentFlag) := by
    intro isLeader
    rw [isLeader, accepts.remaining_leader, accepts.remaining_flag member]
    omega
  rcases Bindings.mem_groups_iff.mp member with
    outermost | ⟨parent, parentMember, isChild⟩
  · rcases Bindings.mem_placedSublayers_iff.mp outermost with
      ⟨key, sublayer, _, rfl⟩
    exact fromLeader rfl
  · have source := LayerGroup.parentFlag_of_mem_children isChild
    rcases conventions.entryFlag_eq_or parent.path with isLeader | isFlag
    · exact fromLeader (source.trans isLeader)
    · have longer := LayerGroup.length_path_of_mem_children isChild
      rw [source, isFlag, accepts.remaining_flag member,
        accepts.remaining_flag parentMember]
      omega

/-! ## One firing -/

/-- What fires in a session: the rules, and what leaves leader mode. -/
def InSession (conventions : Conventions) (tree : Bindings)
    (manipulator : Manipulator) : Prop :=
  manipulator ∈ (conventions.rules tree).flatMap Rule.manipulators ∨
    ∃ key, manipulator = Rule.deactivationBy conventions.leader key

/-- Each of them makes live what leaves less than what it waits for. -/
theorem Accepts.remaining_lt (accepts : conventions.Accepts tree)
    (inSession : conventions.InSession tree manipulator) :
    ∃ source key target sent,
      manipulator.Binds (conventions.steering tree) source key target
          sent ∧
        conventions.remaining tree target <
          conventions.remaining tree (some source) := by
  rcases inSession with listed | ⟨key, rfl⟩
  · rcases mem_manipulators_rules_iff.mp listed with
      ⟨key, command, bound, rfl⟩ | ⟨group, member, kind⟩
    · exact ⟨_, _, _, _, accepts.binds_leader bound,
        accepts.remaining_pos _⟩
    · rcases kind with rfl | rfl | ⟨key, command, bound, rfl⟩
      · exact ⟨_, _, _, _, accepts.binds_entry member,
          accepts.remaining_flag_lt member⟩
      · exact ⟨_, _, _, _, conventions.binds_escape member,
          accepts.remaining_pos _⟩
      · exact ⟨_, _, _, _, accepts.binds_command member bound,
          accepts.remaining_pos _⟩
  · exact ⟨_, _, _, _, conventions.binds_deactivation tree key,
      accepts.remaining_pos _⟩

/-- So a firing leads to a state that leaves less. -/
theorem Accepts.exists_remaining_lt (accepts : conventions.Accepts tree)
    (inSession : conventions.InSession tree manipulator)
    (enabled : manipulator.isEnabled values press)
    (shows : values.Shows (conventions.steering tree) live) :
    ∃ next,
      (manipulator.update values).Shows (conventions.steering tree) next ∧
        conventions.remaining tree next <
          conventions.remaining tree live := by
  rcases accepts.remaining_lt inSession with
    ⟨source, key, target, sent, binds, less⟩
  rcases (binds.isEnabled_iff shows).mp enabled with ⟨rfl, _⟩
  exact ⟨target, binds.shows_update values shows, less⟩

/-! ## All runs -/

/-- What fired and what is left never come to more than there was. -/
theorem Accepts.count_add_remaining_le (accepts : conventions.Accepts tree)
    {manipulators : List Manipulator} {presses : List Press} {count : Nat}
    (inSession : ∀ manipulator ∈ manipulators,
      conventions.InSession tree manipulator)
    (shows : values.Shows (conventions.steering tree) live)
    (played : Plays manipulators values presses count last) :
    ∃ final, last.Shows (conventions.steering tree) final ∧
      count + conventions.remaining tree final ≤
        conventions.remaining tree live := by
  induction played generalizing live with
  | nil => exact ⟨live, shows, Nat.le_of_eq (Nat.zero_add _)⟩
  | fires fired _ ih =>
      rcases fired with ⟨listed, enabled⟩
      rcases accepts.exists_remaining_lt (inSession _ listed) enabled shows with
        ⟨next, nextShows, less⟩
      rcases ih nextShows with ⟨final, finalShows, bounded⟩
      exact ⟨final, finalShows, by omega⟩
  | idles _ ih => exact ih shows

/-- A session has one firing for each step down at most, and then is over. -/
theorem Accepts.count_le (accepts : conventions.Accepts tree)
    {manipulators : List Manipulator} {presses : List Press} {count : Nat}
    (inSession : ∀ manipulator ∈ manipulators,
      conventions.InSession tree manipulator)
    (shows : values.Shows (conventions.steering tree)
      (some conventions.leader))
    (played : Plays manipulators values presses count last) :
    count ≤ 1 + tree.depth ∧ (count = 1 + tree.depth →
      last.Shows (conventions.steering tree) none) := by
  rcases accepts.count_add_remaining_le inSession shows played with
    ⟨final, finalShows, within⟩
  rw [accepts.remaining_leader] at within
  refine ⟨by omega, fun allFired => ?_⟩
  cases final with
  | none => exact finalShows
  | some source =>
      have left := accepts.remaining_pos source
      omega

/-- Where nothing is live, no press fires anything. -/
theorem Accepts.not_isEnabled (accepts : conventions.Accepts tree)
    (inSession : conventions.InSession tree manipulator)
    (shows : values.Shows (conventions.steering tree) none) :
    ¬manipulator.isEnabled values press := by
  intro enabled
  rcases accepts.exists_remaining_lt inSession enabled shows with
    ⟨next, _, less⟩
  exact Nat.not_lt_zero _ less

/-- So nothing happens from there on. -/
theorem Accepts.eq_of_plays (accepts : conventions.Accepts tree)
    {manipulators : List Manipulator} {presses : List Press} {count : Nat}
    (inSession : ∀ manipulator ∈ manipulators,
      conventions.InSession tree manipulator)
    (shows : values.Shows (conventions.steering tree) none)
    (played : Plays manipulators values presses count last) :
    count = 0 ∧ last = values := by
  induction played with
  | nil => exact ⟨rfl, rfl⟩
  | fires fired _ _ =>
      rcases fired with ⟨listed, enabled⟩
      exact absurd enabled (accepts.not_isEnabled (inSession _ listed) shows)
  | idles _ ih => exact ih shows

end Conventions

/-- What the rules that leave leader mode hold. -/
theorem Rule.mem_manipulators_of_deactivation? {leader : String}
    {keys : List KeyCode} {rule : Rule} {manipulator : Manipulator}
    (made : Rule.deactivation? leader keys = some rule)
    (member : manipulator ∈ rule.manipulators) :
    ∃ key, manipulator = Rule.deactivationBy leader key := by
  have inMade := Rule.manipulators_deactivation? leader keys
  rw [made, Option.toList_some, List.flatMap_singleton] at inMade
  rw [inMade] at member
  rcases List.mem_map.mp member with ⟨key, _, rfl⟩
  exact ⟨key, rfl⟩

/--
Take rules of an accepted tree and rules that leave leader mode, in any order,
and start in leader mode.  However keys are pressed, and whichever enabled
manipulators fire, no more presses fire something than one more than the tree
is deep; when so many have, the leader and all flags are 0.  Once these are 0,
no press fires anything, and every variable keeps its value.
-/
theorem session_ends {conventions : Conventions} {tree : Bindings}
    {rules : List Rule} (document : List Rule) (start : Variables)
    (compiled : conventions.compile? tree = .ok rules)
    (made : ∀ rule ∈ document, rule ∈ rules ∨
      ∃ keys, Rule.deactivation? conventions.leader keys = some rule)
    (leaderOn : start conventions.leader = .integer 1)
    (flagsOff : ∀ flag ∈ conventions.flags tree, start flag = .integer 0) :
    let manipulators := document.flatMap Rule.manipulators
    (∀ presses,
      (firings manipulators start presses).length ≤ 1 + tree.depth) ∧
    (∀ presses count last, Plays manipulators start presses count last →
      count ≤ 1 + tree.depth ∧ (count = 1 + tree.depth →
        ∀ name ∈ conventions.leader :: conventions.flags tree,
          last name = .integer 0)) ∧
    ∀ values : Variables,
      (∀ name ∈ conventions.leader :: conventions.flags tree,
        values name = .integer 0) →
      ∀ presses,
        firings manipulators values presses = [] ∧
        run manipulators values presses = values ∧
        ∀ count last, Plays manipulators values presses count last →
          count = 0 ∧ last = values := by
  intro manipulators
  rcases Conventions.compile?_eq_ok_iff_accepts.mp compiled with
    ⟨accepts, rfl⟩
  have inSession : ∀ manipulator ∈ manipulators,
      conventions.InSession tree manipulator := by
    intro manipulator listed
    rcases List.mem_flatMap.mp listed with ⟨rule, member, inRule⟩
    rcases made rule member with inRules | ⟨keys, leaves⟩
    · exact .inl (List.mem_flatMap.mpr ⟨rule, inRules, inRule⟩)
    · exact .inr (Rule.mem_manipulators_of_deactivation? leaves inRule)
  have bounded : ∀ presses count last,
      Plays manipulators start presses count last →
        count ≤ 1 + tree.depth ∧ (count = 1 + tree.depth →
          ∀ name ∈ conventions.leader :: conventions.flags tree,
            last name = .integer 0) := by
    intro presses count last played
    rcases accepts.count_le inSession
      (accepts.shows_leader leaderOn flagsOff) played with ⟨most, ended⟩
    refine ⟨most, fun allFired name inSteering => ?_⟩
    exact ((ended allFired).off_iff inSteering).mpr nofun
  refine ⟨fun presses => (bounded _ _ _ (plays_run _ _ presses)).1,
    bounded, ?_⟩
  intro values allOff presses
  have shows : values.Shows (conventions.steering tree) none :=
    fun name inSteering => (allOff name inSteering).trans (if_neg nofun).symm
  have still := accepts.eq_of_plays inSession shows
    (plays_run manipulators values presses)
  exact ⟨List.length_eq_zero_iff.mp still.1, still.2,
    fun _ _ played => accepts.eq_of_plays inSession shows played⟩

/-- Two sublayers deep and out again, and from where nothing is live. -/
theorem session_ends_nested :
    let conventions : Conventions := {}
    let tree := Bindings.nestedExample
    let leaving := (Rule.deactivation? "leader" [.capsLock, .escape]).toList
    let manipulators :=
      (leaving ++ conventions.rules tree).flatMap Rule.manipulators
    let start := Variables.unset.assign ⟨"leader", .integer 1⟩
    conventions.compile? tree = .ok (conventions.rules tree) ∧
      (firings manipulators start
        [⟨.s, []⟩, ⟨.w, []⟩, ⟨.escape, []⟩, ⟨.q, []⟩]).length ≤
          1 + tree.depth ∧
      firings manipulators Variables.unset [⟨.s, []⟩, ⟨.q, []⟩] = [] := by
  intro conventions tree leaving manipulators start
  have compiled : conventions.compile? tree =
      .ok (conventions.rules tree) :=
    Conventions.compile?_eq_ok_iff.mpr ⟨by decide +kernel, rfl⟩
  have made : ∀ rule ∈ leaving ++ conventions.rules tree,
      rule ∈ conventions.rules tree ∨
        ∃ keys, Rule.deactivation? conventions.leader keys = some rule := by
    intro rule listed
    rcases List.mem_append.mp listed with leaves | inRules
    · exact .inr ⟨_, Option.mem_toList.mp leaves⟩
    · exact .inl inRules
  have ends := session_ends (leaving ++ conventions.rules tree) start
    compiled made (by decide +kernel) (by decide +kernel)
  refine ⟨compiled, ends.1 _, (ends.2.2 Variables.unset ?_ _).1⟩
  exact fun _ _ => rfl

end ModalKeymap
