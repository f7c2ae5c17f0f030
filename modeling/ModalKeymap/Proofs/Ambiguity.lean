import ModalKeymap.Proofs.Exclusion
import Mathlib.Tactic.TFAE

/-!
# Keys with two meanings

Every manipulator of an accepted tree waits for one variable and one key
(`Conventions.waiting`), so a key has two meanings in a state that runs reach
exactly if two manipulators wait for the same pair.  Within the top level
that cannot happen.  Inside a sublayer it can: a further sublayer is entered
by its name, and only at the top level is the name compared with the key it
stands under.  A nested sublayer by the name of the escape key, or of a
command beside it, is accepted and shadowed.
-/

namespace ModalKeymap

open Replay

/-- The manipulators that wait for a key and whose conditions hold. -/
def Replay.ready (manipulators : List Manipulator) (values : Variables)
    (key : KeyCode) : List Manipulator :=
  manipulators.filter fun manipulator =>
    manipulator.trigger.key = key &&
      manipulator.conditions.all (·.holds values)

/-- The keys that do something in a layer: a sublayer goes by its name. -/
def Bindings.triggers (layer : Bindings) : List KeyCode :=
  layer.commands.map Prod.fst ++ layer.sublayers.map (·.2.name)

/--
Listing what enters a node with its parent, instead of with the node itself,
lists the same.
-/
theorem flatMap_regrouped_perm {α β : Type} {nodes outermost : List α}
    {children : α → List α} (enter : α → β) (others : α → List β)
    (placed : nodes.Perm (outermost ++ nodes.flatMap children)) :
    (outermost.map enter ++ nodes.flatMap fun node =>
        others node ++ (children node).map enter).Perm
      (nodes.flatMap fun node => enter node :: others node) :=
  calc
    List.Perm
        (outermost.map enter ++ nodes.flatMap fun node =>
          others node ++ (children node).map enter)
        (outermost.map enter ++ (nodes.flatMap others ++
          nodes.flatMap fun node => (children node).map enter)) :=
      (List.flatMap_append_perm nodes others _).symm.append_left _
    List.Perm _ ((outermost.map enter ++ nodes.flatMap fun node =>
          (children node).map enter) ++ nodes.flatMap others) := by
      rw [List.append_assoc]
      exact List.perm_append_comm.append_left _
    _ = (outermost ++ nodes.flatMap children).map enter ++
          nodes.flatMap others := by
      rw [List.map_append, List.map_flatMap]
    List.Perm _ (nodes.map enter ++ nodes.flatMap others) :=
      (placed.symm.map enter).append_right _
    List.Perm _ (nodes.flatMap fun node => enter node :: others node) :=
      List.map_append_flatMap_perm nodes enter others

namespace Conventions

/-! ## What is waited for -/

/--
The manipulators of the entries of a layer, each with the variable and the
key that it waits for, given how commands are fired in the layer.
-/
def layerWaiting (conventions : Conventions) (flags : List String)
    (path : KeyPath) (source : String)
    (fire : KeyCode → Command → Manipulator) (layer : Bindings) :
    List (Manipulator × String × KeyCode) :=
  layer.commands.map
      (fun entry => (fire entry.1 entry.2, source, entry.1)) ++
    (layer.placedSublayers path source).map
      (fun group =>
        (conventions.entryManipulator flags group, source, group.name))

/-- The manipulators that wait for the flag of a sublayer. -/
def groupWaiting (conventions : Conventions) (flags : List String)
    (group : LayerGroup) : List (Manipulator × String × KeyCode) :=
  (conventions.escapeManipulator group, conventions.flag group.path,
    conventions.escape) ::
    conventions.layerWaiting flags group.path (conventions.flag group.path)
      (conventions.commandManipulator group) group.inner

/-- The manipulators of a tree with what they wait for, layer by layer. -/
def waiting (conventions : Conventions) (tree : Bindings) :
    List (Manipulator × String × KeyCode) :=
  conventions.layerWaiting (conventions.flags tree) [] conventions.leader
      conventions.leaderManipulator tree ++
    (conventions.groups tree).flatMap
      (conventions.groupWaiting (conventions.flags tree))

variable {conventions : Conventions} {tree : Bindings}
  {group : LayerGroup} {values : Variables} {live : Option String}

theorem map_snd_layerWaiting (flags : List String) (path : KeyPath)
    (source : String) (fire : KeyCode → Command → Manipulator)
    (layer : Bindings) :
    (conventions.layerWaiting flags path source fire layer).map Prod.snd =
      layer.triggers.map (source, ·) := by
  simp [layerWaiting, Bindings.triggers, Bindings.placedSublayers,
    Sublayer.placed, Function.comp_def]

/-- A layer's keys, and the escape key in a sublayer, are waited for. -/
theorem map_snd_waiting (conventions : Conventions) (tree : Bindings) :
    (conventions.waiting tree).map Prod.snd =
      tree.triggers.map (conventions.leader, ·) ++
        (conventions.groups tree).flatMap fun group =>
          (conventions.escape :: group.inner.triggers).map
            (conventions.flag group.path, ·) := by
  simp [waiting, groupWaiting, map_snd_layerWaiting, List.map_flatMap]

/-- Ordered by what they wait for, these are the manipulators of the rules. -/
theorem map_fst_waiting_perm
    (entered : ∀ path, conventions.entryFlag path = conventions.flag path)
    (tree : Bindings) :
    ((conventions.waiting tree).map Prod.fst).Perm
      ((conventions.rules tree).flatMap Rule.manipulators) := by
  have placed : (conventions.groups tree).Perm
      (tree.placedSublayers [] conventions.leader ++
        (conventions.groups tree).flatMap
          (LayerGroup.children conventions.entryFlag)) :=
    Bindings.groups_perm tree [] conventions.leader
  have regrouped := flatMap_regrouped_perm
    (conventions.entryManipulator (conventions.flags tree))
    (fun group => conventions.escapeManipulator group ::
      group.inner.commands.map fun entry =>
        conventions.commandManipulator group entry.1 entry.2)
    placed
  refine List.Perm.trans ?_
    (conventions.manipulators_rules_perm tree).symm
  have below : List.Perm _ (tree.commands.map _ ++
      (conventions.groups tree).flatMap
        (conventions.groupManipulators (conventions.flags tree))) :=
    regrouped.append_left (tree.commands.map fun entry =>
      conventions.leaderManipulator entry.1 entry.2)
  simpa [waiting, groupWaiting, layerWaiting, List.map_flatMap,
    LayerGroup.children, entered, Function.comp_def] using below

/-- Each of the manipulators waits for what is listed with it. -/
theorem Accepts.binds_of_mem_waiting (accepts : conventions.Accepts tree)
    (entered : ∀ path, conventions.entryFlag path = conventions.flag path)
    {manipulator : Manipulator} {source : String} {key : KeyCode}
    (listed : (manipulator, source, key) ∈ conventions.waiting tree) :
    ∃ target sent, manipulator.Binds (conventions.steering tree) source key
      target sent := by
  rcases List.mem_append.mp listed with topLevel | below
  · rcases List.mem_append.mp topLevel with isCommand | isSublayer
    · rcases List.mem_map.mp isCommand with ⟨entry, bound, same⟩
      cases same
      exact ⟨_, _, accepts.binds_leader bound⟩
    · rcases List.mem_map.mp isSublayer with ⟨child, placed, same⟩
      cases same
      have binds := accepts.binds_entry
        (mem_groups_of_mem_placedSublayers placed)
      rcases Bindings.mem_placedSublayers_iff.mp placed with
        ⟨_, _, _, rfl⟩
      exact ⟨_, _, binds⟩
  · rcases List.mem_flatMap.mp below with ⟨group, member, listed⟩
    rcases List.mem_cons.mp listed with same | listed
    · cases same
      exact ⟨_, _, conventions.binds_escape member⟩
    rcases List.mem_append.mp listed with isCommand | isSublayer
    · rcases List.mem_map.mp isCommand with ⟨entry, bound, same⟩
      cases same
      exact ⟨_, _, accepts.binds_command member bound⟩
    · rcases List.mem_map.mp isSublayer with ⟨child, placed, same⟩
      cases same
      rw [← entered] at placed
      have binds := accepts.binds_entry
        (mem_groups_of_mem_children member placed)
      rcases Bindings.mem_placedSublayers_iff.mp placed with
        ⟨_, _, _, rfl⟩
      rw [← entered]
      exact ⟨_, _, binds⟩

/-- As many manipulators are ready as wait for the live variable and key. -/
theorem Accepts.length_ready (accepts : conventions.Accepts tree)
    (entered : ∀ path, conventions.entryFlag path = conventions.flag path)
    (shows : values.Shows (conventions.steering tree) live)
    (key : KeyCode) :
    (ready ((conventions.rules tree).flatMap Rule.manipulators) values
      key).length =
        live.elim 0 fun source =>
          ((conventions.waiting tree).map Prod.snd).count (source, key) := by
  have perm := map_fst_waiting_perm entered tree
  have waits : ∀ waited ∈ conventions.waiting tree,
      (waited.1.trigger.key = key ∧
        waited.1.conditions.all (·.holds values)) ↔
          live = some waited.2.1 ∧ waited.2.2 = key := by
    rintro ⟨manipulator, source, waitedKey⟩ listed
    rcases accepts.binds_of_mem_waiting entered listed with
      ⟨target, sent, binds⟩
    rw [binds.trigger, binds.holds_iff values live shows]
    exact and_comm
  rw [ready, ← List.countP_eq_length_filter, ← perm.countP_eq,
    List.countP_map]
  cases live with
  | none =>
      rw [Option.elim_none, List.countP_eq_zero]
      intro waited listed isReady
      have isLive := (waits waited listed).mp (by simpa using isReady)
      cases isLive.1
  | some source =>
      rw [Option.elim_some, List.count, List.countP_map]
      apply List.countP_congr
      intro waited listed
      have same : (some source = some waited.2.1 ∧ waited.2.2 = key) ↔
          waited.2 = (source, key) := by
        rw [Option.some.injEq, Prod.ext_iff, eq_comm (a := source)]
      rw [← waits waited listed] at same
      simpa using same

/-! ## When no two wait for the same -/

/-- Sublayers of one sublayer have distinct names, as they share no flag. -/
theorem Accepts.names_nodup (accepts : conventions.Accepts tree)
    (member : group ∈ conventions.groups tree) :
    (group.inner.sublayers.map (·.2.name)).Nodup := by
  have listedOnce := (((Bindings.groups_perm tree []
    conventions.leader).map fun group =>
      conventions.flag group.path).nodup_iff.mp accepts.map_flag_nodup)
  rw [List.map_append, List.nodup_append', List.map_flatMap,
    List.nodup_flatMap] at listedOnce
  have ofChildren := listedOnce.2.1.1 group member
  rw [LayerGroup.children, Bindings.placedSublayers, List.map_map]
    at ofChildren
  refine List.Nodup.of_map
    (fun name => conventions.flag (group.path ++ [name])) ?_
  rw [List.map_map]
  exact ofChildren

/-- The keys of a sublayer and the escape key differ unless a name clashes. -/
theorem Accepts.nodup_triggers_iff (accepts : conventions.Accepts tree)
    (distinct : tree.KeysDistinct)
    (member : group ∈ conventions.groups tree) :
    (conventions.escape :: group.inner.triggers).Nodup ↔
      ∀ entry ∈ group.inner.sublayers,
        entry.2.name ≠ conventions.escape ∧
          entry.2.name ∉ group.inner.commands.map Prod.fst := by
  have keysNodup : (group.inner.commands.map Prod.fst).Nodup :=
    (List.nodup_append'.mp ((Bindings.keys_perm group.inner).nodup_iff.mpr
      (distinct.of_mem_groups member).nodup)).1
  have escapeFree : conventions.escape ∉
      group.inner.commands.map Prod.fst := by
    intro bound
    rcases List.mem_map.mp bound with ⟨⟨key, command⟩, listed, rfl⟩
    exact (accepts.unambiguous group member _
      (Bindings.mem_keys_of_mem_commands listed)).2 rfl
  rw [List.nodup_cons, Bindings.triggers, List.mem_append,
    List.nodup_append', List.disjoint_right]
  constructor
  · rintro ⟨free, _, _, apart⟩ entry listed
    have isName := List.mem_map_of_mem (f := (·.2.name)) listed
    refine ⟨fun same => free (.inr ?_), apart isName⟩
    exact same ▸ isName
  · intro clear
    refine ⟨?_, keysNodup, accepts.names_nodup member, ?_⟩
    · rintro (bound | named)
      · exact escapeFree bound
      · rcases List.mem_map.mp named with ⟨entry, listed, same⟩
        exact (clear entry listed).1 same
    · intro name named
      rcases List.mem_map.mp named with ⟨entry, listed, rfl⟩
      exact (clear entry listed).2

theorem Accepts.nodup_waiting_iff (accepts : conventions.Accepts tree)
    (distinct : tree.KeysDistinct) :
    ((conventions.waiting tree).map Prod.snd).Nodup ↔
      ∀ group ∈ conventions.groups tree,
        ∀ entry ∈ group.inner.sublayers,
          entry.2.name ≠ conventions.escape ∧
            entry.2.name ∉ group.inner.commands.map Prod.fst := by
  have paired (source : String) :
      Function.Injective (fun key : KeyCode => (source, key)) :=
    fun _ _ same => congrArg Prod.snd same
  have flagsApart := List.pairwise_map.mp accepts.map_flag_nodup
  have topLevel : tree.triggers.Nodup := by
    have names : tree.sublayers.map (·.2.name) =
        tree.sublayers.map Prod.fst :=
      List.map_congr_left fun entry listed =>
        accepts.selfNamed entry.1 entry.2 listed
    rw [Bindings.triggers, names, tree.keys_perm.nodup_iff]
    exact distinct.nodup
  rw [map_snd_waiting, List.nodup_append', List.nodup_flatMap]
  constructor
  · rintro ⟨_, ⟨inside, _⟩, _⟩ group member
    exact (accepts.nodup_triggers_iff distinct member).mp
      ((List.nodup_map_iff (paired _)).mp (inside group member))
  · intro clear
    refine ⟨topLevel.map (paired _), ⟨?_, ?_⟩, ?_⟩
    · intro group member
      exact ((accepts.nodup_triggers_iff distinct member).mpr
        (clear group member)).map (paired _)
    · apply flagsApart.imp
      intro first second different waited inFirst inSecond
      rcases List.mem_map.mp inFirst with ⟨_, _, rfl⟩
      rcases List.mem_map.mp inSecond with ⟨_, _, same⟩
      exact different (congrArg Prod.fst same).symm
    · intro waited atTop inside
      rcases List.mem_map.mp atTop with ⟨_, _, rfl⟩
      rcases List.mem_flatMap.mp inside with ⟨group, member, listed⟩
      rcases List.mem_map.mp listed with ⟨_, _, same⟩
      exact accepts.flag_ne_leader member (congrArg Prod.fst same)

/-- No name clashes where all sublayers go by the keys they stand under. -/
theorem Accepts.clear_of_selfNamed (accepts : conventions.Accepts tree)
    (distinct : tree.KeysDistinct) (named : tree.SelfNamed)
    (member : group ∈ conventions.groups tree) :
    ∀ entry ∈ group.inner.sublayers,
      entry.2.name ≠ conventions.escape ∧
        entry.2.name ∉ group.inner.commands.map Prod.fst := by
  intro entry listed
  have keysNodup := (Bindings.keys_perm group.inner).nodup_iff.mpr
    (distinct.of_mem_groups member).nodup
  have apart := List.disjoint_right.mp (List.nodup_append'.mp keysNodup).2.2
  rw [(named.of_mem_groups member).name_eq listed]
  constructor
  · exact (accepts.unambiguous group member entry.1
      (Bindings.mem_keys_of_mem_sublayers listed)).2
  · exact apart (List.mem_map_of_mem listed)

/-! ## Every sublayer is reached -/

/-- Where at most one manipulator is ready, that one is fired. -/
theorem firing?_eq_of_ready {manipulators : List Manipulator}
    {manipulator : Manipulator} {press : Press}
    (single : (ready manipulators values press.key).length ≤ 1)
    (listed : manipulator ∈ manipulators)
    (enabled : manipulator.isEnabled values press) :
    firing? manipulators values press = some manipulator := by
  have isReady : ∀ other ∈ manipulators, other.isEnabled values press →
      other ∈ ready manipulators values press.key := by
    intro other otherListed otherEnabled
    rcases Bool.and_eq_true_iff.mp otherEnabled with ⟨met, holds⟩
    have sameKey := (Bool.and_eq_true_iff.mp met).1
    exact List.mem_filter.mpr
      ⟨otherListed, Bool.and_eq_true_iff.mpr ⟨sameKey, holds⟩⟩
  have one : (ready manipulators values press.key).length = 1 :=
    Nat.le_antisymm single
      (List.length_pos_of_mem (isReady _ listed enabled))
  rcases List.length_eq_one_iff.mp one with ⟨only, readyEq⟩
  rw [readyEq] at isReady
  cases found : firing? manipulators values press with
  | none => exact absurd enabled (List.find?_eq_none.mp found _ listed)
  | some first =>
      rcases enabled_of_firing? found with ⟨firstListed, firstEnabled⟩
      rw [List.mem_singleton.mp (isReady _ listed enabled),
        List.mem_singleton.mp (isReady _ firstListed firstEnabled)]

/-- Where only that can be meant, the name of a sublayer enters it. -/
theorem Accepts.shows_after_name (accepts : conventions.Accepts tree)
    (member : group ∈ conventions.groups tree)
    (shows : values.Shows (conventions.steering tree)
      (some group.parentFlag))
    (single : (ready ((conventions.rules tree).flatMap Rule.manipulators)
      values group.name).length ≤ 1) :
    (after ((conventions.rules tree).flatMap Rule.manipulators) values
      ⟨group.name, []⟩).Shows (conventions.steering tree)
        (some (conventions.flag group.path)) := by
  have binds := accepts.binds_entry member
  have enabled : (conventions.entryManipulator (conventions.flags tree)
      group).isEnabled values ⟨group.name, []⟩ :=
    (binds.isEnabled_iff shows).mpr ⟨rfl, rfl⟩
  have listed := mem_manipulators_rules_iff.mpr
    (.inr ⟨group, member, .inl rfl⟩)
  rw [after, firing?_eq_of_ready single listed enabled]
  exact binds.shows_update values shows

/-- If no key is ambiguous, pressing names down to a sublayer enters it. -/
theorem Accepts.exists_run_shows (accepts : conventions.Accepts tree)
    (entered : ∀ path, conventions.entryFlag path = conventions.flag path)
    (initially : values.Shows (conventions.steering tree)
      (some conventions.leader))
    (single : ∀ presses key,
      (ready ((conventions.rules tree).flatMap Rule.manipulators)
        (run ((conventions.rules tree).flatMap Rule.manipulators) values
          presses) key).length ≤ 1)
    (member : group ∈ conventions.groups tree) :
    ∃ presses,
      (run ((conventions.rules tree).flatMap Rule.manipulators) values
        presses).Shows (conventions.steering tree)
          (some (conventions.flag group.path)) := by
  refine Bindings.forall_mem_groups (fun group => ∃ presses,
    (run ((conventions.rules tree).flatMap Rule.manipulators) values
      presses).Shows (conventions.steering tree)
        (some (conventions.flag group.path))) ?_ ?_ member
  · intro outermost placed
    refine ⟨[⟨outermost.name, []⟩], ?_⟩
    refine accepts.shows_after_name
      (mem_groups_of_mem_placedSublayers placed) ?_ (single [] _)
    rcases Bindings.mem_placedSublayers_iff.mp placed with ⟨_, _, _, rfl⟩
    exact initially
  · rintro parent parentMember ⟨presses, shows⟩ child isChild
    refine ⟨presses ++ [⟨child.name, []⟩], ?_⟩
    rw [run, List.foldl_concat]
    refine accepts.shows_after_name
      (mem_groups_of_mem_children parentMember isChild) ?_
      (single presses _)
    rcases Bindings.mem_placedSublayers_iff.mp isChild with ⟨_, _, _, rfl⟩
    rw [← entered] at shows
    exact shows

/-! ## One meaning in every state -/

/--
Take the rules of an accepted tree and start in leader mode.  A key has at
most one meaning in every state that enabled manipulators can lead to exactly
if it has in every state that runs lead to, and exactly if no sublayer in
another one goes by the name of the escape key or of a command beside it.
-/
theorem triggers_unambiguous_tfae {rules : List Rule} (start : Variables)
    (standard : conventions.naming = .standard)
    (distinct : tree.KeysDistinct)
    (compiled : conventions.compile? tree = .ok rules)
    (leaderOn : start conventions.leader = .integer 1)
    (flagsOff : ∀ flag ∈ conventions.flags tree, start flag = .integer 0) :
    let manipulators := rules.flatMap Rule.manipulators
    List.TFAE [
      ∀ state, Reaches manipulators start state →
        ∀ key, (ready manipulators state key).length ≤ 1,
      ∀ presses key,
        (ready manipulators (run manipulators start presses) key).length ≤ 1,
      ∀ group ∈ conventions.groups tree, ∀ entry ∈ group.inner.sublayers,
        entry.2.name ≠ conventions.escape ∧
          entry.2.name ∉ group.inner.commands.map Prod.fst] := by
  intro manipulators
  rcases compile?_eq_ok_iff_accepts.mp compiled with ⟨accepts, rfl⟩
  have entered := entryFlag_eq_flag_of_standard standard
  have initially : start.Shows (conventions.steering tree)
      (some conventions.leader) :=
    accepts.shows_leader leaderOn flagsOff
  tfae_have 1 → 2 := fun always presses =>
    always _ (reaches_run manipulators start .start presses)
  tfae_have 2 → 3 := by
    intro single
    rw [← accepts.nodup_waiting_iff distinct,
      List.nodup_iff_count_le_one]
    rintro ⟨source, key⟩
    by_cases listed :
        (source, key) ∈ (conventions.waiting tree).map Prod.snd
    · have showing : ∃ presses, (run manipulators start presses).Shows
          (conventions.steering tree) (some source) := by
        rw [map_snd_waiting] at listed
        rcases List.mem_append.mp listed with atTop | inside
        · rcases List.mem_map.mp atTop with ⟨_, _, same⟩
          cases same
          exact ⟨[], initially⟩
        · rcases List.mem_flatMap.mp inside with ⟨group, member, waited⟩
          rcases List.mem_map.mp waited with ⟨_, _, same⟩
          cases same
          exact accepts.exists_run_shows entered initially single member
      rcases showing with ⟨presses, shows⟩
      have counted := single presses key
      rw [accepts.length_ready entered shows] at counted
      exact counted
    · rw [List.count_eq_zero.mpr listed]
      exact Nat.zero_le 1
  tfae_have 3 → 1 := by
    intro clear state reached key
    rw [← accepts.nodup_waiting_iff distinct,
      List.nodup_iff_count_le_one] at clear
    have bind : ∀ manipulator ∈ manipulators, ∃ source key target sent,
        manipulator.Binds (conventions.steering tree) source key target
          sent := fun _ listed => accepts.exists_binds listed
    rcases reached.shows bind ⟨_, initially⟩ with ⟨live, shows⟩
    rw [accepts.length_ready entered shows]
    cases live with
    | none => exact Nat.zero_le 1
    | some source => exact clear (source, key)
  tfae_finish

/-- Two sublayers deep, every key has one meaning at most. -/
theorem nestedExample_unambiguous :
    let conventions : Conventions := {}
    let tree := Bindings.nestedExample
    let manipulators := (conventions.rules tree).flatMap Rule.manipulators
    let start := Variables.unset.assign ⟨"leader", .integer 1⟩
    conventions.compile? tree = .ok (conventions.rules tree) ∧
      ∀ presses key,
        (ready manipulators (run manipulators start presses) key).length ≤
          1 := by
  intro conventions tree manipulators start
  have compiled : conventions.compile? tree =
      .ok (conventions.rules tree) :=
    compile?_eq_ok_iff.mpr ⟨by decide +kernel, rfl⟩
  have equivalent := triggers_unambiguous_tfae start rfl
    (by decide) compiled (by decide +kernel) (by decide +kernel)
  have accepts := (compile?_eq_ok_iff_accepts.mp compiled).1
  exact ⟨compiled, (equivalent.out 2 1).mp fun group member =>
    accepts.clear_of_selfNamed (by decide) (by decide) member⟩

end Conventions

/-- A command beside a sublayer that goes by the key of the command. -/
def Bindings.misnamedExample : Bindings :=
  .opens .s .s none
    (.fires .a (.openTarget "A") (.opens .b .a none .nil .nil)) .nil

/-- The tree is accepted, and inside its sublayer `a` has two meanings. -/
theorem Bindings.misnamedExample_ambiguous :
    let conventions : Conventions := {}
    let tree := Bindings.misnamedExample
    let manipulators := (conventions.rules tree).flatMap Rule.manipulators
    let start := Variables.unset.assign ⟨"leader", .integer 1⟩
    let state := run manipulators start [⟨.s, []⟩]
    tree.KeysDistinct ∧
      conventions.compile? tree = .ok (conventions.rules tree) ∧
      start conventions.leader = .integer 1 ∧
      (∀ flag ∈ conventions.flags tree, start flag = .integer 0) ∧
      Reaches manipulators start state ∧
      (ready manipulators state .a).length = 2 := by
  intro conventions tree manipulators start state
  have faultless : conventions.fault? tree = none := by decide +kernel
  have accepts := Conventions.fault?_eq_none_iff.mp faultless
  have entered := conventions.entryFlag_eq_flag_of_standard rfl
  have leaderOn : start conventions.leader = .integer 1 := rfl
  have flagsOff : ∀ flag ∈ conventions.flags tree,
      start flag = .integer 0 := by decide +kernel
  have initially := accepts.shows_leader leaderOn flagsOff
  let group : LayerGroup :=
    { path := [.s]
      name := .s
      inner := .fires .a (.openTarget "A") (.opens .b .a none .nil .nil)
      parentFlag := "leader" }
  have member : group ∈ conventions.groups tree := List.mem_cons_self
  have single : (ready manipulators start group.name).length ≤ 1 := by
    rw [accepts.length_ready entered initially,
      Conventions.map_snd_waiting]
    decide +kernel
  have inside : state.Shows (conventions.steering tree)
      (some (conventions.flag group.path)) :=
    accepts.shows_after_name member initially single
  refine ⟨by decide, Conventions.compile?_eq_ok_iff.mpr ⟨faultless, rfl⟩,
    leaderOn, flagsOff, reaches_run manipulators start .start _, ?_⟩
  rw [accepts.length_ready entered inside,
      Conventions.map_snd_waiting]
  decide +kernel

end ModalKeymap
