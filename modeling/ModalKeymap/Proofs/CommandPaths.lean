import ModalKeymap.Proofs.Overlap

/-!
# The way to a command

A command is fired by the chord for leader mode and then the keys that lead
to the command.  The rule of the chord stands before all others and waits for
the leader to be off, as it is inside every sublayer.  A chord with modifiers
is no plain key, but a bare key that is bound inside a sublayer is taken by
the chord there: the leader comes on beside the flag, and the binding is dead.
As long as the chord is kept out below the first key, a run behind it follows
the modal reading (`ReadsAsModes.outputs_behind_chord`), which leads to every
command (`ReadsAsModes.exists_way`).
-/

namespace ModalKeymap

open Replay

/-- A chord, and then plain keys one after another. -/
def Chord.followedBy (chord : Chord) (keys : List KeyCode) : List Press :=
  ⟨chord.key, chord.modifiers⟩ :: keys.map fun key => ⟨key, []⟩

namespace Chord

theorem prefix_followedBy_iff {chord : Chord} {keys : List KeyCode}
    {before : List Press} :
    before <+: chord.followedBy keys ↔
      before = [] ∨ ∃ earlier, earlier <+: keys ∧
        before = chord.followedBy earlier := by
  rw [followedBy, List.prefix_cons_iff]
  apply or_congr_right
  constructor
  · rintro ⟨later, rfl, ahead⟩
    rcases List.prefix_map_iff.mp ahead with ⟨earlier, isPrefix, rfl⟩
    exact ⟨earlier, isPrefix, rfl⟩
  · rintro ⟨earlier, isPrefix, rfl⟩
    exact ⟨_, rfl, isPrefix.map _⟩

theorem followedBy_concat (chord : Chord) (keys : List KeyCode)
    (key : KeyCode) :
    chord.followedBy (keys ++ [key]) =
      chord.followedBy keys ++ [⟨key, []⟩] := by
  rw [followedBy, List.map_append]
  rfl

end Chord

/-! ## Manipulators in front -/

namespace Replay

/-- Manipulators in front that no press is meant for do not change a run. -/
theorem outputs_append_of_unmet {front : List Manipulator}
    (rest : List Manipulator) (values : Variables) {presses : List Press}
    (unmet : ∀ press ∈ presses, ¬meets front press) :
    outputs (front ++ rest) values presses = outputs rest values presses ∧
      run (front ++ rest) values presses = run rest values presses := by
  induction presses generalizing values with
  | nil => exact ⟨rfl, rfl⟩
  | cons press later ih =>
      have unfired : firing? front values press = none := by
        apply List.find?_eq_none.mpr
        intro manipulator listed enabled
        have met := (Bool.and_eq_true_iff.mp enabled).1
        exact unmet press List.mem_cons_self
          (List.any_eq_true.mpr ⟨manipulator, listed, met⟩)
      rcases ih (after rest values press) fun other listed =>
        unmet other (List.mem_cons_of_mem _ listed) with ⟨sent, reached⟩
      constructor
      · rw [outputs, outputs, emitted_append_of_unfired unfired,
          after_append_of_unfired unfired, sent]
      · rw [run_cons, run_cons, after_append_of_unfired unfired, reached]

end Replay

namespace Rule

variable {leader : String} {chord : Chord}

/-- A plain key press is the chord only if the chord has no modifiers. -/
theorem meets_activation_plain_iff (named : .any ∉ chord.modifiers)
    (key : KeyCode) :
    meets (activation leader chord).manipulators ⟨key, []⟩ ↔
      chord.key = key ∧ chord.modifiers = [] := by
  rcases chord with ⟨chordKey, modifiers⟩
  cases modifiers with
  | nil =>
      simp [meets, activation, Trigger.isMetBy, Modifier.listed?,
        TriggerModifiers.admits]
  | cons first rest =>
      have notAny : first ≠ .any := fun same =>
        named (same ▸ List.mem_cons_self)
      simp [meets, activation, Trigger.isMetBy, Modifier.listed?,
        TriggerModifiers.admits, notAny]

end Rule

/-! ## Where commands stand -/

namespace Bindings

variable {path keys : KeyPath} {tree : Bindings} {command : Command}

/-- A command stands right in a tree or right in one of its sublayers. -/
theorem SelfNamed.mem_commandsBelow (named : tree.SelfNamed)
    (entryFlag : KeyPath → String) (parentFlag : String)
    (below : (keys, command) ∈ tree.commandsBelow path) :
    (∃ key, (key, command) ∈ tree.commands ∧ keys = path ++ [key]) ∨
      ∃ group ∈ tree.groups entryFlag path parentFlag,
        ∃ key, (key, command) ∈ group.inner.commands ∧
          keys = group.path ++ [key] := by
  induction tree generalizing path parentFlag with
  | nil => cases below
  | fires key first rest ih =>
      rcases List.mem_cons.mp below with same | below
      · cases same
        exact .inl ⟨key, List.mem_cons_self, rfl⟩
      · rcases ih named parentFlag below with ⟨other, listed, same⟩ | nested
        · exact .inl ⟨other, List.mem_cons_of_mem _ listed, same⟩
        · exact .inr nested
  | opens key name description inner rest innerIH restIH =>
      rcases named with ⟨rfl, innerNamed, restNamed⟩
      rcases List.mem_append.mp below with inside | later
      · refine .inr ?_
        rcases innerIH innerNamed (entryFlag (path ++ [name])) inside with
          ⟨last, listed, same⟩ | ⟨group, member, found⟩
        · exact ⟨_, List.mem_cons_self, last, listed, same⟩
        · exact ⟨group, List.mem_cons_of_mem _
            (List.mem_append_left _ member), found⟩
      · rcases restIH restNamed parentFlag later with
          topLevel | ⟨group, member, found⟩
        · exact .inl topLevel
        · exact .inr ⟨group, List.mem_cons_of_mem _
            (List.mem_append_right _ member), found⟩

end Bindings

/-! ## Walking through modes -/

namespace Conventions

variable {conventions : Conventions} {tree : Bindings}
  {deactivation : List KeyCode} {group : LayerGroup} {keys : KeyPath}
  {command : Command} {chord : Chord}

/-- From leader mode the names down to a sublayer open it, step by step. -/
theorem ReadsAsModes.run_path
    (reads : conventions.ReadsAsModes tree deactivation)
    (member : group ∈ conventions.groups tree) :
    let map := conventions.modeMap tree deactivation
    map.outputs .leader group.path =
        List.replicate group.path.length [] ∧
      ∀ before, before <+: group.path → before ≠ [] →
        map.run .leader before = .inside before ∧
          ∃ passed ∈ conventions.groups tree, passed.path = before := by
  intro map
  refine Bindings.forall_mem_groups
    (fun group => map.outputs .leader group.path =
        List.replicate group.path.length [] ∧
      ∀ before, before <+: group.path → before ≠ [] →
        map.run .leader before = .inside before ∧
          ∃ passed ∈ conventions.groups tree, passed.path = before)
    ?_ ?_ member
  · intro outermost placed
    have pressed : map.press .leader outermost.name =
        (.inside outermost.path, []) := reads.press_outermost placed
    have isMember := mem_groups_of_mem_placedSublayers placed
    rcases Bindings.mem_placedSublayers_iff.mp placed with
      ⟨key, sublayer, _, rfl⟩
    constructor
    · exact congrArg (fun step : Mode × List Event => [step.2]) pressed
    · intro before ahead notEmpty
      rcases List.prefix_concat_iff.mp ahead with rfl | atStart
      · exact ⟨congrArg Prod.fst pressed, _, isMember, rfl⟩
      · exact absurd (List.prefix_nil.mp atStart) notEmpty
  · rintro parent parentMember ⟨sent, passes⟩ child isChild
    have atParent := (passes _ (List.prefix_refl _)
      (Bindings.path_ne_nil parentMember)).1
    have pressed : map.press (.inside parent.path) child.name =
        (.inside child.path, []) := reads.press_child parentMember isChild
    have isMember := mem_groups_of_mem_children parentMember isChild
    rcases Bindings.mem_placedSublayers_iff.mp isChild with
      ⟨key, sublayer, _, rfl⟩
    rw [← atParent] at pressed
    constructor
    · rw [Sublayer.placed, ModeMap.outputs_concat, sent,
        List.length_append, List.replicate_add]
      exact congrArg (fun step : Mode × List Event => _ ++ [step.2]) pressed
    · intro before ahead notEmpty
      rcases List.prefix_concat_iff.mp ahead with rfl | earlier
      · refine ⟨?_, _, isMember, rfl⟩
        rw [ModeMap.run_concat]
        exact congrArg Prod.fst pressed
      · exact passes before earlier notEmpty

/--
The keys of a command open sublayer after sublayer and then fire it, and
nothing is sent on the way.
-/
theorem ReadsAsModes.exists_way
    (reads : conventions.ReadsAsModes tree deactivation)
    (below : (keys, command) ∈ tree.commandsBelow []) :
    let map := conventions.modeMap tree deactivation
    ∃ path key, keys = path ++ [key] ∧
      map.outputs .leader keys =
        List.replicate path.length [] ++ [command.emissions] ∧
      map.run .leader keys = .idle ∧
      ∀ before, before <+: path → before ≠ [] →
        map.run .leader before = .inside before ∧
          ∃ passed ∈ conventions.groups tree, passed.path = before := by
  intro map
  have way : ∃ path key, keys = path ++ [key] ∧
      map.outputs .leader path = List.replicate path.length [] ∧
      map.press (map.run .leader path) key = (.idle, command.emissions) ∧
      ∀ before, before <+: path → before ≠ [] →
        map.run .leader before = .inside before ∧
          ∃ passed ∈ conventions.groups tree, passed.path = before := by
    rcases reads.selfNamed.mem_commandsBelow conventions.entryFlag
        conventions.leader below with
      ⟨key, listed, rfl⟩ | ⟨group, member, key, listed, rfl⟩
    · refine ⟨[], key, rfl, rfl, ?_, ?_⟩
      · exact map.press_leader_of_bound
          (reads.keysDistinct.bound?_eq_some_iff.mpr
            (Bindings.mem_commands_iff.mp listed))
      · intro before atStart notEmpty
        exact absurd (List.prefix_nil.mp atStart) notEmpty
    · rcases reads.run_path member with ⟨sent, passes⟩
      refine ⟨group.path, key, rfl, sent, ?_, passes⟩
      have inside := (passes _ (List.prefix_refl _)
        (Bindings.path_ne_nil member)).1
      have reached := layer?_of_mem_groups reads.keysDistinct
        reads.selfNamed member
      have bound := (reads.keysDistinct.of_mem_groups
        member).bound?_eq_some_iff.mpr (Bindings.mem_commands_iff.mp listed)
      have stays := (reads.accepts.unambiguous group member key
        (Bindings.mem_keys_of_mem_commands listed)).2
      rw [inside]
      exact map.press_inside_of_bound reached bound stays
  rcases way with ⟨path, key, rfl, sent, fired, passes⟩
  refine ⟨path, key, rfl, ?_, ?_, passes⟩
  · rw [ModeMap.outputs_concat, sent, fired]
  · rw [ModeMap.run_concat, fired]

/-! ## Behind the chord -/

/-- The activation of a chord in front of the modal rules of a tree. -/
def chordManipulators (conventions : Conventions) (tree : Bindings)
    (deactivation : List KeyCode) (chord : Chord) : List Manipulator :=
  (Rule.activation conventions.leader chord).manipulators ++
    conventions.modalManipulators tree deactivation

/--
As long as the chord is kept out below the first key, the document does
behind the chord what the modal reading does in leader mode.
-/
theorem ReadsAsModes.outputs_behind_chord
    (reads : conventions.ReadsAsModes tree deactivation)
    (named : .any ∉ chord.modifiers)
    (keptOut : chord.modifiers ≠ [] ∨ chord.key ∉ keys.tail) :
    let map := conventions.modeMap tree deactivation
    let manipulators :=
      conventions.chordManipulators tree deactivation chord
    outputs manipulators .unset (chord.followedBy keys) =
        [] :: map.outputs .leader keys ∧
      conventions.Encodes tree (map.run .leader keys)
        (run manipulators .unset (chord.followedBy keys)) := by
  intro map manipulators
  let activators := (Rule.activation conventions.leader chord).manipulators
  let modal := conventions.modalManipulators tree deactivation
  let onLeader := Variables.unset.assign ⟨conventions.leader, .integer 1⟩
  let plain : KeyCode → Press := fun key => ⟨key, []⟩
  have encodes : conventions.Encodes tree .leader onLeader :=
    reads.accepts.encodes_start true
  rcases Rule.exists_fired_activation .unset
      (Rule.meets_activation conventions.leader chord) rfl with
    ⟨manipulator, fired, updated, silent⟩
  have entered : after manipulators .unset ⟨chord.key, chord.modifiers⟩ =
      onLeader := (after_append_of_fired fired).trans updated
  have modalOnly :
      outputs manipulators onLeader (keys.map plain) =
          outputs modal onLeader (keys.map plain) ∧
        run manipulators onLeader (keys.map plain) =
          run modal onLeader (keys.map plain) := by
    cases keys with
    | nil => exact ⟨rfl, rfl⟩
    | cons first others =>
        -- the leader is on at the first key, and no other key is the chord
        have unfired : firing? activators onLeader (plain first) = none :=
          Rule.unfired_activation (by simp [onLeader]) _
        have unmet : ∀ press ∈ others.map plain,
            ¬meets activators press := by
          intro press listed met
          rcases List.mem_map.mp listed with ⟨key, isOther, rfl⟩
          rcases (Rule.meets_activation_plain_iff named key).mp met with
            ⟨rfl, bare⟩
          exact keptOut.elim (· bare) (· isOther)
        rcases outputs_append_of_unmet modal
            (after modal onLeader (plain first)) unmet with ⟨sent, reached⟩
        constructor
        · rw [List.map_cons, outputs, outputs]
          exact congrArg₂ _ (emitted_append_of_unfired unfired)
            ((congrArg (outputs _ · _)
              (after_append_of_unfired unfired)).trans sent)
        · rw [List.map_cons, run_cons, run_cons]
          exact (congrArg (run _ · _)
            (after_append_of_unfired unfired)).trans reached
  have follows := reads.outputs_eq encodes (keys.map plain)
  have sameKeys : (keys.map plain).map Press.key = keys := by
    simp [plain, Function.comp_def]
  rw [sameKeys] at follows
  constructor
  · rw [Chord.followedBy, outputs, entered]
    exact congrArg₂ _ ((emitted_append_of_fired fired).trans silent)
      (modalOnly.1.trans follows.1)
  · rw [Chord.followedBy, run_cons, entered]
    exact modalOnly.2 ▸ follows.2

/-- A bare key that is the chord turns the leader on inside a sublayer. -/
theorem ReadsAsModes.overlaps_of_chord_inside
    (reads : conventions.ReadsAsModes tree deactivation)
    (named : .any ∉ chord.modifiers) (bare : chord.modifiers = [])
    (member : group ∈ conventions.groups tree)
    (keptOut : chord.key ∉ group.path.tail) :
    conventions.Overlaps tree
      (run (conventions.chordManipulators tree deactivation chord) .unset
        (chord.followedBy (group.path ++ [chord.key]))) := by
  have opened := ((reads.run_path member).2 _ (List.prefix_refl _)
    (Bindings.path_ne_nil member)).1
  have encodes := (reads.outputs_behind_chord named (.inr keptOut)).2
  rw [opened] at encodes
  have flagOn := (encodes.shows.on_iff (flag_mem_steering member)).mpr rfl
  rw [Chord.followedBy_concat, run, List.foldl_concat]
  exact (reads.accepts.overlaps_after_iff
    (fun _ listed => ⟨chord, listed⟩) encodes.shows _).1.mpr
      ⟨(Rule.meets_activation_plain_iff named _).mpr ⟨rfl, bare⟩,
        _, flag_mem_flags member, flagOn⟩

/--
Behind the chord the keys of a command lead to it, without the leader coming
on inside a sublayer, exactly if the chord is no bare key among the keys that
are pressed inside sublayers.
-/
theorem ReadsAsModes.reaches_command_iff
    (reads : conventions.ReadsAsModes tree deactivation)
    (named : .any ∉ chord.modifiers)
    (below : (keys, command) ∈ tree.commandsBelow []) :
    let manipulators :=
      conventions.chordManipulators tree deactivation chord
    (chord.modifiers ≠ [] ∨ chord.key ∉ keys.tail) ↔
      (∀ before, before <+: chord.followedBy keys →
        ¬conventions.Overlaps tree (run manipulators .unset before)) ∧
      outputs manipulators .unset (chord.followedBy keys) =
        List.replicate keys.length [] ++ [command.emissions] ∧
      ∀ name ∈ conventions.leader :: conventions.flags tree,
        run manipulators .unset (chord.followedBy keys) name =
          .integer 0 := by
  intro manipulators
  rcases reads.exists_way below with ⟨path, key, rfl, sent, idle, passes⟩
  constructor
  · intro keptOut
    rcases reads.outputs_behind_chord named keptOut with
      ⟨follows, encodes⟩
    rw [idle] at encodes
    refine ⟨?_, ?_, fun name steers => encodes.shows name steers⟩
    · intro before ahead
      rcases Chord.prefix_followedBy_iff.mp ahead with
        rfl | ⟨earlier, isPrefix, rfl⟩
      · have atStart :
            Variables.unset.Shows (conventions.steering tree) none :=
          fun _ _ => rfl
        exact reads.accepts.not_overlaps atStart
      · have stillOut : chord.modifiers ≠ [] ∨
            chord.key ∉ earlier.tail :=
          keptOut.imp_right fun free inEarlier =>
            free (isPrefix.sublist.tail.subset inEarlier)
        have passing := (reads.outputs_behind_chord named stillOut).2
        exact reads.accepts.not_overlaps passing.shows
    · rw [follows, sent, List.length_append, List.length_singleton,
        List.replicate_succ]
      rfl
  · rintro ⟨apart, _, _⟩
    by_contra taken
    rw [not_or, not_not, not_not] at taken
    rcases taken with ⟨bare, inside⟩
    -- up to the first key that is the chord, the chord is kept out
    rcases List.eq_append_cons_of_mem inside with
      ⟨earlier, later, split, fresh⟩
    rcases path with _ | ⟨first, others⟩
    · cases inside
    have splitPath : others ++ [key] = earlier ++ chord.key :: later := split
    have ahead : first :: earlier <+: first :: others := by
      have isPrefix : earlier <+: others ++ [key] := ⟨_, splitPath.symm⟩
      rcases List.prefix_concat_iff.mp isPrefix with whole | ahead
      · rw [whole, List.append_assoc] at splitPath
        simp at splitPath
      · exact List.cons_prefix_cons.mpr ⟨rfl, ahead⟩
    rcases (passes _ ahead (List.cons_ne_nil _ _)).2 with
      ⟨passed, member, isPath⟩
    refine apart _ ?_ (reads.overlaps_of_chord_inside named bare member ?_)
    · apply Chord.prefix_followedBy_iff.mpr
      refine .inr ⟨_, ⟨later, ?_⟩, rfl⟩
      simp [isPath, splitPath]
    · rw [isPath]
      exact fresh

end Conventions

/-! ## Documents -/

theorem Command.emissions_eq_map {command : Command}
    (plain : ∀ effect ∈ command.effects, effect.variable? = none) :
    command.emissions = command.effects.map Event.ofEffect := by
  apply List.filter_eq_self.mpr
  intro event listed
  rcases List.mem_map.mp listed with ⟨effect, member, rfl⟩
  have named := Event.assignment_ofEffect effect
  rw [plain effect member, Option.map_eq_none_iff] at named
  rw [named]
  rfl

namespace Settings

variable {settings : Settings}

/--
Settings without remaps and with a chord for leader mode: with everything
unset, the chord and then the keys of a command send just the effects of the
command, at the last key, and leave the leader and all flags off, without the
two ever overlapping, exactly if the chord has modifiers or its key is none
of those pressed behind the first one.
-/
theorem command_reached_iff {compilation : Compilation}
    (noRemaps : settings.remaps = [])
    (chordGiven : settings.leader.activate.getD "" ≠ "")
    (compiled : settings.compile? = .ok compilation) :
    ∃ tree conventions chord, settings.bindings? = .ok tree ∧
      settings.conventions? = .ok conventions ∧
      Chord.read? Chord.plus settings.aliases
        (settings.leader.activate.getD "") = .ok chord ∧
      let manipulators := compilation.document.manipulators
      ∀ keys command, (keys, command) ∈ tree.commandsBelow [] →
        ((chord.modifiers ≠ [] ∨ chord.key ∉ keys.tail) ↔
          (∀ before, before <+: chord.followedBy keys →
            ¬conventions.Overlaps tree (run manipulators .unset before)) ∧
          outputs manipulators .unset (chord.followedBy keys) =
            List.replicate keys.length [] ++
              [command.effects.map Event.ofEffect] ∧
          ∀ name ∈ conventions.leader :: conventions.flags tree,
            run manipulators .unset (chord.followedBy keys) name =
              .integer 0) := by
  rcases exists_reading compiled with ⟨reading, documented⟩
  rcases reading.exists_chord chordGiven with ⟨chord, chordRead, one⟩
  refine ⟨reading.tree, reading.conventions, chord, reading.tree_read,
    reading.conventions_read, chordRead, ?_⟩
  intro manipulators keys command below
  have manipulatorsEq : manipulators =
      reading.conventions.chordManipulators reading.tree
        reading.deactivation chord := by
    refine (documented.trans (reading.manipulators_eq noRemaps)).trans ?_
    rw [one, List.flatMap_singleton]
    rfl
  have sends := Command.emissions_eq_map
    (variable?_of_bindings? reading.tree_read below)
  rw [manipulatorsEq, ← sends]
  exact reading.readsAsModes.reaches_command_iff
    (Chord.any_not_mem_of_read? chordRead) below

/--
A bare key as the chord for leader mode, which is bound at the top level and
in a sublayer as well.
-/
def bareChordExample : Settings where
  leader := { activate := some "spacebar" }
  layers := [(.text "spacebar", .text "shell:quit"),
    (.text "s", .mapping [(.text "spacebar", .text "open:A"),
      (.text "u", .list [.text "key:left_command+8", .text "open:U"])])]

/-- The commands of the example with the keys that lead to them. -/
def bareChordExampleCommands : List (KeyPath × Command) :=
  [([.spacebar], .run "quit"), ([.s, .spacebar], .openTarget "A"),
    ([.s, .u], .merge [.press .digit8 [.leftCommand], .openTarget "U"])]

theorem bareChordExample_commandsBelow :
    ∃ tree, bareChordExample.bindings? = .ok tree ∧
      tree.commandsBelow [] = bareChordExampleCommands :=
  Except.exists_of_toOption_map (by with_unfolding_all rfl)

theorem bareChordExample_chord :
    (Chord.read? Chord.plus bareChordExample.aliases
      (bareChordExample.leader.activate.getD "")).toOption =
        some ⟨.spacebar, []⟩ := by
  with_unfolding_all rfl

/-- The command whose keys behind the first are not the chord is fired. -/
theorem bareChordExample_reaches_command :
    ∃ compilation tree conventions,
      bareChordExample.compile? = .ok compilation ∧
      bareChordExample.bindings? = .ok tree ∧
      bareChordExample.conventions? = .ok conventions ∧
      tree.commandsBelow [] = bareChordExampleCommands ∧
      let manipulators := compilation.document.manipulators
      let presses := Chord.followedBy ⟨.spacebar, []⟩ [.s, .u]
      outputs manipulators .unset presses =
          [[], [], [{ key := some .digit8, modifiers := some [.leftCommand] },
            { shellCommand := some "open U" }]] ∧
        ∀ name ∈ conventions.leader :: conventions.flags tree,
          run manipulators .unset presses name = .integer 0 := by
  have compiles : bareChordExample.compile?.toOption.map (fun _ => ()) =
      some () := by decide +kernel
  rcases Except.exists_of_toOption_map compiles with ⟨compilation, made, _⟩
  rcases command_reached_iff rfl (by decide) made with
    ⟨tree, conventions, chord, treeRead, conventionsRead, chordRead,
      reached⟩
  rcases bareChordExample_commandsBelow with ⟨same, sameRead, listed⟩
  cases treeRead.symm.trans sameRead
  have chorded := bareChordExample_chord
  rw [chordRead, Except.toOption, Option.some.injEq] at chorded
  cases chorded
  have below : ([.s, .u], Command.merge
      [.press .digit8 [.leftCommand], .openTarget "U"]) ∈
        tree.commandsBelow [] := by
    rw [listed]
    decide
  have fired := (reached _ _ below).mp (.inr (by decide))
  exact ⟨compilation, tree, conventions, made, treeRead, conventionsRead,
    listed, fired.2⟩

/--
The chord, `s` and the key of the command, which is the chord again: nothing
is sent, and the leader and the flag of the sublayer are both left on.
-/
theorem bareChordExample_loses_command :
    bareChordExample.remaps = [] ∧
      (Chord.read? Chord.plus bareChordExample.aliases
        (bareChordExample.leader.activate.getD "")).toOption =
          some ⟨.spacebar, []⟩ ∧
      ∃ compilation tree, bareChordExample.compile? = .ok compilation ∧
        bareChordExample.bindings? = .ok tree ∧
        ([.s, .spacebar], Command.openTarget "A") ∈
          tree.commandsBelow [] ∧
        let manipulators := compilation.document.manipulators
        let presses := Chord.followedBy ⟨.spacebar, []⟩ [.s, .spacebar]
        outputs manipulators .unset presses ≠ List.replicate 2 [] ++
            [(Command.openTarget "A").effects.map Event.ofEffect] ∧
          outputs manipulators .unset presses = [[], [], []] ∧
          run manipulators .unset presses "leader" = .integer 1 ∧
          run manipulators .unset presses "sublayer_s" = .integer 1 := by
  have computed : bareChordExample.compile?.toOption.map
      (fun compilation =>
        let manipulators := compilation.document.manipulators
        let presses := Chord.followedBy ⟨.spacebar, []⟩ [.s, .spacebar]
        (outputs manipulators .unset presses,
          run manipulators .unset presses "leader",
          run manipulators .unset presses "sublayer_s")) =
      some ([[], [], []], .integer 1, .integer 1) := by decide +kernel
  rcases Except.exists_of_toOption_map computed with
    ⟨compilation, made, ran⟩
  rcases bareChordExample_commandsBelow with ⟨tree, treeRead, listed⟩
  simp only [Prod.mk.injEq] at ran
  refine ⟨rfl, bareChordExample_chord, compilation, tree, made, treeRead,
    ?_, ?_, ran⟩
  · rw [listed]
    decide
  · rw [ran.1]
    decide

end Settings

end ModalKeymap
