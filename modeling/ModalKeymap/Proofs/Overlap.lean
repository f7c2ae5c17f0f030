import ModalKeymap.Proofs.Exclusion
import ModalKeymap.Proofs.ModalReading
import Mathlib.Data.List.Induction

/-!
# The leader beside a live sublayer

The chord that enters leader mode is guarded by the leader alone, and its
rule stands before all others, so inside a sublayer it turns the leader on
while the flag of the sublayer is on as well (`Conventions.Overlaps`).  That
is the only way to get there: along a run the two never overlap exactly if
the chord is never pressed while a flag is on
(`Conventions.Accepts.never_overlaps_iff`), and no run of a document makes
them overlap exactly if the settings name no chord or have no sublayer.
Until they overlap, nothing of the top level fires inside a sublayer.
-/

namespace ModalKeymap

open Replay

/-! ## Turning the leader on -/

/-- Whether a press is what one of several manipulators waits for. -/
def Replay.meets (manipulators : List Manipulator) (press : Press) : Bool :=
  manipulators.any (·.trigger.isMetBy press)

/-- The leader and the flag of a sublayer are on at once. -/
def Conventions.Overlaps (conventions : Conventions) (tree : Bindings)
    (values : Variables) : Prop :=
  values conventions.leader = .integer 1 ∧
    ∃ flag ∈ conventions.flags tree, values flag = .integer 1

namespace Rule

variable {leader : String} {chord : Chord} {manipulator : Manipulator}

/-- The chord for leader mode waits for the leader to be off. -/
theorem isEnabled_activation_iff
    (listed : manipulator ∈ (activation leader chord).manipulators)
    (values : Variables) (press : Press) :
    manipulator.isEnabled values press ↔
      manipulator.trigger.isMetBy press ∧ values leader = .integer 0 := by
  rcases List.mem_singleton.mp listed with rfl
  simp [Manipulator.isEnabled]

/-- The chord for leader mode turns the leader on and does nothing else. -/
theorem update_activation
    (listed : manipulator ∈ (activation leader chord).manipulators)
    (values : Variables) :
    manipulator.update values = values.assign ⟨leader, .integer 1⟩ := by
  rcases List.mem_singleton.mp listed with rfl
  rfl

/-- A chord is what its own trigger waits for. -/
theorem meets_activation (leader : String) (chord : Chord) :
    meets (activation leader chord).manipulators
      ⟨chord.key, chord.modifiers⟩ := by
  rcases chord with ⟨key, modifiers⟩
  cases modifiers with
  | nil =>
      have admitted := TriggerModifiers.admits_mandatory {}
      simpa [meets, activation, Trigger.isMetBy, Modifier.listed?]
        using admitted
  | cons first rest =>
      have admitted := TriggerModifiers.admits_mandatory
        { mandatory := some (first :: rest) }
      simpa [meets, activation, Trigger.isMetBy, Modifier.listed?]
        using admitted

/-- While the leader is off, the chord turns it on and sends nothing. -/
theorem exists_fired_activation (values : Variables) {press : Press}
    (met : meets (activation leader chord).manipulators press)
    (off : values leader = .integer 0) :
    ∃ manipulator,
      firing? (activation leader chord).manipulators values press =
          some manipulator ∧
        manipulator.update values =
          values.assign ⟨leader, .integer 1⟩ ∧
        manipulator.emissions = [] := by
  rcases List.any_eq_true.mp met with ⟨manipulator, listed, isMet⟩
  refine ⟨manipulator, ?_, update_activation listed values, ?_⟩
  · have enabled :=
      (isEnabled_activation_iff listed values press).mpr ⟨isMet, off⟩
    rcases List.mem_singleton.mp listed with rfl
    exact List.find?_cons_of_pos enabled
  · rcases List.mem_singleton.mp listed with rfl
    rfl

/-- While the leader is on, the chord is no trigger for anything. -/
theorem unfired_activation {values : Variables}
    (on : values leader = .integer 1) (press : Press) :
    firing? (activation leader chord).manipulators values press = none := by
  apply List.find?_eq_none.mpr
  intro manipulator listed
  rw [isEnabled_activation_iff listed, on]
  simp

end Rule

namespace Conventions

variable {conventions : Conventions} {tree : Bindings}
  {deactivation : List KeyCode} {activators : List Manipulator}
  {values : Variables} {live : Option String}

/-! ## One press -/

theorem Accepts.not_overlaps (accepts : conventions.Accepts tree)
    (shows : values.Shows (conventions.steering tree) live) :
    ¬conventions.Overlaps tree values := by
  rintro ⟨leaderOn, flag, inFlags, flagOn⟩
  have leaderLive := (shows.on_iff leader_mem_steering).mp leaderOn
  have flagLive :=
    (shows.on_iff (List.mem_cons_of_mem _ inFlags)).mp flagOn
  rw [leaderLive, Option.some.injEq] at flagLive
  exact accepts.leader_not_mem_flags (flagLive ▸ inFlags)

/-- Turning the leader on makes it overlap with the flags that are on. -/
theorem Accepts.overlaps_assign_iff (accepts : conventions.Accepts tree) :
    conventions.Overlaps tree
        (values.assign ⟨conventions.leader, .integer 1⟩) ↔
      ∃ flag ∈ conventions.flags tree, values flag = .integer 1 := by
  rw [Overlaps, Variables.assign_self, and_iff_right rfl]
  apply exists_congr
  intro flag
  apply and_congr_right
  intro inFlags
  rw [values.assign_of_ne (accepts.ne_leader_of_mem_flags inFlags)]

/-- Turning the leader on makes it live where no flag is on. -/
theorem Accepts.shows_assign_leader (accepts : conventions.Accepts tree)
    (shows : values.Shows (conventions.steering tree) live)
    (flagsOff : ∀ flag ∈ conventions.flags tree,
      values flag ≠ .integer 1) :
    (values.assign ⟨conventions.leader, .integer 1⟩).Shows
      (conventions.steering tree) (some conventions.leader) := by
  apply accepts.shows_leader
  · exact values.assign_self conventions.leader (.integer 1)
  · intro flag inFlags
    rw [values.assign_of_ne (accepts.ne_leader_of_mem_flags inFlags)]
    exact (shows.off_or_on (List.mem_cons_of_mem _ inFlags)).resolve_right
      (flagsOff flag inFlags)

/-- Without a chord for leader mode a press leaves one variable live. -/
theorem Accepts.exists_shows_after (accepts : conventions.Accepts tree)
    (shows : values.Shows (conventions.steering tree) live)
    (press : Press) :
    ∃ next, (after (conventions.modalManipulators tree deactivation) values
      press).Shows (conventions.steering tree) next := by
  rw [after]
  cases found : firing? (conventions.modalManipulators tree deactivation)
      values press with
  | none => exact ⟨live, shows⟩
  | some manipulator =>
      rcases enabled_of_firing? found with ⟨listed, enabled⟩
      have bind : ∃ source key target sent, manipulator.Binds
          (conventions.steering tree) source key target sent := by
        rcases List.mem_append.mp listed with leaves | inRules
        · rcases List.mem_map.mp leaves with ⟨key, _, rfl⟩
          exact ⟨_, _, _, _, conventions.binds_deactivation tree key⟩
        · exact accepts.exists_binds inRules
      rcases bind with ⟨source, key, target, sent, binds⟩
      rcases (binds.isEnabled_iff shows).mp enabled with ⟨rfl, _⟩
      exact ⟨target, binds.shows_update values shows⟩

/--
Pressing the chord for leader mode while a flag is on makes the two overlap;
after any other press one variable is live, or none.
-/
theorem Accepts.overlaps_after_iff (accepts : conventions.Accepts tree)
    (entering : ∀ manipulator ∈ activators, ∃ chord,
      manipulator ∈
        (Rule.activation conventions.leader chord).manipulators)
    (shows : values.Shows (conventions.steering tree) live)
    (press : Press) :
    let next := after
      (activators ++ conventions.modalManipulators tree deactivation)
      values press
    (conventions.Overlaps tree next ↔ meets activators press ∧
      ∃ flag ∈ conventions.flags tree, values flag = .integer 1) ∧
    (¬conventions.Overlaps tree next →
      ∃ live, next.Shows (conventions.steering tree) live) := by
  intro next
  cases found : firing? activators values press with
  | some manipulator =>
      rcases enabled_of_firing? found with ⟨listed, enabled⟩
      rcases entering manipulator listed with ⟨chord, inRule⟩
      have met := ((Rule.isEnabled_activation_iff inRule values press).mp
        enabled).1
      have meet : meets activators press :=
        List.any_eq_true.mpr ⟨manipulator, listed, met⟩
      have nextIs : next =
          values.assign ⟨conventions.leader, .integer 1⟩ := by
        rw [← Rule.update_activation inRule values]
        exact after_append_of_fired found
      rw [nextIs, accepts.overlaps_assign_iff, and_iff_right meet]
      refine ⟨Iff.rfl, fun apart => ⟨some conventions.leader, ?_⟩⟩
      apply accepts.shows_assign_leader shows
      intro flag inFlags flagOn
      exact apart ⟨flag, inFlags, flagOn⟩
  | none =>
      have stays : ∃ live, next.Shows (conventions.steering tree) live := by
        have nextIs : next = _ := after_append_of_unfired found
        rw [nextIs]
        exact accepts.exists_shows_after shows press
      refine ⟨iff_of_false ?_ ?_, fun _ => stays⟩
      · rcases stays with ⟨nextLive, nextShows⟩
        exact accepts.not_overlaps nextShows
      · rintro ⟨meet, flag, inFlags, flagOn⟩
        rcases List.any_eq_true.mp meet with ⟨manipulator, listed, met⟩
        rcases entering manipulator listed with ⟨chord, inRule⟩
        have flagLive :=
          (shows.on_iff (List.mem_cons_of_mem _ inFlags)).mp flagOn
        have leaderOff : values conventions.leader = .integer 0 := by
          rw [shows.off_iff leader_mem_steering, flagLive]
          intro same
          exact accepts.ne_leader_of_mem_flags inFlags
            (Option.some.inj same)
        -- the chord would have been enabled
        exact List.find?_eq_none.mp found manipulator listed
          ((Rule.isEnabled_activation_iff inRule values press).mpr
            ⟨met, leaderOff⟩)

/-! ## Whole runs -/

/--
Along a run the leader and a flag never overlap exactly if the chord for
leader mode is never pressed while a flag is on.
-/
theorem Accepts.never_overlaps_iff (accepts : conventions.Accepts tree)
    (deactivation : List KeyCode)
    (entering : ∀ manipulator ∈ activators, ∃ chord,
      manipulator ∈
        (Rule.activation conventions.leader chord).manipulators)
    (shows : values.Shows (conventions.steering tree) live)
    (presses : List Press) :
    let state := run
      (activators ++ conventions.modalManipulators tree deactivation) values
    (∀ before, before <+: presses →
        ¬conventions.Overlaps tree (state before)) ↔
      ∀ before press, before ++ [press] <+: presses →
        meets activators press → ∀ flag ∈ conventions.flags tree,
          state before flag ≠ .integer 1 := by
  intro state
  have concat : ∀ before press, state (before ++ [press]) =
      after (activators ++ conventions.modalManipulators tree deactivation)
        (state before) press := by
    intro before press
    exact List.foldl_concat ..
  -- until the two overlap one variable is live, which the step lemma needs
  have live : ∀ presses,
      (∀ before, before <+: presses →
        ¬conventions.Overlaps tree (state before)) →
      ∃ live, (state presses).Shows (conventions.steering tree) live := by
    intro presses
    induction presses using List.reverseRecOn with
    | nil => exact fun _ => ⟨live, shows⟩
    | append_singleton earlier last ih =>
        intro apart
        rcases ih fun before ahead =>
          apart before (ahead.trans (List.prefix_append _ _)) with
          ⟨live, shows⟩
        have apartNow := apart _ (List.prefix_refl _)
        rw [concat] at apartNow ⊢
        exact (accepts.overlaps_after_iff entering shows last).2 apartNow
  induction presses using List.reverseRecOn with
  | nil =>
      apply iff_of_true
      · intro before ahead
        rw [List.prefix_nil.mp ahead]
        exact accepts.not_overlaps shows
      · intro before press ahead
        simp at ahead
  | append_singleton earlier last ih =>
      have extended : (∀ before, before <+: earlier ++ [last] →
            ¬conventions.Overlaps tree (state before)) ↔
          ¬conventions.Overlaps tree (state (earlier ++ [last])) ∧
            ∀ before, before <+: earlier →
              ¬conventions.Overlaps tree (state before) := by
        simp only [List.prefix_concat_iff, forall_eq_or_imp]
      have lastStep : (∀ before, before <+: earlier →
            ¬conventions.Overlaps tree (state before)) →
          (¬conventions.Overlaps tree (state (earlier ++ [last])) ↔
            (meets activators last → ∀ flag ∈ conventions.flags tree,
              state earlier flag ≠ .integer 1)) := by
        intro apart
        rcases live earlier apart with ⟨live, shows⟩
        rw [concat, (accepts.overlaps_after_iff entering shows last).1]
        simp
      rw [extended, and_congr_left lastStep, and_congr_right' ih]
      simp only [List.prefix_concat_iff, List.append_singleton_inj]
      constructor
      · rintro ⟨ofLast, ofEarlier⟩ before press (⟨rfl, rfl⟩ | ahead)
        · exact ofLast
        · exact ofEarlier before press ahead
      · intro always
        exact ⟨always earlier last (.inl ⟨rfl, rfl⟩),
          fun before press ahead => always before press (.inr ahead)⟩

/-- The chord, the name of a sublayer, and the chord once more. -/
theorem ReadsAsModes.overlaps_of_chord_twice
    (reads : conventions.ReadsAsModes tree deactivation)
    {group : LayerGroup} (member : group ∈ conventions.groups tree)
    (outermost : group.parentFlag = conventions.leader) (chord : Chord) :
    let chordPress : Press := ⟨chord.key, chord.modifiers⟩
    conventions.Overlaps tree (run
      ((Rule.activation conventions.leader chord).manipulators ++
        conventions.modalManipulators tree deactivation)
      .unset [chordPress, ⟨group.name, []⟩, chordPress]) := by
  intro chordPress
  have accepts := reads.accepts
  have meet := Rule.meets_activation conventions.leader chord
  let onLeader := Variables.unset.assign ⟨conventions.leader, .integer 1⟩
  rcases Rule.exists_fired_activation .unset meet rfl with
    ⟨manipulator, fired, updated, _⟩
  have entered : after
      ((Rule.activation conventions.leader chord).manipulators ++
        conventions.modalManipulators tree deactivation)
      .unset chordPress = onLeader :=
    (after_append_of_fired fired).trans updated
  have opened : after
      ((Rule.activation conventions.leader chord).manipulators ++
        conventions.modalManipulators tree deactivation)
      onLeader ⟨group.name, []⟩ =
        after (conventions.modalManipulators tree deactivation) onLeader
          ⟨group.name, []⟩ :=
    after_append_of_unfired (Rule.unfired_activation (by simp [onLeader]) _)
  have encodes : conventions.Encodes tree .leader onLeader :=
    accepts.encodes_start true
  have inside := (reads.press_eq encodes ⟨group.name, []⟩).2
  rw [reads.press_name encodes member (congrArg some outermost.symm)]
    at inside
  rw [run_cons, entered, run_cons, opened, run_cons, run_nil]
  refine (accepts.overlaps_after_iff (fun _ listed => ⟨chord, listed⟩)
    inside.shows chordPress).1.mpr ⟨meet, _, flag_mem_flags member, ?_⟩
  exact (inside.shows.on_iff (flag_mem_steering member)).mpr rfl

theorem flags_eq_nil_iff :
    conventions.flags tree = [] ↔ tree.sublayers = [] := by
  rw [flags, List.map_eq_nil_iff, flagTable, List.map_eq_nil_iff]
  constructor
  · intro none
    rw [List.eq_nil_iff_forall_not_mem] at none ⊢
    intro entry inTree
    exact none (entry.2.placed [] conventions.leader)
      (mem_groups_of_mem_placedSublayers
        (List.mem_map.mpr ⟨entry, inTree, rfl⟩))
  · intro none
    apply List.eq_nil_iff_forall_not_mem.mpr
    intro group member
    refine Bindings.forall_mem_groups (fun _ => False) ?_
      (fun _ _ impossible => impossible.elim) member
    rw [Bindings.placedSublayers, none]
    intro outermost impossible
    cases impossible

end Conventions

/-! ## Documents -/

namespace Settings

variable {settings : Settings}

theorem Reading.entering (reading : settings.Reading) :
    ∀ manipulator ∈ reading.activation.flatMap Rule.manipulators,
      ∃ chord, manipulator ∈
        (Rule.activation reading.conventions.leader chord).manipulators := by
  intro manipulator listed
  rcases reading.activation_eq with ⟨_, none⟩ | ⟨_, chord, one⟩
  · rw [none] at listed
    cases listed
  · rw [one, List.flatMap_singleton] at listed
    exact ⟨chord, listed⟩

/--
Settings without remaps: along a run of their document the leader and a flag
never overlap exactly if the chord for leader mode is never pressed while a
flag is on; they never overlap in any run exactly if no chord is given or
there is no sublayer; and where they do not overlap, what waits for the
leader fires only while all flags are off.
-/
theorem leader_overlaps_sublayer_iff {compilation : Compilation}
    (noRemaps : settings.remaps = [])
    (compiled : settings.compile? = .ok compilation) :
    ∃ tree conventions activation, settings.bindings? = .ok tree ∧
      settings.conventions? = .ok conventions ∧
      settings.activationRules? = .ok activation ∧
      let manipulators := compilation.document.manipulators
      let state := run manipulators .unset
      let flags := conventions.flags tree
      (∀ presses,
        (∀ before, before <+: presses →
            ¬conventions.Overlaps tree (state before)) ↔
          ∀ before press, before ++ [press] <+: presses →
            meets (activation.flatMap Rule.manipulators) press →
              ∀ flag ∈ flags, state before flag ≠ .integer 1) ∧
      ((∀ presses, ¬conventions.Overlaps tree (state presses)) ↔
        settings.leader.activate.getD "" = "" ∨ tree.sublayers = []) ∧
      ∀ presses press manipulator,
        ¬conventions.Overlaps tree (state presses) →
        firing? manipulators (state presses) press = some manipulator →
        .isOn conventions.leader true ∈ manipulator.conditions →
          ∀ flag ∈ flags, state presses flag ≠ .integer 1 := by
  rcases exists_reading compiled with ⟨reading, documented⟩
  have reads := reading.readsAsModes
  have accepts := reading.accepts
  refine ⟨reading.tree, reading.conventions, reading.activation,
    reading.tree_read, reading.conventions_read, reading.activation_read,
    ?_⟩
  intro manipulators state flags
  have manipulatorsEq : manipulators =
      reading.activation.flatMap Rule.manipulators ++
        reading.conventions.modalManipulators reading.tree
          reading.deactivation :=
    documented.trans (reading.manipulators_eq noRemaps)
  have idle : Variables.unset.Shows
      (reading.conventions.steering reading.tree) none := fun _ _ => rfl
  have never := accepts.never_overlaps_iff reading.deactivation
    reading.entering idle
  rw [← manipulatorsEq] at never
  refine ⟨never, ⟨?_, ?_⟩, ?_⟩
  · intro apart
    rcases reading.activation_eq with ⟨noChord, _⟩ | ⟨_, chord, one⟩
    · exact .inl noChord
    · refine .inr (List.eq_nil_iff_forall_not_mem.mpr ?_)
      rintro ⟨key, sublayer⟩ inTree
      have member : sublayer.placed [] reading.conventions.leader ∈
          reading.conventions.groups reading.tree :=
        Conventions.mem_groups_of_mem_placedSublayers
          (List.mem_map.mpr ⟨_, inTree, rfl⟩)
      have overlap := reads.overlaps_of_chord_twice member rfl chord
      rw [one, List.flatMap_singleton] at manipulatorsEq
      rw [← manipulatorsEq] at overlap
      exact apart _ overlap
  · intro condition presses
    apply (never presses).mpr ?_ presses (List.prefix_refl _)
    intro before press _ meet flag inFlags
    rcases condition with noChord | noSublayer
    · rw [reading.activation_eq_nil noChord] at meet
      cases meet
    · rw [Conventions.flags_eq_nil_iff.mpr noSublayer] at inFlags
      cases inFlags
  · intro presses press manipulator apart fired waits flag inFlags flagOn
    have enabled := (enabled_of_firing? fired).2
    have holds := (Bool.and_eq_true_iff.mp enabled).2
    have leaderOn := List.all_eq_true.mp holds _ waits
    rw [Condition.holds_isOn_iff] at leaderOn
    exact apart ⟨leaderOn, flag, inFlags, flagOn⟩

/-- A chord for leader mode, a command, and a sublayer with a command. -/
def chordExample : Settings where
  leader := { activate := some "left_shift+spacebar" }
  layers := [(.text "q", .text "shell:quit"),
    (.text "s", .mapping [(.text "a", .text "open:A")])]

/-- With a chord and a sublayer, some run makes the two overlap. -/
theorem chordExample_overlaps_in_some_run :
    ∃ (compilation : Compilation) (tree : Bindings)
        (conventions : Conventions),
      chordExample.compile? = .ok compilation ∧
      chordExample.bindings? = .ok tree ∧
      chordExample.conventions? = .ok conventions ∧
      ¬∀ presses, ¬conventions.Overlaps tree
        (run compilation.document.manipulators .unset presses) := by
  have compiles : chordExample.compile?.toOption.isSome := by
    decide +kernel
  have layered : chordExample.bindings?.toOption.map
      (·.sublayers.isEmpty) = some false := by decide +kernel
  cases made : chordExample.compile? with
  | error fault =>
      rw [made] at compiles
      cases compiles
  | ok compilation =>
      rcases leader_overlaps_sublayer_iff rfl made with
        ⟨tree, conventions, _, treeRead, conventionsRead, _, _, neverIff,
          _⟩
      refine ⟨compilation, tree, conventions, rfl, treeRead,
        conventionsRead, ?_⟩
      rw [neverIff]
      rintro (noChord | noSublayer)
      · exact absurd noChord (by decide)
      · rw [treeRead, Except.toOption, Option.map_some, noSublayer]
          at layered
        cases layered

/--
The chord, `s` and the chord again turn the leader on inside the sublayer,
where a command of the top level then fires and leaves the sublayer live.
-/
theorem chordExample_fires_command_inside_sublayer :
    let chord : Press := ⟨.spacebar, [.leftShift]⟩
    chordExample.remaps = [] ∧
      ∃ compilation, chordExample.compile? = .ok compilation ∧
        let manipulators := compilation.document.manipulators
        let state := run manipulators .unset [chord, ⟨.s, []⟩, chord]
        state "leader" = .integer 1 ∧ state "sublayer_s" = .integer 1 ∧
          emitted manipulators state ⟨.q, []⟩ =
            (Command.run "quit").emissions ∧
          after manipulators state ⟨.q, []⟩ "sublayer_s" = .integer 1 := by
  intro chord
  have computed : chordExample.compile?.toOption.map
      (fun compilation =>
        let manipulators := compilation.document.manipulators
        let state := run manipulators .unset [chord, ⟨.s, []⟩, chord]
        (state "leader", state "sublayer_s",
          emitted manipulators state ⟨.q, []⟩,
          after manipulators state ⟨.q, []⟩ "sublayer_s")) =
      some (.integer 1, .integer 1, (Command.run "quit").emissions,
        .integer 1) := by decide +kernel
  refine ⟨rfl, ?_⟩
  cases made : chordExample.compile? with
  | error fault =>
      rw [made] at computed
      cases computed
  | ok compilation =>
      rw [made, Except.toOption, Option.map_some, Option.some.injEq]
        at computed
      simp only [Prod.mk.injEq] at computed
      exact ⟨compilation, rfl, computed⟩

end Settings

end ModalKeymap
