import ModalKeymap.Proofs.Exclusion
import Mathlib.Data.List.Forall2

/-!
# Variables that no rule steers by

A command may set variables of its own.  The rules look at none of them
(`Conventions.Accepts.reads_of_mem_rules`), so two runs from states that agree
on the leader and the flags fire the same manipulators, which change both
states alike.  Nor may a command set one of the variables that the rules do
look at: what the leader and the flags hold after some presses is the same
whatever the commands of a tree do (`Accepts.agreeOn_run_muted`).

Both come of one comparison of two runs (`Replay.rel_fired`), whose lists of
manipulators go together one by one: `Manipulator.Twins` wait for the same
press under the same conditions, and change the given variables alike.
-/

namespace ModalKeymap

open Replay Conventions

/-! ## States that agree on some variables -/

/-- Two states that give the same values to some variables. -/
def Variables.AgreeOn (names : List String) (values values' : Variables) :
    Prop :=
  ∀ name ∈ names, values name = values' name

namespace Variables.AgreeOn

variable {names : List String} {values values' : Variables}

theorem refl (values : Variables) : values.AgreeOn names values :=
  fun _ _ => rfl

theorem symm (agree : values.AgreeOn names values') :
    values'.AgreeOn names values :=
  fun name member => (agree name member).symm

theorem trans {values'' : Variables} (left : values.AgreeOn names values')
    (right : values'.AgreeOn names values'') :
    values.AgreeOn names values'' :=
  fun name member => (left name member).trans (right name member)

theorem assign (agree : values.AgreeOn names values')
    (assignment : Assignment) :
    (values.assign assignment).AgreeOn names (values'.assign assignment) := by
  intro name member
  simp only [Variables.assign, agree name member]

theorem update (agree : values.AgreeOn names values')
    (manipulator : Manipulator) :
    (manipulator.update values).AgreeOn names
      (manipulator.update values') := by
  unfold Manipulator.update
  induction manipulator.assignments generalizing values values' with
  | nil => exact agree
  | cons first rest ih => exact ih (agree.assign first)

end Variables.AgreeOn

/-! ## Manipulators that go together -/

/--
Of two manipulators, as far as the given variables go: the second one waits
for the same press under the same conditions as the first, which are on those
variables, and changes them in the same way.
-/
structure Manipulator.Twins (names : List String)
    (first second : Manipulator) : Prop where
  trigger : second.trigger = first.trigger
  conditions : second.conditions = first.conditions
  reads : first.Reads names
  update : ∀ values values', Variables.AgreeOn names values values' →
    (first.update values).AgreeOn names (second.update values')

namespace Manipulator.Twins

variable {names : List String} {values values' : Variables}
  {first second : Manipulator}

theorem of_reads (reads : first.Reads names) : first.Twins names first where
  trigger := rfl
  conditions := rfl
  reads := reads
  update _ _ agree := agree.update first

theorem isEnabled_eq (twins : first.Twins names second)
    (agree : values.AgreeOn names values') (press : Press) :
    second.isEnabled values' press = first.isEnabled values press := by
  have holds : second.conditions.all (·.holds values') =
      first.conditions.all (·.holds values) := by
    rw [twins.conditions, Bool.eq_iff_iff, List.all_eq_true,
      List.all_eq_true]
    refine forall₂_congr fun condition tested => ?_
    rw [Condition.holds, Condition.holds,
      agree condition.name (twins.reads condition tested)]
  rw [isEnabled, isEnabled, twins.trigger, holds]

end Manipulator.Twins

namespace Replay

/-- The manipulators that several presses fire, one or none for each. -/
def fired (manipulators : List Manipulator) (values : Variables) :
    List Press → List (Option Manipulator)
  | [] => []
  | press :: rest =>
      firing? manipulators values press ::
        fired manipulators (after manipulators values press) rest

theorem outputs_eq_map_fired (manipulators : List Manipulator)
    (values : Variables) (presses : List Press) :
    outputs manipulators values presses =
      (fired manipulators values presses).map fun firing =>
        firing.elim [] Manipulator.emissions := by
  induction presses generalizing values with
  | nil => rfl
  | cons press rest ih =>
      rw [outputs, fired, List.map_cons, ih, emitted]
      cases firing? manipulators values press <;> rfl

variable {names : List String} {values values' : Variables}
  {related : Manipulator → Manipulator → Prop}
  {manipulators manipulators' : List Manipulator}

theorem rel_firing?
    (twins : ∀ first second, related first second →
      first.Twins names second)
    (alike : List.Forall₂ related manipulators manipulators')
    (agree : values.AgreeOn names values') (press : Press) :
    Option.Rel related (firing? manipulators values press)
      (firing? manipulators' values' press) := by
  induction alike with
  | nil => exact .none
  | @cons first second _ _ one _ ih =>
      have enabled := (twins first second one).isEnabled_eq agree press
      by_cases fires : first.isEnabled values press = true
      · simpa [firing?, enabled, fires] using Option.Rel.some one
      · simpa [firing?, enabled, fires] using ih

theorem agreeOn_after
    (twins : ∀ first second, related first second →
      first.Twins names second)
    (alike : List.Forall₂ related manipulators manipulators')
    (agree : values.AgreeOn names values') (press : Press) :
    (after manipulators values press).AgreeOn names
      (after manipulators' values' press) := by
  have together := rel_firing? twins alike agree press
  rw [after, after]
  generalize firing? manipulators values press = firing at together
  generalize firing? manipulators' values' press = firing' at together
  cases together with
  | none => exact agree
  | some one => exact (twins _ _ one).update _ _ agree

/-- Two runs that go together, press by press. -/
theorem rel_fired
    (twins : ∀ first second, related first second →
      first.Twins names second)
    (alike : List.Forall₂ related manipulators manipulators')
    (agree : values.AgreeOn names values') (presses : List Press) :
    List.Forall₂ (Option.Rel related) (fired manipulators values presses)
        (fired manipulators' values' presses) ∧
      (run manipulators values presses).AgreeOn names
        (run manipulators' values' presses) := by
  -- that the states agree is what carries over from press to press
  induction presses generalizing values values' with
  | nil => exact ⟨.nil, agree⟩
  | cons press rest ih =>
      rcases ih (agreeOn_after twins alike agree press) with ⟨later, last⟩
      exact ⟨.cons (rel_firing? twins alike agree press) later, last⟩

end Replay

/-! ## Commands that do nothing -/

/-- A command described as before that does nothing. -/
def Command.muted (command : Command) : Command :=
  { command with effects := [] }

theorem Command.spares_muted (command : Command) (names : List String) :
    command.muted.Spares names := by
  simp [Spares, muted]

/-- A tree all of whose commands do nothing. -/
def Bindings.muted : Bindings → Bindings
  | .nil => .nil
  | .fires key command rest => .fires key command.muted rest.muted
  | .opens key name description inner rest =>
      .opens key name description inner.muted rest.muted

/-- A sublayer all of whose commands do nothing. -/
def LayerGroup.muted (group : LayerGroup) : LayerGroup :=
  { group with inner := group.inner.muted }

theorem Bindings.commands_muted (layer : Bindings) :
    layer.muted.commands =
      layer.commands.map fun entry => (entry.1, entry.2.muted) := by
  induction layer with
  | nil => rfl
  | fires key command rest ih => exact congrArg (_ :: ·) ih
  | opens key name description inner rest _ ih => exact ih

theorem Bindings.groups_muted (entryFlag : KeyPath → String)
    (layer : Bindings) (path : KeyPath) (parentFlag : String) :
    layer.muted.groups entryFlag path parentFlag =
      (layer.groups entryFlag path parentFlag).map LayerGroup.muted := by
  induction layer generalizing path parentFlag with
  | nil => rfl
  | fires key command rest ih => exact ih path parentFlag
  | opens key name description inner rest innerIH restIH =>
      rw [muted, groups, groups, innerIH, restIH, List.map_cons,
        List.map_append]
      rfl

namespace Conventions

variable {conventions : Conventions} {tree : Bindings}

theorem groups_muted (conventions : Conventions) (tree : Bindings) :
    conventions.groups tree.muted =
      (conventions.groups tree).map LayerGroup.muted :=
  Bindings.groups_muted conventions.entryFlag tree [] conventions.leader

theorem flags_muted (conventions : Conventions) (tree : Bindings) :
    conventions.flags tree.muted = conventions.flags tree := by
  rw [flags_eq_map_groups, flags_eq_map_groups, groups_muted, List.map_map]
  rfl

/-- The rules of a tree and of the muted one go together in pairs. -/
theorem forall₂_rulesWith_muted (flags : List String)
    {related : Manipulator → Manipulator → Prop}
    (ofCommand : ∀ key command, (key, command) ∈ tree.commands →
      related (conventions.leaderManipulator key command)
        (conventions.leaderManipulator key command.muted))
    (ofSublayer : ∀ group ∈ conventions.groups tree,
      List.Forall₂ related (conventions.groupManipulators flags group)
        (conventions.groupManipulators flags group.muted)) :
    List.Forall₂ related
      ((conventions.rulesWith flags tree).flatMap Rule.manipulators)
      ((conventions.rulesWith flags tree.muted).flatMap
        Rule.manipulators) := by
  induction tree with
  | nil => exact .nil
  | fires key command rest ih =>
      exact .cons (ofCommand key command List.mem_cons_self)
        (ih (fun bound other listed =>
          ofCommand bound other (List.mem_cons_of_mem _ listed)) ofSublayer)
  | opens key name description inner rest _ ih =>
      rw [groups_opens] at ofSublayer
      have one := conventions.groups_muted
        (.opens key name description inner .nil)
      rw [Bindings.muted, Bindings.muted] at one
      rw [Bindings.muted, rulesWith, rulesWith, one, List.flatMap_append,
        List.flatMap_append, List.map_map, List.flatMap_map, List.flatMap_map]
      refine List.rel_append ?_ (ih ofCommand fun group member =>
        ofSublayer group (List.mem_append_right _ member))
      rw [List.flatMap_def, List.flatMap_def]
      refine List.rel_flatten ?_
      rw [List.forall₂_map_left_iff, List.forall₂_map_right_iff,
        List.forall₂_same]
      exact fun group member =>
        ofSublayer group (List.mem_append_left _ member)

namespace Accepts

/-- A manipulator of the rules and its muted twin. -/
theorem twins_leader (accepts : conventions.Accepts tree) {key : KeyCode}
    {command : Command} (bound : (key, command) ∈ tree.commands) :
    (conventions.leaderManipulator key command).Twins
      (conventions.steering tree)
      (conventions.leaderManipulator key command.muted) where
  trigger := rfl
  conditions := rfl
  reads := accepts.reads_of_mem_rules
    (mem_manipulators_rules_iff.mpr (.inl ⟨key, command, bound, rfl⟩))
  update values values' agree name member := by
    rw [update_leaderManipulator (accepts.spares_of_mem_commands bound)
      member, update_leaderManipulator (command.spares_muted _) member,
      agree name member]

theorem forall₂_twins_groupManipulators
    (accepts : conventions.Accepts tree) {group : LayerGroup}
    (member : group ∈ conventions.groups tree) :
    List.Forall₂ (Manipulator.Twins (conventions.steering tree))
      (conventions.groupManipulators (conventions.flags tree) group)
      (conventions.groupManipulators (conventions.flags tree)
        group.muted) := by
  have entering := accepts.reads_of_mem_rules
    (mem_manipulators_rules_iff.mpr (.inr ⟨group, member, .inl rfl⟩))
  have leaving := accepts.reads_of_mem_rules
    (mem_manipulators_rules_iff.mpr (.inr ⟨group, member, .inr (.inl rfl)⟩))
  refine .cons (.of_reads entering) (.cons (.of_reads leaving) ?_)
  rw [LayerGroup.muted, Bindings.commands_muted, List.map_map,
    List.forall₂_map_left_iff, List.forall₂_map_right_iff,
    List.forall₂_same]
  rintro ⟨key, command⟩ bound
  exact
    { trigger := rfl
      conditions := rfl
      reads := accepts.reads_of_mem_rules (mem_manipulators_rules_iff.mpr
        (.inr ⟨group, member, .inr (.inr ⟨key, command, bound, rfl⟩)⟩))
      update := fun values values' agree name inSteering => by
        rw [Function.comp_apply, update_commandManipulator
            (accepts.spares_of_mem_group member bound) inSteering,
          update_commandManipulator (command.spares_muted _) inSteering,
          agree name inSteering] }

/-- What the commands of a tree do makes no difference to the steering. -/
theorem agreeOn_run_muted (accepts : conventions.Accepts tree)
    {values values' : Variables}
    (agree : values.AgreeOn (conventions.steering tree) values')
    (presses : List Press) :
    (run ((conventions.rules tree).flatMap Rule.manipulators) values
        presses).AgreeOn (conventions.steering tree)
      (run ((conventions.rules tree.muted).flatMap Rule.manipulators) values'
        presses) := by
  have alike := forall₂_rulesWith_muted (conventions.flags tree)
    (fun _ _ bound => accepts.twins_leader bound)
    (fun _ member => accepts.forall₂_twins_groupManipulators member)
  rw [rules, rules, conventions.flags_muted]
  exact (rel_fired (fun _ _ => id) alike agree presses).2

end Accepts

end Conventions

/--
Variables of the user never steer.  From two states that agree on the leader
and on every flag, whatever else they hold, the same presses fire the same
manipulators of the rules of a tree one after another, send the same, and
lead to states that agree on the leader and every flag again after each
press.  They do so whatever the commands of the tree do: rules of another tree
that differs in nothing but the effects of its commands leave the leader and
the flags as these rules do.
-/
theorem user_variables_never_steer {conventions : Conventions}
    {tree : Bindings} {rules : List Rule}
    (compiled : conventions.compile? tree = .ok rules)
    {start start' : Variables}
    (agree : ∀ name ∈ conventions.leader :: conventions.flags tree,
      start name = start' name)
    (presses : List Press) :
    let manipulators := rules.flatMap Rule.manipulators
    fired manipulators start presses = fired manipulators start' presses ∧
      outputs manipulators start presses =
        outputs manipulators start' presses ∧
      (∀ count, ∀ name ∈ conventions.leader :: conventions.flags tree,
        run manipulators start (presses.take count) name =
          run manipulators start' (presses.take count) name) ∧
      ∀ tree' rules', conventions.compile? tree' = .ok rules' →
        tree'.muted = tree.muted →
          ∀ count, ∀ name ∈ conventions.leader :: conventions.flags tree,
            run manipulators start (presses.take count) name =
              run (rules'.flatMap Rule.manipulators) start'
                (presses.take count) name := by
  intro manipulators
  rcases compile?_eq_ok_iff_accepts.mp compiled with ⟨accepts, rfl⟩
  have same : List.Forall₂
      (fun first second => second = first ∧ first ∈ manipulators)
      manipulators manipulators :=
    List.forall₂_same.mpr fun _ listed => ⟨rfl, listed⟩
  have twins : ∀ first second, second = first ∧ first ∈ manipulators →
      first.Twins (conventions.steering tree) second := by
    rintro first _ ⟨rfl, listed⟩
    exact .of_reads (accepts.reads_of_mem_rules listed)
  have sameFired : fired manipulators start presses =
      fired manipulators start' presses := by
    rw [← List.forall₂_eq_eq_eq]
    refine (rel_fired twins same agree presses).1.imp ?_
    rintro _ _ (⟨rfl, _⟩ | _) <;> rfl
  refine ⟨sameFired, ?_, fun count => ?_, ?_⟩
  · rw [outputs_eq_map_fired, outputs_eq_map_fired, sameFired]
  · exact (rel_fired twins same agree (presses.take count)).2
  · intro tree' rules' compiled' onlyEffects count
    rcases compile?_eq_ok_iff_accepts.mp compiled' with ⟨accepts', rfl⟩
    have flags : conventions.flags tree' = conventions.flags tree := by
      rw [← flags_muted, onlyEffects, flags_muted]
    have here := accepts.agreeOn_run_muted agree (presses.take count)
    have there := accepts'.agreeOn_run_muted (.refl start')
      (presses.take count)
    rw [onlyEffects, steering, flags] at there
    exact here.trans there.symm

/-- Commands that keep notes, on top and in a sublayer in a sublayer. -/
def Bindings.notingExample : Bindings :=
  .fires .q ⟨some "note", [.setVariable "note" (.integer 1)]⟩
    (.opens .s .s none
      (.opens .w .w none
        (.fires .u ⟨none, [.setVariable "note" (.text "seen"), .key .a []]⟩
          .nil)
        .nil)
      .nil)

/-- A note that is there before the presses shows in nothing they do. -/
theorem user_variables_never_steer_noting :
    let conventions : Conventions := {}
    let tree := Bindings.notingExample
    let start := Variables.unset.assign ⟨"leader", .integer 1⟩
    let start' := start.assign ⟨"note", .text "earlier"⟩
    let presses : List Press := [⟨.s, []⟩, ⟨.w, []⟩, ⟨.u, [.leftShift]⟩]
    start "note" ≠ start' "note" ∧ ∃ rules,
      conventions.compile? tree = .ok rules ∧
        fired (rules.flatMap Rule.manipulators) start presses =
          fired (rules.flatMap Rule.manipulators) start' presses := by
  intro conventions tree start start' presses
  have compiled : conventions.compile? tree = .ok (conventions.rules tree) :=
    compile?_eq_ok_iff.mpr ⟨by decide +kernel, rfl⟩
  have agree : ∀ name ∈ conventions.leader :: conventions.flags tree,
      start name = start' name := by
    decide +kernel
  exact ⟨by decide +kernel, _, compiled,
    (user_variables_never_steer compiled agree presses).1⟩

end ModalKeymap
