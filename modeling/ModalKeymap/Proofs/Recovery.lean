import ModalKeymap.Proofs.Exclusion

/-!
# Reading a tree back from its rules

The rules of a tree say everything about it but the descriptions of its
sublayers and how, inside a sublayer, commands and nested sublayers are mixed:
`Bindings.Alike` compares trees up to these two.  `Bindings.ofRules` reads a
tree back without knowing the conventions.  A manipulator on its own is a
command of the top level; a group is a sublayer, which is entered from the
variable that its first manipulator waits for last, and which has the
variable that its second one waits for.  Going through the rules from the
end, a sublayer takes in what has been read so far and waits for its variable.
Trees with the same rules are therefore alike, and alike trees have the same
rules (`rules_eq_iff_alike`).
-/

namespace ModalKeymap

/-! ## Trees that are alike -/

namespace Bindings

/--
The same sublayers in the same order, but for their descriptions and for the
order of commands and nested sublayers among each other.
-/
inductive AlikeSublayers :
    List (KeyCode × Sublayer) → List (KeyCode × Sublayer) → Prop
  | nil : AlikeSublayers [] []
  | cons {key : KeyCode} {first second : Sublayer}
      {firstLater secondLater : List (KeyCode × Sublayer)}
      (name : first.name = second.name)
      (commands : first.inner.commands = second.inner.commands)
      (nested :
        AlikeSublayers first.inner.sublayers second.inner.sublayers)
      (later : AlikeSublayers firstLater secondLater) :
      AlikeSublayers ((key, first) :: firstLater)
        ((key, second) :: secondLater)

/-- The same bindings in the same order, with sublayers that are alike. -/
inductive Alike : Bindings → Bindings → Prop
  | nil : Alike .nil .nil
  | fires {key : KeyCode} {command : Command} {first second : Bindings}
      (later : Alike first second) :
      Alike (.fires key command first) (.fires key command second)
  | opens {key name : KeyCode}
      {firstDescription secondDescription : Option String}
      {firstInner secondInner first second : Bindings}
      (commands : firstInner.commands = secondInner.commands)
      (nested : AlikeSublayers firstInner.sublayers secondInner.sublayers)
      (later : Alike first second) :
      Alike (.opens key name firstDescription firstInner first)
        (.opens key name secondDescription secondInner second)

theorem AlikeSublayers.symm {first second : List (KeyCode × Sublayer)}
    (alike : AlikeSublayers first second) : AlikeSublayers second first := by
  induction alike with
  | nil => exact .nil
  | cons name commands _ _ nestedIH laterIH =>
      exact .cons name.symm commands.symm nestedIH laterIH

theorem AlikeSublayers.trans
    {first second third : List (KeyCode × Sublayer)}
    (alike : AlikeSublayers first second)
    (further : AlikeSublayers second third) :
    AlikeSublayers first third := by
  induction alike generalizing third with
  | nil => exact further
  | cons name commands _ _ nestedIH laterIH =>
      cases further with
      | cons name' commands' nested' later' =>
          exact .cons (name.trans name') (commands.trans commands')
            (nestedIH nested') (laterIH later')

theorem Alike.symm {first second : Bindings} (alike : first.Alike second) :
    second.Alike first := by
  induction alike with
  | nil => exact .nil
  | fires _ ih => exact .fires ih
  | opens commands nested _ ih => exact .opens commands.symm nested.symm ih

theorem Alike.trans {first second third : Bindings}
    (alike : first.Alike second) (further : second.Alike third) :
    first.Alike third := by
  induction alike generalizing third with
  | nil => exact further
  | fires _ ih =>
      cases further with
      | fires later => exact .fires (ih later)
  | opens commands nested _ ih =>
      cases further with
      | opens commands' nested' later =>
          exact .opens (commands.trans commands') (nested.trans nested')
            (ih later)

/-- A layer with given commands and then given sublayers. -/
def gather (commands : List (KeyCode × Command))
    (sublayers : List (KeyCode × Sublayer)) : Bindings :=
  .ofList (commands.map (fun entry => (entry.1, .command entry.2)) ++
    sublayers.map fun entry => (entry.1, .sublayer entry.2))

@[simp]
theorem commands_gather (commands : List (KeyCode × Command))
    (sublayers : List (KeyCode × Sublayer)) :
    (gather commands sublayers).commands = commands := by
  induction commands with
  | nil =>
      induction sublayers with
      | nil => rfl
      | cons first rest ih => exact ih
  | cons first rest ih => exact congrArg (first :: ·) ih

@[simp]
theorem sublayers_gather (commands : List (KeyCode × Command))
    (sublayers : List (KeyCode × Sublayer)) :
    (gather commands sublayers).sublayers = sublayers := by
  induction commands with
  | nil =>
      induction sublayers with
      | nil => rfl
      | cons first rest ih => exact congrArg (first :: ·) ih
  | cons first rest ih => exact ih

end Bindings

/-! ## Reading rules -/

/-- A binding as rules tell of it, with the variable that it waits for. -/
structure FoundBinding where
  source : String
  key : KeyCode
  entry : Entry
  deriving DecidableEq, Repr

/-- The value that a rule gives a variable, as a command may have put it. -/
def FlagValue.ofVariable? : VariableValue → Option FlagValue
  | .text value => some (.text value)
  | .integer value => some (.integer value)
  | .boolean _ => none

/-- The effect that an event was made of. -/
def Effect.ofEvent? (event : Event) : Option Effect :=
  match event.key, event.consumerKey, event.shellCommand,
      event.assignment with
  | some sent, none, none, none =>
      some (.key sent (event.modifiers.getD []))
  | none, some sent, none, none => some (.consumerKey sent)
  | none, none, some run, none => some (.shell run)
  | none, none, none, some assignment =>
      (FlagValue.ofVariable? assignment.value).map
        (.setVariable assignment.name)
  | _, _, _, _ => none

namespace Manipulator

/-- The variable that a manipulator waits for last. -/
def source (manipulator : Manipulator) : String :=
  (manipulator.conditions.getLast?.map Condition.name).getD ""

/-- The command of a manipulator, given how many events close its layer. -/
def command (closing : Nat) (manipulator : Manipulator) : Command where
  description := manipulator.description
  effects := (manipulator.events.take
    (manipulator.events.length - closing)).filterMap Effect.ofEvent?

end Manipulator

/-- A command of the top level, in front of the bindings behind it. -/
def Manipulator.readInto (only : Manipulator) (found : List FoundBinding) :
    List FoundBinding :=
  ⟨only.source, only.trigger.key, .command (only.command 1)⟩ :: found

/--
A sublayer with its commands and with those of the bindings behind it that
wait for its own variable, in front of the others.
-/
def Manipulator.readGroupInto (enter leave : Manipulator)
    (commands : List Manipulator) (found : List FoundBinding) :
    List FoundBinding :=
  let (nested, others) := found.partition (·.source = leave.source)
  let inner := Bindings.ofList
    (commands.map (fun manipulator =>
        (manipulator.trigger.key, .command (manipulator.command 2))) ++
      nested.map fun binding => (binding.key, binding.entry))
  ⟨enter.source, enter.trigger.key,
    .sublayer ⟨enter.trigger.key, none, inner⟩⟩ :: others

/-- What a rule adds to the bindings that the rules behind it tell of. -/
def Rule.readInto (rule : Rule) (found : List FoundBinding) :
    List FoundBinding :=
  match rule.manipulators with
  | [] => found
  | [only] => only.readInto found
  | enter :: leave :: commands => enter.readGroupInto leave commands found

/-- The tree that rules tell of. -/
def Bindings.ofRules (rules : List Rule) : Bindings :=
  .ofList ((rules.foldr Rule.readInto []).map fun binding =>
    (binding.key, binding.entry))

/-! ## Reading what was written -/

@[simp]
theorem Effect.ofEvent?_ofEffect (effect : Effect) :
    Effect.ofEvent? (Event.ofEffect effect) = some effect := by
  cases effect with
  | key key modifiers => cases modifiers <;> rfl
  | setVariable name value => cases value <;> rfl
  | _ => rfl

theorem Manipulator.command_eq {manipulator : Manipulator}
    {command : Command} (closing : List Event)
    (description : manipulator.description = command.description)
    (events : manipulator.events =
      command.effects.map Event.ofEffect ++ closing) :
    manipulator.command closing.length = command := by
  have kept : manipulator.events.take
      (manipulator.events.length - closing.length) =
        command.effects.map Event.ofEffect := by
    simp [events]
  rw [Manipulator.command, kept, List.filterMap_map, description]
  simp

namespace Conventions

variable {conventions : Conventions}

theorem readInto_leaderRule (conventions : Conventions) (key : KeyCode)
    (command : Command) (found : List FoundBinding) :
    (conventions.leaderRule key command).readInto found =
      ⟨conventions.leader, key, .command command⟩ :: found := by
  have read : (conventions.leaderManipulator key command).command 1 =
      command :=
    Manipulator.command_eq [.switch conventions.leader false] rfl rfl
  show (conventions.leaderManipulator key command).readInto found = _
  rw [Manipulator.readInto, read]
  rfl

/-- A sublayer takes in just those bindings that wait for its flag. -/
theorem readInto_groupRule (conventions : Conventions)
    (flags : List String) (group : LayerGroup)
    (nested : List (KeyCode × Sublayer)) {found : List FoundBinding}
    (foreign : ∀ binding ∈ found,
      binding.source ≠ conventions.flag group.path) :
    (conventions.groupRule flags group).readInto
        (nested.map (fun child =>
          ⟨conventions.flag group.path, child.1, .sublayer child.2⟩) ++
            found) =
      ⟨group.parentFlag, group.name, .sublayer ⟨group.name, none,
        .gather group.inner.commands nested⟩⟩ :: found := by
  let inside := nested.map fun child => FoundBinding.mk
    (conventions.flag group.path) child.1 (.sublayer child.2)
  have entered : (conventions.entryManipulator flags group).source =
      group.parentFlag := by
    simp [Manipulator.source, entryManipulator, entryConditions,
      Condition.isOn]
  have ownInside : ∀ binding ∈ inside,
      binding.source = conventions.flag group.path := by
    intro binding listed
    rcases List.mem_map.mp listed with ⟨child, _, rfl⟩
    rfl
  -- the walk is depth first: nothing behind the subtree waits for its flag
  have parted : (inside ++ found).partition
      (fun binding => binding.source = conventions.flag group.path) =
        (inside, found) := by
    rw [List.partition_eq_filter_filter, List.filter_append,
      List.filter_append, List.filter_eq_self.mpr (by simpa using ownInside),
      List.filter_eq_nil_iff.mpr (by simpa using foreign),
      List.filter_eq_nil_iff.mpr (by simpa using ownInside),
      List.filter_eq_self.mpr (by simpa using foreign), List.append_nil,
      List.nil_append]
  have commands : (group.inner.commands.map fun entry =>
      conventions.commandManipulator group entry.1 entry.2).map
        (fun manipulator => (manipulator.trigger.key,
          Entry.command (manipulator.command 2))) =
      group.inner.commands.map fun entry =>
        (entry.1, .command entry.2) := by
    rw [List.map_map]
    apply List.map_congr_left
    intro entry _
    have read : (conventions.commandManipulator group entry.1
        entry.2).command 2 = entry.2 :=
      Manipulator.command_eq [.switch (conventions.flag group.path) false,
        .switch conventions.leader false] rfl rfl
    exact congrArg (fun command => (entry.1, Entry.command command)) read
  show (conventions.entryManipulator flags group).readGroupInto
    (conventions.escapeManipulator group) _ (inside ++ found) = _
  have leaves : (conventions.escapeManipulator group).source =
      conventions.flag group.path := rfl
  have bindings : inside.map (fun binding => (binding.key, binding.entry)) =
      nested.map fun child => (child.1, .sublayer child.2) :=
    List.map_map ..
  rw [Manipulator.readGroupInto, leaves, parted, entered, commands]
  exact congrArg (fun listed => FoundBinding.mk group.parentFlag group.name
    (.sublayer ⟨group.name, none, .ofList (_ ++ listed)⟩) :: found) bindings

variable {conventions : Conventions} {lead : String}

/--
The rules of the sublayers of a layer tell of these sublayers, as they are
alike, in front of what the rules behind them tell of.
-/
theorem exists_found_sublayers
    (underscored : conventions.naming = .underscored lead)
    {layer : Bindings} (named : layer.SelfNamed) (flags : List String)
    {path : KeyPath} {parentFlag : String} {found : List FoundBinding}
    (distinct : ((layer.groups conventions.entryFlag path parentFlag).map
      fun group => conventions.flag group.path).Nodup)
    (foreign : (parentFlag :: found.map FoundBinding.source).Disjoint
      ((layer.groups conventions.entryFlag path parentFlag).map
        fun group => conventions.flag group.path)) :
    ∃ sublayers, Bindings.AlikeSublayers layer.sublayers sublayers ∧
      ((layer.groups conventions.entryFlag path parentFlag).map
          (conventions.groupRule flags)).foldr Rule.readInto found =
        sublayers.map (fun entry =>
          ⟨parentFlag, entry.1, .sublayer entry.2⟩) ++ found := by
  induction layer generalizing path parentFlag found with
  | nil => exact ⟨[], .nil, rfl⟩
  | fires key command rest ih => exact ih named distinct foreign
  | opens key name description inner rest innerIH restIH =>
      rcases named with ⟨rfl, innerNamed, restNamed⟩
      have enters : conventions.entryFlag (path ++ [name]) =
          conventions.flag (path ++ [name]) :=
        entryFlag_eq_flag_of_underscored underscored (List.concat_ne_nil _ _)
      rw [Bindings.groups, enters] at distinct foreign ⊢
      rw [List.map_cons, List.map_append] at distinct foreign
      rcases List.nodup_cons.mp distinct with ⟨ownFree, belowNodup⟩
      rcases List.nodup_append'.mp belowNodup with
        ⟨innerNodup, restNodup, _⟩
      rcases List.disjoint_cons_right.mp foreign with
        ⟨ownForeign, belowForeign⟩
      rcases List.disjoint_append_right.mp belowForeign with
        ⟨innerForeign, restForeign⟩
      -- first the rules behind this subtree, then those in it
      rcases restIH restNamed restNodup restForeign with
        ⟨siblings, siblingsAlike, siblingsRead⟩
      let behind := siblings.map (fun entry => FoundBinding.mk parentFlag
        entry.1 (.sublayer entry.2)) ++ found
      have behindSubset : behind.map FoundBinding.source ⊆
          parentFlag :: found.map FoundBinding.source := by
        rw [List.map_append, List.map_map]
        apply List.append_subset.mpr
        constructor
        · intro source listed
          rcases List.mem_map.mp listed with ⟨entry, _, rfl⟩
          exact List.mem_cons_self
        · exact List.subset_cons_self _ _
      have nestedForeign := List.disjoint_cons_left.mpr
        ⟨fun listed => ownFree (List.mem_append_left _ listed),
          List.disjoint_of_subset_left behindSubset innerForeign⟩
      rcases innerIH innerNamed innerNodup nestedForeign with
        ⟨nested, nestedAlike, nestedRead⟩
      refine ⟨(name, ⟨name, none, .gather inner.commands nested⟩) ::
        siblings, ?_, ?_⟩
      · apply Bindings.AlikeSublayers.cons
        · rfl
        · exact (Bindings.commands_gather _ _).symm
        · rw [Bindings.sublayers_gather]
          exact nestedAlike
        · exact siblingsAlike
      · rw [List.map_cons, List.map_append, List.foldr_cons,
          List.foldr_append, siblingsRead, nestedRead]
        refine conventions.readInto_groupRule flags _ nested ?_
        intro binding listed same
        exact ownForeign
          (same ▸ behindSubset (List.mem_map_of_mem listed))

/-- The rules of a tree tell of its bindings, as they are alike. -/
theorem exists_found_entries
    (underscored : conventions.naming = .underscored lead)
    {tree : Bindings} (named : tree.SelfNamed) (flags : List String)
    (distinct : (conventions.leader :: (conventions.groups tree).map
      fun group => conventions.flag group.path).Nodup) :
    ∃ entries, tree.Alike (.ofList entries) ∧
      (conventions.rulesWith flags tree).foldr Rule.readInto [] =
        entries.map fun entry =>
          ⟨conventions.leader, entry.1, entry.2⟩ := by
  induction tree with
  | nil => exact ⟨[], .nil, rfl⟩
  | fires key command rest ih =>
      rcases ih named distinct with ⟨entries, alike, read⟩
      refine ⟨(key, .command command) :: entries, .fires alike, ?_⟩
      rw [rulesWith, List.foldr_cons, read, readInto_leaderRule]
      rfl
  | opens key name description inner rest _ ih =>
      let one : Bindings := .opens key name description inner .nil
      rw [groups_opens, List.map_append] at distinct
      rcases List.nodup_cons.mp distinct with ⟨leaderFree, flagsNodup⟩
      rcases List.nodup_append'.mp flagsNodup with ⟨oneNodup, restNodup, _⟩
      rw [List.mem_append, not_or] at leaderFree
      rcases ih named.2.2
          (List.nodup_cons.mpr ⟨leaderFree.2, restNodup⟩) with
        ⟨entries, alike, read⟩
      have oneForeign : (conventions.leader :: (entries.map fun entry =>
          FoundBinding.mk conventions.leader entry.1 entry.2).map
            FoundBinding.source).Disjoint
          ((conventions.groups one).map fun group =>
            conventions.flag group.path) := by
        rw [List.map_map]
        apply List.disjoint_cons_left.mpr
        refine ⟨leaderFree.1, ?_⟩
        intro source listed isFlag
        rcases List.mem_map.mp listed with ⟨entry, _, rfl⟩
        exact leaderFree.1 isFlag
      have oneNamed : one.SelfNamed := ⟨named.1, named.2.1, trivial⟩
      rcases exists_found_sublayers underscored oneNamed flags oneNodup
          oneForeign with ⟨sublayers, sublayersAlike, oneRead⟩
      rcases sublayersAlike with _ | ⟨sameName, commands, nested, ⟨⟩⟩
      rename_i sublayer
      rcases sublayer with ⟨_, otherDescription, otherInner⟩
      cases sameName
      refine ⟨(key, .sublayer ⟨name, otherDescription, otherInner⟩) ::
        entries, .opens commands nested alike, ?_⟩
      rw [rulesWith, List.foldr_append, read]
      exact oneRead

/-! ## Writing trees that are alike -/

/-- What is made of a sublayer without looking at what is nested in it. -/
def LooksAtCommands {α : Type} (make : LayerGroup → α) : Prop :=
  ∀ path name parentFlag (first second : Bindings),
    first.commands = second.commands →
      make ⟨path, name, first, parentFlag⟩ =
        make ⟨path, name, second, parentFlag⟩

end Conventions

namespace Bindings

/-- Of sublayers that are alike the same is made. -/
theorem AlikeSublayers.map_groups_eq {α : Type} {make : LayerGroup → α}
    (looks : Conventions.LooksAtCommands make)
    (entryFlag : KeyPath → String) {first second : Bindings}
    (alike : AlikeSublayers first.sublayers second.sublayers)
    (path : KeyPath) (parentFlag : String) :
    (first.groups entryFlag path parentFlag).map make =
      (second.groups entryFlag path parentFlag).map make := by
  rw [groups_eq_flatMap, groups_eq_flatMap]
  generalize first.sublayers = firstSublayers at alike
  generalize second.sublayers = secondSublayers at alike
  induction alike generalizing path parentFlag with
  | nil => rfl
  | @cons key first second _ _ name commands nested later nestedIH laterIH =>
      rcases first with ⟨name, description, inner⟩
      rcases second with ⟨_, otherDescription, otherInner⟩
      cases name
      have below := nestedIH (path ++ [name]) (entryFlag (path ++ [name]))
      rw [← groups_eq_flatMap, ← groups_eq_flatMap] at below
      rw [List.flatMap_cons, List.flatMap_cons, List.map_append,
        List.map_append, laterIH, List.map_cons, List.map_cons, below]
      exact congrArg (fun head => head :: _ ++ _)
        (looks _ _ _ _ _ commands)

theorem Alike.sublayers {first second : Bindings}
    (alike : first.Alike second) :
    AlikeSublayers first.sublayers second.sublayers := by
  induction alike with
  | nil => exact .nil
  | fires _ ih => exact ih
  | opens commands nested _ ih => exact .cons rfl commands nested ih

end Bindings

namespace Conventions

variable {conventions : Conventions} {lead : String} {first second : Bindings}

theorem looksAtCommands_groupRule (conventions : Conventions)
    (flags : List String) :
    LooksAtCommands (conventions.groupRule flags) := by
  intro path name parentFlag first second commands
  unfold groupRule groupManipulators
  rw [commands]
  rfl

theorem flags_eq_of_alike (alike : first.Alike second) :
    conventions.flags first = conventions.flags second := by
  have looks : LooksAtCommands fun group =>
      (conventions.flag group.path, group.path) :=
    fun _ _ _ _ _ _ => rfl
  exact congrArg (List.map Prod.fst)
    (alike.sublayers.map_groups_eq looks conventions.entryFlag [] _)

theorem rulesWith_eq_of_alike (flags : List String)
    (alike : first.Alike second) :
    conventions.rulesWith flags first =
      conventions.rulesWith flags second := by
  induction alike with
  | nil => rfl
  | fires _ ih => exact congrArg (_ :: ·) ih
  | @opens key name description otherDescription inner otherInner _ _
      commands nested _ ih =>
      have one : (Bindings.opens key name description inner .nil).Alike
          (.opens key name otherDescription otherInner .nil) :=
        .opens commands nested .nil
      have groups := one.sublayers.map_groups_eq
        (conventions.looksAtCommands_groupRule flags) conventions.entryFlag
        [] conventions.leader
      exact congrArg₂ (· ++ ·) groups ih

theorem rules_eq_of_alike (alike : first.Alike second) :
    conventions.rules first = conventions.rules second := by
  rw [rules, rules, flags_eq_of_alike alike, rulesWith_eq_of_alike _ alike]

/-! ## Both ways -/

theorem Accepts.alike_ofRules {tree : Bindings}
    (accepts : conventions.Accepts tree)
    (underscored : conventions.naming = .underscored lead)
    (named : tree.SelfNamed) :
    tree.Alike (.ofRules (conventions.rules tree)) := by
  have distinct : (conventions.leader :: (conventions.groups tree).map
      fun group => conventions.flag group.path).Nodup := by
    have nodup := accepts.steering_nodup
    rwa [steering, flags_eq_map_groups] at nodup
  rcases exists_found_entries underscored named (conventions.flags tree)
    distinct with ⟨entries, alike, read⟩
  have decoded : Bindings.ofRules (conventions.rules tree) =
      .ofList entries := by
    rw [Bindings.ofRules, rules, read, List.map_map]
    exact congrArg Bindings.ofList (List.map_id _)
  exact decoded ▸ alike

/--
With flags that join names behind a lead, two trees whose sublayers stand
under their own names and that are not refused have the same rules exactly if
they are alike, and each is alike to what is read back from its rules.
-/
theorem rules_eq_iff_alike
    (underscored : conventions.naming = .underscored lead)
    (firstNamed : first.SelfNamed) (secondNamed : second.SelfNamed)
    {firstRules secondRules : List Rule}
    (firstCompiled : conventions.compile? first = .ok firstRules)
    (secondCompiled : conventions.compile? second = .ok secondRules) :
    (firstRules = secondRules ↔ first.Alike second) ∧
      first.Alike (.ofRules firstRules) := by
  rcases compile?_eq_ok_iff_accepts.mp firstCompiled with
    ⟨firstAccepts, rfl⟩
  rcases compile?_eq_ok_iff_accepts.mp secondCompiled with
    ⟨secondAccepts, rfl⟩
  have firstRead := firstAccepts.alike_ofRules underscored firstNamed
  have secondRead := secondAccepts.alike_ofRules underscored secondNamed
  refine ⟨⟨?_, rules_eq_of_alike⟩, firstRead⟩
  intro same
  rw [same] at firstRead
  exact firstRead.trans secondRead.symm

end Conventions

/-- `nestedExample` with one sublayer described and in another order. -/
def Bindings.reorderedExample : Bindings :=
  .fires .q (.run "quit")
    (.opens .s .s (some "applications")
      (.opens .w .w none (.fires .u (.openTarget "U") .nil)
        (.fires .a (.openTarget "A") .nil))
      .nil)

/-- The two trees differ, and have the same rules. -/
theorem Conventions.nestedExample_reordered :
    let conventions : Conventions := {}
    let tree := Bindings.nestedExample
    let other := Bindings.reorderedExample
    tree ≠ other ∧ tree.Alike other ∧
      ∃ rules, conventions.compile? tree = .ok rules ∧
        conventions.compile? other = .ok rules ∧
        tree.Alike (.ofRules rules) := by
  intro conventions tree other
  have alike : tree.Alike other :=
    .fires (.opens rfl (.cons rfl rfl .nil .nil) .nil)
  have compiled : conventions.compile? tree = .ok (conventions.rules tree) :=
    compile?_eq_ok_iff.mpr ⟨by decide +kernel, rfl⟩
  have otherCompiled :
      conventions.compile? other = .ok (conventions.rules other) :=
    compile?_eq_ok_iff.mpr ⟨by decide +kernel, rfl⟩
  rcases rules_eq_iff_alike rfl (by decide) (by decide) compiled
    otherCompiled with ⟨same_iff, read⟩
  refine ⟨by decide, alike, _, compiled, ?_, read⟩
  rw [same_iff.mpr alike]
  exact otherCompiled

end ModalKeymap
