import ModalKeymap.Proofs.Exclusion
import Mathlib.Data.List.Sort
import Mathlib.Data.Multiset.MapFold
import Mathlib.Data.String.Basic

/-!
# Declaring bindings in another order

`Bindings.Reordered` relates two trees whose layers list the same bindings in
different orders, at any depth.  The sublayers of the one tree then match
those of the other one to one (`Reordered.groups`): each with one at the same
path, entered from the same variable, with the same bindings inside, again in
another order.  The flags are the same up to their order, and sorting them
takes that away (`mergeSort_eq_of_perm`), so what guards a sublayer does not
change at all.  The checks of `Conventions.fault?` ask about all bindings,
whichever comes first, so either tree is refused if the other one is
(`Accepts.reordered`).
-/

namespace ModalKeymap

namespace Bindings

/-! ## Trees in another order -/

/-- The keys of the sublayers of a layer, with the names of the sublayers. -/
def registrations (layer : Bindings) : List (KeyCode × KeyCode) :=
  layer.sublayers.map fun entry => (entry.1, entry.2.name)

theorem entrywise_registrations : Entrywise registrations where
  nil := rfl
  cons key entry rest := by cases entry <;> rfl

/--
The same bindings in every layer of two trees, listed in different orders:
what comes of rearranging the layer on top, or a layer inside a sublayer of
it, any number of times.
-/
inductive Reordered : Bindings → Bindings → Prop
  | permute {first second : Bindings}
      (entries : first.toList.Perm second.toList) : Reordered first second
  | inside {key name : KeyCode} {description : Option String}
      {inner inner' rest : Bindings} (nested : Reordered inner inner') :
      Reordered (.opens key name description inner rest)
        (.opens key name description inner' rest)
  | trans {first second third : Bindings} (left : Reordered first second)
      (right : Reordered second third) : Reordered first third

namespace Reordered

variable {first second : Bindings}

theorem refl (layer : Bindings) : layer.Reordered layer :=
  .permute (.refl _)

theorem symm (reordered : first.Reordered second) :
    second.Reordered first := by
  induction reordered with
  | permute entries => exact .permute entries.symm
  | inside _ ih => exact .inside ih
  | trans _ _ leftIH rightIH => exact rightIH.trans leftIH

/-- A view that does not look into sublayers shows the same as before. -/
theorem perm_of_blind {α : Type} {view : Bindings → List α}
    (entrywise : Entrywise view)
    (blind : ∀ key name description inner inner',
      view (.opens key name description inner .nil) =
        view (.opens key name description inner' .nil))
    (reordered : first.Reordered second) :
    (view first).Perm (view second) := by
  induction reordered with
  | permute entries => exact entrywise.perm entries
  | @inside key name description inner inner' rest _ _ =>
      have parted : ∀ nested, view (.opens key name description nested rest) =
          view (.opens key name description nested .nil) ++ view rest :=
        fun nested =>
          entrywise.cons key (.sublayer ⟨name, description, nested⟩) rest
      rw [parted inner, parted inner', blind key name description inner inner']
  | trans _ _ leftIH rightIH => exact leftIH.trans rightIH

theorem keys_perm (reordered : first.Reordered second) :
    first.keys.Perm second.keys :=
  reordered.perm_of_blind entrywise_keys fun _ _ _ _ _ => rfl

theorem commands_perm (reordered : first.Reordered second) :
    first.commands.Perm second.commands :=
  reordered.perm_of_blind entrywise_commands fun _ _ _ _ _ => rfl

theorem registrations_perm (reordered : first.Reordered second) :
    first.registrations.Perm second.registrations :=
  reordered.perm_of_blind entrywise_registrations fun _ _ _ _ _ => rfl

theorem commandsBelow_perm (reordered : first.Reordered second)
    (path : KeyPath) :
    (first.commandsBelow path).Perm (second.commandsBelow path) := by
  induction reordered generalizing path with
  | permute entries => exact (entrywise_commandsBelow path).perm entries
  | inside _ ih => exact (ih _).append_right _
  | trans _ _ leftIH rightIH => exact (leftIH path).trans (rightIH path)

end Reordered

end Bindings

/-- Two sublayers in the same place, with the same bindings in some order. -/
structure LayerGroup.Reordered (group group' : LayerGroup) : Prop where
  path : group'.path = group.path
  name : group'.name = group.name
  parentFlag : group'.parentFlag = group.parentFlag
  inner : group.inner.Reordered group'.inner

instance : IsTrans LayerGroup LayerGroup.Reordered where
  trans _ _ _ left right :=
    { path := right.path.trans left.path
      name := right.name.trans left.name
      parentFlag := right.parentFlag.trans left.parentFlag
      inner := left.inner.trans right.inner }

theorem LayerGroup.Reordered.refl (group : LayerGroup) :
    group.Reordered group :=
  ⟨rfl, rfl, rfl, .refl _⟩

/-- The sublayers of a tree match those of the tree in another order. -/
theorem Bindings.Reordered.groups {first second : Bindings}
    (reordered : first.Reordered second) (entryFlag : KeyPath → String)
    (path : KeyPath) (parentFlag : String) :
    Multiset.Rel LayerGroup.Reordered
      (first.groups entryFlag path parentFlag : Multiset LayerGroup)
      (second.groups entryFlag path parentFlag) := by
  have same : ∀ groups : Multiset LayerGroup,
      groups.Rel LayerGroup.Reordered groups := fun groups =>
    Multiset.rel_refl_of_refl_on fun group _ => .refl group
  induction reordered generalizing path parentFlag with
  | permute entries =>
      have perm := (entrywise_groups entryFlag path parentFlag).perm entries
      rw [Multiset.coe_eq_coe.mpr perm]
      exact same _
  | @inside key name description inner inner' rest nested ih =>
      have below := (ih (path ++ [name]) (entryFlag (path ++ [name]))).add
        (same (rest.groups entryFlag path parentFlag))
      exact .cons ⟨rfl, rfl, rfl, nested⟩ below
  | trans _ _ leftIH rightIH =>
      exact (leftIH path parentFlag).trans _ (rightIH path parentFlag)

/-- What matching elements are mapped to alike is the same of two lists. -/
theorem map_perm_of_rel {α β : Type} {related : α → α → Prop} {make : α → β}
    {first second : List α}
    (matched : Multiset.Rel related (first : Multiset α) second)
    (alike : ∀ one other, related one other → make one = make other) :
    (first.map make).Perm (second.map make) := by
  have made : Multiset.Rel Eq ((first : Multiset α).map make)
      ((second : Multiset α).map make) :=
    Multiset.rel_map.mpr (matched.mono fun one _ other _ => alike one other)
  rw [Multiset.rel_eq, Multiset.map_coe, Multiset.map_coe] at made
  exact Multiset.coe_eq_coe.mp made

/-- The order of names is gone once they are sorted. -/
theorem mergeSort_eq_of_perm {names names' : List String}
    (perm : names.Perm names') :
    names.mergeSort (· ≤ ·) = names'.mergeSort (· ≤ ·) :=
  ((List.mergeSort_perm names _).trans
      (perm.trans (List.mergeSort_perm names' _).symm)).eq_of_pairwise'
    (List.pairwise_mergeSort' (· ≤ ·) names)
    (List.pairwise_mergeSort' (· ≤ ·) names')

namespace Conventions

variable {conventions : Conventions} {tree tree' : Bindings}

theorem rel_groups (conventions : Conventions)
    (reordered : tree.Reordered tree') :
    Multiset.Rel LayerGroup.Reordered
      (conventions.groups tree : Multiset LayerGroup)
      (conventions.groups tree') :=
  reordered.groups conventions.entryFlag [] conventions.leader

theorem flags_perm (conventions : Conventions)
    (reordered : tree.Reordered tree') :
    (conventions.flags tree).Perm (conventions.flags tree') := by
  rw [flags_eq_map_groups, flags_eq_map_groups]
  exact map_perm_of_rel (conventions.rel_groups reordered)
    fun _ _ matched => congrArg conventions.flag matched.path.symm

theorem steering_perm (conventions : Conventions)
    (reordered : tree.Reordered tree') :
    (conventions.steering tree).Perm (conventions.steering tree') :=
  (conventions.flags_perm reordered).cons conventions.leader

/-! ## What is refused does not depend on the order -/

/-- A tree in another order keeps to the same conditions. -/
theorem Accepts.reordered (accepts : conventions.Accepts tree)
    (reordered : tree.Reordered tree') : conventions.Accepts tree' := by
  have registered : ∀ key sublayer', (key, sublayer') ∈ tree'.sublayers →
      ∃ sublayer, (key, sublayer) ∈ tree.sublayers ∧
        sublayer.name = sublayer'.name := by
    intro key sublayer' bound
    have listed : (key, sublayer'.name) ∈ tree.registrations :=
      reordered.registrations_perm.mem_iff.mpr
        (List.mem_map.mpr ⟨_, bound, rfl⟩)
    rcases List.mem_map.mp listed with ⟨⟨registered, sublayer⟩, stands, same⟩
    rcases Prod.mk.inj same with ⟨rfl, named⟩
    exact ⟨sublayer, stands, named⟩
  constructor
  · intro key sublayer' bound
    rcases registered key sublayer' bound with ⟨sublayer, bound, same⟩
    exact same ▸ accepts.selfNamed key sublayer bound
  · intro key sublayer' bound
    rcases registered key sublayer' bound with ⟨sublayer, bound, _⟩
    exact accepts.notEscape key sublayer bound
  · exact (conventions.steering_perm reordered).nodup_iff.mp
      accepts.steering_nodup
  · intro path command below name written reserved
    exact accepts.spares path command
      ((reordered.commandsBelow_perm []).mem_iff.mpr below) name written
      ((conventions.steering_perm reordered).mem_iff.mpr reserved)
  · intro group' member key bound
    rcases Multiset.exists_mem_of_rel_of_mem
        (conventions.rel_groups reordered.symm) member with
      ⟨group, member, matched⟩
    rw [← matched.name]
    exact accepts.unambiguous group member key
      (matched.inner.keys_perm.mem_iff.mp bound)

/-! ## Rules that belong together -/

theorem entryManipulator_eq_of_reordered (conventions : Conventions)
    {flags flags' : List String} {group group' : LayerGroup}
    (perm : flags.Perm flags')
    (matched : group.Reordered group') :
    conventions.entryManipulator flags' group' =
      conventions.entryManipulator flags group := by
  simp only [entryManipulator, entering, entryConditions, matched.path,
    matched.name, matched.parentFlag, mergeSort_eq_of_perm perm]

theorem escapeManipulator_eq_of_reordered (conventions : Conventions)
    {group group' : LayerGroup} (matched : group.Reordered group') :
    conventions.escapeManipulator group' =
      conventions.escapeManipulator group := by
  simp only [escapeManipulator, matched.path]

/--
Rules of two trees for the same binding of theirs.  Those of a command are
equal.  Those of a sublayer are for the same path, with the same description
and the same manipulators to enter and to leave it; only the manipulators of
its commands may be in another order.
-/
inductive Counterpart (conventions : Conventions) (tree tree' : Bindings) :
    Rule → Rule → Prop
  | command {key : KeyCode} {command : Command}
      (bound : (key, command) ∈ tree.commands)
      (bound' : (key, command) ∈ tree'.commands) :
      Counterpart conventions tree tree'
        (conventions.leaderRule key command)
        (conventions.leaderRule key command)
  | sublayer {group group' : LayerGroup} {description : String}
      {enter leave : Manipulator} {leaves leaves' : List Manipulator}
      (member : group ∈ conventions.groups tree)
      (member' : group' ∈ conventions.groups tree')
      (path : group'.path = group.path)
      (rule : conventions.groupRule (conventions.flags tree) group =
        ⟨description, enter :: leave :: leaves⟩)
      (rule' : conventions.groupRule (conventions.flags tree') group' =
        ⟨description, enter :: leave :: leaves'⟩)
      (order : leaves.Perm leaves') :
      Counterpart conventions tree tree'
        ⟨description, enter :: leave :: leaves⟩
        ⟨description, enter :: leave :: leaves'⟩

theorem counterpart_groupRule (reordered : tree.Reordered tree')
    {group group' : LayerGroup} (member : group ∈ conventions.groups tree)
    (member' : group' ∈ conventions.groups tree')
    (matched : group.Reordered group') :
    conventions.Counterpart tree tree'
      (conventions.groupRule (conventions.flags tree) group)
      (conventions.groupRule (conventions.flags tree') group') := by
  have enter := conventions.entryManipulator_eq_of_reordered
    (conventions.flags_perm reordered) matched
  have leave := conventions.escapeManipulator_eq_of_reordered matched
  have parts : ∀ flags shown, conventions.groupRule flags shown =
      ⟨"Leader Key sublayer \"" ++ shown.path.describe ++ "\"",
        conventions.entryManipulator flags shown ::
          conventions.escapeManipulator shown ::
          shown.inner.commands.map fun entry =>
            conventions.commandManipulator shown entry.1 entry.2⟩ :=
    fun _ _ => rfl
  have rule := parts (conventions.flags tree) group
  have rule' := parts (conventions.flags tree') group'
  simp only [enter, leave, commandManipulator, matched.path] at rule rule'
  rw [rule, rule']
  exact .sublayer member member' matched.path rule rule'
    (matched.inner.commands_perm.map _)

/-- The rules of two trees in different orders match one to one. -/
theorem rel_rules (reordered : tree.Reordered tree') :
    Multiset.Rel (conventions.Counterpart tree tree')
      (conventions.rules tree : Multiset Rule) (conventions.rules tree') := by
  have commands : Multiset.Rel (conventions.Counterpart tree tree')
      (tree.commands.map fun entry => conventions.leaderRule entry.1 entry.2 :
        Multiset Rule)
      (tree'.commands.map fun entry =>
        conventions.leaderRule entry.1 entry.2) := by
    rw [Multiset.coe_eq_coe.mpr (reordered.commands_perm.symm.map _)]
    refine Multiset.rel_refl_of_refl_on fun rule listed => ?_
    rcases List.mem_map.mp listed with ⟨⟨key, command⟩, bound, rfl⟩
    exact .command bound (reordered.commands_perm.mem_iff.mp bound)
  have sublayers : Multiset.Rel (conventions.Counterpart tree tree')
      ((conventions.groups tree).map
        (conventions.groupRule (conventions.flags tree)) : Multiset Rule)
      ((conventions.groups tree').map
        (conventions.groupRule (conventions.flags tree'))) := by
    rw [← Multiset.map_coe, ← Multiset.map_coe, Multiset.rel_map]
    exact (conventions.rel_groups reordered).mono
      fun _ member _ member' => counterpart_groupRule reordered member member'
  have parted := fun layer => Multiset.coe_eq_coe.mpr
    (conventions.rulesWith_perm (conventions.flags layer) layer)
  rw [rules, rules, parted tree, parted tree']
  exact commands.add sublayers

end Conventions

/--
Declaring the bindings of a tree in another order, on top and in any
sublayers at any depth, changes nothing but the order of what comes out: the
one tree is refused just if the other is, and otherwise their rules match one
to one.  No path is that of two sublayers, so that the rule of a sublayer
cannot be matched with that of another one.
-/
theorem Conventions.rules_in_any_order {conventions : Conventions}
    {tree tree' : Bindings} (reordered : tree.Reordered tree') :
    ((∃ rules, conventions.compile? tree = .ok rules) ↔
        ∃ rules', conventions.compile? tree' = .ok rules') ∧
      ∀ rules rules', conventions.compile? tree = .ok rules →
        conventions.compile? tree' = .ok rules' →
          Multiset.Rel (conventions.Counterpart tree tree')
              (rules : Multiset Rule) rules' ∧
            ((conventions.groups tree).map LayerGroup.path).Nodup ∧
            ((conventions.groups tree').map LayerGroup.path).Nodup := by
  simp only [compile?_eq_ok_iff_accepts]
  constructor
  · constructor
    · rintro ⟨_, accepts, _⟩
      exact ⟨_, accepts.reordered reordered, rfl⟩
    · rintro ⟨_, accepts', _⟩
      exact ⟨_, accepts'.reordered reordered.symm, rfl⟩
  · rintro rules rules' ⟨accepts, rfl⟩ ⟨accepts', rfl⟩
    exact ⟨rel_rules reordered, accepts.map_path_nodup,
      accepts'.map_path_nodup⟩

/-- A command beside a sublayer with two commands and a sublayer of its own. -/
def Bindings.declaredExample : Bindings :=
  .fires .q (.run "quit")
    (.opens .s .s none
      (.fires .a (.openTarget "A")
        (.fires .b (.openTarget "B")
          (.opens .w .w none (.fires .u (.openTarget "U") .nil) .nil)))
      .nil)

/-- The same bindings, with the commands of either layer further down. -/
def Bindings.redeclaredExample : Bindings :=
  .opens .s .s none
    (.fires .b (.openTarget "B")
      (.opens .w .w none (.fires .u (.openTarget "U") .nil)
        (.fires .a (.openTarget "A") .nil)))
    (.fires .q (.run "quit") .nil)

/-- The rules come in another order, and so do the commands inside of one. -/
theorem Conventions.rules_in_any_order_nested :
    let conventions : Conventions := {}
    let tree := Bindings.declaredExample
    let tree' := Bindings.redeclaredExample
    tree.Reordered tree' ∧ ∃ rules rules',
      conventions.compile? tree = .ok rules ∧
        conventions.compile? tree' = .ok rules' ∧
        ¬ rules.Perm rules' ∧
        Multiset.Rel (conventions.Counterpart tree tree')
          (rules : Multiset Rule) rules' := by
  intro conventions tree tree'
  have below : Bindings.Reordered
      (.fires .a (.openTarget "A")
        (.fires .b (.openTarget "B")
          (.opens .w .w none (.fires .u (.openTarget "U") .nil) .nil)))
      (.fires .b (.openTarget "B")
        (.opens .w .w none (.fires .u (.openTarget "U") .nil)
          (.fires .a (.openTarget "A") .nil))) :=
    .permute (.trans (.swap _ _ _) (.cons _ (.swap _ _ _)))
  have upper : tree.Reordered
      (.opens .s .s none _ (.fires .q (.run "quit") .nil)) :=
    .permute (.swap _ _ _)
  have reordered : tree.Reordered tree' :=
    upper.trans (.inside below)
  have compiled : conventions.compile? tree = .ok (conventions.rules tree) :=
    compile?_eq_ok_iff.mpr ⟨by decide +kernel, rfl⟩
  rcases rules_in_any_order reordered with ⟨accepted_iff, matched⟩
  rcases accepted_iff.mp ⟨_, compiled⟩ with ⟨rules', compiled'⟩
  have differ : ¬ (conventions.rules tree).Perm rules' := by
    rw [← (compile?_eq_ok_iff.mp compiled').2]
    intro perm
    have keys := perm.map fun rule =>
      rule.manipulators.map fun manipulator => manipulator.trigger.key
    revert keys
    decide +kernel
  exact ⟨reordered, _, _, compiled, compiled', differ,
    (matched _ _ compiled compiled').1⟩

end ModalKeymap
