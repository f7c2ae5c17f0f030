import ModalKeymap.Proofs.Exclusion
import ModalKeymap.Proofs.Refusal
import Mathlib.Data.List.Pairwise

/-!
# Flags that names make

The usual naming joins the names on the way to a sublayer by underscores, and
many names hold underscores themselves.  Still no two ways make the same flag.
A name with an underscore put behind it differs from every other such name at
a place that both have (`KeyCode.marked_diverge`), so what is joined is read
back one name at a time (`KeyCode.flatMap_marked_injective`).  With this
naming the flag of a sublayer is therefore never taken by another sublayer,
and a tree is refused for a shared flag just where the leader has it.
-/

namespace ModalKeymap

/-! ## Words that differ somewhere -/

section Diverge

variable {α β : Type} [DecidableEq β]

/-- Whether two words differ at a place that both have. -/
def diverge : List β → List β → Bool
  | first :: firstRest, second :: secondRest =>
      first != second || diverge firstRest secondRest
  | _, _ => false

theorem diverge_comm (first second : List β) :
    diverge first second = diverge second first := by
  induction first generalizing second with
  | nil => cases second <;> rfl
  | cons head rest ih =>
      cases second with
      | nil => rfl
      | cons other others =>
          rw [diverge, diverge, ih, bne_comm]

/-- Words that differ somewhere differ whatever comes behind them. -/
theorem append_ne_of_diverge {first second : List β}
    (apart : diverge first second) (firstRest secondRest : List β) :
    first ++ firstRest ≠ second ++ secondRest := by
  induction first generalizing second with
  | nil => cases apart
  | cons head rest ih =>
      cases second with
      | nil => cases apart
      | cons other others =>
          rw [diverge, Bool.or_eq_true, bne_iff_ne] at apart
          intro same
          rcases List.cons.inj same with ⟨sameHead, sameRest⟩
          rcases apart with differs | later
          · exact differs sameHead
          · exact ih later sameRest

/-- Where words differ from one another, a row of them is read back. -/
theorem flatMap_injective_of_diverge {word : α → List β}
    (notEmpty : ∀ item, word item ≠ [])
    (apart : ∀ item other, item ≠ other → diverge (word item) (word other)) :
    Function.Injective (List.flatMap word) := by
  intro first
  induction first with
  | nil =>
      intro second same
      cases second with
      | nil => rfl
      | cons other others =>
          have empty := List.append_eq_nil_iff.mp same.symm
          exact absurd empty.1 (notEmpty other)
  | cons item rest ih =>
      intro second same
      cases second with
      | nil =>
          have empty := List.append_eq_nil_iff.mp same
          exact absurd empty.1 (notEmpty item)
      | cons other others =>
          rw [List.flatMap_cons, List.flatMap_cons] at same
          by_cases sameItem : item = other
          · subst sameItem
            rw [ih (List.append_cancel_left same)]
          · exact absurd same
              (append_ne_of_diverge (apart item other sameItem) _ _)

end Diverge

/-! ## Names joined by underscores -/

namespace KeyCode

/-- The name of a key with the underscore that joins it to the next. -/
def marked (key : KeyCode) : List Char :=
  key.name.toList ++ ['_']

/-- No name is what another name begins with up to one of its underscores. -/
theorem marked_diverge {first second : KeyCode} (different : first ≠ second) :
    diverge first.marked second.marked := by
  have pairwise : (all.map marked).Pairwise
      fun word other => diverge word other := by
    simp only [all, List.map_cons, List.map_nil, marked, name,
      String.reduceToList, List.cons_append, List.nil_append]
    decide +kernel
  have : Std.Symm fun key other : KeyCode =>
      diverge key.marked other.marked = true :=
    ⟨fun key other apart => (diverge_comm _ _).trans apart⟩
  exact (List.pairwise_map.mp pairwise).forall
    (mem_all first) (mem_all second) different

theorem flatMap_marked_injective :
    Function.Injective (List.flatMap marked) :=
  flatMap_injective_of_diverge (fun _ => List.concat_ne_nil _ _)
    fun _ _ => marked_diverge

/-- With one more underscore at the end, every name has its own. -/
theorem toList_intercalate_names {path : KeyPath} (notEmpty : path ≠ []) :
    ("_".intercalate (path.map name)).toList ++ ['_'] =
      path.flatMap marked := by
  induction path with
  | nil => exact absurd rfl notEmpty
  | cons key rest ih =>
      cases rest with
      | nil => simp [marked]
      | cons next others =>
          have joined := ih (List.cons_ne_nil next others)
          rw [List.map_cons] at joined
          rw [List.flatMap_cons, ← joined]
          simp [marked]

end KeyCode

namespace FlagNaming

/-- Whatever the lead is, ways that are not empty make different flags. -/
theorem underscored_flag_injective {lead : String} {first second : KeyPath}
    (firstNotEmpty : first ≠ []) (secondNotEmpty : second ≠ [])
    (same : (underscored lead).flag first = (underscored lead).flag second) :
    first = second := by
  apply KeyCode.flatMap_marked_injective
  have spelled := congrArg String.toList same
  rw [flag, flag, String.toList_append, String.toList_append] at spelled
  rw [← KeyCode.toList_intercalate_names firstNotEmpty,
    ← KeyCode.toList_intercalate_names secondNotEmpty,
    List.append_cancel_left spelled]

end FlagNaming

/-! ## Ways to sublayers -/

namespace Bindings

variable {tree : Bindings} {path : KeyPath}

/-- Where a sublayer goes by its key, a key of the layer leads to it. -/
theorem SelfNamed.exists_key_of_mem_sublayersBelow (named : tree.SelfNamed)
    {below : KeyPath × Sublayer}
    (member : below ∈ tree.sublayersBelow path) :
    ∃ key ∈ tree.keys, path ++ [key] <+: below.1 := by
  induction tree generalizing path with
  | nil => cases member
  | fires key command rest ih =>
      rcases ih named member with ⟨other, listed, leads⟩
      exact ⟨other, List.mem_cons_of_mem _ listed, leads⟩
  | opens key name description inner rest innerIH restIH =>
      rcases named with ⟨rfl, innerNamed, restNamed⟩
      rcases List.mem_cons.mp member with rfl | member
      · exact ⟨name, List.mem_cons_self, List.prefix_refl _⟩
      rcases List.mem_append.mp member with inInner | inRest
      · rcases innerIH innerNamed inInner with ⟨_, _, leads⟩
        exact ⟨name, List.mem_cons_self,
          (List.prefix_append _ _).trans leads⟩
      · rcases restIH restNamed inRest with ⟨other, listed, leads⟩
        exact ⟨other, List.mem_cons_of_mem _ listed, leads⟩

/-- Only one sublayer stands at the end of any way. -/
theorem nodup_paths (distinct : tree.KeysDistinct)
    (named : tree.SelfNamed) (path : KeyPath) :
    ((tree.sublayersBelow path).map Prod.fst).Nodup := by
  induction tree generalizing path with
  | nil => exact .nil
  | fires key command rest ih => exact ih distinct.2 named path
  | opens key name description inner rest innerIH restIH =>
      rcases distinct with ⟨fresh, innerDistinct, restDistinct⟩
      rcases named with ⟨rfl, innerNamed, restNamed⟩
      rw [sublayersBelow, List.map_cons, List.map_append, List.nodup_cons,
        List.nodup_append', List.mem_append]
      -- ways through this sublayer go on with its key, the others do not
      have notBeside : ∀ below ∈ rest.sublayersBelow path,
          ¬path ++ [name] <+: below.1 := by
        intro below inRest through
        rcases restNamed.exists_key_of_mem_sublayersBelow inRest with
          ⟨other, listed, leads⟩
        have sameWay := List.prefix_of_prefix_length_le leads through
          (by simp)
        have sameKey : other = name := by
          simpa using List.IsPrefix.eq_of_length sameWay (by simp)
        exact fresh (sameKey ▸ listed)
      refine ⟨?_, innerIH innerDistinct innerNamed _,
        restIH restDistinct restNamed path, ?_⟩
      · rintro (inInner | inRest)
        · rcases List.mem_map.mp inInner with ⟨below, listed, same⟩
          rcases innerNamed.exists_key_of_mem_sublayersBelow listed with
            ⟨_, _, leads⟩
          have longer := leads.length_le
          rw [same] at longer
          simp at longer
        · rcases List.mem_map.mp inRest with ⟨below, listed, same⟩
          exact notBeside below listed (same ▸ List.prefix_refl _)
      · intro way inInner inRest
        rcases List.mem_map.mp inInner with ⟨below, listed, rfl⟩
        rcases List.mem_map.mp inRest with ⟨other, otherListed, same⟩
        rcases innerNamed.exists_key_of_mem_sublayersBelow listed with
          ⟨_, _, leads⟩
        refine notBeside other otherListed ?_
        rw [same]
        exact (List.prefix_append _ _).trans leads

theorem path_ne_nil_of_mem_sublayersBelow {below : KeyPath × Sublayer}
    (member : below ∈ tree.sublayersBelow path) : below.1 ≠ [] := by
  induction tree generalizing path with
  | nil => cases member
  | fires key command rest ih => exact ih member
  | opens key name description inner rest innerIH restIH =>
      rcases List.mem_cons.mp member with rfl | member
      · exact List.concat_ne_nil _ _
      rcases List.mem_append.mp member with inInner | inRest
      · exact innerIH inInner
      · exact restIH inRest

end Bindings

/-! ## Shared flags -/

namespace Conventions

variable {conventions : Conventions} {tree : Bindings} {lead flag : String}
  {first second : KeyPath}

/-- A tree is refused for a shared flag where that is its first fault. -/
theorem compile?_eq_sharedFlag_iff :
    conventions.compile? tree = .error (.sharedFlag flag first second) ↔
      conventions.misplaced? tree = none ∧
        conventions.FirstSharedFlag tree (.sharedFlag flag first second) := by
  have notMisplaced : conventions.misplaced? tree ≠
      some (.sharedFlag flag first second) := by
    intro misplaced
    rcases misplaced?_eq_some_iff.mp misplaced with ⟨_, _, _, _, found, _⟩
    cases found
  have notReserved : conventions.reservedWrite? tree ≠
      some (.sharedFlag flag first second) := by
    intro reserved
    rcases reservedWrite?_eq_some_iff.mp reserved with
      ⟨_, _, _, _, ⟨_, _, _, _, found, _⟩, _⟩
    cases found
  have notAmbiguous : conventions.ambiguousEntry? tree ≠
      some (.sharedFlag flag first second) := by
    intro ambiguous
    rcases ambiguousEntry?_eq_some_iff.mp ambiguous with
      ⟨_, _, _, _, ⟨_, _, _, _, found, _⟩, _⟩
    cases found
  rw [compile?_eq_error_iff, ← sharedFlag?_eq_some_iff, fault?]
  simp only [Option.orElse_eq_orElse, Option.orElse_eq_or,
    Option.or_eq_some_iff, notMisplaced, notReserved, notAmbiguous,
    false_or, and_false, or_false]

/-- With the usual naming every sublayer of a tree has a flag of its own. -/
theorem nodup_map_flag (underscored : conventions.naming = .underscored lead)
    (distinct : tree.KeysDistinct) (named : tree.SelfNamed) :
    ((tree.sublayersBelow []).map fun below =>
      conventions.flag below.1).Nodup := by
  have waysNodup := Bindings.nodup_paths distinct named []
  rw [List.nodup_map_iff_inj_on (List.Nodup.of_map _ waysNodup)]
  intro below member other otherMember same
  rw [Conventions.flag, Conventions.flag, underscored] at same
  exact List.inj_on_of_nodup_map waysNodup member otherMember
    (FlagNaming.underscored_flag_injective
      (Bindings.path_ne_nil_of_mem_sublayersBelow member)
      (Bindings.path_ne_nil_of_mem_sublayersBelow otherMember) same)

/--
With the usual naming, whatever its lead is, two ways that are not empty make
two flags.  A tree whose sublayers go by the keys they stand under is then
refused for a shared flag just where no top-level one stands under the escape
key and one of its sublayers has the flag of the leader, and that is the flag
and these are the two that the fault names.
-/
theorem underscored_flags_distinct (lead : String) :
    (∀ first second : KeyPath, first ≠ [] → second ≠ [] → first ≠ second →
      ∃ flag other, (FlagNaming.underscored lead).flag? first = some flag ∧
        (FlagNaming.underscored lead).flag? second = some other ∧
        flag ≠ other) ∧
    ∀ (conventions : Conventions) (tree : Bindings),
      conventions.naming = .underscored lead →
      tree.KeysDistinct → tree.SelfNamed → ∀ flag first second,
        conventions.compile? tree =
            .error (.sharedFlag flag first second) ↔
          (∀ key sublayer, (key, sublayer) ∈ tree.sublayers →
            key ≠ conventions.escape) ∧
          flag = conventions.leader ∧ first = [] ∧
          second ∈ (tree.sublayersBelow []).map Prod.fst ∧
          conventions.flag second = conventions.leader := by
  constructor
  · intro first second firstNotEmpty secondNotEmpty different
    refine ⟨_, _, FlagNaming.flag?_of_ne_nil _ firstNotEmpty,
      FlagNaming.flag?_of_ne_nil _ secondNotEmpty, fun same => ?_⟩
    exact different (FlagNaming.underscored_flag_injective firstNotEmpty
      secondNotEmpty same)
  · intro conventions tree underscored distinct named flag first second
    have flagsNodup := nodup_map_flag underscored distinct named
    have placed_iff : conventions.misplaced? tree = none ↔
        ∀ key sublayer, (key, sublayer) ∈ tree.sublayers →
          key ≠ conventions.escape := by
      rw [misplaced?_eq_none_iff]
      constructor
      · exact fun placed key sublayer listed =>
          (placed key sublayer listed).2
      · exact fun placed key sublayer listed =>
          ⟨named.name_eq listed, placed key sublayer listed⟩
    rw [compile?_eq_sharedFlag_iff, placed_iff]
    apply and_congr_right
    intro _
    constructor
    · rintro ⟨earlier, below, later, split, shares, _⟩
      have member : below ∈ tree.sublayersBelow [] := by
        rw [split]
        exact List.mem_append_right _ List.mem_cons_self
      cases shares with
      | withLeader same =>
          exact ⟨rfl, rfl, List.mem_map_of_mem member, same⟩
      | withSublayer before same =>
          -- the two flags would stand twice among those of the tree
          rw [split, List.map_append, List.nodup_append'] at flagsNodup
          refine absurd ?_ (List.disjoint_left.mp flagsNodup.2.2
            (List.mem_map_of_mem before))
          rw [← same]
          exact List.mem_map_of_mem List.mem_cons_self
    · rintro ⟨rfl, rfl, isWay, same⟩
      rcases List.mem_map.mp isWay with ⟨below, member, rfl⟩
      rcases List.append_of_mem member with ⟨earlier, later, split⟩
      refine ⟨earlier, below, later, split, .withLeader same, ?_⟩
      rw [split, List.map_append, List.nodup_append'] at flagsNodup
      rw [List.nodup_cons]
      refine ⟨fun taken => ?_, flagsNodup.1⟩
      rw [← same] at taken
      exact List.disjoint_left.mp flagsNodup.2.2 taken
        (List.mem_map_of_mem List.mem_cons_self)

/-- Here the leader has the flag of the sublayer inside the other one. -/
theorem underscored_flags_distinct_nested :
    let conventions : Conventions := { leader := "sublayer_s_w" }
    let tree := Bindings.nestedExample
    (∃ flag other,
      FlagNaming.standard.flag? [.keypadNumLock, .digit1] = some flag ∧
        FlagNaming.standard.flag? [.keypad1] = some other ∧
        flag ≠ other) ∧
      tree.KeysDistinct ∧ tree.SelfNamed ∧
      conventions.compile? tree =
        .error (.sharedFlag "sublayer_s_w" [] [.s, .w]) := by
  intro conventions tree
  have distinct : tree.KeysDistinct := by decide +kernel
  have named : tree.SelfNamed := by decide +kernel
  have apart := underscored_flags_distinct "sublayer_"
  refine ⟨apart.1 _ _ (by decide) (by decide) (by decide), distinct, named,
    (apart.2 conventions tree rfl distinct named _ _ _).mpr
      ⟨?_, rfl, rfl, by decide +kernel, by decide +kernel⟩⟩
  intro key sublayer listed
  rcases List.mem_singleton.mp listed with same
  cases same
  decide

end Conventions

end ModalKeymap
