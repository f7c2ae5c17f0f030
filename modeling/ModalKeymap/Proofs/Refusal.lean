import ModalKeymap.Proofs.LayerGroups

/-!
# Why trees are refused

A tree can be at fault in four ways, each with a list of places that are gone
through in order: how its top-level sublayers are registered, whose flag a
sublayer uses, which variables commands set, and which keys sublayers bind.
`Conventions.Misplaced`, `SharesFlag`, `SetsReserved` and `Ambiguous` say what
is wrong at one place and which fault that is, and `Conventions.faultKinds`
lists the four ways with the first fault of each.  A tree is refused for the
first fault of the first way that has one, and is not refused if none has
(`refused_iff`).
-/

namespace ModalKeymap

variable {α β : Type}

/-- What the first item of a list that yields anything yields. -/
def FirstYield (yields : α → β → Prop) (items : List α) (result : β) :
    Prop :=
  ∃ earlier item later, items = earlier ++ item :: later ∧
    yields item result ∧ ∀ other ∈ earlier, ∀ result, ¬yields other result

namespace FirstYield

variable {yields : α → β → Prop} {items : List α} {result : β}

theorem nil_iff : FirstYield yields [] result ↔ False := by
  simp [FirstYield]

/-- The first item yields something, or it yields nothing and a later does. -/
theorem cons_iff {first : α} {rest : List α} :
    FirstYield yields (first :: rest) result ↔
      yields first result ∨
        (∀ result, ¬yields first result) ∧
          FirstYield yields rest result := by
  constructor
  · rintro ⟨earlier, item, later, split, found, before⟩
    cases earlier with
    | nil =>
        cases split
        exact .inl found
    | cons other others =>
        cases split
        refine .inr ⟨before _ List.mem_cons_self, ?_⟩
        exact ⟨others, item, later, rfl, found, fun other listed =>
          before other (List.mem_cons_of_mem _ listed)⟩
  · rintro (found | ⟨nothing, others, item, later, rfl, found, before⟩)
    · exact ⟨[], first, rest, rfl, found, fun _ none => by cases none⟩
    · refine ⟨first :: others, item, later, rfl, found, ?_⟩
      intro other listed
      rcases List.mem_cons.mp listed with rfl | listed
      · exact nothing
      · exact before other listed

/-- No item yields anything first exactly if none yields anything. -/
theorem forall_not_iff :
    (∀ result, ¬FirstYield yields items result) ↔
      ∀ item ∈ items, ∀ result, ¬yields item result := by
  induction items with
  | nil => simp [nil_iff]
  | cons first rest ih =>
      simp only [cons_iff, List.forall_mem_cons, ← ih, not_or, not_and]
      constructor
      · intro nowhere
        have nothing : ∀ result, ¬yields first result := fun result =>
          (nowhere result).1
        exact ⟨nothing, fun result => (nowhere result).2 nothing⟩
      · rintro ⟨nothing, later⟩ result
        exact ⟨nothing result, fun _ => later result⟩

/-- Searching a list finds what its first item with a result yields. -/
theorem findSome?_eq_some_iff {search : α → Option β}
    (exact : ∀ item result, search item = some result ↔ yields item result) :
    items.findSome? search = some result ↔
      FirstYield yields items result := by
  rw [List.findSome?_eq_some_iff]
  simp only [FirstYield, Option.eq_none_iff_forall_ne_some, ne_eq, exact]

/-- Searching a list for a property finds the first item that has it. -/
theorem map_find?_eq_some_iff {test : α → Bool} {outcome : α → β}
    (exact : ∀ item result,
      test item = true ∧ outcome item = result ↔ yields item result) :
    (items.find? test).map outcome = some result ↔
      FirstYield yields items result := by
  induction items with
  | nil => simp [nil_iff]
  | cons first rest ih =>
      rw [cons_iff, ← ih, List.find?_cons]
      rcases passed : test first
      · simp [← exact, passed]
      · simp [← exact, passed]

end FirstYield

namespace Conventions

/-! ## What is wrong at one place -/

/-- A top-level sublayer is registered where it must not be. -/
inductive Misplaced (conventions : Conventions) :
    KeyCode × Sublayer → LayerFault → Prop
  /-- It stands under a key that is not its name. -/
  | underOther {key : KeyCode} {sublayer : Sublayer}
      (differs : sublayer.name ≠ key) :
      Misplaced conventions (key, sublayer)
        (.misregistered sublayer.name key)
  /-- It stands under its name, which is the escape key. -/
  | underEscape {sublayer : Sublayer}
      (named : sublayer.name = conventions.escape) :
      Misplaced conventions (conventions.escape, sublayer)
        (.ambiguousTrigger [] conventions.escape)

/-- A sublayer's flag is taken, given the sublayers before it. -/
inductive SharesFlag (conventions : Conventions)
    (earlier : List (KeyPath × Sublayer)) (below : KeyPath × Sublayer) :
    LayerFault → Prop
  | withLeader (same : conventions.flag below.1 = conventions.leader) :
      SharesFlag conventions earlier below
        (.sharedFlag conventions.leader [] below.1)
  | withSublayer {owner : KeyPath × Sublayer} (before : owner ∈ earlier)
      (same : conventions.flag below.1 = conventions.flag owner.1) :
      SharesFlag conventions earlier below
        (.sharedFlag (conventions.flag below.1) owner.1 below.1)

/-- An effect of the command at a path sets one of the given variables. -/
inductive SetsReserved (reserved : List String) (path : KeyPath) :
    Effect → LayerFault → Prop
  | sets {name : String} {value : FlagValue} (isReserved : name ∈ reserved) :
      SetsReserved reserved path (.setVariable name value)
        (.reservedVariable path name)

/-- A sublayer binds a key that enters or leaves it. -/
inductive Ambiguous (conventions : Conventions)
    (below : KeyPath × Sublayer) : KeyCode → LayerFault → Prop
  | ownName : Ambiguous conventions below below.2.name
      (.ambiguousTrigger below.1 below.2.name)
  | escape : Ambiguous conventions below conventions.escape
      (.ambiguousTrigger below.1 conventions.escape)

/-! ## The first fault of each kind -/

/-- The variables that commands of a tree must not set. -/
def reserved (conventions : Conventions) (tree : Bindings) : List String :=
  conventions.leader ::
    (tree.sublayersBelow []).map fun below => conventions.flag below.1

/-- The first sublayer whose flag is taken, with all before it distinct. -/
def FirstSharedFlag (conventions : Conventions) (tree : Bindings)
    (fault : LayerFault) : Prop :=
  ∃ earlier below later,
    tree.sublayersBelow [] = earlier ++ below :: later ∧
      conventions.SharesFlag earlier below fault ∧
      (conventions.leader ::
        earlier.map fun other => conventions.flag other.1).Nodup

/-- The ways in which a tree can be at fault, each with its first fault. -/
def faultKinds (conventions : Conventions) (tree : Bindings) :
    List (LayerFault → Prop) :=
  [FirstYield conventions.Misplaced tree.sublayers,
    conventions.FirstSharedFlag tree,
    FirstYield (fun below => FirstYield
        (SetsReserved (conventions.reserved tree) below.1) below.2.effects)
      (tree.commandsBelow []),
    FirstYield (fun below => FirstYield
        (conventions.Ambiguous below) below.2.inner.keys)
      (tree.sublayersBelow [])]

/-! ## The checks find these -/

variable {conventions : Conventions} {tree : Bindings} {fault : LayerFault}

/-- What the check of the top level says about one sublayer of it. -/
def misplacement? (conventions : Conventions) :
    KeyCode × Sublayer → Option LayerFault
  | (key, sublayer) =>
      if sublayer.name ≠ key then some (.misregistered sublayer.name key)
      else if key = conventions.escape then some (.ambiguousTrigger [] key)
      else none

theorem misplacement?_eq_some_iff {entry : KeyCode × Sublayer} :
    conventions.misplacement? entry = some fault ↔
      conventions.Misplaced entry fault := by
  rcases entry with ⟨key, sublayer⟩
  rw [misplacement?]
  constructor
  · intro found
    split at found
    · cases found
      exact .underOther ‹_›
    split at found
    · rename_i named leaves
      cases found
      subst leaves
      exact .underEscape (not_not.mp named)
    · cases found
  · rintro (differs | named)
    · exact if_pos differs
    · rw [if_neg (not_not.mpr named), if_pos rfl]

theorem misplaced?_eq_some_iff :
    conventions.misplaced? tree = some fault ↔
      FirstYield conventions.Misplaced tree.sublayers fault := by
  have searched : conventions.misplaced? tree =
      tree.sublayers.findSome? conventions.misplacement? := by
    induction tree with
    | nil => rfl
    | fires key command rest ih => exact ih
    | opens key name description inner rest _ ih =>
        rw [misplaced?, Bindings.sublayers, List.findSome?_cons, ih,
          misplacement?]
        by_cases differs : name ≠ key
        · rw [if_pos differs, if_pos differs]
        rw [if_neg differs, if_neg differs]
        by_cases leaves : key = conventions.escape
        · rw [if_pos leaves, if_pos leaves]
        · rw [if_neg leaves, if_neg leaves]
  rw [searched]
  exact FirstYield.findSome?_eq_some_iff fun _ _ =>
    misplacement?_eq_some_iff

theorem reserved_eq (conventions : Conventions) (tree : Bindings) :
    conventions.reserved tree =
      conventions.leader :: conventions.flags tree := by
  rw [reserved, flags_eq_map]

/--
With distinct flags taken so far, the first flag found to be taken is that of
an entry behind distinct ones, and is the leader's or one of these entries'.
-/
theorem takenFlag?_eq_some_iff {taken table : List (String × KeyPath)}
    (distinct : (conventions.leader :: taken.map Prod.fst).Nodup) :
    conventions.takenFlag? taken table = some fault ↔
      ∃ earlier flag path later, table = earlier ++ (flag, path) :: later ∧
        (conventions.leader ::
          (earlier.reverse ++ taken).map Prod.fst).Nodup ∧
        (flag = conventions.leader ∧ fault = .sharedFlag flag [] path ∨
          ∃ owner, (flag, owner) ∈ earlier.reverse ++ taken ∧
            fault = .sharedFlag flag owner path) := by
  induction table generalizing taken with
  | nil => simp [takenFlag?]
  | cons first rest ih =>
      rcases first with ⟨flag, path⟩
      rcases List.nodup_cons.mp distinct with ⟨leaderFree, nodup⟩
      have owned {owner : KeyPath} : taken.lookup flag = some owner ↔
          (flag, owner) ∈ taken := Bindings.lookup_eq_some_iff_mem nodup
      -- the entry is either at fault itself or taken along as one more
      have free_iff : (conventions.leader ::
          ((flag, path) :: taken).map Prod.fst).Nodup ↔
            flag ≠ conventions.leader ∧ taken.lookup flag = none := by
        rw [Bindings.lookup_eq_none_iff_not_mem, List.map_cons,
          List.nodup_cons, List.mem_cons, List.nodup_cons, not_or,
          ne_comm]
        tauto
      constructor
      · intro found
        rw [takenFlag?] at found
        split at found
        · rename_i isLeader
          cases found
          exact ⟨[], flag, path, rest, rfl, distinct, .inl ⟨isLeader, rfl⟩⟩
        rename_i notLeader
        split at found
        · rename_i owner isOwned
          cases found
          exact ⟨[], flag, path, rest, rfl, distinct,
            .inr ⟨owner, owned.mp isOwned, rfl⟩⟩
        · rename_i free
          rcases (ih (free_iff.mpr ⟨notLeader, free⟩)).mp found with
            ⟨earlier, other, place, later, rfl, shared⟩
          refine ⟨(flag, path) :: earlier, other, place, later, rfl, ?_⟩
          rw [List.reverse_cons, List.append_assoc]
          exact shared
      · rintro ⟨earlier, other, place, later, parted, before, shares⟩
        cases earlier with
        | nil =>
            cases parted
            rcases shares with ⟨isLeader, rfl⟩ | ⟨owner, listed, rfl⟩
            · exact if_pos isLeader
            · have notLeader : flag ≠ conventions.leader := fun same =>
                leaderFree (same ▸ List.mem_map_of_mem listed)
              rw [takenFlag?, if_neg notLeader, owned.mpr listed]
        | cons _ others =>
            cases parted
            rw [List.reverse_cons, List.append_assoc] at before shares
            have grown := before.sublist
              (((List.sublist_append_right _ _).map _).cons_cons _)
            rcases free_iff.mp grown with ⟨notLeader, free⟩
            rw [takenFlag?, if_neg notLeader, free]
            exact (ih grown).mpr
              ⟨others, other, place, later, rfl, before, shares⟩

theorem sharedFlag?_eq_some_iff :
    conventions.sharedFlag? tree = some fault ↔
      conventions.FirstSharedFlag tree fault := by
  let entry : KeyPath × Sublayer → String × KeyPath := fun below =>
    (conventions.flag below.1, below.1)
  have distinct_iff (earlier : List (KeyPath × Sublayer)) :
      (conventions.leader ::
          ((earlier.map entry).reverse ++ []).map Prod.fst).Nodup ↔
        (conventions.leader ::
          earlier.map fun other => conventions.flag other.1).Nodup := by
    simp [entry, Function.comp_def]
  rw [sharedFlag?, takenFlag?_eq_some_iff (List.nodup_singleton _),
    flagTable_eq_map]
  constructor
  · rintro ⟨_, flag, path, _, parted, before, shares⟩
    rcases List.map_eq_append_iff.mp parted with
      ⟨earlier, _, split, rfl, behind⟩
    rcases List.map_eq_cons_iff.mp behind with ⟨below, later, rfl, same, rfl⟩
    cases same
    refine ⟨earlier, below, later, split, ?_, (distinct_iff _).mp before⟩
    rcases shares with ⟨isLeader, rfl⟩ | ⟨path, listed, rfl⟩
    · rw [isLeader]
      exact .withLeader isLeader
    · rw [List.append_nil, List.mem_reverse] at listed
      rcases List.mem_map.mp listed with ⟨owner, isEarlier, same⟩
      rcases Prod.mk.inj same with ⟨sameFlag, rfl⟩
      exact .withSublayer isEarlier sameFlag.symm
  · rintro ⟨earlier, below, later, split, shares, before⟩
    refine ⟨earlier.map entry, conventions.flag below.1, below.1,
      later.map entry, ?_, (distinct_iff _).mpr before, ?_⟩
    · rw [split, List.map_append]
      rfl
    · rcases shares with same | ⟨listed, same⟩
      · exact .inl ⟨same, congrArg (LayerFault.sharedFlag · _ _) same.symm⟩
      · rename_i owner
        refine .inr ⟨owner.1, ?_, rfl⟩
        rw [same, List.append_nil, List.mem_reverse]
        exact List.mem_map_of_mem listed

theorem reservedEffect?_eq_some_iff {names : List String} {path : KeyPath}
    {effects : List Effect} :
    ((effects.filterMap Effect.variable?).find? (· ∈ names)).map
        (LayerFault.reservedVariable path) = some fault ↔
      FirstYield (SetsReserved names path) effects fault := by
  let search : Effect → Option LayerFault := fun effect =>
    Option.map (LayerFault.reservedVariable path) <|
      Option.filter (· ∈ names) <| Effect.variable? effect
  have searched : ((effects.filterMap Effect.variable?).find?
      (· ∈ names)).map (LayerFault.reservedVariable path) =
        effects.findSome? search := by
    induction effects with
    | nil => rfl
    | cons first rest ih =>
        rw [List.filterMap_cons, List.findSome?_cons, ← ih]
        rcases named : first.variable? with _ | name
        · simp only [search, named, Option.filter_none, Option.map_none]
        · by_cases isReserved : name ∈ names
          · simp only [search, named, isReserved, List.find?_cons,
              decide_true, Option.filter_some, if_true, Option.map_some]
          · simp only [search, named, isReserved, List.find?_cons,
              decide_false, Option.filter_some, if_neg, Option.map_none,
              Bool.false_eq_true, not_false_iff]
  rw [searched]
  apply FirstYield.findSome?_eq_some_iff
  intro effect result
  constructor
  · intro found
    rcases Option.map_eq_some_iff.mp found with ⟨name, kept, rfl⟩
    rcases Option.filter_eq_some_iff.mp kept with ⟨sets, isReserved⟩
    cases effect with
    | setVariable other value =>
        cases sets
        exact .sets (of_decide_eq_true isReserved)
    | _ => cases sets
  · rintro ⟨isReserved⟩
    simp [search, Effect.variable?, isReserved]

theorem reservedWrite?_eq_some_iff :
    conventions.reservedWrite? tree = some fault ↔
      FirstYield (fun below => FirstYield
          (SetsReserved (conventions.reserved tree) below.1) below.2.effects)
        (tree.commandsBelow []) fault := by
  rw [reservedWrite?, ← reserved_eq, writeTo?]
  exact FirstYield.findSome?_eq_some_iff fun _ _ =>
    reservedEffect?_eq_some_iff

theorem ambiguousKey?_eq_some_iff {below : KeyPath × Sublayer}
    {group : LayerGroup} (path : group.path = below.1)
    (name : group.name = below.2.name) (inner : group.inner = below.2.inner) :
    (conventions.ambiguousKey? group).map
        (LayerFault.ambiguousTrigger group.path) = some fault ↔
      FirstYield (conventions.Ambiguous below) below.2.inner.keys fault := by
  rw [ambiguousKey?, path, name, inner]
  apply FirstYield.map_find?_eq_some_iff
  intro key result
  rw [Bool.or_eq_true, decide_eq_true_eq, decide_eq_true_eq]
  constructor
  · rintro ⟨rfl | rfl, rfl⟩
    · exact .ownName
    · exact .escape
  · rintro (_ | _)
    · exact ⟨.inl rfl, rfl⟩
    · exact ⟨.inr rfl, rfl⟩

theorem ambiguousEntry?_eq_some_iff :
    conventions.ambiguousEntry? tree = some fault ↔
      FirstYield (fun below => FirstYield
          (conventions.Ambiguous below) below.2.inner.keys)
        (tree.sublayersBelow []) fault := by
  rcases conventions.exists_groups_eq_map tree with ⟨source, listed⟩
  unfold ambiguousEntry?
  rw [listed, List.findSome?_map]
  exact FirstYield.findSome?_eq_some_iff fun _ _ =>
    ambiguousKey?_eq_some_iff rfl rfl rfl

/-! ## Refusals -/

theorem fault?_eq_some_iff :
    conventions.fault? tree = some fault ↔
      FirstYield (fun kind => kind) (conventions.faultKinds tree) fault := by
  simp only [fault?, Option.orElse_eq_orElse, Option.orElse_eq_or,
    Option.or_eq_some_iff, Option.eq_none_iff_forall_ne_some, ne_eq,
    misplaced?_eq_some_iff, sharedFlag?_eq_some_iff,
    reservedWrite?_eq_some_iff, ambiguousEntry?_eq_some_iff, faultKinds,
    FirstYield.cons_iff, FirstYield.nil_iff, and_false, or_false]

/--
A tree is refused for a fault exactly if that is the first one of the first
kind that has any, and it is not refused if no kind has.
-/
theorem refused_iff (conventions : Conventions) (tree : Bindings) :
    (∀ fault, conventions.compile? tree = .error fault ↔
      FirstYield (fun kind => kind) (conventions.faultKinds tree) fault) ∧
    ((∃ rules, conventions.compile? tree = .ok rules) ↔
      ∀ kind ∈ conventions.faultKinds tree, ∀ fault, ¬kind fault) := by
  constructor
  · intro fault
    rw [compile?_eq_error_iff, fault?_eq_some_iff]
  · simp only [compile?_eq_ok_iff, exists_and_left, exists_eq', and_true,
      Option.eq_none_iff_forall_ne_some, ne_eq, fault?_eq_some_iff]
    exact FirstYield.forall_not_iff

/-- The registration of a later sublayer goes before the keys of an earlier. -/
example :
    ({} : Conventions).compile? (.opens .s .s none
      (.fires .s (.run "shadowed") .nil) (.opens .w .x none .nil .nil)) =
        .error (.misregistered .x .w) := rfl

end Conventions

end ModalKeymap
