import ModalKeymap.Bindings
import Mathlib.Data.List.Nodup
import Mathlib.Data.List.Perm.Basic

/-!
# Looking up bindings

How the several views of a layer fit together: its commands and its sublayers
are what it binds, looking a key up finds the one binding of it where keys
are distinct, and following a sequence of keys goes through one sublayer at a
time.  Views that show a layer binding by binding (`Bindings.Entrywise`) take
apart what is put together, and lose nothing when it is put in another order.
That keys are distinct, and that sublayers go by their own names, passes on
to every sublayer of a tree.
-/

namespace ModalKeymap.Bindings

/-! ## Commands and sublayers among the bindings -/

theorem mem_commands_iff {key : KeyCode} {command : Command}
    {layer : Bindings} :
    (key, command) ∈ layer.commands ↔
      (key, .command command) ∈ layer.toList := by
  induction layer with
  | nil => simp [commands]
  | fires bound other rest ih => simp [commands, toList, ih]
  | opens bound name description inner rest _ ih =>
      simp [commands, toList, ih]

theorem mem_sublayers_iff {key : KeyCode} {sublayer : Sublayer}
    {layer : Bindings} :
    (key, sublayer) ∈ layer.sublayers ↔
      (key, .sublayer sublayer) ∈ layer.toList := by
  induction layer with
  | nil => simp [sublayers]
  | fires bound other rest ih => simp [sublayers, toList, ih]
  | opens bound name description inner rest _ ih =>
      simp [sublayers, toList, ih]

theorem mem_keys_of_mem_toList {key : KeyCode} {entry : Entry}
    {layer : Bindings} (member : (key, entry) ∈ layer.toList) :
    key ∈ layer.keys :=
  List.mem_map.mpr ⟨_, member, rfl⟩

theorem mem_keys_of_mem_commands {key : KeyCode} {command : Command}
    {layer : Bindings} (member : (key, command) ∈ layer.commands) :
    key ∈ layer.keys :=
  mem_keys_of_mem_toList (mem_commands_iff.mp member)

theorem mem_keys_of_mem_sublayers {key : KeyCode} {sublayer : Sublayer}
    {layer : Bindings} (member : (key, sublayer) ∈ layer.sublayers) :
    key ∈ layer.keys :=
  mem_keys_of_mem_toList (mem_sublayers_iff.mp member)

/-- A layer's keys are those of its commands and those of its sublayers. -/
theorem keys_perm (layer : Bindings) :
    (layer.commands.map Prod.fst ++ layer.sublayers.map Prod.fst).Perm
      layer.keys := by
  induction layer with
  | nil => exact .nil
  | fires key command rest ih => exact ih.cons key
  | opens key name description inner rest _ ih =>
      exact List.perm_middle.trans (ih.cons key)

/-! ## Views that go binding by binding -/

/-- What a view of a layer shows is what it shows of each binding. -/
structure Entrywise {α : Type} (view : Bindings → List α) : Prop where
  nil : view .nil = []
  cons : ∀ key entry rest, view (.cons key entry rest) =
    view (.cons key entry .nil) ++ view rest

namespace Entrywise

variable {α : Type} {view : Bindings → List α}

theorem eq_flatMap (entrywise : Entrywise view) (layer : Bindings) :
    view layer = layer.toList.flatMap fun entry =>
      view (.cons entry.1 entry.2 .nil) := by
  induction layer with
  | nil => exact entrywise.nil
  | fires key command rest ih =>
      rw [toList, List.flatMap_cons, ← ih]
      exact entrywise.cons key (.command command) rest
  | opens key name description inner rest _ ih =>
      rw [toList, List.flatMap_cons, ← ih]
      exact entrywise.cons key (.sublayer ⟨name, description, inner⟩) rest

/-- Of bindings taken together a view shows what it shows of either. -/
theorem ofList_append (entrywise : Entrywise view)
    (front back : List (KeyCode × Entry)) :
    view (.ofList (front ++ back)) =
      view (.ofList front) ++ view (.ofList back) := by
  simp only [entrywise.eq_flatMap (.ofList _), toList_ofList,
    List.flatMap_append]

theorem perm (entrywise : Entrywise view) {first second : Bindings}
    (entries : first.toList.Perm second.toList) :
    (view first).Perm (view second) := by
  rw [entrywise.eq_flatMap first, entrywise.eq_flatMap second]
  exact entries.flatMap_right _

end Entrywise

theorem entrywise_keys : Entrywise keys where
  nil := rfl
  cons key entry rest := by cases entry <;> rfl

theorem entrywise_commands : Entrywise commands where
  nil := rfl
  cons key entry rest := by cases entry <;> rfl

theorem entrywise_commandsBelow (path : KeyPath) :
    Entrywise (commandsBelow path) where
  nil := rfl
  cons key entry rest := by cases entry <;> simp [cons, commandsBelow]

/-! ## Distinct keys -/

theorem KeysDistinct.nodup {layer : Bindings}
    (distinct : layer.KeysDistinct) : layer.keys.Nodup := by
  induction layer with
  | nil => exact .nil
  | fires key command rest ih =>
      exact List.nodup_cons.mpr ⟨distinct.1, ih distinct.2⟩
  | opens key name description inner rest _ ih =>
      exact List.nodup_cons.mpr ⟨distinct.1, ih distinct.2.2⟩

/-- Where keys are distinct, looking one up finds whatever goes with it. -/
theorem lookup_eq_some_iff_mem {key result : Type} [DecidableEq key]
    {table : List (key × result)} (nodup : (table.map Prod.fst).Nodup)
    {sought : key} {found : result} :
    table.lookup sought = some found ↔ (sought, found) ∈ table := by
  induction table with
  | nil => simp
  | cons first rest ih =>
      rcases first with ⟨listed, other⟩
      rcases List.nodup_cons.mp nodup with ⟨absent, nodup⟩
      by_cases same : sought = listed
      · subst same
        have notBelow : (sought, found) ∉ rest := fun member =>
          absent (List.mem_map.mpr ⟨_, member, rfl⟩)
        simp [notBelow, eq_comm]
      · have different : (sought == listed) = false := by simpa using same
        simp [List.lookup_cons, different, ih nodup, same]

theorem lookup_eq_none_iff_not_mem {key result : Type} [DecidableEq key]
    {table : List (key × result)} {sought : key} :
    table.lookup sought = none ↔ sought ∉ table.map Prod.fst := by
  rw [List.lookup_eq_none_iff]
  constructor
  · intro absent member
    rcases List.mem_map.mp member with ⟨entry, listed, rfl⟩
    simpa using absent entry listed
  · intro absent entry listed
    simpa using fun same : sought = entry.1 =>
      absent (List.mem_map.mpr ⟨entry, listed, same.symm⟩)

theorem KeysDistinct.bound?_eq_some_iff {layer : Bindings}
    (distinct : layer.KeysDistinct) {key : KeyCode} {entry : Entry} :
    layer.bound? key = some entry ↔ (key, entry) ∈ layer.toList := by
  rw [bound?_eq_lookup]
  exact lookup_eq_some_iff_mem distinct.nodup

theorem KeysDistinct.inner {layer : Bindings}
    (distinct : layer.KeysDistinct) {key : KeyCode} {sublayer : Sublayer}
    (member : (key, sublayer) ∈ layer.sublayers) :
    sublayer.inner.KeysDistinct := by
  induction layer with
  | nil => simp [sublayers] at member
  | fires bound command rest ih => exact ih distinct.2 member
  | opens bound name description inner rest _ ih =>
      rcases List.mem_cons.mp member with same | member
      · cases same
        exact distinct.2.1
      · exact ih distinct.2.2 member

/-! ## Sublayers under their own names -/

theorem SelfNamed.name_eq {layer : Bindings} (named : layer.SelfNamed)
    {key : KeyCode} {sublayer : Sublayer}
    (member : (key, sublayer) ∈ layer.sublayers) : sublayer.name = key := by
  induction layer with
  | nil => simp [sublayers] at member
  | fires bound command rest ih => exact ih named member
  | opens bound name description inner rest _ ih =>
      rcases List.mem_cons.mp member with same | member
      · cases same
        exact named.1
      · exact ih named.2.2 member

theorem SelfNamed.inner {layer : Bindings} (named : layer.SelfNamed)
    {key : KeyCode} {sublayer : Sublayer}
    (member : (key, sublayer) ∈ layer.sublayers) :
    sublayer.inner.SelfNamed := by
  induction layer with
  | nil => simp [sublayers] at member
  | fires bound command rest ih => exact ih named member
  | opens bound name description inner rest _ ih =>
      rcases List.mem_cons.mp member with same | member
      · cases same
        exact named.2.1
      · exact ih named.2.2 member

/-! ## Following keys -/

/-- The last of several keys is looked up where the others lead. -/
theorem layer?_append_singleton {path : KeyPath} {key : KeyCode}
    {tree layer : Bindings} {sublayer : Sublayer}
    (reached : tree.layer? path = some layer)
    (bound : layer.bound? key = some (.sublayer sublayer)) :
    tree.layer? (path ++ [key]) = some sublayer.inner := by
  induction path generalizing tree with
  | nil =>
      cases reached
      simp [layer?, bound]
  | cons first rest ih =>
      simp only [List.cons_append, layer?] at reached ⊢
      split at reached
      · exact ih reached
      · cases reached

/-! ## Commands at any depth -/

theorem mem_commandsBelow_of_mem_commands {path : KeyPath} {key : KeyCode}
    {command : Command} {layer : Bindings}
    (member : (key, command) ∈ layer.commands) :
    (path ++ [key], command) ∈ layer.commandsBelow path := by
  induction layer with
  | nil => simp [commands] at member
  | fires bound other rest ih =>
      rcases List.mem_cons.mp member with same | member
      · cases same
        exact List.mem_cons_self
      · exact List.mem_cons_of_mem _ (ih member)
  | opens bound name description inner rest _ ih =>
      exact List.mem_append_right _ (ih member)

/-- The commands below a sublayer are commands below the layer it is in. -/
theorem commandsBelow_subset_of_mem_sublayers {path : KeyPath}
    {key : KeyCode} {sublayer : Sublayer} {layer : Bindings}
    (member : (key, sublayer) ∈ layer.sublayers) :
    sublayer.inner.commandsBelow (path ++ [key]) ⊆
      layer.commandsBelow path := by
  induction layer with
  | nil => simp [sublayers] at member
  | fires bound other rest ih =>
      intro entry below
      exact List.mem_cons_of_mem _ (ih member below)
  | opens bound name description inner rest _ ih =>
      intro entry below
      rcases List.mem_cons.mp member with same | member
      · cases same
        exact List.mem_append_left _ below
      · exact List.mem_append_right _ (ih member below)

end ModalKeymap.Bindings
