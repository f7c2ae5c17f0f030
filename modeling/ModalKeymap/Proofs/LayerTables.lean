import ModalKeymap.Proofs.LayerValues

/-!
# Which tables of layers are read, and as what

A table is read exactly if it and all tables in it name known keys, none of
them twice, and bind each to a table or to what writes a command
(`Members.IsLayerTable`).  What is read mirrors the table
(`Bindings.MirrorsTable`).  Otherwise the fault is that of the first entry at
fault, depth first and each entry before what is nested in it; at one entry
the key is looked at before the value (`TableEntry.faultKinds`).
-/

namespace ModalKeymap

/-! ## Keys -/

/-- What is written stands for a key under the key aliases. -/
def Aliases.Names (aliases : Aliases) (written : Scalar) (key : KeyCode) :
    Prop :=
  aliases.keys.resolve (Text.normalize written.display) = key.name

theorem Aliases.Names.unique {aliases : Aliases} {written : Scalar}
    {key other : KeyCode} (names : aliases.Names written key)
    (namesOther : aliases.Names written other) : key = other :=
  KeyCode.name_injective (names.symm.trans namesOther)

theorem Aliases.rightUnique_names (aliases : Aliases) :
    Relator.RightUnique aliases.Names :=
  fun _ _ _ names namesOther => names.unique namesOther

/-- What is written below other keys leads to one key more. -/
theorem Aliases.Names.placed {aliases : Aliases} {above : List Scalar}
    {path : KeyPath} {written : Scalar} {key : KeyCode}
    (names : aliases.Names written key)
    (placed : List.Forall₂ aliases.Names above path) :
    List.Forall₂ aliases.Names (above ++ [written]) (path ++ [key]) :=
  List.rel_append (R := aliases.Names) placed (.cons names .nil)

namespace KeyCode

theorem read?_scalar (aliases : Aliases) (written : Scalar) :
    read? aliases (.scalar written) =
      match ofName? (aliases.keys.resolve
        (Text.normalize written.display)) with
      | some key => .ok key
      | none => .error (.unknownKey (.scalar written)) := by
  cases written <;> rfl

theorem read?_scalar_eq_ok_iff {aliases : Aliases} {written : Scalar}
    {key : KeyCode} :
    read? aliases (.scalar written) = .ok key ↔
      aliases.Names written key := by
  rw [read?_scalar, Aliases.Names, eq_comm (b := key.name),
    ← ofName?_eq_some_iff]
  split <;> simp [*]

theorem read?_scalar_eq_error_iff {aliases : Aliases} {written : Scalar}
    {fault : ChordFault} :
    read? aliases (.scalar written) = .error fault ↔
      (∀ key, ¬aliases.Names written key) ∧
        fault = .unknownKey (.scalar written) := by
  simp only [← read?_scalar_eq_ok_iff]
  rw [read?_scalar]
  split <;> simp [eq_comm]

end KeyCode

/-! ## Tables and the tables in them -/

mutual

/-- The tables inside a table, depth first. -/
def Members.tablesBelow : Members → List Members
  | [] => []
  | (_, value) :: rest => Value.tablesIn value ++ Members.tablesBelow rest
termination_by structural members => members

/-- A table and the tables inside it; other values hold none. -/
def Value.tablesIn : Value → List Members
  | .mapping members => members :: Members.tablesBelow members
  | _ => []
termination_by structural value => value

end

/-- An entry of a table, with where it stands. -/
structure TableEntry where
  /-- What is written above the table, outermost first. -/
  above : List Scalar
  /-- What is written in front of the earlier entries of the table. -/
  earlier : List Scalar
  written : Scalar
  value : Value

mutual

/--
The entries of a table, depth first and each before what is nested in it,
given what is written above the table and in front of its earlier entries.
-/
def Members.entriesBelow (above earlier : List Scalar) :
    Members → List TableEntry
  | [] => []
  | (written, value) :: rest =>
      ⟨above, earlier, written, value⟩ ::
        (Value.entriesIn (above ++ [written]) value ++
          Members.entriesBelow above (earlier ++ [written]) rest)
termination_by structural members => members

/-- The entries of a nested table, given what is written above it. -/
def Value.entriesIn (above : List Scalar) : Value → List TableEntry
  | .mapping members => Members.entriesBelow above [] members
  | _ => []
termination_by structural value => value

end

/-- Each key of a table is known and new, and each value can be bound. -/
structure Members.IsLayerTable (aliases : Aliases) (table : Members) :
    Prop where
  named : ∀ entry ∈ table, ∃ key, aliases.Names entry.1 key
  distinct : table.Pairwise fun first second =>
    ∀ key, aliases.Names first.1 key → ¬aliases.Names second.1 key
  usable : ∀ entry ∈ table, entry.2.Usable aliases

namespace TableEntry

/-- What is written in front of an entry stands for no key. -/
def UnknownKey (aliases : Aliases) (entry : TableEntry)
    (fault : TableFault) : Prop :=
  (∀ key, ¬aliases.Names entry.written key) ∧
    fault = .unknownKey (.unknownKey (.scalar entry.written))

/-- It stands for a key that an earlier entry of the table is for. -/
def RepeatedKey (aliases : Aliases) (entry : TableEntry)
    (fault : TableFault) : Prop :=
  ∃ key, aliases.Names entry.written key ∧
    (∃ other ∈ entry.earlier, aliases.Names other key) ∧
    fault = .repeatedKey key entry.written

/-- The value is bad, seen from the keys that lead to it. -/
def BadValue (aliases : Aliases) (entry : TableEntry)
    (fault : TableFault) : Prop :=
  ∃ path, List.Forall₂ aliases.Names (entry.above ++ [entry.written]) path ∧
    entry.value.Bad aliases path fault

/-- The ways in which an entry can be at fault, the first counting first. -/
def faultKinds (aliases : Aliases) (entry : TableEntry) :
    List (TableFault → Prop) :=
  [entry.UnknownKey aliases, entry.RepeatedKey aliases,
    entry.BadValue aliases]

/-- The fault of an entry. -/
def Fault (aliases : Aliases) (entry : TableEntry) (fault : TableFault) :
    Prop :=
  FirstYield (fun kind fault => kind fault) (entry.faultKinds aliases) fault

end TableEntry

mutual

/-- A tree that says what a table says, entry by entry. -/
inductive Bindings.MirrorsTable (aliases : Aliases) :
    Members → Bindings → Prop
  | nil : Bindings.MirrorsTable aliases [] .nil
  | cons {written : Scalar} {value : Value} {rest : Members}
      {key : KeyCode} {entry : Entry} {others : Bindings}
      (names : aliases.Names written key)
      (mirrors : Entry.MirrorsValue aliases key value entry)
      (following : Bindings.MirrorsTable aliases rest others) :
      Bindings.MirrorsTable aliases ((written, value) :: rest)
        (Bindings.cons key entry others)

/--
What a key is bound to: a nested table is a sublayer by the name of the key,
anything else the command that it writes.
-/
inductive Entry.MirrorsValue (aliases : Aliases) :
    KeyCode → Value → Entry → Prop
  | table {key : KeyCode} {members : Members} {inner : Bindings}
      (mirrors : Bindings.MirrorsTable aliases members inner) :
      Entry.MirrorsValue aliases key (.mapping members)
        (.sublayer ⟨key, none, inner⟩)
  | command {key : KeyCode} {value : Value} {command : Command}
      (reads : value.ReadsAs aliases command) :
      Entry.MirrorsValue aliases key value (.command command)

end

/-! ## How tables are read -/

namespace Bindings

variable {aliases : Aliases} {path : KeyPath} {bound : List KeyCode}
  {written : Scalar} {value : Value} {rest : Members} {key : KeyCode}

/-- An entry with a known key is read once its key is known to be new. -/
theorem readTable?_cons (names : aliases.Names written key) :
    readTable? aliases path bound ((written, value) :: rest) =
      if key ∈ bound then .error (.repeatedKey key written)
      else
        readEntry? aliases (path ++ [key]) key value >>= fun entry =>
          readTable? aliases path (key :: bound) rest >>= fun others =>
            pure (cons key entry others) := by
  rw [readTable?, KeyCode.read?_scalar_eq_ok_iff.mpr names]
  by_cases taken : key ∈ bound
  · simp [taken, Except.mapError, throw, throwThe, MonadExceptOf.throw,
      bind, Except.bind]
  · simp [taken, Except.mapError, pure, Except.pure, bind, Except.bind]

theorem readTable?_cons_of_unknown
    (unknown : ∀ key, ¬aliases.Names written key) :
    readTable? aliases path bound ((written, value) :: rest) =
      .error (.unknownKey (.unknownKey (.scalar written))) := by
  rw [readTable?,
    KeyCode.read?_scalar_eq_error_iff.mpr ⟨unknown, rfl⟩]
  rfl

/-- A table is read entry by entry, each under a known key that is new. -/
theorem readTable?_cons_eq_ok_iff {tree : Bindings} :
    readTable? aliases path bound ((written, value) :: rest) = .ok tree ↔
      ∃ key entry others, aliases.Names written key ∧ key ∉ bound ∧
        readEntry? aliases (path ++ [key]) key value = .ok entry ∧
        readTable? aliases path (key :: bound) rest = .ok others ∧
        cons key entry others = tree := by
  by_cases known : ∃ key, aliases.Names written key
  · rcases known with ⟨key, names⟩
    rw [readTable?_cons names]
    constructor
    · intro read
      split at read
      · cases read
      · rename_i isNew
        rcases Except.bind_eq_ok_iff.mp read with ⟨entry, entryRead, read⟩
        rcases Except.bind_eq_ok_iff.mp read with ⟨others, othersRead, made⟩
        exact ⟨key, entry, others, names, isNew, entryRead, othersRead,
          Except.ok.inj made⟩
    · rintro ⟨other, entry, others, namesOther, isNew, entryRead,
        othersRead, rfl⟩
      rcases names.unique namesOther with rfl
      rw [if_neg isNew]
      exact Except.bind_eq_ok_iff.mpr ⟨entry, entryRead,
        Except.bind_eq_ok_iff.mpr ⟨others, othersRead, rfl⟩⟩
  · have unknown := not_exists.mp known
    rw [readTable?_cons_of_unknown unknown]
    constructor
    · exact nofun
    · rintro ⟨key, _, _, names, _⟩
      exact absurd names (unknown key)

/-- A new key is refused for its value, or else the rest is refused. -/
theorem readTable?_cons_eq_error_iff {fault : TableFault}
    (names : aliases.Names written key) (isNew : key ∉ bound) :
    readTable? aliases path bound ((written, value) :: rest) =
        .error fault ↔
      readEntry? aliases (path ++ [key]) key value = .error fault ∨
        (∀ other,
          readEntry? aliases (path ++ [key]) key value ≠ .error other) ∧
        readTable? aliases path (key :: bound) rest = .error fault := by
  have made : ∀ tree : Bindings,
      (pure tree : Except TableFault Bindings) ≠ .error fault :=
    fun _ => nofun
  rw [readTable?_cons names, if_neg isNew]
  simp only [Except.bind_eq_error_iff, made, and_false, exists_false,
    or_false]
  rw [exists_and_right, Except.exists_ok_iff]

theorem readEntry?_mapping_eq_ok_iff {members : Members} {entry : Entry} :
    readEntry? aliases path key (.mapping members) = .ok entry ↔
      ∃ inner, readTable? aliases path [] members = .ok inner ∧
        .sublayer ⟨key, none, inner⟩ = entry := by
  unfold readEntry?
  rw [Except.bind_eq_ok_iff]
  exact exists_congr fun _ =>
    and_congr_right fun _ => (Except.ok.injEq _ _).to_iff

theorem readEntry?_mapping_eq_error_iff {members : Members}
    {fault : TableFault} :
    readEntry? aliases path key (.mapping members) = .error fault ↔
      readTable? aliases path [] members = .error fault := by
  unfold readEntry?
  rw [Except.bind_eq_error_iff]
  constructor
  · rintro (refused | ⟨_, _, made⟩)
    · exact refused
    · cases made
  · exact .inl

/-! ### Which tables are read -/

theorem isLayerTable_cons_iff :
    Members.IsLayerTable aliases ((written, value) :: rest) ↔
      (∃ key, aliases.Names written key ∧
        ∀ entry ∈ rest, ¬aliases.Names entry.1 key) ∧
      value.Usable aliases ∧ Members.IsLayerTable aliases rest := by
  constructor
  · rintro ⟨named, distinct, usable⟩
    rw [List.forall_mem_cons] at named usable
    rw [List.pairwise_cons] at distinct
    rcases named.1 with ⟨key, names⟩
    exact ⟨⟨key, names, fun entry listed =>
      distinct.1 entry listed key names⟩, usable.1,
      named.2, distinct.2, usable.2⟩
  · rintro ⟨⟨key, names, isNew⟩, usable, others⟩
    constructor
    · exact List.forall_mem_cons.mpr ⟨⟨key, names⟩, others.named⟩
    · refine List.pairwise_cons.mpr ⟨?_, others.distinct⟩
      intro entry listed other namesOther
      rcases names.unique namesOther with rfl
      exact isNew entry listed
    · exact List.forall_mem_cons.mpr ⟨usable, others.usable⟩

/--
A table whose keys are not bound before is read exactly if it and all tables
in it are layer tables.
-/
theorem exists_readTable?_iff :
    (∀ members : Members, ∀ path bound,
      (∃ tree, readTable? aliases path bound members = .ok tree) ↔
        (∀ entry ∈ members, ∀ key ∈ bound, ¬aliases.Names entry.1 key) ∧
          ∀ table ∈ members :: members.tablesBelow,
            Members.IsLayerTable aliases table) ∧
    ∀ value : Value, ∀ path key,
      (∃ entry, readEntry? aliases path key value = .ok entry) ↔
        value.Usable aliases ∧
          ∀ table ∈ value.tablesIn, Members.IsLayerTable aliases table := by
  apply Members.tablesBelow.mutual_induct
  case case1 =>
    intro members ofMembers path key
    have usable : (Value.mapping members).Usable aliases := .table members
    have read := ofMembers path []
    simp only [readEntry?_mapping_eq_ok_iff, Value.tablesIn, usable,
      true_and]
    rw [exists_comm]
    simpa using read
  case case2 =>
    intro value noTable path key
    have none : value.tablesIn = [] := by
      rw [Value.tablesIn]
      exact noTable
    simp only [readEntry?_eq_ok_iff noTable, none, Value.usable_iff noTable]
    rw [exists_comm]
    simp
  case case3 =>
    intro path bound
    have isLayerTable : Members.IsLayerTable aliases [] :=
      ⟨nofun, .nil, nofun⟩
    simp [readTable?, Members.tablesBelow, isLayerTable]
  case case4 =>
    intro written value rest ofValue ofRest path bound
    simp only [readTable?_cons_eq_ok_iff, Members.tablesBelow,
      List.forall_mem_cons, List.forall_mem_append] at ofRest ⊢
    constructor
    · rintro ⟨_, key, entry, others, names, isNew, entryRead, othersRead,
        rfl⟩
      rcases (ofValue _ key).mp ⟨entry, entryRead⟩ with ⟨usable, inValue⟩
      rcases (ofRest _ _).mp ⟨others, othersRead⟩ with
        ⟨restNew, isLayerTable, inRest⟩
      have apart := fun other listed =>
        List.forall_mem_cons.mp (restNew other listed)
      refine ⟨⟨?_, fun other listed => (apart other listed).2⟩,
        isLayerTable_cons_iff.mpr ⟨⟨key, names, ?_⟩, usable, isLayerTable⟩,
        inValue, inRest⟩
      · intro other inBound namesOther
        exact isNew (names.unique namesOther ▸ inBound)
      · exact fun other listed => (apart other listed).1
    · rintro ⟨⟨isNew, restNew⟩, isLayerTable, inValue, inRest⟩
      rcases isLayerTable_cons_iff.mp isLayerTable with
        ⟨⟨key, names, apart⟩, usable, restLayerTable⟩
      rcases (ofValue (path ++ [key]) key).mpr ⟨usable, inValue⟩ with
        ⟨entry, entryRead⟩
      rcases (ofRest path (key :: bound)).mpr
        ⟨fun other listed => List.forall_mem_cons.mpr
            ⟨apart other listed, restNew other listed⟩,
          restLayerTable, inRest⟩ with
        ⟨others, othersRead⟩
      exact ⟨_, key, entry, others, names,
        fun inBound => isNew key inBound names, entryRead, othersRead, rfl⟩

/-! ### What they are read as -/

theorem keysDistinct_cons_iff {entry : Entry} {others : Bindings} :
    (cons key entry others).KeysDistinct ↔
      key ∉ others.keys ∧
        (∀ sublayer, entry = .sublayer sublayer →
          sublayer.inner.KeysDistinct) ∧
        others.KeysDistinct := by
  cases entry <;> simp [cons, KeysDistinct]

theorem mirrorsTable_cons_iff {tree : Bindings} :
    MirrorsTable aliases ((written, value) :: rest) tree ↔
      ∃ key entry others, aliases.Names written key ∧
        Entry.MirrorsValue aliases key value entry ∧
        MirrorsTable aliases rest others ∧ cons key entry others = tree := by
  constructor
  · intro mirrors
    cases mirrors with
    | cons names mirrors following =>
        exact ⟨_, _, _, names, mirrors, following, rfl⟩
  · rintro ⟨key, entry, others, names, mirrors, following, rfl⟩
    exact .cons names mirrors following

/--
What a table is read as mirrors it, with each key once and none that is bound
before.
-/
theorem readTable?_eq_ok_iff :
    (∀ members : Members, ∀ path bound tree,
      readTable? aliases path bound members = .ok tree ↔
        MirrorsTable aliases members tree ∧ tree.KeysDistinct ∧
          ∀ key ∈ tree.keys, key ∉ bound) ∧
    ∀ value : Value, ∀ path key entry,
      readEntry? aliases path key value = .ok entry ↔
        Entry.MirrorsValue aliases key value entry ∧
          ∀ sublayer, entry = .sublayer sublayer →
            sublayer.inner.KeysDistinct := by
  apply Members.tablesBelow.mutual_induct
  case case1 =>
    intro members ofMembers path key entry
    rw [readEntry?_mapping_eq_ok_iff]
    constructor
    · rintro ⟨inner, read, rfl⟩
      rcases (ofMembers path [] inner).mp read with ⟨mirrors, distinct, _⟩
      refine ⟨.table mirrors, ?_⟩
      rintro _ same
      cases same
      exact distinct
    · rintro ⟨mirrors, distinct⟩
      cases mirrors with
      | table mirrors =>
          exact ⟨_, (ofMembers path [] _).mpr
            ⟨mirrors, distinct _ rfl, fun _ _ => List.not_mem_nil⟩, rfl⟩
      | command reads =>
          exact absurd reads (Value.not_readsAs_mapping members)
  case case2 =>
    intro value noTable path key entry
    rw [readEntry?_eq_ok_iff noTable]
    constructor
    · rintro ⟨command, reads, rfl⟩
      refine ⟨.command reads, ?_⟩
      intro sublayer same
      cases same
    · rintro ⟨mirrors, _⟩
      cases mirrors with
      | table _ => exact absurd rfl (noTable _)
      | command reads => exact ⟨_, reads, rfl⟩
  case case3 =>
    intro path bound tree
    rw [readTable?]
    constructor
    · intro read
      cases read
      exact ⟨.nil, trivial,
        fun _ listed => absurd listed List.not_mem_nil⟩
    · rintro ⟨mirrors, _⟩
      cases mirrors
      rfl
  case case4 =>
    intro written value rest ofValue ofRest path bound tree
    rw [readTable?_cons_eq_ok_iff, mirrorsTable_cons_iff]
    constructor
    · rintro ⟨key, entry, others, names, isNew, entryRead, othersRead, rfl⟩
      rcases (ofValue _ key entry).mp entryRead with ⟨mirrors, inEntry⟩
      rcases (ofRest _ _ others).mp othersRead with
        ⟨following, distinct, free⟩
      refine ⟨⟨key, entry, others, names, mirrors, following, rfl⟩,
        keysDistinct_cons_iff.mpr ⟨?_, inEntry, distinct⟩, ?_⟩
      · exact fun again => free key again List.mem_cons_self
      · rw [keys_cons, List.forall_mem_cons]
        exact ⟨isNew, fun other listed inBound =>
          free other listed (List.mem_cons_of_mem _ inBound)⟩
    · rintro ⟨⟨key, entry, others, names, mirrors, following, rfl⟩,
        distinct, free⟩
      rcases keysDistinct_cons_iff.mp distinct with
        ⟨once, inEntry, distinct⟩
      rw [keys_cons, List.forall_mem_cons] at free
      refine ⟨key, entry, others, names, free.1,
        (ofValue _ _ _).mpr ⟨mirrors, inEntry⟩,
        (ofRest _ _ _).mpr ⟨following, distinct, ?_⟩, rfl⟩
      intro other listed inBound
      rcases List.mem_cons.mp inBound with rfl | inBound
      · exact once listed
      · exact free.2 other listed inBound

end Bindings

/-! ### What they are refused for -/

/-- The first to yield anything is in the front, or else in what follows. -/
theorem FirstYield.append_iff {α β : Type} {yields : α → β → Prop}
    {front rest : List α} {result : β} :
    FirstYield yields (front ++ rest) result ↔
      FirstYield yields front result ∨
        (∀ result, ¬FirstYield yields front result) ∧
          FirstYield yields rest result := by
  induction front with
  | nil => simp [nil_iff]
  | cons first others ih =>
      rw [List.cons_append, cons_iff, cons_iff, ih]
      simp only [cons_iff, not_or, not_and, forall_and]
      tauto

namespace TableEntry

variable {aliases : Aliases} {key : KeyCode} (entry : TableEntry)

theorem fault_iff (fault : TableFault) :
    entry.Fault aliases fault ↔
      entry.UnknownKey aliases fault ∨
        (∀ fault, ¬entry.UnknownKey aliases fault) ∧
          (entry.RepeatedKey aliases fault ∨
            (∀ fault, ¬entry.RepeatedKey aliases fault) ∧
              entry.BadValue aliases fault) := by
  simp [Fault, faultKinds, FirstYield.cons_iff, FirstYield.nil_iff]

theorem fault_of_unknown
    (unknown : ∀ key, ¬aliases.Names entry.written key)
    (fault : TableFault) :
    entry.Fault aliases fault ↔
      .unknownKey (.unknownKey (.scalar entry.written)) = fault := by
  have found : ∀ fault, entry.UnknownKey aliases fault ↔
      .unknownKey (.unknownKey (.scalar entry.written)) = fault :=
    fun _ => (and_iff_right unknown).trans eq_comm
  simp [fault_iff, found]

theorem fault_of_repeated (names : aliases.Names entry.written key)
    (again : ∃ other ∈ entry.earlier, aliases.Names other key)
    (fault : TableFault) :
    entry.Fault aliases fault ↔
      .repeatedKey key entry.written = fault := by
  have known : ∀ fault, ¬entry.UnknownKey aliases fault :=
    fun _ unknown => unknown.1 key names
  have found : ∀ fault, entry.RepeatedKey aliases fault ↔
      .repeatedKey key entry.written = fault := by
    intro fault
    constructor
    · rintro ⟨other, namesOther, _, rfl⟩
      rw [names.unique namesOther]
    · rintro rfl
      exact ⟨key, names, again, rfl⟩
  simp [fault_iff, known, found]

theorem fault_of_new {path : KeyPath}
    (placed : List.Forall₂ aliases.Names entry.above path)
    (names : aliases.Names entry.written key)
    (isNew : ¬∃ other ∈ entry.earlier, aliases.Names other key)
    (fault : TableFault) :
    entry.Fault aliases fault ↔
      entry.value.Bad aliases (path ++ [key]) fault := by
  have known : ∀ fault, ¬entry.UnknownKey aliases fault :=
    fun _ unknown => unknown.1 key names
  have once : ∀ fault, ¬entry.RepeatedKey aliases fault := by
    rintro fault ⟨other, namesOther, again, _⟩
    rw [names.unique namesOther] at isNew
    exact isNew again
  have badValue : entry.BadValue aliases fault ↔
      entry.value.Bad aliases (path ++ [key]) fault := by
    have ownPath := names.placed placed
    constructor
    · rintro ⟨other, placedOther, bad⟩
      have samePath : path ++ [key] = other :=
        List.right_unique_forall₂' aliases.rightUnique_names ownPath
          placedOther
      rw [samePath]
      exact bad
    · exact fun bad => ⟨_, ownPath, bad⟩
  simp [fault_iff, known, once, badValue]

end TableEntry

namespace Bindings

variable {aliases : Aliases}

/--
A table is refused for the first entry at fault in it, depth first.
-/
theorem readTable?_eq_error_iff :
    (∀ members : Members, ∀ above path earlier bound fault,
      ∀ _placed : List.Forall₂ aliases.Names above path,
      ∀ _taken : ∀ key, key ∈ bound ↔
        ∃ other ∈ earlier, aliases.Names other key,
      readTable? aliases path bound members = .error fault ↔
        FirstYield (TableEntry.Fault aliases)
          (members.entriesBelow above earlier) fault) ∧
    ∀ value : Value, ∀ above path key fault,
      ∀ _placed : List.Forall₂ aliases.Names above path,
      readEntry? aliases path key value = .error fault ↔
        value.Bad aliases path fault ∨
          (∀ fault, ¬value.Bad aliases path fault) ∧
            FirstYield (TableEntry.Fault aliases)
              (value.entriesIn above) fault := by
  apply Members.tablesBelow.mutual_induct
  case case1 =>
    intro members ofMembers above path key fault placed
    have notBad : ∀ fault,
        ¬(Value.mapping members).Bad aliases path fault := by
      intro fault bad
      cases bad with
      | unusable noTable _ _ => exact noTable _ rfl
    rw [readEntry?_mapping_eq_error_iff, Value.entriesIn,
      ofMembers above path [] [] fault placed (by simp)]
    simp [notBad]
  case case2 =>
    intro value noTable above path key fault placed
    have none : value.entriesIn above = [] := by
      rw [Value.entriesIn]
      exact noTable
    simp [readEntry?_eq_error_iff noTable, none, FirstYield.nil_iff]
  case case3 =>
    intro above path earlier bound fault placed taken
    simp [readTable?, Members.entriesBelow, FirstYield.nil_iff]
  case case4 =>
    intro written value rest ofValue ofRest above path earlier bound fault
      placed taken
    rw [Members.entriesBelow, FirstYield.cons_iff, FirstYield.append_iff]
    by_cases known : ∃ key, aliases.Names written key
    · rcases known with ⟨key, names⟩
      by_cases again : key ∈ bound
      · rw [readTable?_cons names]
        have found := TableEntry.fault_of_repeated
          ⟨above, earlier, written, value⟩ names ((taken key).mp again)
        simp [again, found]
      · have takenNext : ∀ other, other ∈ key :: bound ↔
            ∃ earlierWritten ∈ earlier ++ [written],
              aliases.Names earlierWritten other := by
          intro other
          have isOwn : other = key ↔ aliases.Names written other :=
            ⟨fun same => same ▸ names, fun own => own.unique names⟩
          simp [taken, isOwn, or_and_right, exists_or, or_comm]
        have found := TableEntry.fault_of_new
          ⟨above, earlier, written, value⟩ placed names
          (again ∘ (taken key).mpr)
        have inValue := fun fault =>
          ofValue (above ++ [written]) (path ++ [key]) key fault
            (names.placed placed)
        have inRest := ofRest above path (earlier ++ [written])
          (key :: bound) fault placed takenNext
        rw [readTable?_cons_eq_error_iff names again, inRest]
        simp only [ne_eq, inValue, found, not_or, not_and, forall_and]
        tauto
    · have unknown := not_exists.mp known
      have found := TableEntry.fault_of_unknown
        ⟨above, earlier, written, value⟩ unknown
      rw [readTable?_cons_of_unknown unknown]
      simp [found]

end Bindings

/-! ## The layers of settings -/

/--
The layers of settings are read exactly if each table of them is a layer
table.  The tree that they are read as is the one that mirrors them and binds
no key of a layer twice.  They are refused for the first of their entries, in
order, that is at fault.
-/
theorem Settings.layers_read (settings : Settings) :
    ((∃ tree, settings.bindings? = .ok tree) ↔
      ∀ table ∈ settings.layers :: settings.layers.tablesBelow,
        Members.IsLayerTable settings.aliases table) ∧
    (∀ tree, settings.bindings? = .ok tree ↔
      Bindings.MirrorsTable settings.aliases settings.layers tree ∧
        tree.KeysDistinct) ∧
    ∀ fault, settings.bindings? = .error fault ↔
      FirstYield (TableEntry.Fault settings.aliases)
        (settings.layers.entriesBelow [] []) fault := by
  refine ⟨?_, ?_, ?_⟩
  · rw [bindings?, Bindings.exists_readTable?_iff.1]
    simp
  · intro tree
    rw [bindings?, Bindings.readTable?_eq_ok_iff.1]
    simp
  · intro fault
    exact Bindings.readTable?_eq_error_iff.1 settings.layers [] [] [] []
      fault .nil (by simp)

-- a bad text in front does not matter where something else is no text
example : ({ layers := [(.text "a", .list [.text "open", .integer 1])] } :
    Settings).bindings? = .error (.mixedList [.a]) := by
  rfl

end ModalKeymap
