import Mathlib.Data.List.Forall2
import ModalKeymap.Proofs.Acceptance
import ModalKeymap.Proofs.Bindings
import ModalKeymap.Proofs.ChordReading
import ModalKeymap.Settings.Document

/-!
# What settings are read as

A document is made of settings once their parts have been read: the layers as
a tree, the remapped chords, how leader mode is entered and left, and the
conventions.  `Settings.Reading` holds these parts together with what has been
checked of them, and `Settings.exists_reading` gives the manipulators of a
document in terms of them.  A tree that was read from a table has distinct
keys, and its sublayers go by the keys they stand under
(`Settings.bindings?_wellFormed`).
-/

namespace ModalKeymap

/-! ## Readings that may fail -/

section Except

variable {ε ε' α β : Type}

theorem Except.bind_eq_ok_iff {result : Except ε α} {next : α → Except ε β}
    {value : β} :
    (result >>= next) = .ok value ↔
      ∃ first, result = .ok first ∧ next first = .ok value := by
  cases result with
  | error fault => simp [bind, Except.bind]
  | ok first => simp [bind, Except.bind]

theorem Except.mapError_eq_ok_iff {result : Except ε α} {wrap : ε → ε'}
    {value : α} :
    result.mapError wrap = .ok value ↔ result = .ok value := by
  cases result <;> simp [Except.mapError]

theorem Except.exists_of_toOption_map {result : Except ε α} {view : α → β}
    {seen : β} (mapped : result.toOption.map view = some seen) :
    ∃ value, result = .ok value ∧ view value = seen := by
  cases result with
  | error fault => cases mapped
  | ok value => exact ⟨value, rfl, Option.some.inj mapped⟩

/-- Several readings have one result each, in order. -/
theorem Except.forall₂_of_mapM {read : α → Except ε β}
    {inputs : List α} {results : List β}
    (accepted : inputs.mapM read = .ok results) :
    List.Forall₂ (fun input result => read input = .ok result) inputs
      results := by
  induction inputs generalizing results with
  | nil =>
      cases accepted
      exact .nil
  | cons first rest ih =>
      rw [List.mapM_cons] at accepted
      rcases Except.bind_eq_ok_iff.mp accepted with
        ⟨head, headRead, accepted⟩
      rcases Except.bind_eq_ok_iff.mp accepted with
        ⟨tail, tailRead, made⟩
      cases made
      exact .cons headRead (ih tailRead)

/-- Each result of several readings is the result of one of them. -/
theorem Except.exists_of_mem_mapM {read : α → Except ε β}
    {inputs : List α} {results : List β}
    (accepted : inputs.mapM read = .ok results) {result : β}
    (member : result ∈ results) :
    ∃ input ∈ inputs, read input = .ok result := by
  have related := Except.forall₂_of_mapM accepted
  clear accepted
  induction related with
  | nil => cases member
  | cons headRead _ ih =>
      rcases List.mem_cons.mp member with rfl | later
      · exact ⟨_, List.mem_cons_self, headRead⟩
      · rcases ih later with ⟨input, listed, read⟩
        exact ⟨input, List.mem_cons_of_mem _ listed, read⟩

end Except

/-! ## Tables of layers -/

namespace Bindings

variable {aliases : Aliases}

/-- A binding in front is read before the rest of its table. -/
theorem readTable?_cons_eq_ok {path : KeyPath} {bound : List KeyCode}
    {written : Scalar} {value : Value} {rest : Members} {tree : Bindings}
    (read : readTable? aliases path bound ((written, value) :: rest) =
      .ok tree) :
    ∃ key entry others, key ∉ bound ∧
      readEntry? aliases (path ++ [key]) key value = .ok entry ∧
      readTable? aliases path (key :: bound) rest = .ok others ∧
      tree = cons key entry others := by
  rw [readTable?] at read
  rcases Except.bind_eq_ok_iff.mp read with ⟨key, _, read⟩
  by_cases taken : key ∈ bound
  · simp [taken, throw, throwThe, MonadExceptOf.throw, bind, Except.bind]
      at read
  · simp only [taken, if_false] at read
    rcases Except.bind_eq_ok_iff.mp read with ⟨entry, entryRead, read⟩
    rcases Except.bind_eq_ok_iff.mp read with ⟨others, othersRead, made⟩
    cases made
    exact ⟨key, entry, others, taken, entryRead, othersRead, rfl⟩

theorem keys_cons (key : KeyCode) (entry : Entry) (rest : Bindings) :
    (cons key entry rest).keys = key :: rest.keys := by
  cases entry <;> rfl

/--
A tree read from a table binds each key once and names each sublayer by its
key, and binds none of the keys that were bound before.
-/
theorem readTable?_wellFormed (path : KeyPath) (bound : List KeyCode)
    (members : Members) (tree : Bindings)
    (read : readTable? aliases path bound members = .ok tree) :
    (∀ key ∈ tree.keys, key ∉ bound) ∧ tree.KeysDistinct ∧
      tree.SelfNamed := by
  refine (readTable?.mutual_induct
    (fun path bound members => ∀ tree,
      readTable? aliases path bound members = .ok tree →
        (∀ key ∈ tree.keys, key ∉ bound) ∧ tree.KeysDistinct ∧
          tree.SelfNamed)
    (fun path key value => ∀ entry,
      readEntry? aliases path key value = .ok entry →
        ∀ sublayer, entry = .sublayer sublayer →
          sublayer.name = key ∧ sublayer.inner.KeysDistinct ∧
            sublayer.inner.SelfNamed)
    ?_ ?_ ?_ ?_ ?_ ?_ ?_).1 path bound members tree read
  · -- a nested table
    intro path key members below entry read sublayer isSublayer
    unfold readEntry? at read
    rcases Except.bind_eq_ok_iff.mp read with ⟨inner, innerRead, made⟩
    cases made
    cases isSublayer
    exact ⟨rfl, (below inner innerRead).2⟩
  · -- a text
    intro path key expression entry read sublayer isSublayer
    unfold readEntry? at read
    rcases Except.bind_eq_ok_iff.mp read with ⟨command, _, made⟩
    cases made
    cases isSublayer
  · -- a list that holds something else than texts
    intro path key items mixed entry read
    unfold readEntry? at read
    rw [mixed] at read
    cases read
  · -- a list of texts
    intro path key items expressions texts entry read sublayer isSublayer
    unfold readEntry? at read
    rw [texts] at read
    rcases Except.bind_eq_ok_iff.mp read with ⟨command, _, made⟩
    cases made
    cases isSublayer
  · -- any other value
    intro path key other noMapping noText noList entry read
    unfold readEntry? at read
    split at read
    · exact absurd rfl (noMapping _)
    · exact absurd rfl (noText _)
    · exact absurd rfl (noList _)
    · cases read
  · intro path bound tree read
    cases read
    simp [KeysDistinct, SelfNamed]
  · intro path bound written value rest valueIH restIH tree read
    rcases readTable?_cons_eq_ok read with
      ⟨key, entry, others, free, entryRead, othersRead, rfl⟩
    have ofEntry := valueIH key entry entryRead
    rcases restIH key others othersRead with ⟨below, distinct, named⟩
    have fresh : key ∉ others.keys := fun member =>
      below key member List.mem_cons_self
    constructor
    · rw [keys_cons]
      intro other member
      rcases List.mem_cons.mp member with rfl | member
      · exact free
      · exact fun inBound =>
          below other member (List.mem_cons_of_mem _ inBound)
    · cases entry with
      | command command => exact ⟨⟨fresh, distinct⟩, named⟩
      | sublayer sublayer =>
          rcases ofEntry sublayer rfl with ⟨ownName, inner, innerNamed⟩
          exact ⟨⟨fresh, inner, distinct⟩, ownName, innerNamed, named⟩

/-- What holds of every command that is read holds of all in a tree. -/
theorem readTable?_commands (property : Command → Prop)
    (single : ∀ expression command,
      Command.read? aliases expression = .ok command → property command)
    (several : ∀ expressions command,
      Command.readAll? aliases expressions = .ok command → property command)
    (path : KeyPath) (bound : List KeyCode) (members : Members)
    (tree : Bindings)
    (read : readTable? aliases path bound members = .ok tree) :
    ∀ above, ∀ listed ∈ tree.commandsBelow above, property listed.2 := by
  refine (readTable?.mutual_induct
    (fun path bound members => ∀ tree,
      readTable? aliases path bound members = .ok tree →
        ∀ above, ∀ listed ∈ tree.commandsBelow above, property listed.2)
    (fun path key value => ∀ entry,
      readEntry? aliases path key value = .ok entry →
        ∀ above, ∀ listed ∈ (cons key entry .nil).commandsBelow above,
          property listed.2)
    ?_ ?_ ?_ ?_ ?_ ?_ ?_).1 path bound members tree read
  · -- a nested table
    intro path key members below entry read above listed member
    unfold readEntry? at read
    rcases Except.bind_eq_ok_iff.mp read with ⟨inner, innerRead, made⟩
    cases made
    have inInner : listed ∈ inner.commandsBelow (above ++ [key]) := by
      simpa [cons, commandsBelow] using member
    exact below inner innerRead _ listed inInner
  · -- a text
    intro path key expression entry read above listed member
    unfold readEntry? at read
    rcases Except.bind_eq_ok_iff.mp read with ⟨command, commandRead, made⟩
    cases made
    rcases List.mem_singleton.mp member with rfl
    exact single expression command
      (Except.mapError_eq_ok_iff.mp commandRead)
  · -- a list that holds something else than texts
    intro path key items mixed entry read
    unfold readEntry? at read
    rw [mixed] at read
    cases read
  · -- a list of texts
    intro path key items expressions texts entry read above listed member
    unfold readEntry? at read
    rw [texts] at read
    rcases Except.bind_eq_ok_iff.mp read with ⟨command, commandRead, made⟩
    cases made
    rcases List.mem_singleton.mp member with rfl
    exact several expressions command
      (Except.mapError_eq_ok_iff.mp commandRead)
  · -- any other value
    intro path key other noMapping noText noList entry read
    unfold readEntry? at read
    split at read
    · exact absurd rfl (noMapping _)
    · exact absurd rfl (noText _)
    · exact absurd rfl (noList _)
    · cases read
  · intro path bound tree read above listed member
    cases read
    cases member
  · intro path bound written value rest valueIH restIH tree read above
      listed member
    rcases readTable?_cons_eq_ok read with
      ⟨key, entry, others, _, entryRead, othersRead, rfl⟩
    rw [(entrywise_commandsBelow _).cons] at member
    rcases List.mem_append.mp member with first | later
    · exact valueIH key entry entryRead above listed first
    · exact restIH key others othersRead above listed later

end Bindings

/-! ## Commands and chords -/

namespace Command

variable {aliases : Aliases} {command : Command}

/-- An expression writes a chord to send or a command of a kind. -/
theorem read?_eq_ok {expression : String}
    (read : read? aliases expression = .ok command) :
    (∃ chord : Chord, command = press chord.key chord.modifiers) ∨
      ∃ kind argument, ofKind? kind argument = some command := by
  unfold read? at read
  split at read
  · cases read
  dsimp only at read
  split at read
  · cases read
  split at read
  · split at read
    · rename_i chord _
      cases read
      exact .inl ⟨chord, rfl⟩
    · cases read
  · split at read
    · rename_i made
      cases read
      exact .inr ⟨_, _, made⟩
    · cases read

/-- The effects of a command that an expression writes set no variable. -/
theorem variable?_of_read? {expression : String}
    (read : read? aliases expression = .ok command) :
    ∀ effect ∈ command.effects, effect.variable? = none := by
  intro effect member
  rcases read?_eq_ok read with ⟨chord, rfl⟩ | ⟨kind, argument, made⟩
  · rcases List.mem_singleton.mp member with rfl
    rfl
  · unfold ofKind? at made
    split at made <;> cases made <;>
      rcases List.mem_singleton.mp member with rfl <;> rfl

theorem variable?_of_readAll? {expressions : List String}
    (read : readAll? aliases expressions = .ok command) :
    ∀ effect ∈ command.effects, effect.variable? = none := by
  rw [readAll?] at read
  rcases Except.bind_eq_ok_iff.mp read with ⟨commands, allRead, made⟩
  split at made
  · cases made
  · cases made
    intro effect member
    rw [effects_merge] at member
    rcases List.mem_flatMap.mp member with ⟨single, listed, inSingle⟩
    rcases Except.exists_of_mem_mapM allRead listed with
      ⟨expression, _, singleRead⟩
    exact variable?_of_read? singleRead effect inSingle

end Command

/-- A chord that is read names its modifiers one by one. -/
theorem Chord.any_not_mem_of_read? {separator : Text.Separator}
    {aliases : Aliases} {expression : String} {chord : Chord}
    (read : read? separator aliases expression = .ok chord) :
    .any ∉ chord.modifiers :=
  (isCanonical_of_read? read).noCatchAll

namespace Settings

variable {settings : Settings}

/-- The commands of a tree read from a table set no variable. -/
theorem variable?_of_bindings? {tree : Bindings}
    (read : settings.bindings? = .ok tree) {path : KeyPath}
    {command : Command} (below : (path, command) ∈ tree.commandsBelow []) :
    ∀ effect ∈ command.effects, effect.variable? = none :=
  Bindings.readTable?_commands
    (fun command => ∀ effect ∈ command.effects, effect.variable? = none)
    (fun _ _ => Command.variable?_of_read?)
    (fun _ _ => Command.variable?_of_readAll?)
    [] [] settings.layers tree read [] _ below

theorem bindings?_wellFormed {tree : Bindings}
    (read : settings.bindings? = .ok tree) :
    tree.KeysDistinct ∧ tree.SelfNamed :=
  (Bindings.readTable?_wellFormed [] [] settings.layers tree read).2

/-! ## The parts of a document -/

/-- What settings are read as, with what has been checked of it. -/
structure Reading (settings : Settings) where
  tree : Bindings
  remaps : List Rule
  activation : List Rule
  deactivation : List KeyCode
  conventions : Conventions
  tree_read : settings.bindings? = .ok tree
  remaps_read : settings.remaps.mapM
    (RemapSettings.rule? settings.aliases) = .ok remaps
  activation_read : settings.activationRules? = .ok activation
  deactivation_read : settings.deactivationKeys? = .ok deactivation
  conventions_read : settings.conventions? = .ok conventions
  deactivation_free : ∀ key ∈ tree.keys, key ∉ deactivation
  accepts : conventions.Accepts tree

namespace Reading

/-- The manipulators of the document, in order. -/
def manipulators (reading : settings.Reading) : List Manipulator :=
  (reading.remaps ++ reading.activation).flatMap Rule.manipulators ++
    reading.deactivation.map
      (Rule.deactivationBy reading.conventions.leader) ++
    (reading.conventions.rules reading.tree).flatMap Rule.manipulators

theorem keysDistinct (reading : settings.Reading) :
    reading.tree.KeysDistinct :=
  (bindings?_wellFormed reading.tree_read).1

theorem selfNamed (reading : settings.Reading) : reading.tree.SelfNamed :=
  (bindings?_wellFormed reading.tree_read).2

/-- The conventions of settings name flags in the usual way. -/
theorem conventions_eq (reading : settings.Reading) :
    reading.conventions =
      { leader := settings.leader.flag
        escape := reading.conventions.escape } := by
  have read := reading.conventions_read
  rw [conventions?] at read
  rcases Except.bind_eq_ok_iff.mp read with ⟨escapeKey, _, made⟩
  rw [← Except.ok.inj made]

theorem leader_eq (reading : settings.Reading) :
    reading.conventions.leader = settings.leader.flag := by
  rw [reading.conventions_eq]

/-- A chord that is given for leader mode is read, and entered by a rule. -/
theorem exists_chord (reading : settings.Reading)
    (given : settings.leader.activate.getD "" ≠ "") :
    ∃ chord,
      Chord.read? Chord.plus settings.aliases
          (settings.leader.activate.getD "") = .ok chord ∧
        reading.activation =
          [Rule.activation reading.conventions.leader chord] := by
  have read := reading.activation_read
  rw [activationRules?, if_neg (by simpa using given)] at read
  rcases Except.bind_eq_ok_iff.mp read with ⟨chord, chordRead, made⟩
  refine ⟨chord, Except.mapError_eq_ok_iff.mp chordRead, ?_⟩
  rw [reading.leader_eq]
  exact (Except.ok.inj made).symm

/-- There is a rule for entering leader mode exactly if a chord is given. -/
theorem activation_eq (reading : settings.Reading) :
    (settings.leader.activate.getD "" = "" ∧ reading.activation = []) ∨
      (settings.leader.activate.getD "" ≠ "" ∧ ∃ chord,
        reading.activation =
          [Rule.activation reading.conventions.leader chord]) := by
  by_cases noChord : settings.leader.activate.getD "" = ""
  · have read := reading.activation_read
    rw [activationRules?, noChord] at read
    exact .inl ⟨noChord, (Except.ok.inj read).symm⟩
  · rcases reading.exists_chord noChord with ⟨chord, _, entered⟩
    exact .inr ⟨noChord, chord, entered⟩

/-- What the rules of a document are when it is made of this reading. -/
def rules (reading : settings.Reading) : List Rule :=
  reading.remaps ++ reading.activation ++
    (Rule.deactivation? reading.conventions.leader
      reading.deactivation).toList ++
    reading.conventions.rules reading.tree

theorem flatMap_manipulators_rules (reading : settings.Reading) :
    reading.rules.flatMap Rule.manipulators = reading.manipulators := by
  rw [rules, manipulators, List.flatMap_append, List.flatMap_append,
    Rule.manipulators_deactivation?]

end Reading

/-- The rules of a document are made of a reading of the settings. -/
theorem exists_reading_rules {compilation : Compilation}
    (compiled : settings.compile? = .ok compilation) :
    ∃ reading : settings.Reading,
      compilation.document.rules = reading.rules := by
  rw [compile?] at compiled
  rcases Except.bind_eq_ok_iff.mp compiled with ⟨tree, treeRead, compiled⟩
  rcases Except.bind_eq_ok_iff.mp compiled with
    ⟨remaps, remapsRead, compiled⟩
  rcases Except.bind_eq_ok_iff.mp compiled with
    ⟨activation, activationRead, compiled⟩
  rcases Except.bind_eq_ok_iff.mp compiled with
    ⟨deactivation, deactivationRead, compiled⟩
  rcases Except.bind_eq_ok_iff.mp compiled with
    ⟨conventions, conventionsRead, compiled⟩
  rcases Except.bind_eq_ok_iff.mp compiled with
    ⟨layers, layersMade, compiled⟩
  rw [Except.mapError_eq_ok_iff] at treeRead layersMade
  rw [deactivationRules?] at deactivationRead
  rcases Except.bind_eq_ok_iff.mp deactivationRead with
    ⟨keys, keysRead, ruleMade⟩
  rcases Conventions.compile?_eq_ok_iff_accepts.mp layersMade with
    ⟨accepts, rfl⟩
  have free : tree.keys.find? (· ∈ keys) = none := by
    cases found : tree.keys.find? (· ∈ keys) with
    | none => rfl
    | some key =>
        rw [found] at ruleMade
        cases ruleMade
  rw [free] at ruleMade
  cases ruleMade
  let reading : settings.Reading :=
    { tree := tree
      remaps := remaps
      activation := activation
      deactivation := keys
      conventions := conventions
      tree_read := treeRead
      remaps_read := remapsRead
      activation_read := activationRead
      deactivation_read := keysRead
      conventions_read := conventionsRead
      deactivation_free := by simpa using free
      accepts := accepts }
  refine ⟨reading, ?_⟩
  cases compiled
  rw [Document.rules_single, Reading.rules, reading.leader_eq]

/-- A document is made of a reading of the settings. -/
theorem exists_reading {compilation : Compilation}
    (compiled : settings.compile? = .ok compilation) :
    ∃ reading : settings.Reading,
      compilation.document.manipulators = reading.manipulators := by
  rcases exists_reading_rules compiled with ⟨reading, listed⟩
  exact ⟨reading, by
    rw [Document.manipulators, listed, reading.flatMap_manipulators_rules]⟩

end Settings

end ModalKeymap
