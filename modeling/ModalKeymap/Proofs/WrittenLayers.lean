import ModalKeymap.Bindings.Value
import ModalKeymap.Proofs.Undoing
import ModalKeymap.Validation.Conventions

/-!
# Layers that are written back

A check reads many values as one: numbers and truth values as integers,
mappings with fields in any order and with others between them.  What it reads
is written back as plain mappings of its fields.  No check reads a command
without effects (`Bindings.acts_of_checked`), and everything else is read back
from what is written for it (`Bindings.checkEntry_toValue`).  So checking and
writing back settles a value: checked again, it is the same entry.
-/

namespace ModalKeymap

/-! ## Effects and commands -/

theorem Modifier.undoes_listToValue :
    (Check.list .modifier).Undoes Modifier.listToValue :=
  Check.undoes_modifier.list

theorem FlagValue.undoes : FlagValue.check.Undoes FlagValue.toValue := by
  intro value
  cases value with
  | text written => exact ⟨rfl, nofun⟩
  | integer number => exact ⟨rfl, nofun⟩

theorem Effect.undoes : Effect.check.Undoes Effect.toValue := by
  intro effect
  constructor
  · cases effect with
    | key code modifiers =>
        show ((Effect.key <$> Members.required "key" .key _ <*>
          Members.optional "modifiers" [] (.list .modifier) _).within _) = _
        rw [Members.required_of_get? Check.undoes_key,
          Members.optional_of_get? Modifier.undoes_listToValue]
        all_goals rfl
    | consumerKey name => rfl
    | shell line => rfl
    | setVariable name value =>
        show ((Effect.setVariable <$> Members.required "name" .text _ <*>
          Members.required "value" FlagValue.check _).within _) = _
        rw [Members.required_of_get? Check.undoes_text,
          Members.required_of_get? FlagValue.undoes]
        all_goals rfl
  · cases effect <;> nofun

/-- A text or null is read back where a field may be null. -/
theorem Members.maybe_of_ofText? {members : Members} {name : String}
    {content : Option String}
    (found : members.get? name = some (Value.ofText? content)) :
    members.maybe name .text = .valid content := by
  rw [maybe, optional, found]
  cases content with
  | none => rfl
  | some written => rfl

/-- A word that is fixed is read back from its own field. -/
theorem Members.optional_fixedWord_of_get? {members : Members}
    {name expected : String}
    (found : members.get? name = some (.text expected)) :
    members.optional name () (.fixedWord expected) = .valid () :=
  @optional_of_get? _ _ _ _ _ (Check.undoes_fixedWord expected) () () found

namespace Command

/-- A list of effects is read back unless it is empty. -/
theorem checkEffects_toValue {effects : List Effect}
    (acts : effects ≠ []) :
    checkEffects (.list (effects.map Effect.toValue)) = .valid effects := by
  cases effects with
  | nil => exact absurd rfl acts
  | cons first rest => exact (Effect.undoes.list (first :: rest)).1

theorem required_effects_of_get? {members : Members}
    {effects : List Effect} (acts : effects ≠ [])
    (found : members.get? "effects" =
      some (.list (effects.map Effect.toValue))) :
    members.required "effects" checkEffects = .valid effects := by
  rw [Members.required, found]
  simp [checkEffects_toValue acts]

theorem effects_ne_nil_of_checkEffects {value : Value}
    {effects : List Effect} (read : checkEffects value = .valid effects) :
    effects ≠ [] := by
  unfold checkEffects at read
  split at read
  · cases read
  · next notEmpty =>
      rintro rfl
      unfold Check.list at read
      split at read
      · next items =>
          cases items with
          | nil => exact notEmpty rfl
          | cons first rest =>
              rw [Check.items, Checked.seq_eq_valid_iff] at read
              rcases read with ⟨_, _, made, _, joined⟩
              rcases Checked.map_eq_valid_iff.mp made with ⟨_, _, rfl⟩
              cases joined
      · cases read

theorem effects_ne_nil_of_required {members : Members}
    {effects : List Effect}
    (read : members.required "effects" checkEffects = .valid effects) :
    effects ≠ [] := by
  unfold Members.required at read
  split at read
  · exact effects_ne_nil_of_checkEffects
      (Checked.within_eq_valid_iff.mp read)
  · cases read

/-- What is read as a command has effects. -/
theorem effects_ne_nil_of_fields {members : Members} {command : Command}
    (read : fields members = .valid command) : command.effects ≠ [] := by
  simp only [fields, Checked.seq_eq_valid_iff,
    Checked.map_eq_valid_iff] at read
  rcases read with
    ⟨_, _, ⟨_, effects, ⟨_, _, rfl⟩, effectsRead, rfl⟩, _, rfl⟩
  exact effects_ne_nil_of_required effectsRead

/-- A command that has effects is read back from its fields. -/
theorem record_fields_toValue {command : Command}
    (acts : command.effects ≠ []) :
    (Check.record fields) command.toValue = .valid command := by
  rw [toValue, Check.record, fields, Members.optional_fixedWord_of_get?,
    required_effects_of_get? acts,
    @Members.maybe_of_ofText? _ _ command.description]
  all_goals rfl

end Command

/-! ## What checks read -/

theorem Sublayer.inner_of_fields {inner : Checked Bindings}
    {members : Members} {sublayer : Sublayer}
    (read : fields inner members = .valid sublayer) :
    inner = .valid sublayer.inner := by
  simp only [fields, Checked.seq_eq_valid_iff,
    Checked.map_eq_valid_iff] at read
  rcases read with
    ⟨_, _, ⟨_, _, ⟨_, _, ⟨_, _, rfl⟩, _, rfl⟩, innerRead, rfl⟩, _, rfl⟩
  exact innerRead

namespace Bindings

/-- A member is read as its key and its entry, and then what follows. -/
theorem checkMembers_cons_eq_valid_iff {written : Scalar} {value : Value}
    {members : Members} {tree : Bindings} :
    checkMembers ((written, value) :: members) = .valid tree ↔
      ∃ key entry rest, Check.key (.scalar written) = .valid key ∧
        checkEntry value = .valid entry ∧
        checkMembers members = .valid rest ∧
        cons key entry rest = tree := by
  simp only [checkMembers, Check.memberKey, Checked.seq_eq_valid_iff,
    Checked.map_eq_valid_iff, Checked.within_eq_valid_iff]
  constructor
  · rintro ⟨_, rest, ⟨_, entry, ⟨key, named, rfl⟩, entryRead, rfl⟩,
      restRead, rfl⟩
    exact ⟨key, entry, rest, named, entryRead, restRead, rfl⟩
  · rintro ⟨key, entry, rest, named, entryRead, restRead, rfl⟩
    exact ⟨_, rest, ⟨_, entry, ⟨key, named, rfl⟩, entryRead, rfl⟩,
      restRead, rfl⟩

/-- Every command of the tree has effects. -/
def Acts : Bindings → Prop
  | .nil => True
  | .fires _ command rest => command.effects ≠ [] ∧ rest.Acts
  | .opens _ _ _ inner rest => inner.Acts ∧ rest.Acts

end Bindings

/-- The command, or every command of the sublayer, has effects. -/
def Entry.Acts : Entry → Prop
  | .command action => action.effects ≠ []
  | .sublayer layer => layer.inner.Acts

namespace Bindings

theorem acts_cons_iff {key : KeyCode} {entry : Entry} {rest : Bindings} :
    (cons key entry rest).Acts ↔ entry.Acts ∧ rest.Acts := by
  cases entry <;> rfl

/-- What is read, as a tree or as an entry, has commands with effects only. -/
theorem acts_of_checked :
    (∀ value tree, check value = .valid tree → tree.Acts) ∧
    (∀ members tree, checkMembers members = .valid tree → tree.Acts) ∧
    (∀ value entry, checkEntry value = .valid entry → entry.Acts) ∧
    ∀ members inner, checkInner members = .valid inner → inner.Acts := by
  -- The four checks call each other: the cases are those of values read as
  -- trees (1, 2), of entries (3 to 7), of members (8, 9) and of the search
  -- for the entries of a sublayer among its fields (10 to 12).
  apply check.mutual_induct
  case case1 =>
    intro members ofMembers tree read
    exact ofMembers tree read
  case case2 =>
    intro value noMapping tree read
    rw [check] at read
    · cases read
    · exact noMapping
  case case3 =>
    intro members untagged entry read
    simp only [checkEntry, untagged] at read
    cases read
  case case4 =>
    intro members tagged entry read
    simp only [checkEntry, tagged, Checked.within_eq_valid_iff,
      Checked.map_eq_valid_iff] at read
    rcases read with ⟨command, commandRead, rfl⟩
    exact Command.effects_ne_nil_of_fields commandRead
  case case5 =>
    intro members tagged ofInner entry read
    simp only [checkEntry, tagged, Checked.within_eq_valid_iff,
      Checked.map_eq_valid_iff] at read
    rcases read with ⟨sublayer, fieldsRead, rfl⟩
    exact ofInner sublayer.inner (Sublayer.inner_of_fields fieldsRead)
  case case6 =>
    intro members tag noCommand noSublayer tagged entry read
    simp only [checkEntry, tagged] at read
    cases read
  case case7 =>
    intro value noMapping entry read
    rw [checkEntry] at read
    · cases read
    · exact noMapping
  case case8 =>
    intro tree read
    cases read
    trivial
  case case9 =>
    intro written value rest ofValue ofRest tree read
    rcases checkMembers_cons_eq_valid_iff.mp read with
      ⟨_, entry, others, _, entryRead, othersRead, rfl⟩
    exact acts_cons_iff.mpr
      ⟨ofValue entry entryRead, ofRest others othersRead⟩
  case case10 =>
    intro inner read
    cases read
    trivial
  case case11 =>
    intro value rest ofValue inner read
    simp only [checkInner, if_true, Checked.within_eq_valid_iff] at read
    exact ofValue inner read
  case case12 =>
    intro written value rest other ofRest inner read
    rw [checkInner, if_neg other] at read
    exact ofRest inner read

/-! ## What is written -/

theorem checkEntry_toValue_command {command : Command}
    (acts : command.effects ≠ []) :
    checkEntry command.toValue = .valid (.command command) := by
  have read := Command.record_fields_toValue acts
  show (Entry.command <$> Check.record Command.fields
    command.toValue).within (.name "command") = _
  rw [read]
  rfl

/-- A sublayer is read back if its entries are. -/
theorem checkEntry_toValue_sublayer {sublayer : Sublayer}
    (read : checkMembers sublayer.inner.toMembers =
      .valid sublayer.inner) :
    checkEntry sublayer.toValue = .valid (.sublayer sublayer) := by
  have entries : check sublayer.inner.toValue = .valid sublayer.inner := read
  have innerRead : checkInner
      [(.text "kind", .text "sublayer"),
        (.text "name", .text sublayer.name.name),
        (.text "description", Value.ofText? sublayer.description),
        (.text "entries", sublayer.inner.toValue)] =
      .valid sublayer.inner := by
    simp [checkInner, entries]
  show (Entry.sublayer <$> Sublayer.fields (checkInner _) _).within
    (.name "sublayer") = _
  rw [innerRead, Sublayer.fields, Members.optional_fixedWord_of_get?,
    Members.required_of_get? Check.undoes_key,
    @Members.maybe_of_ofText? _ _ sublayer.description]
  all_goals rfl

/-- A tree in which every command has effects is read back. -/
theorem checkMembers_toMembers {tree : Bindings} (acts : tree.Acts) :
    checkMembers tree.toMembers = .valid tree := by
  induction tree with
  | nil => rfl
  | fires key command rest ih =>
      exact checkMembers_cons_eq_valid_iff.mpr
        ⟨key, .command command, rest, (Check.undoes_key key).1,
          checkEntry_toValue_command acts.1, ih acts.2, rfl⟩
  | opens key name description inner rest innerIh ih =>
      let sublayer : Sublayer := ⟨name, description, inner⟩
      have entryRead : checkEntry sublayer.toValue =
          .valid (.sublayer sublayer) :=
        checkEntry_toValue_sublayer (innerIh acts.1)
      exact checkMembers_cons_eq_valid_iff.mpr
        ⟨key, .sublayer sublayer, rest, (Check.undoes_key key).1, entryRead,
          ih acts.2, rfl⟩

theorem checkEntry_toValue {entry : Entry} (acts : entry.Acts) :
    checkEntry entry.toValue = .valid entry := by
  cases entry with
  | command action => exact checkEntry_toValue_command acts
  | sublayer layer =>
      exact checkEntry_toValue_sublayer (checkMembers_toMembers acts)

end Bindings

/-! ## Rules of what is written -/

/-- A value is compiled as the tree that it is read as. -/
theorem ConventionArguments.compileValue?_of_checked
    (arguments : ConventionArguments) {layers : Value} {members : Members}
    {tree : Bindings} (given : layers.members? = .ok members)
    (checked : Bindings.check (.mapping members) = .valid tree) :
    arguments.compileValue? layers =
      match arguments.conventions? with
      | some conventions =>
          ((conventions.compile? tree).mapError .ofLayer).map
            fun rules => (rules, conventions.log tree)
      | none => arguments.compileNameless? tree := by
  rw [compileValue?, given]
  show (Bindings.check (.mapping members)).orFail >>= _ = _
  rw [checked]
  cases arguments.conventions? with
  | none => rfl
  | some conventions => cases conventions.compile? tree <;> rfl

/--
An entry that a value is read as is read again from the plain mapping that it
is written as.  So the layers of a tree are compiled alike whether they are
given as any mapping that reads as the tree or as the plain mapping of it,
and where all names are texts the outcome is that of the tree itself.
-/
theorem Bindings.check_settles_entries :
    (∀ value entry, checkEntry value = .valid entry →
      checkEntry entry.toValue = .valid entry) ∧
    ∀ (layers : Value) members tree, layers.members? = .ok members →
      check (.mapping members) = .valid tree →
      ∀ arguments : ConventionArguments,
        arguments.compileValue? tree.toValue =
          arguments.compileValue? layers ∧
        ∀ conventions, arguments.conventions? = some conventions →
          arguments.compileValue? layers =
            ((conventions.compile? tree).mapError .ofLayer).map
              fun rules => (rules, conventions.log tree) := by
  constructor
  · intro value entry checked
    exact checkEntry_toValue (acts_of_checked.2.2.1 value entry checked)
  · intro layers members tree given checked arguments
    have acts : tree.Acts := acts_of_checked.1 _ tree checked
    have again : check (.mapping tree.toMembers) = .valid tree :=
      checkMembers_toMembers acts
    have plain : tree.toValue.members? = .ok tree.toMembers := rfl
    have fromLayers := arguments.compileValue?_of_checked given checked
    have fromTree := arguments.compileValue?_of_checked plain again
    refine ⟨fromTree.trans fromLayers.symm, ?_⟩
    intro conventions texts
    rw [fromLayers, texts]

/-- Fields in another order, one too many, a truth value and a float. -/
theorem Bindings.check_settles_nested_entries :
    let effect (name : String) (value : Value) : Value :=
      .mapping [(.text "value", value), (.text "name", .text name),
        (.text "kind", .text "set_variable")]
    let value : Value := .mapping
      [(.text "kind", .text "sublayer"), (.text "name", .text "s"),
        (.text "note", .null),
        (.text "entries", .mapping
          [(.text "a", .mapping
            [(.text "effects", .list
              [effect "x" (.boolean true),
                effect "y" (.real (.finite false (Nat.pow 2 52) (-51)))]),
              (.text "kind", .text "command")])])]
    let command : Command :=
      ⟨none, [.setVariable "x" (.integer 1), .setVariable "y" (.integer 2)]⟩
    let sublayer : Sublayer := ⟨.s, none, .fires .a command .nil⟩
    let tree : Bindings := .opens .s .s none (.fires .a command .nil) .nil
    let layers : Value := .mapping [(.text "s", value)]
    let arguments : ConventionArguments := {}
    checkEntry value = .valid (.sublayer sublayer) ∧
      checkEntry sublayer.toValue = .valid (.sublayer sublayer) ∧
      check layers = .valid tree ∧
      arguments.compileValue? tree.toValue =
        arguments.compileValue? layers ∧
      arguments.conventions? = some {} ∧
      arguments.compileValue? layers =
        ((Conventions.compile? {} tree).mapError .ofLayer).map
          fun rules => (rules, Conventions.log {} tree) := by
  intro effect value command sublayer tree layers arguments
  have entryRead : checkEntry value = .valid (.sublayer sublayer) := rfl
  have treeRead : check layers = .valid tree := rfl
  have texts : arguments.conventions? = some {} := rfl
  rcases check_settles_entries with ⟨entries, trees⟩
  rcases trees layers _ tree rfl treeRead arguments with ⟨same, outcome⟩
  exact ⟨entryRead, entries value _ entryRead, treeRead, same, texts,
    outcome {} texts⟩

end ModalKeymap
