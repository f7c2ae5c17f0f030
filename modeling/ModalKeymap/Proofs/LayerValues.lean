import ModalKeymap.Proofs.Reading
import ModalKeymap.Proofs.Refusal

/-!
# What values in tables of layers are read as

A text is read as the command that it writes, and a list of texts as the
commands of its items taken together (`Command.Combines`).  So every value
that is no table either is read as a command (`Value.ReadsAs`) or is bad in
one way (`Value.Bad`), and reading it tells which
(`Bindings.readEntry?_eq_ok_iff`, `Bindings.readEntry?_eq_error_iff`).
-/

namespace ModalKeymap

/-! ## Readings that may fail -/

section Except

variable {ε ε' α β : Type}

theorem Except.bind_eq_error_iff {result : Except ε α}
    {next : α → Except ε β} {fault : ε} :
    (result >>= next) = .error fault ↔
      result = .error fault ∨
        ∃ first, result = .ok first ∧ next first = .error fault := by
  cases result with
  | error other => simp [bind, Except.bind]
  | ok first => simp [bind, Except.bind]

theorem Except.mapError_eq_error_iff {result : Except ε α} {wrap : ε → ε'}
    {fault : ε'} :
    result.mapError wrap = .error fault ↔
      ∃ inner, result = .error inner ∧ wrap inner = fault := by
  cases result <;> simp [Except.mapError]

/-- What is read is not refused. -/
theorem Except.exists_ok_iff {result : Except ε α} :
    (∃ value, result = .ok value) ↔ ∀ fault, result ≠ .error fault := by
  cases result <;> simp

/-- Several readings have the results that each of them has, in order. -/
theorem Except.mapM_eq_ok_iff {read : α → Except ε β} {inputs : List α}
    {results : List β} :
    inputs.mapM read = .ok results ↔
      List.Forall₂ (fun input result => read input = .ok result) inputs
        results := by
  constructor
  · exact Except.forall₂_of_mapM
  · intro related
    induction related with
    | nil => rfl
    | cons headRead _ ih =>
        rw [List.mapM_cons, headRead, ih]
        rfl

/-- Several readings are refused for the first that is. -/
theorem Except.mapM_eq_error_iff {read : α → Except ε β} {inputs : List α}
    {fault : ε} :
    inputs.mapM read = .error fault ↔
      FirstYield (fun input fault => read input = .error fault) inputs
        fault := by
  induction inputs with
  | nil =>
      rw [FirstYield.nil_iff, iff_false]
      exact nofun
  | cons first rest ih =>
      have noFault : ∀ results : List β,
          (pure results : Except ε (List β)) ≠ .error fault := fun _ => nofun
      simp only [List.mapM_cons, Except.bind_eq_error_iff, ih,
        FirstYield.cons_iff, noFault, and_false, exists_false, or_false]
      rw [exists_and_right, Except.exists_ok_iff]

end Except

/-- Items that are related to something each are so in order. -/
theorem exists_forall₂_iff {α β : Type} {related : α → β → Prop}
    {items : List α} :
    (∃ results, List.Forall₂ related items results) ↔
      ∀ item ∈ items, ∃ result, related item result := by
  induction items with
  | nil => simp
  | cons first rest ih =>
      simp only [List.forall₂_cons_left_iff, List.forall_mem_cons, ← ih]
      constructor
      · rintro ⟨_, result, results, head, tail, rfl⟩
        exact ⟨⟨result, head⟩, results, tail⟩
      · rintro ⟨⟨result, head⟩, results, tail⟩
        exact ⟨result :: results, result, results, head, tail, rfl⟩

/-! ## Commands -/

namespace Command

/-- Several commands taken together; one by itself stays as it is. -/
structure Combines (commands : List Command) (whole : Command) : Prop where
  notEmpty : commands ≠ []
  single : ∀ command, commands = [command] → whole = command
  effects : whole.effects = commands.flatMap Command.effects
  description : 1 < commands.length →
    whole.description =
      if descriptions commands = [] then none
      else some ("; ".intercalate (descriptions commands))

/-- Joining descriptions that say something says something. -/
theorem intercalate_descriptions_eq_empty_iff {commands : List Command} :
    "; ".intercalate (descriptions commands) = "" ↔
      descriptions commands = [] := by
  have saying : ∀ description ∈ descriptions commands,
      description ≠ "" := by
    intro description listed
    simpa using (List.mem_filter.mp listed).2
  generalize descriptions commands = said at saying ⊢
  rcases said with _ | ⟨first, _ | ⟨second, rest⟩⟩
  · simp
  · simpa using saying first List.mem_cons_self
  · simp [String.intercalate_cons_cons, String.append_eq_empty_iff]

theorem combines_iff {commands : List Command} {whole : Command} :
    Combines commands whole ↔ commands ≠ [] ∧ merge commands = whole := by
  match commands with
  | [] => simpa using fun combined : Combines [] whole => combined.notEmpty rfl
  | [command] =>
      rw [merge_singleton]
      constructor
      · intro combined
        exact ⟨combined.notEmpty, (combined.single command rfl).symm⟩
      · rintro ⟨notEmpty, rfl⟩
        constructor
        · exact notEmpty
        · exact fun other same => (List.cons.inj same).1
        · simp
        · exact fun several => absurd several (Nat.lt_irrefl 1)
  | first :: second :: rest =>
      have described : (merge (first :: second :: rest)).description =
          if descriptions (first :: second :: rest) = [] then none
          else some ("; ".intercalate
            (descriptions (first :: second :: rest))) := by
        simp only [merge, String.isEmpty_iff,
          intercalate_descriptions_eq_empty_iff]
      constructor
      · intro combined
        refine ⟨combined.notEmpty, ?_⟩
        have sameEffects := (effects_merge _).trans combined.effects.symm
        have sameDescription := described.trans
          (combined.description (by simp)).symm
        calc
          merge (first :: second :: rest) =
              ⟨(merge (first :: second :: rest)).description,
                (merge (first :: second :: rest)).effects⟩ := rfl
          _ = whole := by rw [sameDescription, sameEffects]
      · rintro ⟨notEmpty, rfl⟩
        exact ⟨notEmpty, nofun, effects_merge _, fun _ => described⟩

/-- A list of expressions writes the commands of its items together. -/
theorem readAll?_eq_ok_iff {aliases : Aliases} {expressions : List String}
    {whole : Command} :
    readAll? aliases expressions = .ok whole ↔
      ∃ commands, List.Forall₂ (fun expression command =>
          read? aliases expression = .ok command) expressions commands ∧
        Combines commands whole := by
  simp only [readAll?, Except.bind_eq_ok_iff, Except.mapM_eq_ok_iff,
    combines_iff]
  refine exists_congr fun commands => and_congr_right fun _ => ?_
  cases commands <;> simp [pure, Except.pure]

/-- It is refused for its first bad item, or where it has none at all. -/
theorem readAll?_eq_error_iff {aliases : Aliases}
    {expressions : List String} {fault : ExpressionFault} :
    readAll? aliases expressions = .error fault ↔
      FirstYield (fun expression fault =>
          read? aliases expression = .error fault) expressions fault ∨
        expressions = [] ∧ fault = .noExpressions := by
  simp only [readAll?, Except.bind_eq_error_iff, Except.mapM_eq_error_iff,
    Except.mapM_eq_ok_iff]
  refine or_congr_right ?_
  constructor
  · rintro ⟨commands, related, refused⟩
    cases related with
    | nil => exact ⟨rfl, (Except.error.inj refused).symm⟩
    | cons _ _ => cases refused
  · rintro ⟨rfl, rfl⟩
    exact ⟨[], .nil, rfl⟩

end Command

/-! ## Values -/

namespace Value

theorem texts?_eq_some_iff {items : List Value}
    {expressions : List String} :
    texts? items = some expressions ↔ items = expressions.map .text := by
  induction items generalizing expressions with
  | nil => cases expressions <;> simp [texts?]
  | cons first rest ih =>
      unfold texts?
      split
      · cases expressions <;> simp_all
      · cases expressions <;> simp_all [and_comm]
      · cases expressions <;> simp_all

theorem texts?_eq_none_iff {items : List Value} :
    texts? items = none ↔
      ∃ item ∈ items, ∀ expression, item ≠ .text expression := by
  induction items with
  | nil => simp [texts?]
  | cons first rest ih =>
      unfold texts?
      split <;> simp_all

/-- A text that writes a command. -/
def Writes (aliases : Aliases) (value : Value) (command : Command) : Prop :=
  ∃ expression, value = .text expression ∧
    Command.read? aliases expression = .ok command

/-- A text or a list of texts that writes a command. -/
inductive ReadsAs (aliases : Aliases) : Value → Command → Prop
  | text {value : Value} {command : Command}
      (writes : value.Writes aliases command) : ReadsAs aliases value command
  | list {items : List Value} {commands : List Command} {whole : Command}
      (writes : List.Forall₂ (Writes aliases) items commands)
      (combined : Command.Combines commands whole) :
      ReadsAs aliases (.list items) whole

/-- A value that a key can be bound to. -/
inductive Usable (aliases : Aliases) : Value → Prop
  | table (members : Members) : Usable aliases (.mapping members)
  | text {value : Value}
      (writes : ∃ command, value.Writes aliases command) :
      Usable aliases value
  | list {items : List Value} (notEmpty : items ≠ [])
      (write : ∀ item ∈ items, ∃ command, item.Writes aliases command) :
      Usable aliases (.list items)

/-- What is wrong with a value at a path, and which fault that is. -/
inductive Bad (aliases : Aliases) (path : KeyPath) :
    Value → TableFault → Prop
  | text {expression : String} {fault : ExpressionFault}
      (refused : Command.read? aliases expression = .error fault) :
      Bad aliases path (.text expression) (.expression fault)
  /-- Something in a list is no text, whatever else is in it. -/
  | mixedList {items : List Value} {item : Value} (listed : item ∈ items)
      (noText : ∀ expression, item ≠ .text expression) :
      Bad aliases path (.list items) (.mixedList path)
  | noItems : Bad aliases path (.list []) (.expression .noExpressions)
  /-- The first text of a list that writes no command. -/
  | item {items : List Value} {expressions : List String}
      {fault : ExpressionFault} (texts : items = expressions.map .text)
      (first : FirstYield (fun expression fault =>
        Command.read? aliases expression = .error fault) expressions fault) :
      Bad aliases path (.list items) (.expression fault)
  | unusable {value : Value} (noTable : ∀ members, value ≠ .mapping members)
      (noText : ∀ expression, value ≠ .text expression)
      (noList : ∀ items, value ≠ .list items) :
      Bad aliases path value (.unusable path value.typeName)

variable {aliases : Aliases} {value : Value}

/-- What can be bound and is no table is read as a command. -/
theorem usable_iff (noTable : ∀ members, value ≠ .mapping members) :
    value.Usable aliases ↔ ∃ command, value.ReadsAs aliases command := by
  constructor
  · intro usable
    cases usable with
    | table members => exact absurd rfl (noTable members)
    | text writes =>
        rcases writes with ⟨command, writes⟩
        exact ⟨command, .text writes⟩
    | list notEmpty write =>
        rcases exists_forall₂_iff.mpr write with ⟨commands, writes⟩
        have someCommands : commands ≠ [] := by
          rintro rfl
          exact notEmpty (List.forall₂_nil_right_iff.mp writes)
        exact ⟨_, .list writes
          (Command.combines_iff.mpr ⟨someCommands, rfl⟩)⟩
  · rintro ⟨command, reads⟩
    cases reads with
    | text writes => exact .text ⟨command, writes⟩
    | list writes combined =>
        refine .list ?_ (exists_forall₂_iff.mp ⟨_, writes⟩)
        rintro rfl
        exact combined.notEmpty (List.forall₂_nil_left_iff.mp writes)

/-! ### One shape of value at a time -/

variable {path : KeyPath} {items : List Value} {expression : String}
  {expressions : List String} {command : Command} {fault : TableFault}

theorem readsAs_text_iff :
    (Value.text expression).ReadsAs aliases command ↔
      Command.read? aliases expression = .ok command := by
  constructor
  · rintro ⟨_, same, read⟩
    cases same
    exact read
  · intro read
    exact .text ⟨expression, rfl, read⟩

theorem readsAs_texts_iff (texts : texts? items = some expressions) :
    (Value.list items).ReadsAs aliases command ↔
      Command.readAll? aliases expressions = .ok command := by
  rcases texts?_eq_some_iff.mp texts with rfl
  have itemwise : ∀ commands,
      List.Forall₂ (Writes aliases) (expressions.map .text) commands ↔
        List.Forall₂ (fun expression command =>
          Command.read? aliases expression = .ok command) expressions
          commands := by
    intro commands
    simp [Writes]
  rw [Command.readAll?_eq_ok_iff]
  constructor
  · intro reads
    cases reads with
    | text writes =>
        rcases writes with ⟨_, same, _⟩
        cases same
    | list writes combined =>
        exact ⟨_, (itemwise _).mp writes, combined⟩
  · rintro ⟨commands, read, combined⟩
    exact .list ((itemwise commands).mpr read) combined

/-- What is read as a command is a text or a list of texts. -/
theorem not_readsAs (noText : ∀ expression, value ≠ .text expression)
    (noTexts : ∀ items, value = .list items → texts? items = none) :
    ¬value.ReadsAs aliases command := by
  intro reads
  cases reads with
  | text writes =>
      rcases writes with ⟨expression, same, _⟩
      exact noText expression same
  | list writes _ =>
      rcases texts?_eq_none_iff.mp (noTexts _ rfl) with
        ⟨item, listed, isOther⟩
      rcases exists_forall₂_iff.mp ⟨_, writes⟩ item listed with
        ⟨_, expression, same, _⟩
      exact isOther expression same

theorem not_readsAs_mapping (members : Members) :
    ¬(Value.mapping members).ReadsAs aliases command := by
  apply not_readsAs
  · exact nofun
  · exact nofun

theorem bad_text_iff :
    (Value.text expression).Bad aliases path fault ↔
      ∃ inner, Command.read? aliases expression = .error inner ∧
        .expression inner = fault := by
  constructor
  · intro bad
    cases bad with
    | text refused => exact ⟨_, refused, rfl⟩
    | unusable _ noText _ => exact absurd rfl (noText _)
  · rintro ⟨inner, refused, rfl⟩
    exact .text refused

theorem bad_texts_iff (texts : texts? items = some expressions) :
    (Value.list items).Bad aliases path fault ↔
      ∃ inner, Command.readAll? aliases expressions = .error inner ∧
        .expression inner = fault := by
  simp only [Command.readAll?_eq_error_iff]
  constructor
  · intro bad
    cases bad with
    | mixedList listed noText =>
        rw [texts?_eq_none_iff.mpr ⟨_, listed, noText⟩] at texts
        cases texts
    | noItems =>
        cases texts
        exact ⟨_, .inr ⟨rfl, rfl⟩, rfl⟩
    | item sameTexts first =>
        rw [texts?_eq_some_iff.mpr sameTexts] at texts
        cases texts
        exact ⟨_, .inl first, rfl⟩
    | unusable _ _ noList => exact absurd rfl (noList _)
  · rintro ⟨inner, first | ⟨rfl, rfl⟩, rfl⟩
    · exact .item (texts?_eq_some_iff.mp texts) first
    · rw [texts?_eq_some_iff.mp texts]
      exact .noItems

theorem bad_mixed_iff (mixed : texts? items = none) :
    (Value.list items).Bad aliases path fault ↔
      fault = .mixedList path := by
  constructor
  · intro bad
    cases bad with
    | mixedList _ _ => rfl
    | noItems => cases mixed
    | item texts _ =>
        rw [texts?_eq_some_iff.mpr texts] at mixed
        cases mixed
    | unusable _ _ noList => exact absurd rfl (noList _)
  · rintro rfl
    rcases texts?_eq_none_iff.mp mixed with ⟨item, listed, noText⟩
    exact .mixedList listed noText

theorem bad_unusable_iff (noTable : ∀ members, value ≠ .mapping members)
    (noText : ∀ expression, value ≠ .text expression)
    (noList : ∀ items, value ≠ .list items) :
    value.Bad aliases path fault ↔
      fault = .unusable path value.typeName := by
  constructor
  · intro bad
    cases bad with
    | text _ => exact absurd rfl (noText _)
    | mixedList _ _ => exact absurd rfl (noList _)
    | noItems => exact absurd rfl (noList _)
    | item _ _ => exact absurd rfl (noList _)
    | unusable _ _ _ => rfl
  · rintro rfl
    exact .unusable noTable noText noList

end Value

/-! ### How values are read -/

namespace Bindings

variable {aliases : Aliases} {path : KeyPath} {key : KeyCode}
  {value : Value} {entry : Entry} {fault : TableFault}

/-- A value that is no table is read as a command. -/
theorem readEntry?_eq_ok_iff
    (noTable : ∀ members, value ≠ .mapping members) :
    readEntry? aliases path key value = .ok entry ↔
      ∃ command, value.ReadsAs aliases command ∧
        .command command = entry := by
  have made : ∀ command : Command,
      (pure (.command command) : Except TableFault Entry) = .ok entry ↔
        .command command = entry := fun _ =>
    (Except.ok.injEq _ _).to_iff
  unfold readEntry?
  split
  · exact absurd rfl (noTable _)
  · simp only [Except.bind_eq_ok_iff, Except.mapError_eq_ok_iff, made,
      Value.readsAs_text_iff]
  · rename_i items
    cases texts : Value.texts? items with
    | none =>
        have mixed : ∀ command,
            ¬(Value.list items).ReadsAs aliases command := fun _ =>
          Value.not_readsAs nofun fun _ same => by
            cases same
            exact texts
        simp [mixed, throw, throwThe, MonadExceptOf.throw]
    | some expressions =>
        simp only [Except.bind_eq_ok_iff, Except.mapError_eq_ok_iff, made,
          Value.readsAs_texts_iff texts]
  · rename_i noText noList
    have unread : ∀ command, ¬value.ReadsAs aliases command := fun _ =>
      Value.not_readsAs noText fun _ same => absurd same (noList _)
    simp [unread, throw, throwThe, MonadExceptOf.throw]

/-- It is refused for what is wrong with it. -/
theorem readEntry?_eq_error_iff
    (noTable : ∀ members, value ≠ .mapping members) :
    readEntry? aliases path key value = .error fault ↔
      value.Bad aliases path fault := by
  have made : ∀ command : Command,
      (pure (.command command) : Except TableFault Entry) ≠
        .error fault := fun _ => nofun
  unfold readEntry?
  split
  · exact absurd rfl (noTable _)
  · simp only [Except.bind_eq_error_iff, Except.mapError_eq_error_iff,
      made, and_false, exists_false, or_false, Value.bad_text_iff]
  · rename_i items
    cases texts : Value.texts? items with
    | none =>
        rw [Value.bad_mixed_iff texts]
        exact (Except.error.injEq _ _).to_iff.trans eq_comm
    | some expressions =>
        simp only [Except.bind_eq_error_iff, Except.mapError_eq_error_iff,
          made, and_false, exists_false, or_false,
          Value.bad_texts_iff texts]
  · rename_i noText noList
    rw [Value.bad_unusable_iff noTable noText noList]
    exact (Except.error.injEq _ _).to_iff.trans eq_comm

end Bindings

end ModalKeymap
