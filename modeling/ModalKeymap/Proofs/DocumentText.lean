import ModalKeymap.Build
import ModalKeymap.Json.Value
import ModalKeymap.Proofs.JsonText
import ModalKeymap.Proofs.Reading
import ModalKeymap.Proofs.Undoing
import ModalKeymap.Validation.Document
import Mathlib.Data.String.Basic

/-!
# Documents and rules as texts

The check of a document undoes writing it, and so does the check of every
part of one: what is absent is left out and read as absent, names of keys and
modifiers are read back, and a text, an integer and a truth value stay what
they are.  With that a document and a rule are read back from their text in
every layout (`read_back_from_text`).  Which indents give a text at all is
decided by its size (`Indent.dump?_object_eq_ok_iff`): a huge indent is refused
because the blanks of a single level already make the text too long.
-/

namespace ModalKeymap

/-! ## Members that are written -/

namespace Json

/-- The value of a member of an object, if there is one. -/
def field? (name : String) (members : List (String × Json)) :
    Option Value :=
  Members.get? name (Members.ofAssignments (membersToAssignments members))

variable {name : String}

theorem field?_append (front rest : List (String × Json)) :
    field? name (front ++ rest) =
      (field? name rest).or (field? name front) := by
  simp [field?, Members.get?_ofAssignments, Members.get?_append]

@[simp]
theorem field?_nil : field? name [] = none := rfl

@[simp]
theorem field?_cons (key : String) (value : Json)
    (rest : List (String × Json)) :
    field? name ((key, value) :: rest) =
      (field? name rest).or (if key = name then some value.toValue
        else none) := by
  rw [← List.singleton_append, field?_append]
  congr 1
  simp [field?, Members.ofAssignments, Members.get?_cons, Members.insert]

@[simp]
theorem field?_member? {α : Type} (key : String) (encode : α → Json)
    (content : Option α) :
    field? name (member? key encode content) =
      if key = name then content.map fun value => (encode value).toValue
      else none := by
  cases content with
  | none => simp [member?]
  | some value => simp [member?]

end Json

/-! ## Parts of documents -/

theorem KeyCode.undoes :
    Check.key.Undoes fun key => (KeyCode.toJson key).toValue :=
  Check.undoes_key

theorem Modifier.undoes :
    Check.modifier.Undoes fun modifier =>
      (Modifier.toJson modifier).toValue :=
  Check.undoes_modifier

theorem Check.Undoes.array {α : Type} {check : Check α}
    {encode : α → Json}
    (undoes : check.Undoes fun value => (encode value).toValue) :
    (Check.list check).Undoes fun values =>
      (Json.array (values.map encode)).toValue := by
  have same (values : List α) : (Json.array (values.map encode)).toValue =
      .list (values.map fun value => (encode value).toValue) := by
    simp [Json.toValue]
  simp only [same]
  exact undoes.list

theorem Modifier.undoes_list :
    (Check.list .modifier).Undoes fun modifiers =>
      (Modifier.listToJson modifiers).toValue :=
  Modifier.undoes.array

theorem VariableValue.undoes :
    VariableValue.check.Undoes fun value => value.toJson.toValue := by
  intro value
  cases value with
  | _ => exact ⟨rfl, nofun⟩

/-- A record is read from the members of an object, which is not null. -/
theorem Check.record_undoes {α : Type} {fields : Members → Checked α}
    {members : α → List (String × Json)}
    (read : ∀ value, fields (Members.ofAssignments
      (Json.membersToAssignments (members value))) = .valid value) :
    (Check.record fields).Undoes fun value =>
      (Json.object (members value)).toValue := by
  intro value
  exact ⟨read value, nofun⟩

theorem TriggerModifiers.undoes :
    TriggerModifiers.check.Undoes fun value => value.toJson.toValue := by
  apply Check.record_undoes
  intro value
  rw [Members.maybe_of_get? Modifier.undoes_list,
    Members.maybe_of_get? Modifier.undoes_list]
  · rfl
  all_goals
    show Json.field? _ _ = _
    simp [Json.field?_append]

theorem Trigger.undoes :
    Trigger.check.Undoes fun value => value.toJson.toValue := by
  apply Check.record_undoes
  intro value
  rw [Members.required_of_get? KeyCode.undoes,
    Members.maybe_of_get? TriggerModifiers.undoes]
  · rfl
  all_goals
    show Json.field? _ _ = _
    simp

theorem Assignment.undoes :
    Assignment.check.Undoes fun value => value.toJson.toValue := by
  apply Check.record_undoes
  intro value
  rw [Members.required_of_get? Check.undoes_text,
    Members.required_of_get? VariableValue.undoes]
  · rfl
  all_goals
    show Json.field? _ _ = _
    simp [Json.toValue]

theorem Event.undoes :
    Event.check.Undoes fun value => value.toJson.toValue := by
  apply Check.record_undoes
  intro value
  rw [Members.maybe_of_get? KeyCode.undoes,
    Members.maybe_of_get? Check.undoes_text,
    Members.maybe_of_get? Check.undoes_text,
    Members.maybe_of_get? Assignment.undoes,
    Members.maybe_of_get? Modifier.undoes_list]
  · rfl
  all_goals
    show Json.field? _ _ = _
    simp [Json.field?_append, Json.toValue]

theorem Condition.undoes :
    Condition.check.Undoes fun value => value.toJson.toValue := by
  apply Check.record_undoes
  intro value
  have typed := Check.undoes_fixedWord "variable_if"
  rw [@Members.optional_of_get? _ _ _ _ _ typed () (),
    Members.required_of_get? Check.undoes_text,
    Members.required_of_get? VariableValue.undoes]
  · rfl
  all_goals
    show Json.field? _ _ = _
    simp [Json.toValue]

theorem Manipulator.undoes :
    Manipulator.check.Undoes fun value => value.toJson.toValue := by
  apply Check.record_undoes
  intro value
  rw [Members.maybe_of_get? Check.undoes_text,
    Members.optional_of_get? Check.undoes_text,
    Members.requiredAs_of_get? Trigger.undoes,
    Members.optional_of_get? Event.undoes.array,
    Members.optional_of_get? Condition.undoes.array]
  · rfl
  all_goals
    show Json.field? _ _ = _
    simp [Json.field?_append, Json.toValue]

theorem Rule.undoes :
    Rule.check.Undoes fun value => value.toJson.toValue := by
  apply Check.record_undoes
  intro value
  rw [Members.required_of_get? Check.undoes_text,
    Members.required_of_get? Manipulator.undoes.array]
  · rfl
  all_goals
    show Json.field? _ _ = _
    simp [Json.toValue]

theorem Profile.undoes_rules :
    Profile.checkRules.Undoes fun rules =>
      (Json.object [("rules",
        .array (List.map Rule.toJson rules))]).toValue := by
  apply Check.record_undoes
  intro rules
  rw [Members.optional_of_get? Rule.undoes.array]
  show Json.field? _ _ = _
  simp

theorem Profile.undoes :
    Profile.check.Undoes fun value => value.toJson.toValue := by
  apply Check.record_undoes
  intro value
  rw [Members.optional_of_get? Check.undoes_text,
    Members.optional_of_get? Profile.undoes_rules]
  · rfl
  all_goals
    show Json.field? _ _ = _
    simp [Json.toValue]

theorem Document.undoes_global :
    Document.checkGlobal.Undoes fun shown =>
      (Json.object [("show_in_menu_bar", .boolean shown)]).toValue := by
  apply Check.record_undoes
  intro shown
  rw [Members.optional_of_get? Check.undoes_truth]
  show Json.field? _ _ = _
  simp [Json.toValue]

theorem Document.undoes :
    Document.check.Undoes fun value => value.toJson.toValue := by
  apply Check.record_undoes
  intro value
  rw [Members.optionalAs_of_get? Document.undoes_global,
    Members.optional_of_get? Profile.undoes.array]
  · rfl
  all_goals
    show Json.field? _ _ = _
    simp [Json.toValue]

/-! ## Texts that are not too long -/

/-- The layout that an indent stands for, however many blanks that takes. -/
inductive Indent.Asks : Indent → Json.Layout → Prop
  | compact : Asks .compact .compact
  | spaces (count : Nat) : Asks (.spaces count) (.lines count)

theorem Json.Layout.ofIndent?_eq_some_iff {count : Int}
    {layout : Layout} :
    ofIndent? count = some layout ↔
      0 ≤ count ∧ count < 2 ^ 64 ∧ .lines count.toNat = layout := by
  have limit : indentLimit = 2 ^ 64 := rfl
  simp [ofIndent?, limit, and_assoc]

theorem Indent.asks_of_layout? {indent : Indent} {layout : Json.Layout}
    (found : indent.layout? = .ok layout) : indent.Asks layout := by
  cases indent with
  | compact =>
      cases found
      exact .compact
  | unspecified => cases found
  | spaces count =>
      rw [Indent.layout?] at found
      split at found
      · next other sized =>
          cases found
          rcases Json.Layout.ofIndent?_eq_some_iff.mp sized with
            ⟨notNegative, _, rfl⟩
          rw [← Int.toNat_of_nonneg notNegative]
          exact .spaces count.toNat
      · cases found

theorem Indent.Asks.layout? {indent : Indent} {layout : Json.Layout}
    (asks : indent.Asks layout) (small : layout.indent < Json.sizeLimit) :
    indent.layout? = .ok layout := by
  cases asks with
  | compact => rfl
  | spaces count =>
      have limit : Json.sizeLimit = 2 ^ 63 := rfl
      have below : count < 2 ^ 63 := small
      have sized : Json.Layout.ofIndent? count = some (.lines count) := by
        rw [Json.Layout.ofIndent?_eq_some_iff]
        exact ⟨by omega, by omega, rfl⟩
      rw [Indent.layout?, sized]

namespace Json

theorem utf8Len_replicate_blank (count : Nat) :
    String.utf8Len (List.replicate count ' ') = count := by
  induction count with
  | zero => rfl
  | succ count ih =>
      rw [List.replicate_succ, String.utf8Len_cons, ih]
      rfl

/-- The text of an object with members holds the blanks for one level. -/
theorem indent_le_utf8ByteSize_render (layout : Layout)
    (first : String × Json) (rest : List (String × Json)) :
    layout.indent ≤
      ((Json.object (first :: rest)).render layout).utf8ByteSize := by
  cases layout with
  | compact => exact Nat.zero_le _
  | lines indent =>
      rcases first with ⟨name, value⟩
      have inside : List.replicate indent ' ' <:+:
          print (.lines indent) 0 (.object ((name, value) :: rest)) := by
        simp only [print, Layout.lineStart, Nat.zero_add, Nat.mul_one,
          List.cons_append, List.append_assoc]
        exact ⟨['\x7b', '\n'], _, rfl⟩
      calc
        indent = String.utf8Len (List.replicate indent ' ') :=
          (utf8Len_replicate_blank indent).symm
        _ ≤ String.utf8Len (print (.lines indent) 0
              (.object ((name, value) :: rest))) :=
          String.utf8Len_le_of_infix inside
        _ = _ := (String.utf8ByteSize_ofList _).symm

end Json

/-- An object with members has its text unless that is too long. -/
theorem Indent.dump?_object_eq_ok_iff {indent : Indent}
    {first : String × Json} {rest : List (String × Json)}
    {text : String} :
    indent.dump? (.object (first :: rest)) = .ok text ↔
      ∃ layout, indent.Asks layout ∧
        (Json.object (first :: rest)).render layout = text ∧
          text.utf8ByteSize < 2 ^ 63 := by
  have limit : Json.sizeLimit = 2 ^ 63 := rfl
  simp only [Indent.dump?, Except.bind_eq_ok_iff]
  constructor
  · rintro ⟨layout, found, made⟩
    split at made
    · next rendered written =>
        cases made
        rcases Json.render?_eq_some_iff.mp written with ⟨_, same, size⟩
        exact ⟨layout, Indent.asks_of_layout? found, same, size⟩
    · cases made
  · rintro ⟨layout, asks, rfl, size⟩
    have small : layout.indent < Json.sizeLimit :=
      (Json.indent_le_utf8ByteSize_render layout first rest).trans_lt size
    have written := Json.render?_eq_some_iff.mpr ⟨small, rfl, size⟩
    refine ⟨layout, asks.layout? small, ?_⟩
    rw [written]
    rfl

/-! ## Whole texts -/

/-- One value under two layouts and two values under one text are the same. -/
theorem Json.render_injective {value value' : Json} {layout layout' : Layout}
    (same : value.render layout = value'.render layout') :
    value = value' := by
  have read := read?_render layout value
  rw [same, read?_render] at read
  exact (Option.some.inj read).symm

/-- The text of a value stands for that value only. -/
theorem Json.isText_render_iff {value other : Json} {layout : Layout} :
    IsText other (value.render layout).toList ↔ other = value := by
  constructor
  · intro ofOther
    exact ofOther.unique (isText_render layout value)
  · rintro rfl
    exact isText_render layout other

/-- What a check reads back was written from one value only. -/
theorem Check.Undoes.injective {α : Type} {check : Check α}
    {encode : α → Value} (undoes : check.Undoes encode) {value value' : α}
    (same : encode value = encode value') : value = value' := by
  have first := (undoes value).1
  rw [same, (undoes value').1] at first
  exact (Checked.valid.inj first).symm

theorem Document.toJson_ne_rule (document : Document) (rule : Rule) :
    document.toJson ≠ rule.toJson := by
  simp [Document.toJson, Rule.toJson]

/--
With an indent that is none or a number from zero on, a document and a rule
are written exactly if the text has fewer than 2^63 bytes; with another indent
they never are.  In every layout they have one text each that the grammar
allows, and the text alone gives them back: it stands for one value, the same
in all layouts, which the check reads as what was written.  So different
documents and rules never have the same text.
-/
theorem read_back_from_text :
    (∀ (indent : Indent) (text : String),
      (∀ document : Document, document.dump? indent = .ok text ↔
        ∃ layout, indent.Asks layout ∧ document.render layout = text ∧
          text.utf8ByteSize < 2 ^ 63) ∧
      ∀ rule : Rule, rule.dump? indent = .ok text ↔
        ∃ layout, indent.Asks layout ∧ rule.render layout = text ∧
          text.utf8ByteSize < 2 ^ 63) ∧
    (∀ document : Document, ∃ json, ∀ layout : Json.Layout,
      (∀ value, Json.IsText value (document.render layout).toList ↔
        value = json) ∧
        Json.read? (document.render layout) = some json ∧
          Document.check json.toValue = .valid document) ∧
    (∀ rule : Rule, ∃ json, ∀ layout : Json.Layout,
      (∀ value, Json.IsText value (rule.render layout).toList ↔
        value = json) ∧
        Json.read? (rule.render layout) = some json ∧
          Rule.check json.toValue = .valid rule) ∧
    ∀ layout layout' : Json.Layout,
      (∀ first second : Document,
        first.render layout = second.render layout' → first = second) ∧
      (∀ first second : Rule,
        first.render layout = second.render layout' → first = second) ∧
      ∀ (document : Document) (rule : Rule),
        document.render layout ≠ rule.render layout' := by
  refine ⟨?written, ?documents, ?rules, ?distinct⟩
  case written =>
    intro indent text
    exact ⟨fun _ => Indent.dump?_object_eq_ok_iff,
      fun _ => Indent.dump?_object_eq_ok_iff⟩
  case documents =>
    intro document
    refine ⟨document.toJson, fun layout => ⟨?_, ?_, ?_⟩⟩
    · exact fun _ => Json.isText_render_iff
    · exact Json.read?_render layout document.toJson
    · exact (Document.undoes document).1
  case rules =>
    intro rule
    refine ⟨rule.toJson, fun layout => ⟨?_, ?_, ?_⟩⟩
    · exact fun _ => Json.isText_render_iff
    · exact Json.read?_render layout rule.toJson
    · exact (Rule.undoes rule).1
  case distinct =>
    intro layout layout'
    refine ⟨?_, ?_, ?_⟩
    · intro first second same
      exact Document.undoes.injective
        (congrArg Json.toValue (Json.render_injective same))
    · intro first second same
      exact Rule.undoes.injective
        (congrArg Json.toValue (Json.render_injective same))
    · intro document rule same
      exact document.toJson_ne_rule rule (Json.render_injective same)

/-- With so many blanks for each level no text is short enough. -/
theorem huge_indent_refused :
    let rule : Rule := { description := "r", manipulators := [] }
    (0 : Int) ≤ 2 ^ 64 ∧ ∀ text, rule.dump? (.spaces (2 ^ 64)) ≠ .ok text := by
  intro rule
  constructor
  · decide
  · intro text written
    rcases Indent.dump?_object_eq_ok_iff.mp written with
      ⟨layout, asks, rfl, size⟩
    generalize asked : Indent.spaces (2 ^ 64) = indent at asks
    cases asks with
    | compact => cases asked
    | spaces count =>
        have blanks := Json.indent_le_utf8ByteSize_render (.lines count)
          ("description", .text "r") [("manipulators", .array [])]
        have huge : (2 ^ 64 : Int) = count := Indent.spaces.inj asked
        have held : count < 2 ^ 63 := blanks.trans_lt size
        omega

end ModalKeymap
