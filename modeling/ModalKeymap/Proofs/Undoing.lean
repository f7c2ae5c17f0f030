import ModalKeymap.Validation
import Mathlib.Data.List.Induction

/-!
# Checks that undo writing

A check undoes a way of writing values if it reads every value back from what
is written for it (`Check.Undoes`).  The checks of lists and of optional
fields do so where the checks inside them do.  A field is found among the
members of a mapping by the last assignment to its name
(`Members.get?_ofAssignments`).
-/

namespace ModalKeymap

/-! ## Members of a mapping -/

theorem Scalar.sameKey_eq_true_of_text {present : Scalar} {name : String}
    (same : present.sameKey (.text name)) : present = .text name := by
  cases present <;> simp_all [sameKey, integer?]

theorem Scalar.not_sameKey_text {key : Scalar} {name : String}
    (other : key ≠ .text name) : sameKey (.text name) key = false := by
  cases key with
  | text written =>
      have different : name ≠ written := by
        rintro rfl
        exact other rfl
      simpa using different
  | _ => rfl

namespace Members

theorem get?_insert (name : String) (key : Scalar) (value : Value)
    (members : Members) :
    get? name (insert key value members) =
      if key = .text name then some value else get? name members := by
  induction members with
  | nil => rfl
  | cons first rest ih =>
      rcases first with ⟨present, old⟩
      by_cases sought : key = .text name
      · subst sought
        by_cases same : present.sameKey (.text name)
        · have isName := Scalar.sameKey_eq_true_of_text same
          simp [insert, get?_cons, isName]
        · have other : present ≠ .text name := by
            rintro rfl
            simp at same
          simpa [insert, same, get?_cons, other] using ih
      · by_cases isName : present = .text name
        · subst isName
          have different := Scalar.not_sameKey_text sought
          simp [insert, different, get?_cons, sought]
        · by_cases same : present.sameKey key
          · simp [insert, same, get?_cons, isName, sought]
          · simpa [insert, same, get?_cons, isName, sought] using ih

/-- Of the assignments to a name the last one counts. -/
theorem get?_ofAssignments (name : String)
    (assignments : List (Scalar × Value)) :
    get? name (ofAssignments assignments) =
      get? name assignments.reverse := by
  induction assignments using List.reverseRecOn with
  | nil => rfl
  | append_singleton earlier last ih =>
      rw [ofAssignments, List.foldl_append, List.foldl_cons, List.foldl_nil,
        List.reverse_concat, get?_insert, get?_cons, ← ih, ofAssignments]

theorem get?_append (name : String) (front rest : Members) :
    get? name (front ++ rest) = (get? name front).or (get? name rest) := by
  induction front with
  | nil => rfl
  | cons first others ih =>
      rcases first with ⟨key, value⟩
      rw [List.cons_append, get?_cons, get?_cons, ih]
      split <;> rfl

end Members

/-! ## Values that are read back -/

/-- Every value is read back from what is written for it, and never null. -/
def Check.Undoes {α : Type} (check : Check α) (write : α → Value) : Prop :=
  ∀ value, check (write value) = .valid value ∧ write value ≠ .null

namespace Check

variable {α : Type} {check : Check α} {write : α → Value}

theorem undoes_text : Check.text.Undoes .text := by
  intro value
  exact ⟨rfl, nofun⟩

theorem undoes_word {read? : String → Option α} {name : α → String}
    (named : ∀ value, read? (name value) = some value) :
    (word read?).Undoes fun value => .text (name value) := by
  intro value
  constructor
  · simp [word, named]
  · nofun

theorem undoes_key : key.Undoes fun code => .text code.name :=
  undoes_word KeyCode.ofName?_name

theorem undoes_modifier :
    modifier.Undoes fun modifier => .text modifier.name :=
  undoes_word Modifier.ofName?_name

/-- A word that is fixed is read back as such. -/
theorem undoes_fixedWord (expected : String) :
    (fixedWord expected).Undoes fun _ => .text expected := by
  intro _
  constructor
  · simp [fixedWord]
  · nofun

theorem undoes_truth : truth.Undoes .boolean := by
  intro value
  exact ⟨rfl, nofun⟩

theorem items_map (undoes : check.Undoes write) (values : List α)
    (start : Nat) : items check start (values.map write) = .valid values := by
  induction values generalizing start with
  | nil => rfl
  | cons first rest ih =>
      rw [List.map_cons, items, (undoes first).1, ih]
      rfl

theorem Undoes.list (undoes : check.Undoes write) :
    (Check.list check).Undoes fun values => .list (values.map write) := by
  intro values
  exact ⟨items_map undoes values 0, nofun⟩

theorem Undoes.nullable (undoes : check.Undoes write) (value : α) :
    check.nullable (write value) = .valid (some value) := by
  rcases undoes value with ⟨read, notNull⟩
  unfold Check.nullable
  split
  · next isNull => exact absurd isNull notNull
  · rw [read]
    rfl

end Check

namespace Members

variable {α : Type} {check : Check α} {write : α → Value} {name : String}
  {members : Members}

theorem required_of_get? (undoes : check.Undoes write) {value : α}
    (found : members.get? name = some (write value)) :
    members.required name check = .valid value := by
  rw [required, found]
  simp [(undoes value).1]

theorem optional_of_get? (undoes : check.Undoes write) (default : α)
    {value : α} (found : members.get? name = some (write value)) :
    members.optional name default check = .valid value := by
  rw [optional, found]
  simp [(undoes value).1]

theorem maybe_of_get? (undoes : check.Undoes write) {content : Option α}
    (found : members.get? name = content.map write) :
    members.maybe name check = .valid content := by
  rw [maybe, optional, found]
  cases content with
  | none => rfl
  | some value => simp [undoes.nullable value]

theorem requiredAs_of_get? (undoes : check.Undoes write)
    (otherName : String) {value : α}
    (found : members.get? name = some (write value)) :
    members.requiredAs name otherName check = .valid value := by
  rw [requiredAs, found]
  exact required_of_get? undoes found

theorem optionalAs_of_get? (undoes : check.Undoes write)
    (otherName : String) (default : α) {value : α}
    (found : members.get? name = some (write value)) :
    members.optionalAs name otherName default check = .valid value := by
  rw [optionalAs, found]
  exact optional_of_get? undoes default found

end Members

end ModalKeymap
