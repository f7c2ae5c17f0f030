import ModalKeymap.Rule

/-!
# Replaying key presses

What a list of manipulators does to the variables of the remapper.  Every
variable is 0 until it is set.  A press enables the manipulators with its key
whose modifiers are met and whose conditions hold; firing one sets variables
and sends its other events, in order.

The remapper fires the first enabled manipulator (`firing?`, `after`, `run`).
`Fires` and `Reaches` allow any enabled one, so what holds of them does not
depend on the order of rules.
-/

namespace ModalKeymap

/-- The value of every variable. -/
abbrev Variables := String → VariableValue

namespace Variables

/-- No variable has been set. -/
def unset : Variables := fun _ => .integer 0

/-- Set one variable. -/
def assign (values : Variables) (assignment : Assignment) : Variables :=
  fun name =>
    if name = assignment.name then assignment.value else values name

@[simp]
theorem assign_self (values : Variables) (name : String)
    (value : VariableValue) :
    values.assign ⟨name, value⟩ name = value := by
  simp [assign]

theorem assign_of_ne (values : Variables) {assignment : Assignment}
    {name : String} (different : name ≠ assignment.name) :
    values.assign assignment name = values name := by
  simp [assign, different]

/-- A variable that no assignment of several sets keeps its value. -/
theorem foldl_assign_of_not_mem {assignments : List Assignment}
    {name : String} (values : Variables)
    (untouched : ∀ assignment ∈ assignments, assignment.name ≠ name) :
    assignments.foldl assign values name = values name := by
  induction assignments generalizing values with
  | nil => rfl
  | cons first rest ih =>
      have different : name ≠ first.name :=
        Ne.symm (untouched first (by simp))
      rw [List.foldl_cons,
        ih _ fun assignment member =>
          untouched assignment (List.mem_cons_of_mem _ member),
        assign_of_ne values different]

end Variables

/-- A key that goes down while modifiers are held. -/
structure Press where
  key : KeyCode
  held : List Modifier := []
  deriving DecidableEq, Repr

/-- Whether a modifier as rules name it stands for one that is held. -/
def Modifier.covers : Modifier → Modifier → Bool
  | .any, _ => true
  | .command, .leftCommand => true
  | .command, .rightCommand => true
  | .control, .leftControl => true
  | .control, .rightControl => true
  | .option, .leftOption => true
  | .option, .rightOption => true
  | .shift, .leftShift => true
  | .shift, .rightShift => true
  | named, held => named = held

@[simp]
theorem Modifier.covers_any (held : Modifier) : any.covers held = true := rfl

@[simp]
theorem Modifier.covers_self (modifier : Modifier) :
    modifier.covers modifier = true := by
  cases modifier <;> rfl

/--
Whether held modifiers are what a trigger asks for: each mandatory one is
held, and no other that is not optional.
-/
def TriggerModifiers.admits (modifiers : TriggerModifiers)
    (held : List Modifier) : Bool :=
  let mandatory := modifiers.mandatory.getD []
  let optional := modifiers.optional.getD []
  (mandatory.all fun named => named = .any || held.any named.covers) &&
    held.all fun modifier =>
      (mandatory ++ optional).any (·.covers modifier)

/-- Modifiers that require nothing and let everything through. -/
@[simp]
theorem TriggerModifiers.admits_acceptAny (held : List Modifier) :
    (acceptAny []).admits held = true := by
  simp [admits, acceptAny, Modifier.listed?]

/-- Held modifiers that are just the mandatory ones are let through. -/
theorem TriggerModifiers.admits_mandatory (modifiers : TriggerModifiers) :
    modifiers.admits (modifiers.mandatory.getD []) = true := by
  rw [admits, Bool.and_eq_true]
  constructor
  · rw [List.all_eq_true]
    intro modifier held
    have covered := List.any_eq_true.mpr
      ⟨modifier, held, Modifier.covers_self modifier⟩
    rw [covered, Bool.or_true]
  · rw [List.all_eq_true]
    intro modifier held
    exact List.any_eq_true.mpr
      ⟨modifier, List.mem_append_left _ held,
        Modifier.covers_self modifier⟩

namespace Trigger

/-- Whether a press is what a trigger waits for. -/
def isMetBy (trigger : Trigger) (press : Press) : Bool :=
  trigger.key = press.key &&
    (trigger.modifiers.getD {}).admits press.held

@[simp]
theorem isMetBy_anyModifiers (key : KeyCode) (press : Press) :
    (anyModifiers key).isMetBy press = decide (key = press.key) := by
  change (decide (key = press.key) &&
    (TriggerModifiers.acceptAny []).admits press.held) = _
  rw [TriggerModifiers.admits_acceptAny, Bool.and_true]

end Trigger

/-- Whether a condition holds. -/
def Condition.holds (condition : Condition) (values : Variables) : Bool :=
  values condition.name = condition.value

@[simp]
theorem Condition.holds_isOn_iff {name : String} {on : Bool}
    {values : Variables} :
    (isOn name on).holds values ↔ values name = .integer on.toInt := by
  rw [holds, decide_eq_true_iff]
  rfl

namespace Manipulator

/-- Whether a press may fire a manipulator. -/
def isEnabled (manipulator : Manipulator) (values : Variables)
    (press : Press) : Bool :=
  manipulator.trigger.isMetBy press &&
    manipulator.conditions.all (·.holds values)

/-- The variables that a manipulator sets, in order. -/
def assignments (manipulator : Manipulator) : List Assignment :=
  manipulator.events.filterMap Event.assignment

/-- What a manipulator sends apart from variables, in order. -/
def emissions (manipulator : Manipulator) : List Event :=
  manipulator.events.filter (·.assignment.isNone)

/-- The variables once a manipulator has fired. -/
def update (manipulator : Manipulator) (values : Variables) : Variables :=
  manipulator.assignments.foldl Variables.assign values

/-- A variable that a manipulator does not set keeps its value. -/
theorem update_of_not_mem {manipulator : Manipulator} {name : String}
    (values : Variables)
    (untouched : ∀ assignment ∈ manipulator.assignments,
      assignment.name ≠ name) :
    manipulator.update values name = values name :=
  Variables.foldl_assign_of_not_mem values untouched

end Manipulator

namespace Replay

/-! ### Any enabled manipulator -/

/-- Firing a manipulator on a press leads from one state to another. -/
inductive Fires (manipulators : List Manipulator) (values : Variables)
    (press : Press) : Manipulator → Variables → Prop
  | mk {manipulator : Manipulator} (listed : manipulator ∈ manipulators)
      (enabled : manipulator.isEnabled values press) :
      Fires manipulators values press manipulator
        (manipulator.update values)

/-- The states that presses can lead to; a press may also do nothing. -/
inductive Reaches (manipulators : List Manipulator) (start : Variables) :
    Variables → Prop
  | start : Reaches manipulators start start
  | fires {values next : Variables} {press : Press}
      {manipulator : Manipulator}
      (reached : Reaches manipulators start values)
      (fired : Fires manipulators values press manipulator next) :
      Reaches manipulators start next

/-- What holds at the start and is kept by every firing always holds. -/
theorem Reaches.invariant {manipulators : List Manipulator}
    {start state : Variables} (property : Variables → Prop)
    (initially : property start)
    (kept : ∀ values press manipulator,
      manipulator ∈ manipulators →
      manipulator.isEnabled values press → property values →
        property (manipulator.update values))
    (reached : Reaches manipulators start state) : property state := by
  induction reached with
  | start => exact initially
  | fires _ fired ih =>
      obtain ⟨listed, enabled⟩ := fired
      exact kept _ _ _ listed enabled ih

/-! ### The first enabled manipulator -/

/-- The manipulator that a press fires. -/
def firing? (manipulators : List Manipulator) (values : Variables)
    (press : Press) : Option Manipulator :=
  manipulators.find? (·.isEnabled values press)

/-- The variables after a press. -/
def after (manipulators : List Manipulator) (values : Variables)
    (press : Press) : Variables :=
  match firing? manipulators values press with
  | some manipulator => manipulator.update values
  | none => values

/-- What a press sends. -/
def emitted (manipulators : List Manipulator) (values : Variables)
    (press : Press) : List Event :=
  match firing? manipulators values press with
  | some manipulator => manipulator.emissions
  | none => []

/-- The variables after several presses. -/
def run (manipulators : List Manipulator) (values : Variables)
    (presses : List Press) : Variables :=
  presses.foldl (after manipulators) values

/-- What each of several presses sends. -/
def outputs (manipulators : List Manipulator) (values : Variables) :
    List Press → List (List Event)
  | [] => []
  | press :: rest =>
      emitted manipulators values press ::
        outputs manipulators (after manipulators values press) rest

@[simp]
theorem run_nil (manipulators : List Manipulator) (values : Variables) :
    run manipulators values [] = values := rfl

@[simp]
theorem run_cons (manipulators : List Manipulator) (values : Variables)
    (press : Press) (rest : List Press) :
    run manipulators values (press :: rest) =
      run manipulators (after manipulators values press) rest := rfl

/-- A press fires an enabled manipulator of the list. -/
theorem enabled_of_firing? {manipulators : List Manipulator}
    {values : Variables} {press : Press} {manipulator : Manipulator}
    (found : firing? manipulators values press = some manipulator) :
    manipulator ∈ manipulators ∧ manipulator.isEnabled values press :=
  ⟨List.mem_of_find?_eq_some found, by simpa using List.find?_some found⟩

/-- A manipulator in front that is fired is fired whatever comes after it. -/
theorem firing?_append_of_fired {front rest : List Manipulator}
    {values : Variables} {press : Press} {manipulator : Manipulator}
    (fired : firing? front values press = some manipulator) :
    firing? (front ++ rest) values press = some manipulator := by
  rw [firing?, List.find?_append, ← firing?, fired, Option.some_or]

/-- Manipulators in front that are not enabled do not change a press. -/
theorem firing?_append_of_unfired {front rest : List Manipulator}
    {values : Variables} {press : Press}
    (unfired : firing? front values press = none) :
    firing? (front ++ rest) values press = firing? rest values press := by
  rw [firing?, List.find?_append, ← firing?, unfired, Option.none_or]
  rfl

theorem after_append_of_fired {front rest : List Manipulator}
    {values : Variables} {press : Press} {manipulator : Manipulator}
    (fired : firing? front values press = some manipulator) :
    after (front ++ rest) values press = manipulator.update values := by
  rw [after, firing?_append_of_fired fired]

theorem after_append_of_unfired {front rest : List Manipulator}
    {values : Variables} {press : Press}
    (unfired : firing? front values press = none) :
    after (front ++ rest) values press = after rest values press := by
  rw [after, after, firing?_append_of_unfired unfired]

theorem emitted_append_of_fired {front rest : List Manipulator}
    {values : Variables} {press : Press} {manipulator : Manipulator}
    (fired : firing? front values press = some manipulator) :
    emitted (front ++ rest) values press = manipulator.emissions := by
  rw [emitted, firing?_append_of_fired fired]

theorem emitted_append_of_unfired {front rest : List Manipulator}
    {values : Variables} {press : Press}
    (unfired : firing? front values press = none) :
    emitted (front ++ rest) values press = emitted rest values press := by
  rw [emitted, emitted, firing?_append_of_unfired unfired]

/-- Whatever the first enabled manipulators lead to can be reached. -/
theorem reaches_run (manipulators : List Manipulator) (start : Variables)
    {values : Variables}
    (reached : Reaches manipulators start values)
    (presses : List Press) :
    Reaches manipulators start (run manipulators values presses) := by
  induction presses generalizing values with
  | nil => exact reached
  | cons press rest ih =>
      rw [run_cons]
      apply ih
      unfold after
      split
      · next manipulator found =>
          obtain ⟨listed, enabled⟩ := enabled_of_firing? found
          exact .fires reached (.mk listed enabled)
      · exact reached

end Replay

end ModalKeymap
