import Mathlib.Data.List.Induction
import ModalKeymap.CommandLine
import ModalKeymap.Proofs.Reading

/-!
# Runs that fail leave no trace

A temporary file stands at a path where nothing was, so putting it there and
taking it away again is nothing at all, and while it stands there every
location leads where it led before.  With that a replacement either puts the
new contents at its target and changes nothing else, or changes nothing.

The same is then true of every call of the program, and by induction over the
calls of every sequence of them: each path holds what was there at first or
the whole of what one of the calls had to write (`all_or_nothing`).
-/

namespace ModalKeymap

namespace FileSystem

variable {files : FileSystem} {path : FilePath} {plan : FailurePlan}
  {target : Location}

/-! ## New paths -/

theorem get?_eq_none_iff :
    files.get? path = none ↔ ∀ entry ∈ files.nodes, entry.1 ≠ path := by
  rw [get?, List.lookup_eq_none_iff]
  constructor
  · intro absent entry member same
    have differs := absent entry member
    simp [same] at differs
  · intro new entry member
    simpa using (new entry member).symm

/-- Adding up the lengths of names never falls below what was added. -/
theorem le_foldl_length (nodes : List (FilePath × FileNode)) (total : Nat) :
    let counted := nodes.foldl (fun total entry =>
      total + (entry.1.getLastD "").length) total
    total ≤ counted ∧
      ∀ entry ∈ nodes, total + (entry.1.getLastD "").length ≤ counted := by
  induction nodes generalizing total with
  | nil => exact ⟨Nat.le_refl total, fun _ member => by cases member⟩
  | cons first rest ih =>
      rcases ih (total + (first.1.getLastD "").length) with
        ⟨atLeast, others⟩
      constructor
      · exact Nat.le_trans (Nat.le_add_right _ _) atLeast
      · intro entry member
        rcases List.mem_cons.mp member with rfl | later
        · exact atLeast
        · have bounded := others entry later
          simp only [List.foldl_cons]
          omega

theorem length_lt_longerThanNames {entry : FilePath × FileNode}
    (member : entry ∈ files.nodes) :
    (entry.1.getLastD "").length < files.longerThanNames := by
  have bounded := (le_foldl_length files.nodes 1).2 entry member
  unfold longerThanNames
  omega

/-- A temporary file never takes the place of anything. -/
theorem get?_temporaryPath (files : FileSystem) (directory : FilePath)
    (name tag : String) :
    files.get? (files.temporaryPath directory name tag) = none := by
  unfold temporaryPath
  split
  · next free => exact Option.isNone_iff_eq_none.mp free
  · apply get?_eq_none_iff.mpr
    intro entry member same
    have shorter := length_lt_longerThanNames member
    simp only [same, taggedPath, List.getLastD_concat, String.length_append,
      String.length_ofList, List.length_replicate] at shorter
    omega

theorem temporaryPath_ne_nil (files : FileSystem) (directory : FilePath)
    (name tag : String) :
    files.temporaryPath directory name tag ≠ [] := by
  unfold temporaryPath
  split <;> simp [taggedPath]

/-! ## Where locations lead -/

theorem set_set (node node' : FileNode) :
    (files.set path node).set path node' = files.set path node' := by
  have same (nodes : List (FilePath × FileNode)) :
      setNode path node' (setNode path node nodes) =
        setNode path node' nodes := by
    induction nodes with
    | nil => simp [setNode]
    | cons first rest ih =>
        by_cases here : first.1 = path
        · simp [setNode, here]
        · simp [setNode, here, ih]
  simp [set, same]

/-- A file where no directory is changes nothing about directories. -/
theorem isDirectory_set (notDirectory : files.isDirectory path = false)
    (bytes : ByteArray) (other : FilePath) :
    (files.set path (.file bytes)).isDirectory other =
      files.isDirectory other := by
  by_cases same : other = path
  · subst same
    rw [notDirectory]
    simp only [isDirectory, Bool.or_eq_false_iff] at notDirectory
    simp [isDirectory, notDirectory.1, FileNode.isDirectory]
  · simp [isDirectory, same]

theorem follow?_congr {files' : FileSystem}
    (alike : ∀ path, files.isDirectory path = files'.isDirectory path)
    (from_ : FilePath) (names : List String) :
    files.follow? from_ names = files'.follow? from_ names := by
  induction names generalizing from_ with
  | nil => rfl
  | cons name rest ih => simp only [follow?, alike, ih]

theorem resolve?_set (notDirectory : files.isDirectory path = false)
    (bytes : ByteArray) (location : Location) :
    (files.set path (.file bytes)).resolve? location =
      files.resolve? location := by
  simp only [resolve?, working_set,
    follow?_congr (isDirectory_set notDirectory bytes)]

/-! ## Replacing -/

/-- What has to be the case so that a file can be replaced. -/
structure CanReplace (files : FileSystem) (target : Location)
    (path : FilePath) : Prop where
  inDirectory : ∃ directory, files.resolve? target.parent = some directory ∧
    files.isDirectory directory = true
  notOverlong : isOverlong target = false
  leads : files.resolve? target = some path
  notDirectory : files.isDirectory path = false

/-- Whether a plan lets a step of a replacement fail. -/
def failsReplacing (plan : FailurePlan) : Bool :=
  plan.fails .createTemporary || plan.fails .openTemporary ||
    plan.fails .writeTemporary || plan.fails .moveTemporary

/-- The temporary file of a replacement is not seen in what comes of it. -/
theorem replace_eq (files : FileSystem) (plan : FailurePlan)
    (target : Location) (bytes : ByteArray) :
    files.replace plan target bytes =
      match files.resolve? target.parent, files.resolve? target with
      | some directory, some path =>
          if files.isDirectory directory && !isOverlong target &&
              !files.isDirectory path && !failsReplacing plan then
            (files.set path (.file bytes), true)
          else
            (files, false)
      | _, _ => (files, false) := by
  unfold replace
  cases files.resolve? target.parent with
  | none => rfl
  | some directory =>
      have new := get?_temporaryPath files directory target.name plan.tag
      have notDirectory : files.isDirectory
          (files.temporaryPath directory target.name plan.tag) = false := by
        simp [isDirectory, new, temporaryPath_ne_nil]
      -- nothing was there, so removing the temporary file undoes creating it
      have removed (bytes : ByteArray) :
          (files.set (files.temporaryPath directory target.name plan.tag)
            (.file bytes)).remove
              (files.temporaryPath directory target.name plan.tag) = files :=
        remove_set_of_new (get?_eq_none_iff.mp new)
      simp only [set_set, removed, resolve?_set notDirectory,
        isDirectory_set notDirectory]
      cases files.resolve? target with
      | none => simp only [ite_self]
      | some path =>
          simp only [failsReplacing]
          grind

/-- A file that can be replaced is, unless a step fails. -/
theorem replace_of_canReplace (can : files.CanReplace target path)
    (works : failsReplacing plan = false) (bytes : ByteArray) :
    files.replace plan target bytes =
      (files.set path (.file bytes), true) := by
  rcases can.inDirectory with ⟨directory, parent, isDirectory⟩
  simp [replace_eq, parent, can.leads, isDirectory, can.notOverlong,
    can.notDirectory, works]

/-- A replacement that does not happen leaves the files as they are. -/
theorem replace_cases (files : FileSystem) (plan : FailurePlan)
    (target : Location) (bytes : ByteArray) :
    (∃ path, files.CanReplace target path ∧ failsReplacing plan = false) ∨
      files.replace plan target bytes = (files, false) := by
  rw [replace_eq]
  split
  · next directory path parent leads =>
      split
      · next holds =>
          left
          simp only [Bool.and_eq_true, Bool.not_eq_true'] at holds
          rcases holds with
            ⟨⟨⟨isDirectory, notOverlong⟩, notDirectory⟩, works⟩
          exact ⟨path,
            { inDirectory := ⟨directory, parent, isDirectory⟩
              notOverlong := notOverlong
              leads := leads
              notDirectory := notDirectory }, works⟩
      · exact .inr rfl
  · exact .inr rfl

end FileSystem

/-! ## Making a document file -/

/-- What a document file is made from, where it goes, and its layout. -/
structure Job where
  input : Location
  output : Location
  indent : Indent

/-- A job makes these bytes of the files as they are. -/
def Job.Makes (job : Job) (files : FileSystem) (bytes : ByteArray) : Prop :=
  ∃ source value settings compilation text,
    (files.resolve? job.input).bind files.read? = some source ∧
      Toml.ofBytes source = .ok value ∧
        Settings.check value = .valid settings ∧
          settings.compile? = .ok compilation ∧
            compilation.document.dump? job.indent = .ok text ∧
              bytes = (text ++ "\n").toUTF8

/--
A job writes these bytes to a path: nothing fails, its locations are usable,
and the file there can be replaced.
-/
structure Job.Writes (job : Job) (files : FileSystem) (plan : FailurePlan)
    (path : FilePath) (bytes : ByteArray) : Prop where
  nothingFails : plan.failing = none
  inputUsable : job.input.isUsable = true
  outputUsable : job.output.isUsable = true
  makes : job.Makes files bytes
  canReplace : files.CanReplace job.output path

theorem Checked.toExcept_eq_ok_iff {α : Type} {checked : Checked α}
    {value : α} : checked.toExcept = .ok value ↔ checked = .valid value := by
  cases checked <;> simp [toExcept]

theorem Build.ofBytes?_eq_ok_iff {indent : Indent} {source : ByteArray}
    {built : Build} :
    ofBytes? indent source = .ok built ↔
      ∃ value settings compilation text,
        Toml.ofBytes source = .ok value ∧
          Settings.check value = .valid settings ∧
            settings.compile? = .ok compilation ∧
              compilation.document.dump? indent = .ok text ∧
                built =
                  { document := compilation.document
                    text := text ++ "\n"
                    log := compilation.log } := by
  simp only [ofBytes?, settings?, Except.bind_eq_ok_iff,
    Except.mapError_eq_ok_iff, Checked.toExcept_eq_ok_iff]
  constructor
  · rintro ⟨settings, ⟨value, read, valid⟩, compilation, compiled, text,
      dumped, made⟩
    exact ⟨value, settings, compilation, text, read, valid, compiled,
      dumped, (Except.ok.inj made).symm⟩
  · rintro ⟨value, settings, compilation, text, read, valid, compiled,
      dumped, rfl⟩
    exact ⟨settings, ⟨value, read, valid⟩, compilation, compiled, text,
      dumped, rfl⟩

theorem Job.makes_iff {job : Job} {files : FileSystem} {bytes : ByteArray} :
    job.Makes files bytes ↔
      ∃ source built,
        (files.resolve? job.input).bind files.read? = some source ∧
          Build.ofBytes? job.indent source = .ok built ∧
            built.text.toUTF8 = bytes := by
  constructor
  · rintro ⟨source, value, settings, compilation, text, found, read, valid,
      compiled, dumped, rfl⟩
    exact ⟨source, _, found,
      Build.ofBytes?_eq_ok_iff.mpr ⟨value, settings, compilation, text,
        read, valid, compiled, dumped, rfl⟩, rfl⟩
  · rintro ⟨source, built, found, made, rfl⟩
    rcases Build.ofBytes?_eq_ok_iff.mp made with
      ⟨value, settings, compilation, text, read, valid, compiled, dumped,
        rfl⟩
    exact ⟨source, value, settings, compilation, text, found, read, valid,
      compiled, dumped, rfl⟩

theorem FailurePlan.failing_eq_none_iff {plan : FailurePlan} :
    plan.failing = none ↔
      plan.fails .readInput = false ∧
        FileSystem.failsReplacing plan = false := by
  unfold fails FileSystem.failsReplacing fails
  cases plan.failing with
  | none => simp
  | some step => cases step <;> simp

namespace FileSystem

variable {files : FileSystem} {plan : FailurePlan} {job : Job}

theorem readAt?_eq_some_iff {location : Location} {source : ByteArray} :
    files.readAt? plan location = some source ↔
      plan.fails .readInput = false ∧
        (files.resolve? location).bind files.read? = some source := by
  unfold readAt?
  cases plan.fails .readInput <;> simp

/-- A job that writes to a path is done, with no other effect. -/
theorem build_of_writes {path : FilePath} {bytes : ByteArray}
    (writes : job.Writes files plan path bytes) :
    ∃ log, files.build plan job.input job.output job.indent =
      (files.set path (.file bytes), .ok log) := by
  rcases Job.makes_iff.mp writes.makes with
    ⟨source, built, found, made, rfl⟩
  rcases FailurePlan.failing_eq_none_iff.mp writes.nothingFails with
    ⟨readable, replaceable⟩
  have read := readAt?_eq_some_iff.mpr ⟨readable, found⟩
  have replaced := replace_of_canReplace writes.canReplace replaceable
    built.text.toUTF8
  refine ⟨built.fullLog job.output, ?_⟩
  simp only [build, writes.inputUsable, writes.outputUsable, read, made,
    replaced, Bool.not_true, Bool.false_eq_true, if_false]

/-- A job that writes to no path leaves the files as they are. -/
theorem build_cases (files : FileSystem) (plan : FailurePlan) (job : Job) :
    (∃ path bytes, job.Writes files plan path bytes) ∨
      ∃ fault, files.build plan job.input job.output job.indent =
        (files, .error fault) := by
  unfold build
  split
  · exact .inr ⟨_, rfl⟩
  · next inputUsable =>
      split
      · exact .inr ⟨_, rfl⟩
      · next source read =>
          rcases readAt?_eq_some_iff.mp read with ⟨readable, found⟩
          split
          · exact .inr ⟨_, rfl⟩
          · next built made =>
              split
              · exact .inr ⟨_, rfl⟩
              · next outputUsable =>
                  rcases replace_cases files plan job.output
                      built.text.toUTF8 with
                    ⟨path, can, replaceable⟩ | same
                  · left
                    exact ⟨path, built.text.toUTF8,
                      { nothingFails :=
                          FailurePlan.failing_eq_none_iff.mpr
                            ⟨readable, replaceable⟩
                        inputUsable := by simpa using inputUsable
                        outputUsable := by simpa using outputUsable
                        makes :=
                          Job.makes_iff.mpr ⟨source, built, found, made, rfl⟩
                        canReplace := can }⟩
                  · exact .inr ⟨.system, by rw [same]⟩

end FileSystem

/-! ## Sequences of calls -/

/-- A call of the program, or of what it does once it knows its job. -/
inductive Call where
  | program (arguments : List String)
  | direct (job : Job)

namespace Call

/-- The job of a call; none if the arguments do not name one. -/
def job? : Call → Option Job
  | .direct job => some job
  | .program arguments =>
      match CommandLine.request? arguments with
      | .error _ => none
      | .ok request =>
          match request.input, request.output with
          | some input, some output =>
              some
                { input := .ofText input
                  output := .ofText output
                  indent := request.layoutIndent }
          | _, _ => none

/-- What becomes of the files in a call, and how it ends. -/
def perform (files : FileSystem) (plan : FailurePlan) :
    Call → FileSystem × Outcome
  | .program arguments => CommandLine.run files plan arguments
  | .direct job =>
      match files.build plan job.input job.output job.indent with
      | (changed, .ok log) => (changed, .done log)
      | (unchanged, .error fault) => (unchanged, .failed fault)

/-- The files after several calls, each with what the system adds to it. -/
def performAll (files : FileSystem) (calls : List (Call × FailurePlan)) :
    FileSystem :=
  calls.foldl (fun files call => (call.1.perform files call.2).1) files

/-- A call has a job that writes these bytes to a path. -/
def Writes (call : Call) (files : FileSystem) (plan : FailurePlan)
    (path : FilePath) (bytes : ByteArray) : Prop :=
  ∃ job, call.job? = some job ∧ job.Writes files plan path bytes

variable {files : FileSystem} {plan : FailurePlan} {call : Call}

@[simp]
theorem performAll_append (earlier later : List (Call × FailurePlan)) :
    performAll files (earlier ++ later) =
      performAll (performAll files earlier) later := by
  simp [performAll]

@[simp]
theorem performAll_singleton :
    performAll files [(call, plan)] = (call.perform files plan).1 := rfl

/-- A call does its job, and shows some of what there is to report. -/
theorem perform_of_job (files : FileSystem) (plan : FailurePlan) {job : Job}
    (known : call.job? = some job) :
    ∃ shown : List LogEntry → List LogEntry,
      call.perform files plan =
        match files.build plan job.input job.output job.indent with
        | (changed, .ok log) => (changed, .done (shown log))
        | (unchanged, .error fault) => (unchanged, .failed fault) := by
  cases call with
  | direct own =>
      cases known
      exact ⟨id, rfl⟩
  | program arguments =>
      simp only [job?] at known
      split at known
      · cases known
      · next request requested =>
          split at known
          · next input output inputNamed outputNamed =>
              cases known
              refine ⟨List.filter (·.isShown request.verbose), ?_⟩
              rcases built : files.build plan (.ofText input)
                (.ofText output) request.layoutIndent with
                ⟨changed, _ | log⟩
              all_goals
                simp only [perform, CommandLine.run, requested, inputNamed,
                  outputNamed, built]
          · cases known

theorem perform_of_no_job (unknown : call.job? = none) :
    (call.perform files plan).1 = files ∧
      ∀ log, (call.perform files plan).2 ≠ .done log := by
  cases call with
  | direct own => cases unknown
  | program arguments =>
      simp only [job?] at unknown
      simp only [perform, CommandLine.run]
      cases requested : CommandLine.request? arguments with
      | error exit => exact ⟨rfl, fun _ same => by cases same⟩
      | ok request =>
          simp only [requested] at unknown ⊢
          cases inputNamed : request.input with
          | none => exact ⟨rfl, fun _ same => by cases same⟩
          | some input =>
              cases outputNamed : request.output with
              | none => exact ⟨rfl, fun _ same => by cases same⟩
              | some output =>
                  simp only [inputNamed, outputNamed] at unknown
                  cases unknown

/-- A call that writes to a path ends well, with no other effect. -/
theorem perform_of_writes {path : FilePath} {bytes : ByteArray}
    (writes : call.Writes files plan path bytes) :
    ∃ log, call.perform files plan =
      (files.set path (.file bytes), .done log) := by
  rcases writes with ⟨job, known, writes⟩
  rcases FileSystem.build_of_writes writes with ⟨log, built⟩
  rcases perform_of_job files plan known with ⟨shown, performed⟩
  rw [built] at performed
  exact ⟨shown log, performed⟩

/-- A call that writes to no path fails and leaves the files as they are. -/
theorem perform_of_not_writes
    (idle : ¬ ∃ path bytes, call.Writes files plan path bytes) :
    (call.perform files plan).1 = files ∧
      ∀ log, (call.perform files plan).2 ≠ .done log := by
  cases known : call.job? with
  | none => exact perform_of_no_job known
  | some job =>
      rcases FileSystem.build_cases files plan job with
        ⟨path, bytes, writes⟩ | ⟨fault, built⟩
      · exact absurd ⟨path, bytes, job, known, writes⟩ idle
      · rcases perform_of_job files plan known with ⟨shown, performed⟩
        rw [built] at performed
        rw [performed]
        exact ⟨rfl, fun _ same => by cases same⟩

/--
After any calls each path holds what was there at first, or the whole of what
one of the calls had to write to it.
-/
theorem get?_performAll (calls : List (Call × FailurePlan))
    (path : FilePath) :
    (performAll files calls).get? path = files.get? path ∨
      ∃ earlier call plan later bytes,
        calls = earlier ++ (call, plan) :: later ∧
          call.Writes (performAll files earlier) plan path bytes ∧
            (performAll files calls).get? path = some (.file bytes) := by
  -- from the last call on: it writes to the path, or what was there stays
  induction calls using List.reverseRecOn with
  | nil => exact .inl rfl
  | append_singleton calls last ih =>
      obtain ⟨call, plan⟩ := last
      rw [performAll_append, performAll_singleton]
      have before (unchanged : ((call.perform (performAll files calls)
          plan).1).get? path = (performAll files calls).get? path) :
          ((call.perform (performAll files calls) plan).1).get? path =
              files.get? path ∨
            ∃ earlier call' plan' later bytes,
              calls ++ [(call, plan)] =
                  earlier ++ (call', plan') :: later ∧
                call'.Writes (performAll files earlier) plan' path bytes ∧
                  ((call.perform (performAll files calls) plan).1).get?
                    path = some (.file bytes) := by
        rw [unchanged]
        rcases ih with
          same | ⟨earlier, call', plan', later, bytes, rfl, writes, there⟩
        · exact .inl same
        · exact .inr ⟨earlier, call', plan', later ++ [(call, plan)], bytes,
            by simp, writes, there⟩
      by_cases active : ∃ target bytes,
          call.Writes (performAll files calls) plan target bytes
      · rcases active with ⟨target, bytes, writes⟩
        rcases perform_of_writes writes with ⟨log, performed⟩
        by_cases here : path = target
        · subst here
          exact .inr ⟨calls, call, plan, [], bytes, rfl, writes,
            by simp [performed]⟩
        · exact before (by simp [performed, here])
      · exact before (by rw [(perform_of_not_writes active).1])

end Call

/--
However many calls came before, a call of the program or of what it does ends
well exactly if it has something to write.  It then leaves the whole document
made of the files before it, and a line break, at its output path and changes
nothing else; otherwise it changes nothing at all.  So no path ever holds
anything but what was there at first or what one of the calls had to write to
it, and no temporary file stays behind.
-/
theorem all_or_nothing (files : FileSystem)
    (earlier : List (Call × FailurePlan)) (call : Call)
    (plan : FailurePlan) :
    let before := Call.performAll files earlier
    let after := (call.perform before plan).1
    let outcome := (call.perform before plan).2
    ((∃ log, outcome = .done log) ↔
        ∃ path bytes, call.Writes before plan path bytes) ∧
      (∀ path bytes, call.Writes before plan path bytes →
        after.read? path = some bytes ∧ after.working = before.working ∧
          ∀ other, other ≠ path → after.get? other = before.get? other) ∧
      ((∀ log, outcome ≠ .done log) → after = before) ∧
      ∀ path, before.get? path = files.get? path ∨
        ∃ front call' plan' back bytes,
          earlier = front ++ (call', plan') :: back ∧
            call'.Writes (Call.performAll files front) plan' path bytes ∧
              before.get? path = some (.file bytes) := by
  intro before after outcome
  refine ⟨?_, ?_, ?_, ?_⟩
  · constructor
    · rintro ⟨log, ended⟩
      by_contra idle
      exact (Call.perform_of_not_writes idle).2 log ended
    · rintro ⟨path, bytes, writes⟩
      rcases Call.perform_of_writes writes with ⟨log, performed⟩
      exact ⟨log, congrArg Prod.snd performed⟩
  · intro path bytes writes
    rcases Call.perform_of_writes writes with ⟨log, performed⟩
    have changed : after = before.set path (.file bytes) :=
      congrArg Prod.fst performed
    refine ⟨?_, ?_, ?_⟩
    · simp [changed, FileSystem.read?]
    · simp [changed]
    · intro other different
      simp [changed, different]
  · intro failed
    by_cases active : ∃ path bytes, call.Writes before plan path bytes
    · rcases active with ⟨path, bytes, writes⟩
      rcases Call.perform_of_writes writes with ⟨log, performed⟩
      exact absurd (congrArg Prod.snd performed) (failed log)
    · exact (Call.perform_of_not_writes active).1
  · exact Call.get?_performAll earlier

end ModalKeymap
