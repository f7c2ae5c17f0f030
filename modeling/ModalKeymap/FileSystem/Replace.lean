import ModalKeymap.FileSystem.Location

/-!
# Replacing a file in one step

New contents go to a temporary file beside the target first, and only a
complete temporary file takes the target's place.  Whatever step fails, the
temporary file is removed, so that a failure leaves no trace.
-/

namespace ModalKeymap

/-- A step of a run at which the operating system may fail. -/
inductive SystemStep where
  | readInput
  | createTemporary
  | openTemporary
  | writeTemporary
  | moveTemporary
  deriving DecidableEq, Repr

/-- What the operating system adds to a run. -/
structure FailurePlan where
  /-- The step that fails, if one does. -/
  failing : Option SystemStep := none
  /-- What a failing write leaves in the temporary file. -/
  written : ByteArray := ByteArray.empty
  /-- What is tried first to make a temporary file's name new. -/
  tag : String := ""

/-- Whether a step fails under a plan. -/
def FailurePlan.fails (plan : FailurePlan) (step : SystemStep) : Bool :=
  plan.failing = some step

namespace FileSystem

/-- A number of characters longer than every name. -/
def longerThanNames (files : FileSystem) : Nat :=
  files.nodes.foldl (fun total entry =>
    total + (entry.1.getLastD "").length) 1

/-- A path for a temporary file with a tag in its name. -/
def taggedPath (directory : FilePath) (name tag : String) : FilePath :=
  directory ++ ["." ++ name ++ "." ++ tag ++ ".tmp"]

/--
The path of a temporary file in a directory; no file is there yet.  The
offered tag is used unless its path is taken.
-/
def temporaryPath (files : FileSystem) (directory : FilePath)
    (name tag : String) : FilePath :=
  if (files.get? (taggedPath directory name tag)).isNone then
    taggedPath directory name tag
  else
    taggedPath directory name
      (String.ofList (List.replicate files.longerThanNames '_'))

/-- The most bytes that a name may have. -/
def nameLimit : Nat := 255

/-- How much longer a temporary file's name is than its target's. -/
def temporaryOverhead : Nat := 14

/-- Whether the temporary file for a target has a name that is too long. -/
def isOverlong (target : Location) : Bool :=
  nameLimit < target.name.utf8ByteSize + temporaryOverhead

/--
Replace the contents of a file.  The directory has to exist, and the target
must not be a directory itself.
-/
def replace (files : FileSystem) (plan : FailurePlan) (target : Location)
    (bytes : ByteArray) : FileSystem × Bool :=
  match files.resolve? target.parent with
  | none => (files, false)
  | some directory =>
      if !files.isDirectory directory || isOverlong target ||
          plan.fails .createTemporary then
        (files, false)
      else
        let temporary := files.temporaryPath directory target.name plan.tag
        let created := files.set temporary (.file ByteArray.empty)
        if plan.fails .openTemporary then
          (created.remove temporary, false)
        else if plan.fails .writeTemporary then
          let partly := created.set temporary (.file plan.written)
          (partly.remove temporary, false)
        else
          let complete := created.set temporary (.file bytes)
          match complete.resolve? target with
          | none => (complete.remove temporary, false)
          | some path =>
              if plan.fails .moveTemporary || complete.isDirectory path then
                (complete.remove temporary, false)
              else
                ((complete.remove temporary).set path (.file bytes), true)

end FileSystem

end ModalKeymap
