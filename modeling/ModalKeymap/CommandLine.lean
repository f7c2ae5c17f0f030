import ModalKeymap.Build
import ModalKeymap.CommandLine.Arguments
import ModalKeymap.FileSystem.Replace

/-!
# Runs of the program

One run reads the settings file, makes the document and replaces the document
file, or fails and changes nothing.
-/

namespace ModalKeymap

/-- Why a run fails. -/
inductive RunFault where
  /-- An argument was only a marker. -/
  | emptyArgument
  /-- A location holds the null character. -/
  | nullCharacter
  /-- The operating system refused something. -/
  | system
  | build (fault : BuildFault)
  deriving Repr

/-- The wording of a fault. -/
def RunFault.message : RunFault → String
  | .emptyArgument => "an argument is only a marker"
  | .nullCharacter => "embedded null byte"
  | .system => "a file cannot be read or written"
  | .build fault => fault.message

/-- How a run ends. -/
inductive Outcome where
  | done (log : List LogEntry)
  | exited (exit : CommandLine.Exit)
  | failed (fault : RunFault)
  deriving Repr

/-- The log of a run that has written a document to a location. -/
def Build.fullLog (built : Build) (output : Location) : List LogEntry :=
  built.log ++ [.written built.document.rules.length output.display]

namespace FileSystem

/-- The bytes of the file at a location. -/
def readAt? (files : FileSystem) (plan : FailurePlan)
    (location : Location) : Option ByteArray :=
  if plan.fails .readInput then
    none
  else
    (files.resolve? location).bind files.read?

/--
Make the document file for a settings file: what becomes of the files, and
the log or why it failed.
-/
def build (files : FileSystem) (plan : FailurePlan)
    (input output : Location) (indent : Indent) :
    FileSystem × Except RunFault (List LogEntry) :=
  if !input.isUsable then
    (files, .error .nullCharacter)
  else
    match files.readAt? plan input with
    | none => (files, .error .system)
    | some bytes =>
        match Build.ofBytes? indent bytes with
        | .error fault => (files, .error (.build fault))
        | .ok built =>
            if !output.isUsable then
              (files, .error .nullCharacter)
            else
              match files.replace plan output built.text.toUTF8 with
              | (changed, true) =>
                  (changed, .ok (built.fullLog output))
              | (unchanged, false) => (unchanged, .error .system)

end FileSystem

namespace CommandLine

/-- The indent that a request asks for. -/
def Request.layoutIndent (request : Request) : Indent :=
  match request.indent with
  | some count => .spaces count
  | none => .unspecified

/-- One run of the program with given arguments. -/
def run (files : FileSystem) (plan : FailurePlan)
    (arguments : List String) : FileSystem × Outcome :=
  match request? arguments with
  | .error exit => (files, .exited exit)
  | .ok request =>
      match request.input, request.output with
      | some input, some output =>
          match files.build plan (.ofText input) (.ofText output)
              request.layoutIndent with
          | (changed, .ok log) =>
              (changed, .done (log.filter (·.isShown request.verbose)))
          | (unchanged, .error fault) => (unchanged, .failed fault)
      | _, _ => (files, .failed .emptyArgument)

end CommandLine

end ModalKeymap
