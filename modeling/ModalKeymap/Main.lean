import ModalKeymap.CommandLine

/-!
# The program

Reads a settings file, writes the document that it describes, and reports on
the standard error stream.  Everything but the reading and writing of files
is decided elsewhere.
-/

namespace ModalKeymap

/-- What the program expects on its command line. -/
def usage : String :=
  "usage: modal-keymap [-h] [--indent INDENT] [-v] settings document"

/-- Write a complete temporary file first, then put it in the target's place. -/
def replaceFile (target : Location) (bytes : ByteArray) : IO Unit := do
  let tag := toString (← IO.monoNanosNow)
  let temporaryName := "." ++ target.name ++ "." ++ tag ++ ".tmp"
  let temporary : Location :=
    { target with names := target.names.dropLast ++ [temporaryName] }
  let handle ← IO.FS.Handle.mk temporary.display .writeNew
  try
    handle.write bytes
    handle.flush
    IO.FS.rename temporary.display target.display
  catch problem =>
    IO.FS.removeFile temporary.display
    throw problem

/-- Make one document file, and return what there is to report. -/
def buildFile (input output : Location) (indent : Indent) :
    IO (List LogEntry) := do
  let bytes ← IO.FS.readBinFile input.display
  match Build.ofBytes? indent bytes with
  | .error fault => throw (IO.userError fault.message)
  | .ok built =>
      replaceFile output built.text.toUTF8
      return built.fullLog output

end ModalKeymap

open ModalKeymap in
/-- Run the program; the exit code is 0 unless the arguments are refused. -/
def main (arguments : List String) : IO UInt32 := do
  match CommandLine.request? arguments with
  | .error exit =>
      IO.eprintln usage
      return exit.code.toUInt32
  | .ok request =>
      match request.input, request.output with
      | some input, some output =>
          let log ← buildFile (.ofText input) (.ofText output)
            request.layoutIndent
          for entry in log.filter (·.isShown request.verbose) do
            IO.eprint entry.line
          return 0
      | _, _ => throw (IO.userError RunFault.emptyArgument.message)
