import ScriptHost.CommandLine.Answer

/-!
# The program

Reads the files that the command line names and prints the answer.
-/

namespace ScriptHost

namespace CommandLine

/-- Why a file was not read. -/
def ReadFailure.ofError : IO.Error → ReadFailure
  | .noFileOrDirectory .. => .absent
  | .permissionDenied .. => .system "Permission denied" 13
  | .inappropriateType _ code reason => .system reason code.toNat
  | .otherError code reason => .system reason code.toNat
  | e => .system e.toString 0

/-- The text of a file. -/
def readText (name : String) : IO (Except ReadFailure String) := do
  match ← (IO.FS.readBinFile name).toBaseIO with
  | .error e => return .error (ReadFailure.ofError e)
  | .ok bytes =>
    match String.fromUTF8? bytes with
    | some s => return .ok s
    | none => return .error .notUnicode

/-- The texts of files by name. -/
def readAll (names : List String) : IO (List (String × Except ReadFailure String)) :=
  names.mapM fun name => do return (name, ← readText name)

/-- The files that the command line names. -/
def namedFiles (arguments : List String) : IO Files := do
  let names := match Command.ofArguments arguments with
    | .ok c => c.fileNames
    | .error _ => []
  let texts ← readAll names
  return .ofTexts fun name => (texts.lookup name).getD (.error .absent)

/-- What is printed, as text. -/
def Printed.toText : Printed → String
  | .text s => s
  | .document j => j.renderLines ++ "\n"

end CommandLine

end ScriptHost

/-- Answers a command line. -/
def main (arguments : List String) : IO UInt32 := do
  let files ← ScriptHost.CommandLine.namedFiles arguments
  let a := ScriptHost.CommandLine.answer files arguments
  (← IO.getStdout).putStr a.printed.toText
  (← IO.getStderr).putStr a.complaint
  return UInt32.ofNat a.exitCode
