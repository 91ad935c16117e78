import Highlighting.Program

/-!
# The executable

Gathers what `Program.run` needs — the arguments, the environment and the file that the first
argument names — and prints what it returns.
-/

namespace Highlighting.Executable

/-- The variables of the environment, read from the file in which the system lists them. -/
def environment : IO Environment := do
  let listed ← try IO.FS.readBinFile "/proc/self/environ" catch _ => pure ByteArray.empty
  let entries := listed.toList.splitOnP (· == 0)
  pure <| entries.filterMap fun entry =>
    match entry.dropWhile (· != 0x3D) with
    | [] => none
    | _ :: value =>
      some (Utf8.decodeLossy (entry.takeWhile (· != 0x3D)), Utf8.decodeLossy value)

/-- The working directory, or what the system reports instead. -/
def workingDirectory : IO (Except IoFailure Text) := do
  try
    pure (.ok (toString (← IO.currentDir)).toList)
  catch error => pure (.error (.device (toString error)))

/-- Reads a file.  What cannot be read is no file, unless reading it is merely forbidden. -/
def readFile (path : Text) : IO FileStatus := do
  try
    let content ← IO.FS.readBinFile (String.ofList path)
    pure (.readable [.data content.toList])
  catch
    | .permissionDenied .. => pure (.unreadable (.device "Permission denied (os error 13)"))
    | _ => pure .absent

end Highlighting.Executable

open Highlighting in
/-- Shows the file that the first argument names. -/
def main (arguments : List String) : IO UInt32 := do
  let arguments := arguments.map String.toList
  let env ← Executable.environment
  let directory ← Executable.workingDirectory
  let here : FileSystem := ⟨directory, fun _ => .absent⟩
  let status ← match here.absolute (arguments.headD []) with
    | .ok path => Executable.readFile path
    | .error _ => pure .absent
  let files : FileSystem := ⟨directory, fun _ => status⟩
  let stdout ← IO.getStdout
  let done := Program.run arguments env files (← stdout.isTty)
  (← IO.getStderr).putStr (String.ofList done.diagnostics)
  stdout.write ⟨done.output.toArray⟩
  stdout.flush
  pure done.code.toUInt32
