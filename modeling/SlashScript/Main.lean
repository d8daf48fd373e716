/-
The program at work: its arguments, files and standard input are read here, and what it prints
goes out from here. Nothing is decided in this module.
-/

import SlashScript.Program

namespace SlashScript.Terminal

/-- The number of an error of the operating system and its text. -/
def osError (code : UInt32) : String :=
  let text := match code with
    | 2 => "No such file or directory"
    | 13 => "Permission denied"
    | 20 => "Not a directory"
    | 21 => "Is a directory"
    | 36 => "File name too long"
    | 40 => "Too many levels of symbolic links"
    | _ => "Input/output error"
  s!"{text} (os error {code})"

/-- The text of an error that a file gave. -/
def fileError : IO.Error → String
  | .noFileOrDirectory _ code _ => osError code
  | .permissionDenied _ code _ => osError code
  | .inappropriateType _ code _ => osError code
  | .invalidArgument _ code _ => osError code
  | .resourceExhausted _ code _ => osError code
  | .otherError code _ => osError code
  | error => toString error

/-- What opening and reading a file gives. -/
def readFile (path : String) : IO Program.FileAnswer := do
  match ← (IO.FS.Handle.mk path .read).toBaseIO with
  | .error error => return .unopened (fileError error)
  | .ok handle =>
    match ← handle.readBinToEnd.toBaseIO with
    | .error error => return .unread (fileError error)
    | .ok bytes => return .content bytes.data.toList

/-- The standard input up to its end. -/
partial def readInput (stream : IO.FS.Stream) (bytes : ByteArray) : IO ByteArray := do
  let more ← stream.read 65536
  if more.isEmpty then return bytes
  readInput stream (bytes ++ more)

/-- Prints a piece of output. -/
def print : Program.Printed → IO Unit
  | .output text => IO.print text
  | .error text | .logged text => IO.eprint text

end SlashScript.Terminal

open SlashScript Terminal in
/-- Runs the program on its arguments. -/
def main (words : List String) : IO UInt32 := do
  let home ← IO.getEnv "HOME"
  let (paths, readsInput) := match CommandLine.read words with
    | .ok commandLine => (Program.pathsOf home commandLine, Program.readsInput commandLine)
    | .error _ => ([], false)
  let answers ← paths.mapM fun path => do return (path, ← readFile path)
  let bytes ← if readsInput then readInput (← IO.getStdin) .empty else pure .empty
  let surroundings : Program.Surroundings := {
    home := home
    file := fun path => (answers.lookup path).getD (.unopened (osError 2))
    standardInput := bytes.data.toList }
  let directive := (← IO.getEnv "SB_LOG").bind Program.LogSettings.directive?
  let finished := Program.answer surroundings words ⟨directive, fun _ entry => entry.text⟩
  finished.transcript.pieces.forM print
  return finished.status.toUInt32
