/-
The program.

Everything that is decided is decided elsewhere.  Here the operations on files are those of the
real disk, the home directory is the one of the environment, and what the run leaves behind is
printed.
-/
import LineCut.CommandLine.Run

namespace LineCut.Main

/-- The number of a system error with its words, if the error is one.  It may come with its sign
turned, as a word. -/
def systemError? : IO.Error → Option (UInt32 × String)
  | .alreadyExists _ number words | .invalidArgument _ number words
  | .permissionDenied _ number words | .resourceExhausted _ number words
  | .inappropriateType _ number words | .noSuchThing _ number words
  | .noFileOrDirectory _ number words | .interrupted _ number words
  | .otherError number words | .resourceBusy number words | .resourceVanished number words
  | .unsupportedOperation number words | .hardwareFault number words
  | .unsatisfiedConstraints number words | .illegalOperation number words
  | .protocolError number words | .timeExpired number words => some (number, words)
  | .unexpectedEof | .userError _ => none

/-- The reason behind an error. -/
def reason (error : IO.Error) : DiskError :=
  match systemError? error with
  | none => .other error.toString
  | some (number, words) =>
    match number.toInt32.toInt.natAbs with
    | 2 => .notFound
    | 16 => .busy
    | 20 => .notDirectory
    | 21 => .isDirectory
    | 36 => .nameTooLong
    | number => .other (words ++ " (os error " ++ toString number ++ ")")

/-- Do something that may fail. -/
def attempt {α : Type} (action : IO α) : IO (Except DiskError α) := do
  match ← action.toBaseIO with
  | .ok value => return .ok value
  | .error error => return .error (reason error)

/-- Whether a path leads to a file. -/
def isFile (path : String) : IO Bool := do
  match ← (IO.FS.DirEntry.mk "." path).path.metadata.toBaseIO with
  | .ok metadata => return metadata.type == .file
  | .error _ => return false

/-- The real disk. -/
def disk : Disk IO where
  isFile path := isFile path
  read path := attempt (IO.FS.readBinFile path)
  write path content := attempt (IO.FS.writeBinFile path content)
  rename source target := attempt (IO.FS.rename source target)
  remove path := do
    let _ ← (IO.FS.removeFile path).toBaseIO

/-- All that is left of a stream, behind what has been read of it. -/
partial def readAll (stream : IO.FS.Stream) (before : ByteArray) : IO ByteArray := do
  let more ← stream.read 65536
  if more.isEmpty then return before else readAll stream (before ++ more)

/-- The surroundings of the program. -/
def host : IO (CommandLine.Host IO) := do
  return {
    disk
    home := ← IO.getEnv "HOME"
    terminal := ← (← IO.getStdin).isTty
    input := do attempt (readAll (← IO.getStdin) .empty) }

end LineCut.Main

open LineCut in
/-- Run the command on its arguments. -/
def main (arguments : List String) : IO UInt32 := do
  let outcome ← CommandLine.run (← Main.host) arguments
  (← IO.getStdout).putStr outcome.output
  (← IO.getStdout).flush
  if outcome.output.isEmpty then (← IO.getStderr).putStr CommandLine.usage
  return UInt32.ofNat outcome.exit
