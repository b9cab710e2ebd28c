/-
Reading and replacing text files.

A file is replaced in two steps, so that nobody ever sees half of it: the new text is written to a
file beside it, and that file then takes its name.  If the second step fails, the file beside it
is removed again.
-/
import LineCut.Disk
import LineCut.Disk.Path

namespace LineCut.Disk

variable {m : Type → Type} [Monad m]

/-- The failure of an operation on a file. -/
def fault (error operation : String) : Fault :=
  .io error (some operation)

/-- The text of bytes that are one. -/
def text (bytes : ByteArray) (operation : String) : Except Fault String :=
  match String.fromUTF8? bytes with
  | some text => .ok text
  | none => .error (fault "stream did not contain valid UTF-8" operation)

/-- The text of a file.  The operation is named in a fault. -/
def readText (disk : Disk m) (path operation : String) : m (Except Fault String) := do
  match ← disk.read path with
  | .ok bytes => return text bytes operation
  | .error .notFound => return .error (fault ("File not found: " ++ path) operation)
  | .error error => return .error (fault error.message operation)

/-- Make or replace a file.  The operation is named in a fault. -/
def replaceText (disk : Disk m) (path content operation : String) : m (Except Fault Unit) := do
  match Path.temporary? path with
  | none => return .error (fault ("Invalid path: " ++ path) operation)
  | some temporary =>
    match ← disk.write temporary content.toUTF8 with
    | .error error => return .error (fault error.message (operation ++ " (write temp)"))
    | .ok () =>
      match ← disk.rename temporary path with
      | .error error =>
        disk.remove temporary
        return .error (fault error.message (operation ++ " (rename)"))
      | .ok () => return .ok ()

end LineCut.Disk
