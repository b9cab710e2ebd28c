/-
The part of a file system that is needed.

Five operations, in any monad: so the same code runs on a real disk and on a tree of files that
is a value.  An operation that fails says why and has changed nothing.
-/

namespace LineCut

/-- Why a file operation failed. -/
inductive DiskError where
  | notFound
  | notDirectory
  | isDirectory
  | busy
  | nameTooLong
  | badName
  | other (text : String)
  deriving DecidableEq, Repr

/-- The reason in words, with the number the system gives it. -/
def DiskError.message : DiskError → String
  | notFound => "No such file or directory (os error 2)"
  | notDirectory => "Not a directory (os error 20)"
  | isDirectory => "Is a directory (os error 21)"
  | busy => "Device or resource busy (os error 16)"
  | nameTooLong => "File name too long (os error 36)"
  | badName => "file name contained an unexpected NUL byte"
  | other text => text

/-- The operations on files, each of which takes paths as they are written. -/
structure Disk (m : Type → Type) where
  /-- Whether there is a file of that name, and not a directory. -/
  isFile : String → m Bool
  /-- The bytes of a file. -/
  read : String → m (Except DiskError ByteArray)
  /-- Make or replace the content of a file. -/
  write : String → ByteArray → m (Except DiskError Unit)
  /-- Give a file another name, replacing the file that has it. -/
  rename : String → String → m (Except DiskError Unit)
  /-- Remove a file, if it can be removed. -/
  remove : String → m Unit

end LineCut
