/-
Paths as they are written.

A path is a text of pieces with slashes between them.  Empty pieces and single dots name nothing
new, but two dots do, since what they name depends on what the piece before is.  Nothing here
looks at a disk.
-/
import LineCut.Fault
import LineCut.Text.Blank

namespace LineCut.Path

/-- The pieces of a text between the places where a separator stands. -/
def split (separator : Char) : List Char → List (List Char)
  | [] => [[]]
  | c :: rest =>
    if c = separator then [] :: split separator rest
    else
      match split separator rest with
      | [] => [[c]]
      | piece :: pieces => (c :: piece) :: pieces

/-- The pieces of a path. -/
def pieces (path : String) : List String :=
  (split '/' path.toList).map String.ofList

/-- Whether a path begins with a slash, and so does not depend on where it is used. -/
def isAbsolute (path : String) : Bool :=
  path.toList.head? == some '/'

/-- Pieces without those at the end that name nothing new.  The first one stays, whatever it is:
an empty one stands for the slash that a path begins with. -/
def trimEnd (pieces : List String) : List String :=
  let rec go : List String → List String
    | [] => []
    | [piece] => [piece]
    | piece :: rest => if piece == "" || piece == "." then go rest else piece :: rest
  (go pieces.reverse).reverse

/-- Put a name behind the pieces of a directory. -/
def join (directory : List String) (name : String) : String :=
  match directory with
  | [] => name
  | [""] => "/" ++ name
  | pieces => "/".intercalate pieces ++ "/" ++ name

/-- The path of the file beside a file that is written before it takes that file's place.  Its
directory is written without what names nothing new at its end, so this path may be much the
shorter of the two.  A path that does not end in a name has none. -/
def temporary? (path : String) : Option String :=
  match (trimEnd (pieces path)).reverse with
  | [] => none
  | name :: directory =>
    if name == "" || name == "." || name == ".." then none
    else some (join (trimEnd directory.reverse) (name ++ ".tmp"))

/-- A path with the home directory in place of a tilde that stands alone or before a slash. -/
def expand (home : Option String) (path : String) : String :=
  match path.toList, home with
  | ['~'], some home => home
  | '~' :: '/' :: rest, some home => home ++ String.ofList ('/' :: rest)
  | _, _ => path

/-- The path that an argument gives. -/
def resolve (home : Option String) (path : String) : Except Fault String :=
  if Text.isBlank path then .error (.invalidArgument "file" "File path must not be empty")
  else .ok (expand home path)

end LineCut.Path
