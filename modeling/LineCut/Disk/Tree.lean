/-
A file system as a value.

A tree is a map from locations to entries.  A location is the list of names that lead to it from
the top, so every entry has exactly one, and the top is always a directory.  There are no links:
an entry is a file or a directory, and is where its location says and nowhere else.  Paths are
another matter: many lead to the same location, and whether one leads anywhere depends on the
entries it passes.  Walking a path turns it into a location or says why not, and the operations
then work on locations alone.

A path that begins with a slash is walked from the top.  Any other one goes on from the working
directory, and whether that is there is found out by walking to it first.
-/
import LineCut.Disk
import LineCut.Disk.Path

namespace LineCut

/-- What can be at a location. -/
inductive Entry where
  | file (content : ByteArray)
  | directory

/-- Files are compared byte by byte. -/
instance : DecidableEq Entry
  | .file content, .file other =>
    decidable_of_iff (content.data.toList = other.data.toList) (by
      rw [Entry.file.injEq, ByteArray.ext_iff, Array.toList_inj])
  | .file _, .directory => isFalse nofun
  | .directory, .file _ => isFalse nofun
  | .directory, .directory => isTrue rfl

/-- The names that lead to an entry from the top. -/
abbrev Location := List String

/-- All files and directories, and the working directory. -/
structure Tree where
  entries : List (Location × Entry)
  here : Location
  deriving DecidableEq

namespace Tree

/-- Nothing but the top, which is the working directory. -/
def empty : Tree := ⟨[], []⟩

/-- The same files and directories, seen from another working directory. -/
def within (tree : Tree) (here : Location) : Tree :=
  { tree with here := here }

/-! ### Locations -/

/-- What is at a location. -/
def get? (tree : Tree) (location : Location) : Option Entry :=
  if location = [] then some .directory else tree.entries.lookup location

/-- Whether a directory is at a location. -/
def isDirectory (tree : Tree) (location : Location) : Bool :=
  match tree.get? location with
  | some .directory => true
  | _ => false

/-- Replace what is at a location, or add it. -/
def putIn (location : Location) (entry : Entry) :
    List (Location × Entry) → List (Location × Entry)
  | [] => [(location, entry)]
  | (other, old) :: rest =>
    if other = location then (location, entry) :: rest
    else (other, old) :: putIn location entry rest

/-- The tree with an entry at a location. -/
def put (tree : Tree) (location : Location) (entry : Entry) : Tree :=
  { tree with entries := putIn location entry tree.entries }

/-- The tree with nothing at a location. -/
def erase (tree : Tree) (location : Location) : Tree :=
  { tree with entries := tree.entries.filter fun (other, _) => other ≠ location }

theorem lookup_putIn (location other : Location) (entry : Entry)
    (entries : List (Location × Entry)) :
    (putIn location entry entries).lookup other =
      if other = location then some entry else entries.lookup other := by
  induction entries with
  | nil =>
    by_cases h : other = location
    · simp [putIn, h]
    · have hb : (other == location) = false := by simpa using h
      simp [putIn, List.lookup_cons, h, hb]
  | cons first rest ih =>
    obtain ⟨found, old⟩ := first
    by_cases hf : found = location
    · subst hf
      by_cases h : other = found
      · simp [putIn, h]
      · have hb : (other == found) = false := by simpa using h
        simp [putIn, List.lookup_cons, h, hb]
    · by_cases h : other = found
      · subst h
        simp [putIn, hf]
      · have hb : (other == found) = false := by simpa using h
        simp [putIn, hf, List.lookup_cons, hb, ih]

/-- What is put at a location is there, and all else is as before. -/
theorem get?_put {tree : Tree} {location other : Location} {entry : Entry}
    (h : location ≠ []) :
    (tree.put location entry).get? other =
      if other = location then some entry else tree.get? other := by
  by_cases ho : other = []
  · subst ho
    simp [get?, Ne.symm h]
  · simp [get?, put, ho, lookup_putIn]

theorem lookup_filter_ne (location other : Location) (entries : List (Location × Entry)) :
    (entries.filter fun (found, _) => found ≠ location).lookup other =
      if other = location then none else entries.lookup other := by
  induction entries with
  | nil => simp
  | cons first rest ih =>
    obtain ⟨found, old⟩ := first
    by_cases hf : found = location
    · subst hf
      by_cases h : other = found
      · subst h
        simpa using ih
      · have hb : (other == found) = false := by simpa using h
        simpa [List.lookup_cons, hb, h] using ih
    · by_cases h : other = found
      · subst h
        simp [hf]
      · have hb : (other == found) = false := by simpa using h
        simpa [hf, List.lookup_cons, hb] using ih

/-- What is erased is gone, and all else is as before. -/
theorem get?_erase {tree : Tree} {location other : Location} (h : location ≠ []) :
    (tree.erase location).get? other =
      if other = location then none else tree.get? other := by
  by_cases ho : other = []
  · subst ho
    simp [get?, Ne.symm h]
  · simp only [get?, erase, ho, if_false]
    exact lookup_filter_ne location other tree.entries

/-! ### Paths -/

/-- Whether a name is longer than names may be. -/
def tooLong (name : String) : Bool :=
  255 < name.utf8ByteSize

/-- Follow the pieces of a path from a location.  Every location on the way has to be a
directory; the last one may be anything, or nothing.  Above the top is the top. -/
def walk (tree : Tree) : Location → List String → Except DiskError Location
  | location, [] => .ok location
  | location, piece :: rest =>
    match tree.get? location with
    | none => .error .notFound
    | some (.file _) => .error .notDirectory
    | some .directory =>
      if piece == "" || piece == "." then walk tree location rest
      else if piece == ".." then walk tree location.dropLast rest
      else if tooLong piece then .error .nameTooLong
      else walk tree (location ++ [piece]) rest

/-- The directory that a path is walked from. -/
def origin (tree : Tree) (path : String) : Location :=
  if Path.isAbsolute path then [] else tree.here

/-- The location that a path with the given pieces leads to.  The walk to the directory it goes on
from comes first. -/
def follow (tree : Tree) (path : String) (pieces : List String) : Except DiskError Location :=
  if path == "" then .error .notFound
  else if path.toList.contains '\x00' then .error .badName
  else if 4096 ≤ path.utf8ByteSize then .error .nameTooLong
  else walk tree [] (tree.origin path ++ pieces)

/-- The location a path leads to. -/
def locate (tree : Tree) (path : String) : Except DiskError Location :=
  tree.follow path (Path.pieces path)

/-- The location a path leads to, slashes at its end aside. -/
def locateEntry (tree : Tree) (path : String) : Except DiskError Location :=
  tree.follow path ((Path.pieces path).reverse.dropWhile (· == "")).reverse

/-! ### The operations -/

/-- Whether a path leads to a file. -/
def isFile (tree : Tree) (path : String) : Bool :=
  match tree.locate path with
  | .ok location =>
    match tree.get? location with
    | some (.file _) => true
    | _ => false
  | .error _ => false

/-- The bytes of the file a path leads to. -/
def read (tree : Tree) (path : String) : Except DiskError ByteArray :=
  match tree.locate path with
  | .error error => .error error
  | .ok location =>
    match tree.get? location with
    | none => .error .notFound
    | some .directory => .error .isDirectory
    | some (.file content) => .ok content

/-- The tree with a file of that content where the path leads. -/
def write (tree : Tree) (path : String) (content : ByteArray) : Except DiskError Tree :=
  match tree.locate path with
  | .error error => .error error
  | .ok location =>
    if tree.isDirectory location then .error .isDirectory
    else .ok (tree.put location (.file content))

/-- Whether a path says that it means a directory. -/
def endsInSlash (path : String) : Bool :=
  path.toList.getLast? == some '/'

/-- Whether a path ends in a piece that is no name. -/
def endsInDots (path : String) : Bool :=
  match (Path.pieces path).reverse.dropWhile (· == "") with
  | piece :: _ => piece == "." || piece == ".."
  | [] => false

/-- The tree with a file under another name, in place of the file that has it. -/
def rename (tree : Tree) (source target : String) : Except DiskError Tree :=
  match tree.locate source, tree.locateEntry target with
  | .error error, _ => .error error
  | _, .error error => .error error
  | .ok old, .ok new =>
    match tree.get? old with
    | none => .error .notFound
    | some .directory => .error .isDirectory
    | some (.file content) =>
      if endsInDots target then .error .busy
      else if endsInSlash target then .error .notDirectory
      else if tree.isDirectory new then .error .isDirectory
      else .ok ((tree.erase old).put new (.file content))

/-- The tree without the file a path leads to. -/
def remove (tree : Tree) (path : String) : Tree :=
  match tree.locate path with
  | .error _ => tree
  | .ok location =>
    match tree.get? location with
    | some (.file _) => tree.erase location
    | _ => tree

/-- Keep the changed tree, or the old one and the reason. -/
def step (change : Tree → Except DiskError Tree) : StateM Tree (Except DiskError Unit) :=
  fun tree =>
    match change tree with
    | .ok changed => (.ok (), changed)
    | .error error => (.error error, tree)

/-- A tree in place of a disk. -/
def disk : Disk (StateM Tree) where
  isFile path := fun tree => (tree.isFile path, tree)
  read path := fun tree => (tree.read path, tree)
  write path content := step (·.write path content)
  rename source target := step (·.rename source target)
  remove path := fun tree => ((), tree.remove path)

/-! ### Building and listing -/

/-- The tree with a directory at a location, and with those that lead to it. -/
def addDirectory (tree : Tree) (location : Location) : Tree :=
  (List.range location.length).foldl (fun tree i =>
    let above := location.take (i + 1)
    if (tree.get? above).isSome then tree else tree.put above .directory) tree

/-- The tree with a file at a location, and with the directories that lead to it. -/
def addFile (tree : Tree) (location : Location) (content : ByteArray) : Tree :=
  (tree.addDirectory location.dropLast).put location (.file content)

/-- Whether something is in the directory at a location. -/
def hasChildren (tree : Tree) (location : Location) : Bool :=
  tree.entries.any fun (other, _) => other.length == location.length + 1 &&
    location.isPrefixOf other

/-- All files with their content, and the directories with nothing in them. -/
def listing (tree : Tree) : List (Location × Entry) :=
  tree.entries.filter fun (location, entry) =>
    match entry with
    | .file _ => true
    | .directory => !tree.hasChildren location

end Tree

end LineCut
