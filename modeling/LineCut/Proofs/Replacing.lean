/-
Replacing a file on a tree.

A file is replaced by writing another one beside it and giving that one its name.  On a tree both
steps come out as they should once the path has led to a file, for then everything the steps depend
on is known.  The path ends in a name, so there is a file to write beside it, in the same
directory and under a name that is not the same.  Writing that file changes no directory, so the
path still leads where it led; and as it leads to a file, the renaming has nothing to object to.
So the only step that can fail is the writing, and a writing that fails has changed nothing.
-/
import LineCut.Proofs.Walking
import LineCut.Disk.Files

namespace LineCut.Tree

variable {tree : Tree} {path : String} {directory : Location} {name : String}
  {content fresh : ByteArray}

/-- The path leads to a file of that name in that directory. -/
structure LeadsTo (tree : Tree) (path : String) (directory : Location) (name : String)
    (content : ByteArray) : Prop where
  /-- The pieces before the name lead to the directory. -/
  pieces_eq : ∃ front, Path.pieces path = front ++ [name] ∧
    tree.walk [] (tree.origin path ++ front) = .ok directory
  isName : Path.IsName name
  located : tree.locate path = .ok (directory ++ [name])
  isFile : tree.get? (directory ++ [name]) = some (.file content)

/-- A path that can be read leads to a file. -/
theorem exists_leadsTo_of_read (h : tree.read path = .ok content) :
    ∃ directory name, LeadsTo tree path directory name content := by
  unfold read at h
  split at h
  · cases h
  · rename_i target htarget
    split at h
    · cases h
    · cases h
    · rename_i found hfound
      cases h
      obtain ⟨hfollow, hwalk⟩ := follow_ok_iff.mp htarget
      have hpieces := List.dropLast_concat_getLast (Path.pieces_ne_nil path)
      rw [← hpieces, ← List.append_assoc] at hwalk
      obtain ⟨directory, hfront, hname, rfl⟩ := walk_concat_file hwalk hfound
      exact ⟨directory, _, ⟨_, hpieces.symm, hfront⟩, hname, htarget, hfound⟩

namespace LeadsTo

/-- Where the file beside it is. -/
def beside (directory : Location) (name : String) : Location :=
  directory ++ [name ++ ".tmp"]

theorem beside_ne_nil : beside directory name ≠ [] := by
  simp [beside]

theorem beside_ne : directory ++ [name] ≠ beside directory name := by
  intro heq
  have hname : name = name ++ ".tmp" := by simpa [beside] using heq
  have hlength := congrArg String.length hname
  simp at hlength

/-- **The file beside it is written in the same directory**, or cannot be written. -/
theorem write_temporary (h : LeadsTo tree path directory name content) {temporary : String}
    {written : Tree} (htemporary : Path.temporary? path = some temporary)
    (hwrite : tree.write temporary fresh = .ok written) :
    tree.locate temporary = .ok (beside directory name) ∧
      tree.isDirectory (beside directory name) = false ∧
      written = tree.put (beside directory name) (.file fresh) := by
  obtain ⟨front, hpieces, hfront⟩ := h.pieces_eq
  rw [Path.temporary?_of_pieces hpieces h.isName] at htemporary
  cases htemporary
  unfold write at hwrite
  split at hwrite
  · cases hwrite
  · rename_i target htarget
    split at hwrite
    · cases hwrite
    · rename_i hnot
      cases hwrite
      obtain ⟨-, hwalk⟩ := follow_ok_iff.mp htarget
      rw [Path.pieces_temporary hpieces, origin_congr (Path.isAbsolute_temporary hpieces),
        ← List.append_assoc] at hwalk
      obtain ⟨location, htrimmed, hlast⟩ := walk_append_ok_iff.mp hwalk
      obtain ⟨tail, hfrontEq, htail⟩ := Path.trimEnd_append front
      rw [hfrontEq, ← List.append_assoc] at hfront
      rw [walk_of_append_trivial htail hfront] at htrimmed
      cases htrimmed
      have htargetEq : target = beside directory name :=
        (walk_singleton_ok_iff.mp hlast).eq_append (Path.isName_append_tmp name)
      rw [← htargetEq]
      exact ⟨htarget, by simpa using hnot, rfl⟩

/-- Writing the file beside it changes no directory. -/
theorem keepsDirectories_put {location : Location} {entry : Entry} (hne : location ≠ [])
    (hnot : tree.isDirectory location = false) :
    KeepsDirectories tree (tree.put location entry) := by
  refine ⟨rfl, ?_⟩
  intro other hother
  rw [get?_put hne]
  split
  · rename_i heq
    simp [isDirectory, ← heq, hother] at hnot
  · exact hother

/-- The tree after a replacement: new content under the path, and nothing beside it. -/
def replaced (tree : Tree) (directory : Location) (name : String) (fresh : ByteArray) : Tree :=
  ((tree.put (beside directory name) (.file fresh)).erase (beside directory name)).put
    (directory ++ [name]) (.file fresh)

/-- **Once the file beside it is written, the renaming succeeds.** -/
theorem rename_temporary (h : LeadsTo tree path directory name content) {temporary : String}
    (hlocated : tree.locate temporary = .ok (beside directory name))
    (hnot : tree.isDirectory (beside directory name) = false) :
    (tree.put (beside directory name) (.file fresh)).rename temporary path =
      .ok (replaced tree directory name fresh) := by
  obtain ⟨front, hpieces, -⟩ := h.pieces_eq
  set written := tree.put (beside directory name) (.file fresh) with hwritten
  have hkeeps : KeepsDirectories tree written := keepsDirectories_put beside_ne_nil hnot
  have hsource : written.locate temporary = .ok (beside directory name) :=
    hkeeps.follow_ok hlocated
  have htarget : written.locateEntry path = .ok (directory ++ [name]) := by
    have hentry : ((Path.pieces path).reverse.dropWhile (· == "")).reverse = Path.pieces path := by
      simp [hpieces, h.isName.1]
    rw [locateEntry, hentry]
    exact hkeeps.follow_ok h.located
  have hsourceFile : written.get? (beside directory name) = some (.file fresh) := by
    rw [hwritten, get?_put beside_ne_nil, if_pos rfl]
  have htargetFile : written.isDirectory (directory ++ [name]) = false := by
    rw [isDirectory, hwritten, get?_put beside_ne_nil, if_neg beside_ne, h.isFile]
  simp only [rename, hsource, htarget, hsourceFile, htargetFile,
    Path.endsInDots_eq_false hpieces h.isName, Path.endsInSlash_eq_false hpieces h.isName,
    Bool.false_eq_true, if_false]
  rfl

theorem get?_replaced (other : Location) :
    (replaced tree directory name fresh).get? other =
      if other = directory ++ [name] then some (.file fresh)
      else if other = beside directory name then none
      else tree.get? other := by
  rw [replaced, get?_put (by simp), get?_erase beside_ne_nil, get?_put beside_ne_nil]
  split
  · rfl
  · split
    · rfl
    · rfl

theorem keepsDirectories_replaced (h : LeadsTo tree path directory name content)
    (hnot : tree.isDirectory (beside directory name) = false) :
    KeepsDirectories tree (replaced tree directory name fresh) := by
  refine ⟨rfl, ?_⟩
  intro other hother
  rw [get?_replaced]
  split
  · rename_i heq
    rw [heq, h.isFile] at hother
    cases hother
  · split
    · rename_i heq
      simp [isDirectory, ← heq, hother] at hnot
    · exact hother

/-- **Reading the path back gives the new content.** -/
theorem read_replaced (h : LeadsTo tree path directory name content)
    (hnot : tree.isDirectory (beside directory name) = false) :
    (replaced tree directory name fresh).read path = .ok fresh := by
  have hlocated : (replaced tree directory name fresh).locate path = .ok (directory ++ [name]) :=
    (h.keepsDirectories_replaced hnot).follow_ok h.located
  simp only [read, hlocated, get?_replaced, if_true]

/-- With `.tmp` behind it the path leads beside the file, if it leads anywhere. -/
theorem eq_beside_of_locate (h : LeadsTo tree path directory name content) {other : Tree}
    {location : Location} (hkeeps : KeepsDirectories tree other)
    (hlocated : other.locate (path ++ ".tmp") = .ok location) :
    location = beside directory name := by
  obtain ⟨front, hpieces, hfront⟩ := h.pieces_eq
  obtain ⟨-, hwalk⟩ := follow_ok_iff.mp hlocated
  rw [Path.pieces_append hpieces (by decide), origin_congr (Path.isAbsolute_append_tmp path),
    hkeeps.origin_eq, ← List.append_assoc] at hwalk
  obtain ⟨between, hbetween, hlast⟩ := walk_append_ok_iff.mp hwalk
  rw [hkeeps.walk_ok hfront] at hbetween
  cases hbetween
  exact (walk_singleton_ok_iff.mp hlast).eq_append (Path.isName_append_tmp name)

end LeadsTo

/-- The one tree is the other with new content in the file that the path leads to. -/
structure Replaces (before after : Tree) (path : String) (fresh : ByteArray) : Prop where
  /-- Reading the path back gives the new content. -/
  read_eq : after.read path = .ok fresh
  /-- Nothing is left where the path leads with `.tmp` behind it. -/
  beside_eq : ∀ location, after.locate (path ++ ".tmp") = .ok location →
    after.get? location = none
  /-- Nor is anything left beside the file, and all the rest is as it was. -/
  others_eq : ∃ directory name, before.locate path = .ok (directory ++ [name]) ∧
    ∀ other, other ≠ directory ++ [name] → after.get? other =
      if other = directory ++ [name ++ ".tmp"] then none else before.get? other

theorem LeadsTo.replaces (h : LeadsTo tree path directory name content)
    (hnot : tree.isDirectory (beside directory name) = false) :
    Replaces tree (replaced tree directory name fresh) path fresh where
  read_eq := h.read_replaced hnot
  beside_eq := by
    intro location hlocated
    rw [h.eq_beside_of_locate (h.keepsDirectories_replaced hnot) hlocated, get?_replaced,
      if_neg beside_ne.symm, if_pos rfl]
  others_eq := by
    refine ⟨directory, name, h.located, ?_⟩
    intro other hother
    rw [get?_replaced, if_neg hother]
    rfl

end LineCut.Tree
