/-
Where paths lead.

A path leads to a location by way of directories, and it is only the directories that it asks the
tree about.  So a walk that succeeds in one tree succeeds in every tree that has the same
directories, and leads to the same place, whatever has become of the files.  That is what lets a
file be written and renamed under a path that was looked up before.

The other thing a walk keeps is that everything above where it stands is a directory.  From it
follows that a path which leads to a file ends in a name: a dot, two dots or nothing at the end
would have led to a directory.  The file beside it, which is written first, then has the name with
the ending `.tmp` and lies in the same directory, even though its path is put together from the
pieces of the other one and may leave some out.
-/
import Mathlib.Data.List.Basic
import LineCut.Disk.Tree

namespace LineCut

namespace Path

/-! ### Pieces -/

theorem split_eq_splitOn (separator : Char) (text : List Char) :
    split separator text = text.splitOn separator := by
  induction text with
  | nil => rfl
  | cons c rest ih =>
      rw [List.splitOn_cons_eq_if_modifyHead, split, ih]
      by_cases hc : c = separator
      · simp [hc]
      · obtain ⟨piece, more, hsplit⟩ :=
          List.exists_cons_of_ne_nil (List.splitOn_ne_nil separator rest)
        simp [hc, hsplit]

theorem not_mem_of_mem_split {separator : Char} {text piece : List Char}
    (h : piece ∈ split separator text) : separator ∉ piece := by
  induction text generalizing piece with
  | nil => simp_all [split]
  | cons c rest ih =>
      rw [split] at h
      split at h
      · rcases List.mem_cons.mp h with rfl | hrest
        · simp
        · exact ih hrest
      · rename_i hc
        split at h
        · simp_all [Ne.symm hc]
        · rename_i first more hsplit
          rcases List.mem_cons.mp h with rfl | hmore
          · have hfirst := ih (by rw [hsplit]; exact List.mem_cons_self)
            simp [Ne.symm hc, hfirst]
          · exact ih (by rw [hsplit]; exact List.mem_cons_of_mem _ hmore)

theorem pieces_ne_nil (path : String) : pieces path ≠ [] := by
  simp [pieces, split_eq_splitOn]

/-- No piece of a path has a slash in it. -/
theorem slash_not_mem_piece (path : String) {piece : String} (h : piece ∈ pieces path) :
    '/' ∉ piece.toList := by
  obtain ⟨chars, hchars, rfl⟩ := List.mem_map.mp h
  simpa using not_mem_of_mem_split hchars

/-- Pieces put together with slashes are the pieces of what results. -/
theorem pieces_intercalate {parts : List String} (hslash : ∀ part ∈ parts, '/' ∉ part.toList)
    (hne : parts ≠ []) : pieces ("/".intercalate parts) = parts := by
  have hsplit : split '/' ("/".intercalate parts).toList = parts.map String.toList := by
    rw [split_eq_splitOn, String.toList_intercalate]
    exact List.splitOn_intercalate '/' (by simpa using hslash) (by simpa using hne)
  rw [pieces, hsplit, List.map_map]
  simp [Function.comp_def]

theorem join_eq_intercalate (directory : List String) (name : String) :
    join directory name = "/".intercalate (directory ++ [name]) := by
  unfold join
  split
  · simp
  · simp
  · rename_i hnil _
    rw [String.intercalate_append_of_ne_nil (by simpa using hnil) (by simp)]
    simp

/-- A path is its pieces put together. -/
theorem intercalate_pieces (path : String) : "/".intercalate (pieces path) = path := by
  refine String.toList_inj.mp ?_
  rw [String.toList_intercalate, pieces, split_eq_splitOn, List.map_map]
  simp [Function.comp_def, List.intercalate_splitOn]

theorem join_append (directory : List String) (name more : String) :
    join directory name ++ more = join directory (name ++ more) := by
  unfold join
  split
  · rfl
  · rw [String.append_assoc]
  · rw [String.append_assoc]

theorem pieces_join {directory : List String} {name : String}
    (hdirectory : ∀ piece ∈ directory, '/' ∉ piece.toList) (hname : '/' ∉ name.toList) :
    pieces (join directory name) = directory ++ [name] := by
  rw [join_eq_intercalate]
  refine pieces_intercalate ?_ (by simp)
  intro piece hmem
  rcases List.mem_append.mp hmem with hd | hn
  · exact hdirectory piece hd
  · rw [List.mem_singleton.mp hn]
    exact hname

/-- What is put behind a path goes on with its last piece, unless there is a slash in it. -/
theorem pieces_append {path : String} {directory : List String} {name more : String}
    (h : pieces path = directory ++ [name]) (hmore : '/' ∉ more.toList) :
    pieces (path ++ more) = directory ++ [name ++ more] := by
  have hpath : path = join directory name := by
    rw [join_eq_intercalate, ← h, intercalate_pieces]
  rw [hpath, join_append]
  refine pieces_join ?_ ?_
  · intro piece hmem
    exact slash_not_mem_piece path (by simp [h, hmem])
  · have hname : '/' ∉ name.toList := slash_not_mem_piece path (by simp [h])
    simp [hname, hmore]

/-! ### Trimming -/

/-- A piece that names something: neither nothing nor one dot nor two. -/
def IsName (piece : String) : Prop :=
  piece ≠ "" ∧ piece ≠ "." ∧ piece ≠ ".."

/-- A name stays one when something longer than two dots is put behind it. -/
theorem isName_append_tmp (name : String) : IsName (name ++ ".tmp") := by
  have hlength : 4 ≤ (name ++ ".tmp").length := by
    rw [String.length_append]
    exact Nat.le_add_left _ _
  refine ⟨?_, ?_, ?_⟩
  all_goals
    intro h
    rw [h] at hlength
    exact absurd hlength (by decide)

theorem endsInSlash_eq_false {path : String} {front : List String} {name : String}
    (h : pieces path = front ++ [name]) (hname : IsName name) :
    Tree.endsInSlash path = false := by
  by_contra hslash
  simp only [Tree.endsInSlash, beq_iff_eq, Bool.not_eq_false] at hslash
  obtain ⟨before, hpath⟩ := List.getLast?_eq_some_iff.mp hslash
  have hsplit : split '/' path.toList = split '/' before ++ [[]] := by
    rw [hpath, split_eq_splitOn, List.splitOn_append_cons_self, ← split_eq_splitOn,
      List.splitOn_nil]
  rw [pieces, hsplit, List.map_append] at h
  have hlast := List.append_inj_right' h rfl
  simp only [List.map_cons, List.map_nil, List.cons.injEq, and_true] at hlast
  exact hname.1 (by rw [← hlast])

theorem endsInDots_eq_false {path : String} {front : List String} {name : String}
    (h : pieces path = front ++ [name]) (hname : IsName name) :
    Tree.endsInDots path = false := by
  simp [Tree.endsInDots, h, hname.1, hname.2.1, hname.2.2]

/-- What trimming takes off the end names nothing new. -/
theorem trimEnd_append (parts : List String) :
    ∃ tail, parts = trimEnd parts ++ tail ∧ ∀ part ∈ tail, part = "" ∨ part = "." := by
  have hgo : ∀ reversed : List String, ∃ front,
      reversed = front ++ trimEnd.go reversed ∧ ∀ part ∈ front, part = "" ∨ part = "." := by
    intro reversed
    fun_induction trimEnd.go reversed with
    | case1 => exact ⟨[], by simp⟩
    | case2 piece => exact ⟨[], by simp⟩
    | case3 piece rest hrest hcond ih =>
        obtain ⟨front, hfront, htrivial⟩ := ih
        refine ⟨piece :: front, ?_, ?_⟩
        · rw [List.cons_append, ← hfront]
        · intro part hmem
          rcases List.mem_cons.mp hmem with rfl | hlater
          · simpa using hcond
          · exact htrivial part hlater
    | case4 piece rest => exact ⟨[], by simp⟩
  obtain ⟨front, hfront, htrivial⟩ := hgo parts.reverse
  refine ⟨front.reverse, ?_, by simpa using htrivial⟩
  rw [trimEnd, ← List.reverse_append, ← hfront, List.reverse_reverse]

/-- Pieces that end in a name are not trimmed. -/
theorem trimEnd_concat {directory : List String} {name : String} (h : IsName name) :
    trimEnd (directory ++ [name]) = directory ++ [name] := by
  have hcond : ¬ (name == "" || name == ".") = true := by simp [h.1, h.2.1]
  unfold trimEnd
  rw [List.reverse_append, List.reverse_singleton, List.singleton_append]
  cases hrev : directory.reverse with
  | nil =>
      have hnil : directory = [] := by simpa using hrev
      simp [trimEnd.go, hnil]
  | cons last more =>
      rw [trimEnd.go, if_neg hcond, ← hrev]
      · simp
      · simp

/-- The file beside one whose path ends in a name. -/
theorem temporary?_of_pieces {path : String} {directory : List String} {name : String}
    (h : pieces path = directory ++ [name]) (hname : IsName name) :
    temporary? path = some (join (trimEnd directory) (name ++ ".tmp")) := by
  have hcond : (name == "" || name == "." || name == "..") = false := by
    simp [hname.1, hname.2.1, hname.2.2]
  unfold temporary?
  rw [h, trimEnd_concat hname, List.reverse_append, List.reverse_singleton, List.singleton_append]
  simp [hcond]

/-- The pieces of its path are those of the directory, trimmed, and the longer name. -/
theorem pieces_temporary {path : String} {directory : List String} {name : String}
    (h : pieces path = directory ++ [name]) :
    pieces (join (trimEnd directory) (name ++ ".tmp")) = trimEnd directory ++ [name ++ ".tmp"] := by
  obtain ⟨tail, hdirectory, -⟩ := trimEnd_append directory
  refine pieces_join ?_ ?_
  · intro piece hmem
    refine slash_not_mem_piece path ?_
    rw [h, hdirectory]
    simp [hmem]
  · have hname : '/' ∉ name.toList := slash_not_mem_piece path (by simp [h])
    simp [hname]

/-! ### Beginning with a slash -/

/-- A path begins with a slash if its first piece is empty, and not also its last one. -/
theorem isAbsolute_iff {path : String} {directory : List String} {name : String}
    (h : pieces path = directory ++ [name]) :
    isAbsolute path = true ↔ directory.head? = some "" := by
  unfold isAbsolute
  rw [pieces] at h
  cases htext : path.toList with
  | nil =>
      have hnil : directory = [] := by
        have hlength := congrArg List.length h
        simpa [htext, split] using hlength
      simp [hnil]
  | cons c rest =>
      obtain ⟨piece, more, hsplit⟩ := List.exists_cons_of_ne_nil
        (split_eq_splitOn '/' rest ▸ List.splitOn_ne_nil '/' rest)
      cases directory with
      | nil =>
          have hslash : c ≠ '/' := by
            intro heq
            simp [htext, split, heq, hsplit] at h
          simpa using hslash
      | cons first others =>
          by_cases hslash : c = '/'
          · have hfirst : "" = first := by
              simp only [htext, split, hslash, if_true, List.map_cons, List.cons_append] at h
              exact (List.cons.inj h).1
            simp [hslash, ← hfirst]
          · have hfirst : String.ofList (c :: piece) = first := by
              simp only [htext, split, hslash, hsplit, if_false, List.map_cons,
                List.cons_append] at h
              exact (List.cons.inj h).1
            simp [hslash, ← hfirst]

/-- Trimming leaves the first piece where it is. -/
theorem head?_trimEnd (parts : List String) : (trimEnd parts).head? = parts.head? := by
  have hgo : ∀ reversed : List String, (trimEnd.go reversed).getLast? = reversed.getLast? := by
    intro reversed
    fun_induction trimEnd.go reversed with
    | case1 => rfl
    | case2 piece => rfl
    | case3 piece rest hrest hcond ih =>
        cases rest with
        | nil => exact absurd rfl hrest
        | cons next more => rw [ih, List.getLast?_cons_cons]
    | case4 piece rest => rfl
  rw [trimEnd, List.head?_reverse, hgo, List.getLast?_reverse]

/-- The file beside another one is looked up from the same place. -/
theorem isAbsolute_temporary {path : String} {directory : List String} {name : String}
    (h : pieces path = directory ++ [name]) :
    isAbsolute (join (trimEnd directory) (name ++ ".tmp")) = isAbsolute path := by
  rw [Bool.eq_iff_iff, isAbsolute_iff (pieces_temporary h), isAbsolute_iff h, head?_trimEnd]

theorem isAbsolute_append_tmp (path : String) : isAbsolute (path ++ ".tmp") = isAbsolute path := by
  unfold isAbsolute
  rw [String.toList_append]
  cases path.toList with
  | nil => decide
  | cons c rest => rfl

end Path

namespace Tree

variable {tree other : Tree}

/-! ### Walks -/

/-- Everything above a location is a directory. -/
def UnderDirectories (tree : Tree) (location : Location) : Prop :=
  ∀ above, above <+: location → above ≠ location → tree.get? above = some .directory

/-- What is above a directory is a directory, since the top is. -/
theorem UnderDirectories.dropLast {location : Location} (h : UnderDirectories tree location)
    (hdirectory : tree.get? location = some .directory) :
    tree.get? location.dropLast = some .directory := by
  by_cases heq : location.dropLast = location
  · rw [heq]
    exact hdirectory
  · exact h _ (List.dropLast_prefix location) heq

/-- Every directory of the one tree is a directory of the other, and they are seen from the same
one. -/
structure KeepsDirectories (tree other : Tree) : Prop where
  here_eq : other.here = tree.here
  directory : ∀ location, tree.get? location = some .directory →
    other.get? location = some .directory

/-- One step of a walk that succeeds: it starts in a directory, and stays there, goes up or goes
on to a name. -/
inductive Step (tree : Tree) : Location → String → Location → Prop
  | stay {location : Location} {piece : String}
      (hdirectory : tree.get? location = some .directory) (hpiece : piece = "" ∨ piece = ".") :
      Step tree location piece location
  | up {location : Location} (hdirectory : tree.get? location = some .directory) :
      Step tree location ".." location.dropLast
  | enter {location : Location} {piece : String}
      (hdirectory : tree.get? location = some .directory) (hname : Path.IsName piece)
      (hshort : tooLong piece = false) : Step tree location piece (location ++ [piece])

/-- **A walk that succeeds goes step by step.** -/
theorem walk_cons_ok_iff {start target : Location} {piece : String} {rest : List String} :
    tree.walk start (piece :: rest) = .ok target ↔
      ∃ next, Step tree start piece next ∧ tree.walk next rest = .ok target := by
  constructor
  · intro h
    simp only [walk] at h
    split at h
    · cases h
    · cases h
    · rename_i hdirectory
      split at h
      · rename_i htrivial
        exact ⟨start, .stay hdirectory (by simpa using htrivial), h⟩
      · rename_i hnontrivial
        simp only [Bool.or_eq_true, beq_iff_eq, not_or] at hnontrivial
        split at h
        · rename_i hdots
          obtain rfl : piece = ".." := by simpa using hdots
          exact ⟨_, .up hdirectory, h⟩
        · rename_i hdots
          split at h
          · cases h
          · rename_i hshort
            have hname : Path.IsName piece :=
              ⟨hnontrivial.1, hnontrivial.2, by simpa using hdots⟩
            exact ⟨_, .enter hdirectory hname (by simpa using hshort), h⟩
  · rintro ⟨next, hstep, hrest⟩
    cases hstep with
    | stay hdirectory hpiece => simpa [walk, hdirectory, hpiece] using hrest
    | up hdirectory => simpa [walk, hdirectory] using hrest
    | enter hdirectory hname hshort =>
        simpa [walk, hdirectory, hname.1, hname.2.1, hname.2.2, hshort] using hrest

theorem walk_append_ok_iff {start target : Location} {front back : List String} :
    tree.walk start (front ++ back) = .ok target ↔
      ∃ between, tree.walk start front = .ok between ∧ tree.walk between back = .ok target := by
  induction front generalizing start with
  | nil => simp [walk]
  | cons piece rest ih =>
      simp only [List.cons_append, walk_cons_ok_iff, ih]
      constructor
      · rintro ⟨next, hstep, between, hrest, hback⟩
        exact ⟨between, ⟨next, hstep, hrest⟩, hback⟩
      · rintro ⟨between, ⟨next, hstep, hrest⟩, hback⟩
        exact ⟨next, hstep, between, hrest, hback⟩

theorem walk_singleton_ok_iff {start target : Location} {piece : String} :
    tree.walk start [piece] = .ok target ↔ Step tree start piece target := by
  rw [walk_cons_ok_iff]
  simp [walk]

/-- A step to a name goes on to it. -/
theorem Step.eq_append {start next : Location} {piece : String} (hname : Path.IsName piece)
    (hstep : Step tree start piece next) : next = start ++ [piece] := by
  cases hstep with
  | stay _ hpiece => exact absurd hpiece (by simp [hname.1, hname.2.1])
  | up => exact absurd rfl hname.2.2
  | enter => rfl

theorem Step.keeps (h : KeepsDirectories tree other) {start next : Location} {piece : String}
    (hstep : Step tree start piece next) : Step other start piece next := by
  cases hstep with
  | stay hdirectory hpiece => exact .stay (h.directory _ hdirectory) hpiece
  | up hdirectory => exact .up (h.directory _ hdirectory)
  | enter hdirectory hname hshort => exact .enter (h.directory _ hdirectory) hname hshort

/-- **A walk that succeeds in one tree leads to the same place in every tree that has its
directories.** -/
theorem KeepsDirectories.walk_ok (h : KeepsDirectories tree other) {start target : Location}
    {pieces : List String} (hwalk : tree.walk start pieces = .ok target) :
    other.walk start pieces = .ok target := by
  induction pieces generalizing start with
  | nil => exact hwalk
  | cons piece rest ih =>
      obtain ⟨next, hstep, hrest⟩ := walk_cons_ok_iff.mp hwalk
      exact walk_cons_ok_iff.mpr ⟨next, hstep.keeps h, ih hrest⟩

theorem Step.underDirectories {start next : Location} {piece : String}
    (hstep : Step tree start piece next) (h : UnderDirectories tree start) :
    UnderDirectories tree next := by
  cases hstep with
  | stay => exact h
  | up =>
      intro above hbefore hne
      refine h above (hbefore.trans (List.dropLast_prefix start)) ?_
      intro heq
      rw [heq] at hbefore hne
      exact hne ((List.dropLast_prefix start).eq_of_length_le hbefore.length_le).symm
  | enter hdirectory hname hshort =>
      intro above hbefore hne
      rcases List.prefix_concat_iff.mp hbefore with heq | hstart
      · exact absurd heq hne
      · by_cases heq : above = start
        · rw [heq]
          exact hdirectory
        · exact h above hstart heq

theorem UnderDirectories.walk_ok {start target : Location} {pieces : List String}
    (h : UnderDirectories tree start) (hwalk : tree.walk start pieces = .ok target) :
    UnderDirectories tree target := by
  induction pieces generalizing start with
  | nil =>
      cases hwalk
      exact h
  | cons piece rest ih =>
      obtain ⟨next, hstep, hrest⟩ := walk_cons_ok_iff.mp hwalk
      exact ih (hstep.underDirectories h) hrest

/-- Whatever a walk from the top leads to lies under directories. -/
theorem underDirectories_of_walk {target : Location} {pieces : List String}
    (hwalk : tree.walk [] pieces = .ok target) : UnderDirectories tree target := by
  refine UnderDirectories.walk_ok ?_ hwalk
  intro above hbefore hne
  exact absurd (List.prefix_nil.mp hbefore) hne

/-- **A walk that ends at a file ends in a name**, and goes on to it from its directory. -/
theorem walk_concat_file {directory : List String} {last : String} {target : Location}
    {content : ByteArray} (hwalk : tree.walk [] (directory ++ [last]) = .ok target)
    (hfile : tree.get? target = some (.file content)) :
    ∃ location, tree.walk [] directory = .ok location ∧ Path.IsName last ∧
      target = location ++ [last] := by
  obtain ⟨location, hfront, hback⟩ := walk_append_ok_iff.mp hwalk
  refine ⟨location, hfront, ?_⟩
  cases walk_singleton_ok_iff.mp hback with
  | stay hdirectory =>
      rw [hdirectory] at hfile
      cases hfile
  | up hdirectory =>
      rw [(underDirectories_of_walk hfront).dropLast hdirectory] at hfile
      cases hfile
  | enter _ hname => exact ⟨hname, rfl⟩

/-- Pieces at the end that name nothing new lead nowhere else. -/
theorem walk_of_append_trivial {start target : Location} {front tail : List String}
    (htail : ∀ piece ∈ tail, piece = "" ∨ piece = ".")
    (hwalk : tree.walk start (front ++ tail) = .ok target) :
    tree.walk start front = .ok target := by
  obtain ⟨between, hfront, hback⟩ := walk_append_ok_iff.mp hwalk
  have hstays : between = target := by
    clear hwalk hfront
    induction tail with
    | nil =>
        cases hback
        rfl
    | cons piece rest ih =>
        obtain ⟨next, hstep, hrest⟩ := walk_cons_ok_iff.mp hback
        have hpiece := htail piece (by simp)
        cases hstep with
        | stay => exact ih (fun p hp => htail p (by simp [hp])) hrest
        | up => simp at hpiece
        | enter _ hname => exact absurd hpiece (by simp [hname.1, hname.2.1])
  rw [← hstays]
  exact hfront

/-! ### Paths -/

/-- A path that can be looked up at all. -/
def Followable (path : String) : Prop :=
  path ≠ "" ∧ '\x00' ∉ path.toList ∧ path.utf8ByteSize < 4096

/-- Which paths can be followed is no matter of the tree; where they lead is the walk. -/
theorem follow_ok_iff {path : String} {pieces : List String} {target : Location} :
    tree.follow path pieces = .ok target ↔
      Followable path ∧ tree.walk [] (tree.origin path ++ pieces) = .ok target := by
  unfold follow Followable
  by_cases hempty : path = ""
  · simp [hempty]
  by_cases hnul : '\x00' ∈ path.toList
  · simp [hempty, hnul]
  by_cases hlong : 4096 ≤ path.utf8ByteSize
  · simp [hempty, hnul, hlong, Nat.not_lt.mpr hlong]
  · simp [hempty, hnul, hlong, Nat.lt_of_not_le hlong]

theorem KeepsDirectories.origin_eq (h : KeepsDirectories tree other) (path : String) :
    other.origin path = tree.origin path := by
  rw [origin, origin, h.here_eq]

/-- **Where the directories stay, paths lead to the same places.** -/
theorem KeepsDirectories.follow_ok (h : KeepsDirectories tree other) {path : String}
    {pieces : List String} {target : Location} (hfollow : tree.follow path pieces = .ok target) :
    other.follow path pieces = .ok target := by
  obtain ⟨hpath, hwalk⟩ := follow_ok_iff.mp hfollow
  refine follow_ok_iff.mpr ⟨hpath, ?_⟩
  rw [h.origin_eq]
  exact h.walk_ok hwalk

/-- Only the beginning of a path decides where it is walked from. -/
theorem origin_congr {path another : String}
    (h : Path.isAbsolute path = Path.isAbsolute another) :
    tree.origin path = tree.origin another := by
  rw [origin, origin, h]

end Tree

end LineCut
