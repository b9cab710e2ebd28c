/-
Alternatives, read as values.

Tests, actions and how often are written in one way: as the name of an alternative, or as an object
whose only member is the name with what belongs to it.  So there is one reader for all of them, and
one lemma about it.  `Alternative` is what such a value means if one knows what the values mean that
belong to the names, and `decodes_alternative` says that the reader keeps to it.

A test holds further tests, and what it means is a relation on whole values.  A list of tests opens
two brackets and a negation only one, which is why the induction on the bound goes two steps down.
-/
import LineCut.Plan.Reader
import LineCut.Proofs.Decoding

namespace LineCut

open Json

/-! ### Alternatives -/

/-- One of several alternatives: a name to which nothing belongs, or an object whose only member is
the name with what belongs to it. -/
inductive Alternative {α : Type} (known : List String) (alone : String → Option α)
    (means : String → Json → α → Prop) : Json → α → Prop
  | name {name : String} {x : α} (hknown : name ∈ known) (halone : alone name = some x) :
      Alternative known alone means (.str name) x
  | member {name : String} {value : Json} {x : α} (hknown : name ∈ known)
      (hmeans : means name value x) : Alternative known alone means (.obj [(name, value)]) x

variable {c behind : Cursor}

theorem readName_eq_ok_iff {known : List String} {name : String} :
    readName known c = .ok (name, behind) ↔ TextAt c name behind ∧ name ∈ known := by
  unfold readName
  constructor
  · intro h
    split at h
    · cases h
    · next hread =>
      split at h
      · next hknown =>
        cases h
        exact ⟨readText_eq_ok_iff.mp hread, by simpa using hknown⟩
      · cases h
  · rintro ⟨htext, hknown⟩
    simp [readText_eq_ok_iff.mpr htext, hknown]

/-- A name is a text that is known. -/
theorem decodes_readName (known : List String) (limit : Nat) :
    Decodes (readName known) (value limit) fun v name => v = .str name ∧ name ∈ known := by
  refine ⟨fun {c name behind} => ?_⟩
  have htext : TextAt c name behind ↔ ∃ v, value limit c = .ok (v, behind) ∧ v = .str name :=
    readText_eq_ok_iff.symm.trans (decodes_readText "variant identifier" limit).iff
  rw [readName_eq_ok_iff, htext]
  constructor
  · rintro ⟨⟨v, hv, heq⟩, hknown⟩
    exact ⟨v, hv, heq, hknown⟩
  · rintro ⟨v, hv, heq, hknown⟩
    exact ⟨⟨v, hv, heq⟩, hknown⟩

theorem readKey_eq_ok_iff {known : List String} {name : String} :
    readKey known c = .ok (name, behind) ↔ TextAt c name behind ∧ name ∈ known := by
  unfold readKey
  simp only
  constructor
  · intro h
    split at h
    · cases h
    · obtain ⟨htext, hknown⟩ := readName_eq_ok_iff.mp h
      exact ⟨textAt_skip_iff.mp htext, hknown⟩
    · cases h
    · cases h
  · rintro ⟨htext, hknown⟩
    obtain ⟨rest, hrest⟩ := htext.faces
    simp only [hrest]
    exact readName_eq_ok_iff.mpr ⟨textAt_skip_iff.mpr htext, hknown⟩

theorem closeAlternative_eq_ok_iff :
    closeAlternative c = .ok behind ↔ c.Faces '\x7d' ∧ c.skip.next = behind := by
  unfold closeAlternative
  simp only
  constructor
  · intro h
    split at h
    · cases h
    · next hlook =>
      cases h
      exact ⟨⟨_, hlook⟩, rfl⟩
    · cases h
  · rintro ⟨⟨rest, hrest⟩, rfl⟩
    simp [hrest]

/-- A name that stands alone is read so whatever may be read inside. -/
theorem readAlternative_name_iff {α : Type} {known : List String} {alone : String → Option α}
    {inside : Option (String → Cursor → Read α)} {x : α} (hfaces : c.Faces '"') :
    readAlternative known alone inside c = .ok (x, behind) ↔
      ∃ name ∈ known, TextAt c name behind ∧ alone name = some x := by
  obtain ⟨rest, hrest⟩ := hfaces
  unfold readAlternative
  simp only [hrest]
  constructor
  · intro h
    split at h
    · cases h
    · next name d hname =>
      obtain ⟨htext, hknown⟩ := readName_eq_ok_iff.mp hname
      split at h
      · next halone =>
        cases h
        exact ⟨name, hknown, textAt_skip_iff.mp htext, halone⟩
      · cases h
  · rintro ⟨name, hknown, htext, halone⟩
    have hname := readName_eq_ok_iff.mpr ⟨textAt_skip_iff.mpr htext, hknown⟩
    simp only [hname, halone]

/-- An object is read as its only member. -/
theorem readAlternative_member_iff {α : Type} {known : List String} {alone : String → Option α}
    {inside : String → Cursor → Read α} {x : α} (hfaces : c.Faces '\x7b') :
    readAlternative known alone (some inside) c = .ok (x, behind) ↔
      ∃ name ∈ known, ∃ mark start middle, TextAt c.skip.next name mark ∧
        colon mark = .ok start ∧ inside name start = .ok (x, middle) ∧
        middle.Faces '\x7d' ∧ middle.skip.next = behind := by
  obtain ⟨rest, hrest⟩ := hfaces
  unfold readAlternative
  simp only [hrest]
  constructor
  · intro h
    split at h
    · cases h
    · next name mark hkey =>
      obtain ⟨htext, hknown⟩ := readKey_eq_ok_iff.mp hkey
      split at h
      · cases h
      · next start hcolon =>
        split at h
        · cases h
        · next y middle hinside =>
          obtain ⟨d, hclose, heq⟩ := map_eq_ok_iff.mp h
          cases heq
          exact ⟨name, hknown, mark, start, middle, htext, hcolon, hinside,
            closeAlternative_eq_ok_iff.mp hclose⟩
  · rintro ⟨name, hknown, mark, start, middle, htext, hcolon, hinside, hclose⟩
    have hkey := readKey_eq_ok_iff.mpr ⟨htext, hknown⟩
    have hclosed := closeAlternative_eq_ok_iff.mpr hclose
    simp only [hkey, hcolon, hinside, hclosed, Except.map]

/-- An alternative begins with a quote, or with a brace where one may be opened. -/
theorem faces_of_readAlternative {α : Type} {known : List String} {alone : String → Option α}
    {inside : Option (String → Cursor → Read α)} {x : α}
    (h : readAlternative known alone inside c = .ok (x, behind)) :
    c.Faces '"' ∨ c.Faces '\x7b' ∧ inside ≠ none := by
  unfold readAlternative at h
  simp only at h
  split at h
  · cases h
  · next hlook => exact .inl ⟨_, hlook⟩
  · next hlook =>
    split at h
    · cases h
    · exact .inr ⟨⟨_, hlook⟩, Option.some_ne_none _⟩
  · cases h

/-- The only member of an object of which nothing is known. -/
theorem shaped_singleton_iff {limit : Nat} {name : String} {v : Json} :
    Shaped (limit + 1) c (.obj [(name, v)]) behind ↔
      c.Faces '\x7b' ∧ ∃ mark start middle, TextAt c.skip.next name mark ∧
        colon mark = .ok start ∧ value limit start = .ok (v, middle) ∧
        middle.Faces '\x7d' ∧ middle.skip.next = behind := by
  constructor
  · intro h
    cases h with
    | obj hfaces hmembers hclose =>
      cases hmembers with
      | cons hnext hcolon hv hrest =>
        cases hrest with
        | nil hlast =>
          obtain ⟨hend, rfl⟩ := nextKey_none_iff.mp hlast
          obtain ⟨-, rfl⟩ := closeObject_iff.mp hclose
          exact ⟨hfaces, _, _, _, nextKey_first_iff.mp hnext, hcolon, hv, hend,
            by rw [skip_skip]⟩
  · rintro ⟨hfaces, mark, start, middle, htext, hcolon, hv, hend, rfl⟩
    have hlast : nextKey false middle = .ok (none, middle.skip) :=
      nextKey_none_iff.mpr ⟨hend, rfl⟩
    have hclose : closeObject middle.skip = .ok middle.skip.next :=
      closeObject_iff.mpr ⟨faces_skip_iff.mpr hend, by rw [skip_skip]⟩
    exact .obj hfaces (.cons (nextKey_first_iff.mpr htext) hcolon hv (.nil hlast)) hclose

/-- **An alternative decodes if what belongs to its names does**, one bracket further in. -/
theorem decodes_alternative {α : Type} {known : List String} (alone : String → Option α)
    {inside : String → Cursor → Read α} {limit : Nat} {means : String → Json → α → Prop}
    (h : ∀ name ∈ known, Decodes (inside name) (value limit) (means name)) :
    Decodes (readAlternative known alone (some inside)) (value (limit + 1))
      (Alternative known alone means) := by
  refine ⟨fun {c x behind} => ?_⟩
  simp only [value_eq_ok_iff]
  constructor
  · intro hread
    rcases faces_of_readAlternative hread with hname | ⟨hmember, -⟩
    · obtain ⟨name, hknown, htext, halone⟩ := (readAlternative_name_iff hname).mp hread
      exact ⟨.str name, .str htext, .name hknown halone⟩
    · obtain ⟨name, hknown, mark, start, middle, htext, hcolon, hinside, hend⟩ :=
        (readAlternative_member_iff hmember).mp hread
      obtain ⟨v, hv, hmeans⟩ := (h name hknown).iff.mp hinside
      exact ⟨.obj [(name, v)], shaped_singleton_iff.mpr
        ⟨hmember, mark, start, middle, htext, hcolon, hv, hend⟩, .member hknown hmeans⟩
  · rintro ⟨v, hshaped, hmeans⟩
    cases hmeans with
    | name hknown halone =>
      cases hshaped with
      | str htext => exact (readAlternative_name_iff htext.faces).mpr ⟨_, hknown, htext, halone⟩
    | member hknown hmeans =>
      obtain ⟨hfaces, mark, start, middle, htext, hcolon, hv, hend⟩ :=
        shaped_singleton_iff.mp hshaped
      have hinside := (h _ hknown).iff.mpr ⟨_, hv, hmeans⟩
      exact (readAlternative_member_iff hfaces).mpr
        ⟨_, hknown, mark, start, middle, htext, hcolon, hinside, hend⟩

/-- Where no bracket may be opened, an alternative is a name. -/
theorem decodes_alternative_none {α : Type} {known : List String} (alone : String → Option α)
    {means : String → Json → α → Prop} :
    Decodes (readAlternative known alone none) (value 0) (Alternative known alone means) := by
  refine ⟨fun {c x behind} => ?_⟩
  simp only [value_eq_ok_iff]
  constructor
  · intro hread
    rcases faces_of_readAlternative hread with hname | ⟨-, hnone⟩
    · obtain ⟨name, hknown, htext, halone⟩ := (readAlternative_name_iff hname).mp hread
      exact ⟨.str name, .str htext, .name hknown halone⟩
    · exact absurd rfl hnone
  · rintro ⟨v, hshaped, hmeans⟩
    cases hmeans with
    | name hknown halone =>
      cases hshaped with
      | str htext => exact (readAlternative_name_iff htext.faces).mpr ⟨_, hknown, htext, halone⟩
    | member hknown hmeans => cases hshaped

/-- Null is a word, and nothing else begins with its first letter. -/
theorem decodes_readNull (limit : Nat) :
    Decodes readNull (value limit) fun v _ => v = .null := by
  refine ⟨fun {c x behind} => ?_⟩
  simp only [value_eq_ok_iff]
  unfold readNull
  simp only
  constructor
  · intro h
    split at h
    · cases h
    · next hlook =>
      obtain ⟨d, hword, heq⟩ := map_eq_ok_iff.mp h
      cases heq
      exact ⟨.null, .null ⟨_, hlook⟩ hword, rfl⟩
    · cases h
  · rintro ⟨_, hshaped, rfl⟩
    cases hshaped with
    | null hfaces hword =>
      obtain ⟨rest, hrest⟩ := hfaces
      simp [hrest, hword, Except.map]

/-! ### Tests -/

/-- The value is the test. -/
inductive LineTest.Means : Json → LineTest String → Prop
  | name : Means (.str "blank") .blank
  | contains (text : String) : Means (.obj [("contains", .str text)]) (.contains text)
  | startsWith (text : String) : Means (.obj [("starts_with", .str text)]) (.startsWith text)
  | pattern (text : String) : Means (.obj [("pattern", .str text)]) (.pattern text)
  | blank : Means (.obj [("blank", .null)]) .blank
  | any {items : List Json} {tests : List (LineTest String)} (h : List.Forall₂ Means items tests) :
      Means (.obj [("any", .arr items)]) (.any tests)
  | all {items : List Json} {tests : List (LineTest String)} (h : List.Forall₂ Means items tests) :
      Means (.obj [("all", .arr items)]) (.all tests)
  | negation {value : Json} {test : LineTest String} (h : Means value test) :
      Means (.obj [("not", value)]) (.negation test)

namespace LineTest

/-- What belongs to the name of a test. -/
def MeansInside (name : String) (value : Json) (test : LineTest String) : Prop :=
  Means (.obj [(name, value)]) test

/-- What belongs to a name, name by name. -/
theorem meansInside_iff {name : String} {v : Json} {test : LineTest String} :
    MeansInside name v test ↔
      (name = "contains" ∧ ∃ text, v = .str text ∧ contains text = test) ∨
      (name = "starts_with" ∧ ∃ text, v = .str text ∧ startsWith text = test) ∨
      (name = "pattern" ∧ ∃ text, v = .str text ∧ pattern text = test) ∨
      (name = "blank" ∧ v = .null ∧ blank = test) ∨
      (name = "any" ∧ ∃ tests, (∃ vs, v = .arr vs ∧ List.Forall₂ Means vs tests) ∧
        any tests = test) ∨
      (name = "all" ∧ ∃ tests, (∃ vs, v = .arr vs ∧ List.Forall₂ Means vs tests) ∧
        all tests = test) ∨
      (name = "not" ∧ ∃ inner, Means v inner ∧ negation inner = test) := by
  constructor
  · intro h
    cases h with
    | any h => simp [h]
    | all h => simp [h]
    | negation h => simp [h]
    | _ => simp
  · rintro (⟨rfl, text, rfl, rfl⟩ | ⟨rfl, text, rfl, rfl⟩ | ⟨rfl, text, rfl, rfl⟩ |
      ⟨rfl, rfl, rfl⟩ | ⟨rfl, tests, ⟨vs, rfl, h⟩, rfl⟩ | ⟨rfl, tests, ⟨vs, rfl, h⟩, rfl⟩ |
      ⟨rfl, inner, h, rfl⟩)
    · exact .contains text
    · exact .startsWith text
    · exact .pattern text
    · exact .blank
    · exact .any h
    · exact .all h
    · exact .negation h

/-- A test is one of the alternatives. -/
theorem alternative_iff {v : Json} {test : LineTest String} :
    Alternative names ofName? MeansInside v test ↔ Means v test := by
  constructor
  · rintro (⟨hknown, halone⟩ | ⟨-, hmeans⟩)
    · unfold ofName? at halone
      split at halone
      · cases halone
        exact .name
      · cases halone
    · exact hmeans
  · intro h
    cases h with
    | name => exact .name (by decide) rfl
    | contains text => exact .member (by decide) (.contains text)
    | startsWith text => exact .member (by decide) (.startsWith text)
    | pattern text => exact .member (by decide) (.pattern text)
    | blank => exact .member (by decide) .blank
    | any h => exact .member (by decide) (.any h)
    | all h => exact .member (by decide) (.all h)
    | negation h => exact .member (by decide) (.negation h)

/-- What belongs to a name decodes if the tests inside do. -/
theorem decodes_readInside {inner : Cursor → Read (LineTest String)}
    {items : Option (Cursor → Read (LineTest String))} {limit : Nat}
    (hinner : Decodes inner (value limit) Means)
    (hlist : Decodes (readList items) (value limit)
      fun v tests => ∃ vs, v = .arr vs ∧ List.Forall₂ Means vs tests) :
    ∀ name ∈ names, Decodes (readInside inner items name) (value limit) (MeansInside name) := by
  have htext := decodes_readText "a string" limit
  have hnull := decodes_readNull limit
  intro name hname
  simp only [names, List.mem_cons, List.not_mem_nil, or_false] at hname
  rcases hname with rfl | rfl | rfl | rfl | rfl | rfl | rfl
  · exact (htext.map contains).congr fun v test => by simp [meansInside_iff]
  · exact (htext.map startsWith).congr fun v test => by simp [meansInside_iff]
  · exact (htext.map pattern).congr fun v test => by simp [meansInside_iff]
  · exact (hnull.map fun _ => blank).congr fun v test => by simp [meansInside_iff]
  · exact (hlist.map any).congr fun v test => by simp [meansInside_iff]
  · exact (hlist.map all).congr fun v test => by simp [meansInside_iff]
  · exact (hinner.map negation).congr fun v test => by simp [meansInside_iff]

/-- **A test is read from the text as it is from the value.** -/
theorem decodes_read (limit : Nat) : Decodes (LineTest.read limit) (value limit) Means := by
  -- a list of tests opens two brackets, so the induction has to reach two steps down
  induction limit using Nat.strongRecOn with
  | ind limit ih =>
  match limit, ih with
  | 0, _ => exact (decodes_alternative_none ofName?).congr fun _ _ => alternative_iff
  | 1, ih =>
    have hinside := decodes_readInside (ih 0 (by omega)) decodes_readList_none
    exact (decodes_alternative ofName? hinside).congr fun _ _ => alternative_iff
  | limit + 2, ih =>
    have hinside := decodes_readInside (ih (limit + 1) (by omega))
      (decodes_readList (ih limit (by omega)))
    exact (decodes_alternative ofName? hinside).congr fun _ _ => alternative_iff

end LineTest

/-! ### Other parts of a region -/

/-- The value says how often. -/
def Multiplicity.Means : Json → Multiplicity → Prop :=
  Alternative ["first", "all"] ofName? fun name v multiplicity =>
    v = .null ∧ ofName? name = some multiplicity

theorem Multiplicity.decodes_read (limit : Nat) :
    Decodes (Multiplicity.read (limit != 0)) (value limit) Means := by
  cases limit with
  | zero => exact decodes_alternative_none ofName?
  | succ limit =>
    refine decodes_alternative ofName? ?_
    intro name hname
    refine ((decodes_readNull limit).map fun _ =>
      (Multiplicity.ofName? name).getD .first).congr fun v multiplicity => ?_
    simp only [List.mem_cons, List.not_mem_nil, or_false] at hname
    rcases hname with rfl | rfl <;> simp [ofName?]

/-- The value says what becomes of the lines. -/
inductive Action.Means : Json → Action → Prop
  | name : Means (.str "delete") .delete
  | delete : Means (.obj [("delete", .null)]) .delete
  | replace (lines : List String) : Means (.obj [("replace", .strings lines)]) (.replace lines)

theorem forall₂_str_iff {values : List Json} {texts : List String} :
    List.Forall₂ (fun v text => v = .str text) values texts ↔ values = texts.map .str := by
  induction texts generalizing values with
  | nil => simp
  | cons text texts ih =>
    simp only [List.forall₂_cons_right_iff, ih, List.map_cons]
    constructor
    · rintro ⟨_, _, rfl, rfl, rfl⟩
      rfl
    · rintro rfl
      exact ⟨_, _, rfl, rfl, rfl⟩

theorem Action.alternative_iff {v : Json} {action : Action} :
    Alternative ["delete", "replace"] ofName? (fun name v action =>
      (name = "delete" ∧ v = .null ∧ Action.delete = action) ∨
      (name = "replace" ∧ ∃ lines, v = .strings lines ∧ Action.replace lines = action)) v action ↔
      Means v action := by
  constructor
  · rintro (⟨-, halone⟩ | ⟨-, ⟨rfl, rfl, rfl⟩ | ⟨rfl, lines, rfl, rfl⟩⟩)
    · unfold ofName? at halone
      split at halone
      · cases halone
        exact .name
      · cases halone
    · exact .delete
    · exact .replace lines
  · intro h
    cases h with
    | name => exact .name (by decide) rfl
    | delete => exact .member (by decide) (.inl ⟨rfl, rfl, rfl⟩)
    | replace lines => exact .member (by decide) (.inr ⟨rfl, lines, rfl, rfl⟩)

theorem Action.decodes_read (limit : Nat) : Decodes (Action.read limit) (value limit) Means := by
  cases limit with
  | zero => exact (decodes_alternative_none ofName?).congr fun _ _ => alternative_iff
  | succ limit =>
    refine (decodes_alternative ofName? ?_).congr fun _ _ => alternative_iff
    intro name hname
    have hlines : Decodes (readList (if limit + 1 ≤ 1 then none else some readString)) (value limit)
        fun v lines => v = .strings lines := by
      cases limit with
      | zero =>
        have hnone : Decodes (readList (none : Option (Cursor → Read String))) (value 0)
            fun v lines => ∃ vs, v = .arr vs ∧ vs = lines.map .str := decodes_readList_none
        exact hnone.congr fun v lines => by simp [Json.strings]
      | succ limit =>
        refine (decodes_readList (decodes_readText "a string" limit)).congr fun v lines => ?_
        simp [forall₂_str_iff, Json.strings]
    simp only [List.mem_cons, List.not_mem_nil, or_false] at hname
    rcases hname with rfl | rfl
    · exact ((decodes_readNull limit).map fun _ => Action.delete).congr fun v action => by simp
    · exact (hlines.map Action.replace).congr fun v action => by simp

/-- The value is a test, or null in place of none. -/
inductive CompanionMeans : Json → Option (LineTest String) → Prop
  | none : CompanionMeans .null none
  | some {v : Json} {test : LineTest String} (h : LineTest.Means v test) :
      CompanionMeans v (some test)

theorem LineTest.faces_of_read {limit : Nat} {test : LineTest String}
    (h : LineTest.read limit c = .ok (test, behind)) : c.Faces '"' ∨ c.Faces '\x7b' := by
  match limit, h with
  | 0, h => exact (faces_of_readAlternative h).imp_right And.left
  | 1, h => exact (faces_of_readAlternative h).imp_right And.left
  | limit + 2, h => exact (faces_of_readAlternative h).imp_right And.left

theorem decodes_readCompanion (limit : Nat) :
    Decodes (readCompanion limit) (value limit) CompanionMeans := by
  have htest := LineTest.decodes_read limit
  refine ⟨fun {c x behind} => ?_⟩
  unfold readCompanion
  simp only
  constructor
  · intro h
    split at h
    · next hlook =>
      obtain ⟨d, hword, heq⟩ := map_eq_ok_iff.mp h
      cases heq
      exact ⟨.null, value_eq_ok_iff.mpr (.null ⟨_, hlook⟩ hword), .none⟩
    · obtain ⟨⟨test, d⟩, hread, heq⟩ := map_eq_ok_iff.mp h
      cases heq
      obtain ⟨v, hv, hmeans⟩ := htest.iff.mp hread
      rw [value_skip] at hv
      exact ⟨v, hv, .some hmeans⟩
  · rintro ⟨v, hv, hmeans⟩
    cases hmeans with
    | none =>
      cases value_eq_ok_iff.mp hv with
      | null hfaces hword =>
        obtain ⟨rest, hrest⟩ := hfaces
        simp [hrest, hword, Except.map]
    | some hmeans =>
      rw [← value_skip] at hv
      have hread := htest.iff.mpr ⟨v, hv, hmeans⟩
      have hopens : ∀ rest, c.skip.rest ≠ 'n' :: rest := by
        intro rest hrest
        rcases LineTest.faces_of_read hread with ⟨more, hmore⟩ | ⟨more, hmore⟩
        all_goals
          rw [skip_skip, hrest] at hmore
          cases hmore
      split
      · next hlook => exact absurd hlook (hopens _)
      · rw [hread]
        rfl

end LineCut
