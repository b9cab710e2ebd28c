/-
Plans are read back as they were printed.

The printer leaves out what has its default value and may be missing, and the reader has to restore
it by different defaults in different places.  It also does not read a plan in one way: regions and
tests are read straight from the text, the rule for an end is read as a value first and taken apart
afterwards.  So a test is read back twice over, by `LineTest.ofJson` where it stands in a rule and
by `LineTest.read` where it stands in a region, and the two arguments have nothing in common.

What is asked of a plan is little.  Its offsets have to be machine words, since other integers are
refused, and its nesting has to stay below the bound of the reader, which holds for the text and not
for the plan.  A bare list of regions is one level less deep than the plan it stands for, and may
go to the bound itself.
-/
import LineCut.Plan.Printer
import LineCut.Plan.Reader
import LineCut.Proofs.Values

namespace LineCut

open Json

/-! ### Alternatives -/

theorem gives_readName {known : List String} {name : String} (h : known.contains name = true)
    {blanks : List Char} (hblanks : Blanks blanks) (rest : List Char) (offset : Nat) :
    Gives (readName known ⟨blanks ++ (stringChars name ++ rest), offset⟩) name rest := by
  obtain ⟨behind, hname⟩ := gives_readText "variant identifier" name hblanks rest offset
  exact ⟨behind, by simp only [readName, hname, h, if_true]⟩

theorem reads_readName {known : List String} {name : String} (h : known.contains name = true) :
    Reads (readName known) (.str name) name := by
  refine ⟨fun {_ blanks rest} hspells hblanks _ offset => ?_⟩
  cases hspells
  exact gives_readName h hblanks rest offset

theorem gives_readKey {known : List String} {name : String} (h : known.contains name = true)
    {blanks : List Char} (hblanks : Blanks blanks) (rest : List Char) (offset : Nat) :
    Gives (readKey known ⟨blanks ++ (stringChars name ++ rest), offset⟩) name rest := by
  rw [readKey, skip_spelled (.str name) hblanks]
  exact gives_readName h blanks_nil rest _

theorem passes_closeAlternative {blanks : List Char} (h : Blanks blanks) (rest : List Char)
    (offset : Nat) : Passes (closeAlternative ⟨blanks ++ '\x7d' :: rest, offset⟩) rest := by
  rw [closeAlternative, skip_blanks h rfl]
  exact ⟨_, rfl⟩

/-- An alternative to which nothing belongs is written as its name. -/
theorem reads_alternative_name {α : Type} {known : List String} {alone : String → Option α}
    {name : String} {x : α} (hknown : known.contains name = true) (halone : alone name = some x)
    (inside : Option (String → Cursor → Read α)) :
    Reads (readAlternative known alone inside) (.str name) x := by
  refine ⟨fun {text blanks rest} hspells hblanks _ offset => ?_⟩
  rw [readAlternative.eq_def, skip_spelled hspells hblanks]
  cases hspells
  obtain ⟨behind, hname⟩ := gives_readName hknown blanks_nil rest (offset + blanks.length)
  simp only [List.nil_append, stringChars, List.cons_append] at hname ⊢
  exact ⟨behind, by simp only [hname, halone]⟩

/-- Any other is written as an object with its name as the only key. -/
theorem reads_alternative_member {α : Type} {known : List String} {name : String}
    {inside : String → Cursor → Read α} {value : Json} {x : α}
    (hknown : known.contains name = true) (h : Reads (inside name) value x)
    (alone : String → Option α) :
    Reads (readAlternative known alone (some inside)) (.obj [(name, value)]) x := by
  refine ⟨fun {text blanks rest} hspells hblanks _ offset => ?_⟩
  rw [readAlternative.eq_def, skip_spelled hspells hblanks]
  obtain ⟨before, beforeColon, afterColon, inner, last, hbefore, hbeforeColon, hafterColon, hvalue,
    hlast, rfl⟩ := hspells.obj_singleton
  have hfollows : Follows (last ++ '\x7d' :: rest) := follows_append hlast (.inr (.inr rfl)) rest
  obtain ⟨atColon, hkey⟩ := gives_readKey hknown hbefore
    (beforeColon ++ ':' :: (afterColon ++ (inner ++ (last ++ '\x7d' :: rest))))
    (offset + blanks.length + Char.utf8Size '\x7b')
  obtain ⟨atValue, hcolon⟩ := passes_colon hbeforeColon
    (afterColon ++ (inner ++ (last ++ '\x7d' :: rest))) atColon
  obtain ⟨atEnd, hread⟩ := h.gives hvalue hafterColon hfollows atValue
  obtain ⟨behind, hclose⟩ := passes_closeAlternative hlast rest atEnd
  refine ⟨behind, ?_⟩
  simp only [List.cons_append, List.append_assoc, List.nil_append, next_cons, hkey, hcolon, hread,
    hclose]
  rfl

/-! ### Tests -/

namespace LineTest

theorem toJsonAll_eq_map {π : Type} (source : π → String) (tests : List (LineTest π)) :
    toJsonAll source tests = tests.map (toJson source) := by
  induction tests with
  | nil => rfl
  | cons test rest ih => rw [toJsonAll, ih, List.map_cons]

/-- Where a bracket may be opened, a test is an alternative, and the tests in a list may open one
bracket less. -/
theorem read_succ (limit : Nat) : ∃ items,
    LineTest.read (limit + 1) =
      readAlternative names ofName? (some (readInside (LineTest.read limit) items)) ∧
    ∀ inner, limit = inner + 1 → items = some (LineTest.read inner) := by
  cases limit with
  | zero => exact ⟨none, rfl, fun _ h => absurd h (Nat.succ_ne_zero _).symm⟩
  | succ limit => exact ⟨some (LineTest.read limit), rfl, fun _ h => by rw [Nat.succ.inj h]⟩

theorem reads_blank (inside : Option (String → Cursor → Read (LineTest String))) :
    Reads (readAlternative names ofName? inside) (.str "blank") blank :=
  have halone : ofName? "blank" = some blank := rfl
  reads_alternative_name (by decide) halone inside

/-- **A test is read back from the text.** -/
theorem reads_read (limit : Nat) (test : LineTest String) (h : (test.toJson id).depth ≤ limit) :
    Reads (LineTest.read limit) (test.toJson id) test := by
  -- A list of tests opens two brackets, so the induction has to reach two steps down.
  induction limit using Nat.strongRecOn generalizing test with
  | ind limit ih =>
  cases limit with
  | zero =>
    cases test with
    | blank => exact reads_blank none
    | _ => exact absurd h (Nat.not_succ_le_zero _)
  | succ limit =>
    obtain ⟨items, hread, hitems⟩ := read_succ limit
    have hlist : ∀ tests, (Json.arr (toJsonAll id tests)).depth ≤ limit →
        Reads (readList items) (.arr (toJsonAll id tests)) tests := by
      intro tests hdepth
      cases limit with
      | zero => exact absurd hdepth (Nat.not_succ_le_zero _)
      | succ inner =>
        rw [toJsonAll_eq_map] at hdepth ⊢
        rw [hitems inner rfl]
        refine reads_readList fun test htest => ih inner (by omega) test ?_
        exact depth_item_le hdepth (List.mem_map_of_mem htest)
    rw [hread]
    cases test with
    | contains text =>
      have htext := reads_readText "a string" text
      exact reads_alternative_member (by decide) (htext.map contains) ofName?
    | startsWith text =>
      have htext := reads_readText "a string" text
      exact reads_alternative_member (by decide) (htext.map startsWith) ofName?
    | pattern text =>
      have htext := reads_readText "a string" text
      exact reads_alternative_member (by decide) (htext.map pattern) ofName?
    | blank => exact reads_blank _
    | any tests =>
      have htests := hlist tests (depth_member_le h List.mem_cons_self)
      exact reads_alternative_member (by decide) (htests.map any) ofName?
    | all tests =>
      have htests := hlist tests (depth_member_le h List.mem_cons_self)
      exact reads_alternative_member (by decide) (htests.map all) ofName?
    | negation test =>
      have hinner := ih limit (Nat.lt_succ_self limit) test (depth_member_le h List.mem_cons_self)
      exact reads_alternative_member (by decide) (hinner.map negation) ofName?

mutual

/-- **So is a test that has been read as a value.** -/
theorem ofJson_toJson : ∀ test : LineTest String, ofJson (test.toJson id) = .ok test
  | contains _ => rfl
  | startsWith _ => rfl
  | pattern _ => rfl
  | blank => rfl
  | any tests => by
    have hall := allOfJson_toJsonAll tests
    simp [toJson, ofJson, listOfJson, checkName, names, hall, Except.map]
  | all tests => by
    have hall := allOfJson_toJsonAll tests
    simp [toJson, ofJson, listOfJson, checkName, names, hall, Except.map]
  | negation test => by
    have hinner := ofJson_toJson test
    simp [toJson, ofJson, checkName, names, hinner, Except.map]

theorem allOfJson_toJsonAll : ∀ tests : List (LineTest String),
    allOfJson (toJsonAll id tests) = .ok tests
  | [] => rfl
  | test :: rest => by
    have hfirst := ofJson_toJson test
    have hrest := allOfJson_toJsonAll rest
    simp [toJsonAll, allOfJson, hfirst, hrest, Except.map]

end

end LineTest

/-! ### Rules -/

/-- The offset of a rule is a machine word with a sign. -/
def EndSpec.Representable : EndSpec → Prop
  | before _ offset => -0x8000000000000000 ≤ offset ∧ offset < 0x8000000000000000
  | _ => True

namespace EndSpec

theorem textsOf_strings (texts : List String) : textsOf (.strings texts) = .ok texts := by
  have hmap : ∀ texts : List String, (texts.map Json.str).mapM textOf = .ok texts := by
    intro texts
    induction texts with
    | nil => rfl
    | cons text rest ih =>
      simp only [List.map_cons, List.mapM_cons, ih]
      rfl
  exact hmap texts

/-- A rule is written as its name and then its other members, from which it is put together again.
An offset of zero and an absent text are left out, and that is what their absence means. -/
theorem toJson_eq (ending : EndSpec) (h : ending.Representable) :
    ∃ name kept, ending.toJson = .obj (("rule", .str name) :: kept) ∧
      names.contains name = true ∧ (∀ member ∈ kept, member.1 ≠ "rule") ∧
      ofMembers name kept = .ok ending := by
  cases ending with
  | before test offset =>
    have htest := LineTest.ofJson_toJson test
    by_cases hzero : offset = 0
    · subst hzero
      refine ⟨"before", [("matcher", test.toJson id)], rfl, by decide, by simp, ?_⟩
      simp only [ofMembers, beforeOf, gather, once, htest]
      rfl
    · have hoffset : linesOf (.int offset) = .ok offset := if_pos h
      refine ⟨"before", [("matcher", test.toJson id), ("offset", .int offset)],
        by simp [toJson, Json.present, hzero], by decide, by simp, ?_⟩
      simp only [ofMembers, beforeOf, gather, once, htest, Except.map, hoffset]
      rfl
  | sibling openings exclude =>
    have hopenings := textsOf_strings openings
    cases exclude with
    | none =>
      refine ⟨"sibling", [("prefixes", .strings openings)], rfl, by decide, by simp, ?_⟩
      simp only [ofMembers, siblingOf, gather, once, hopenings]
      rfl
    | some text =>
      refine ⟨"sibling", [("prefixes", .strings openings), ("exclude", .str text)], rfl, by decide,
        by simp, ?_⟩
      simp only [ofMembers, siblingOf, gather, once, hopenings, Except.map]
      rfl
  | balanced opening closing =>
    exact ⟨"balanced", [("open", .str opening), ("close", .str closing)], rfl, by decide, by simp,
      rfl⟩
  | singleLine => exact ⟨"single_line", [], rfl, by decide, by simp, rfl⟩

/-- The members of a rule are read as they come, and kept but for its name. -/
theorem readsMembers_kept {value : Cursor → Read Json} {name : String}
    (kept : List (String × Json)) (hkeys : ∀ member ∈ kept, member.1 ≠ "rule")
    (h : ∀ member ∈ kept, Reads value member.2 member.2) (before : List (String × Json)) :
    ReadsMembers (readMember value) (some name, before) kept (some name, before ++ kept) := by
  induction kept generalizing before with
  | nil => simpa using ReadsMembers.nil (some name, before)
  | cons member kept ih =>
    obtain ⟨key, v⟩ := member
    have hkey : key ≠ "rule" := hkeys _ List.mem_cons_self
    have hrest := ih (fun m hm => hkeys m (List.mem_cons_of_mem _ hm))
      (fun m hm => h m (List.mem_cons_of_mem _ hm)) (before ++ [(key, v)])
    rw [List.append_assoc] at hrest
    refine .cons (readsMember_of_reads (h _ List.mem_cons_self)
      (fun v => (some name, before ++ [(key, v)])) ?_) hrest
    intro c behind hcolon
    cases hread : value behind <;> simp [readMember, hkey, anyMember, hcolon, hread, Except.map]

/-- **A rule is read back**, which needs its offset to be a machine word. -/
theorem reads_read {limit : Nat} (ending : EndSpec) (hfits : ending.Representable)
    (hdepth : ending.toJson.depth ≤ limit) : Reads (EndSpec.read limit) ending.toJson ending := by
  obtain ⟨name, kept, heq, hname, hkeys, hmembers⟩ := toJson_eq ending hfits
  rw [heq] at hdepth ⊢
  cases limit with
  | zero => exact absurd hdepth (Nat.not_succ_le_zero _)
  | succ limit =>
    have hrule : ReadsMember (readMember (value limit)) (none, []) "rule" (.str name)
        (some name, []) := by
      refine readsMember_of_reads (reads_readName hname) (fun name => (some name, [])) ?_
      intro c behind hcolon
      simp [readMember, hcolon]
    have hkept : ReadsMembers (readMember (value limit)) (some name, []) kept (some name, kept) :=
      readsMembers_kept kept hkeys (fun member hmember => reads_value limit member.2
        (depth_member_le hdepth (List.mem_cons_of_mem _ hmember))) []
    refine ⟨fun {text blanks rest} hspells hblanks _ offset => ?_⟩
    rw [EndSpec.read.eq_def, skip_spelled hspells hblanks]
    cases hspells with
    | @obj _ text hspells =>
      have hobject : ∀ offset, Gives (readObject (value limit) ⟨text ++ rest, offset⟩) (name, kept)
          ('\x7d' :: rest) := by
        intro offset
        obtain ⟨behind, hall⟩ := gives_members_fuel (.cons hrule hkept) hspells rest offset
        exact ⟨behind, by simp only [readObject, hall]⟩
      obtain ⟨behind, hread⟩ := gives_inObject hobject (offset + blanks.length)
      refine ⟨behind, ?_⟩
      simp only [List.cons_append, hread, hmembers, judged]

end EndSpec

/-! ### Regions -/

theorem reads_multiplicity (nested : Bool) (multiplicity : Multiplicity) :
    Reads (Multiplicity.read nested) (.str multiplicity.name) multiplicity := by
  have halone : Multiplicity.ofName? multiplicity.name = some multiplicity := by
    cases multiplicity <;> rfl
  have hknown : ["first", "all"].contains multiplicity.name = true := by
    cases multiplicity <;> decide
  exact reads_alternative_name hknown halone _

theorem reads_action {limit : Nat} (action : Action) (h : action.toJson.depth ≤ limit) :
    Reads (Action.read limit) action.toJson action := by
  cases action with
  | delete =>
    have halone : Action.ofName? "delete" = some .delete := rfl
    exact reads_alternative_name (by decide) halone _
  | replace lines =>
    have hlines : Reads (readList (some readString)) (.strings lines) lines :=
      reads_readList fun line _ => reads_readText "a string" line
    cases limit with
    | zero => exact absurd h (Nat.not_succ_le_zero _)
    | succ limit =>
      cases limit with
      | zero =>
        exact absurd (depth_member_le h List.mem_cons_self) (Nat.not_succ_le_zero _)
      | succ limit =>
        exact reads_alternative_member (by decide) (hlines.map Action.replace) Action.ofName?

theorem opens_toJson (test : LineTest String) {text : List Char}
    (h : Spells (test.toJson id) text) : ∃ c more, text = c :: more ∧ c ≠ 'n' := by
  cases test with
  | blank => cases h; exact ⟨_, _, rfl, by decide⟩
  | _ => cases h; exact ⟨_, _, rfl, by decide⟩

/-- A test is no null, so that a companion is told from none by its first letter. -/
theorem reads_companion {limit : Nat} (test : LineTest String)
    (h : (test.toJson id).depth ≤ limit) :
    Reads (readCompanion limit) (test.toJson id) (some test) := by
  have hread := LineTest.reads_read limit test h
  refine ⟨fun {text blanks rest} hspells hblanks hrest offset => ?_⟩
  have hhere := (hread.gives hspells blanks_nil hrest (offset + blanks.length)).map some
  rw [readCompanion, skip_spelled hspells hblanks]
  obtain ⟨c, more, rfl, hc⟩ := opens_toJson test hspells
  simp only [List.cons_append]
  split
  · next heq => exact absurd (List.cons.inj heq).1 hc
  · exact hhere

namespace RegionSpec

/-- A region as its members: three that have to be there, a companion if there is one, and three
that have defaults. -/
theorem toJson_eq (spec : RegionSpec) : spec.toJson = .obj
    ([("name", .str spec.name), ("start", spec.start.toJson id), ("end", spec.ending.toJson)] ++
      ((spec.companion.map fun test => ("also_remove_preceding_if", test.toJson id)).toList ++
      [("multiplicity", .str spec.multiplicity.name), ("required", .bool spec.required),
        ("action", spec.action.toJson)])) := by
  unfold toJson
  cases spec.companion <;> rfl

/-- A member that has not been there before is read and kept. -/
theorem readsMember_readOnce {α : Type} {limit : Nat} {d : Draft} {key : String}
    {before : Option α} {reader : Cursor → Read α} {value : Json} {x : α} (keep : α → Draft)
    (hmember : ∀ c, readMember limit d key c = readOnce key before reader keep c)
    (hbefore : before = none) (h : Reads reader value x) :
    ReadsMember (readMember limit) d key value (keep x) := by
  refine readsMember_of_reads h keep ?_
  intro c behind hcolon
  simp [hmember, readOnce, hbefore, hcolon]

theorem readsMembers_demanded {limit : Nat} (spec : RegionSpec)
    (hstart : Reads (LineTest.read limit) (spec.start.toJson id) spec.start)
    (hending : Reads (EndSpec.read limit) spec.ending.toJson spec.ending) :
    ReadsMembers (readMember limit) {}
      [("name", .str spec.name), ("start", spec.start.toJson id), ("end", spec.ending.toJson)]
      { name := some spec.name, start := some spec.start, ending := some spec.ending } := by
  refine .cons (readsMember_readOnce (fun x => { name := some x })
    (fun _ => rfl) rfl (reads_readText "a string" spec.name)) ?_
  refine .cons (readsMember_readOnce (fun x => { name := some spec.name, start := some x })
    (fun _ => rfl) rfl hstart) ?_
  exact .cons (readsMember_readOnce
    (fun x => { name := some spec.name, start := some spec.start, ending := some x })
    (fun _ => rfl) rfl hending) (.nil _)

theorem readsMembers_companion {limit : Nat} (companion : Option (LineTest String))
    (h : ∀ test ∈ companion, Reads (readCompanion limit) (test.toJson id) (some test))
    {d : Draft} (hd : d.companion = none) :
    ReadsMembers (readMember limit) d
      (companion.map fun test => ("also_remove_preceding_if", test.toJson id)).toList
      { d with companion := companion.map some } := by
  cases companion with
  | none =>
    have hsame : { d with companion := none } = d := by rw [← hd]
    simpa [hsame] using ReadsMembers.nil d
  | some test =>
    exact .cons (readsMember_readOnce (fun x => { d with companion := some x }) (fun _ => rfl) hd
      (h test rfl)) (.nil _)

theorem readsMembers_defaulted {limit : Nat} (spec : RegionSpec)
    (haction : Reads (Action.read limit) spec.action.toJson spec.action) {d : Draft}
    (hmultiplicity : d.multiplicity = none) (hrequired : d.required = none)
    (hd : d.action = none) :
    ReadsMembers (readMember limit) d
      [("multiplicity", .str spec.multiplicity.name), ("required", .bool spec.required),
        ("action", spec.action.toJson)]
      { d with
        multiplicity := some spec.multiplicity, required := some spec.required,
        action := some spec.action } := by
  refine .cons (readsMember_readOnce (fun x => { d with multiplicity := some x })
    (fun _ => rfl) hmultiplicity (reads_multiplicity _ spec.multiplicity)) ?_
  refine .cons (readsMember_readOnce
    (fun x => { d with multiplicity := some spec.multiplicity, required := some x })
    (fun _ => rfl) hrequired (reads_readBool spec.required)) ?_
  exact .cons (readsMember_readOnce
    (fun x => { d with
      multiplicity := some spec.multiplicity, required := some spec.required, action := some x })
    (fun _ => rfl) hd haction) (.nil _)

/-- **A region is read back**, whatever of it has been left out. -/
theorem reads_read {limit : Nat} (spec : RegionSpec) (hfits : spec.ending.Representable)
    (hdepth : spec.toJson.depth ≤ limit) : Reads (RegionSpec.read limit) spec.toJson spec := by
  rw [toJson_eq] at hdepth ⊢
  cases limit with
  | zero => exact absurd hdepth (Nat.not_succ_le_zero _)
  | succ limit =>
    have hstart := LineTest.reads_read limit spec.start
      (depth_member_le hdepth (m := ("start", spec.start.toJson id)) (by simp))
    have hending := EndSpec.reads_read spec.ending hfits
      (depth_member_le hdepth (m := ("end", spec.ending.toJson)) (by simp))
    have haction := reads_action spec.action
      (depth_member_le hdepth (m := ("action", spec.action.toJson)) (by simp))
    have hcompanion : ∀ test ∈ spec.companion,
        Reads (readCompanion limit) (test.toJson id) (some test) := fun test htest =>
      reads_companion test
        (depth_member_le hdepth (m := ("also_remove_preceding_if", test.toJson id)) (by simp_all))
    have hmembers := (readsMembers_demanded spec hstart hending).append
      ((readsMembers_companion spec.companion hcompanion rfl).append
        (readsMembers_defaulted spec haction rfl rfl rfl))
    have hdraft : ofDraft ⟨some spec.name, some spec.start, some spec.ending,
        spec.companion.map some, some spec.multiplicity, some spec.required,
        some spec.action⟩ = .ok spec := by
      cases spec with
      | mk _ _ _ companion _ _ _ => cases companion <;> rfl
    refine ⟨fun {text blanks rest} hspells hblanks _ offset => ?_⟩
    rw [RegionSpec.read.eq_def, skip_spelled hspells hblanks]
    cases hspells with
    | @obj _ text hspells =>
      have hobject : ∀ offset, Gives (readMembers limit ⟨text ++ rest, offset⟩) spec
          ('\x7d' :: rest) := by
        intro offset
        obtain ⟨behind, hall⟩ := gives_members_fuel hmembers hspells rest offset
        exact ⟨behind, by simp only [readMembers, hall, hdraft, judged]⟩
      exact gives_inObject hobject _

end RegionSpec

/-! ### What is printed can be spelled -/

mutual

theorem LineTest.plain_toJson : ∀ test : LineTest String, Plain (test.toJson id)
  | .contains _ => ⟨trivial, trivial⟩
  | .startsWith _ => ⟨trivial, trivial⟩
  | .pattern _ => ⟨trivial, trivial⟩
  | .blank => trivial
  | .any tests => ⟨LineTest.plain_toJsonAll tests, trivial⟩
  | .all tests => ⟨LineTest.plain_toJsonAll tests, trivial⟩
  | .negation test => ⟨LineTest.plain_toJson test, trivial⟩

theorem LineTest.plain_toJsonAll : ∀ tests : List (LineTest String),
    PlainItems (LineTest.toJsonAll id tests)
  | [] => trivial
  | test :: rest => ⟨LineTest.plain_toJson test, LineTest.plain_toJsonAll rest⟩

end

theorem plain_strings (texts : List String) : Plain (.strings texts) :=
  plainItems_map fun _ _ => trivial

theorem EndSpec.plain_toJson {ending : EndSpec} (h : ending.Representable) :
    Plain ending.toJson := by
  cases ending with
  | before test offset =>
    have htest := LineTest.plain_toJson test
    by_cases hzero : offset = 0
    · simp only [toJson, hzero, if_true]
      exact ⟨trivial, htest, trivial⟩
    · have hhigh : offset < 0x10000000000000000 := Int.lt_trans h.2 (by decide)
      simp only [toJson, hzero, if_false]
      exact ⟨trivial, htest, ⟨h.1, hhigh⟩, trivial⟩
  | sibling openings exclude =>
    cases exclude with
    | none => exact ⟨trivial, plain_strings openings, trivial⟩
    | some text => exact ⟨trivial, plain_strings openings, trivial, trivial⟩
  | balanced opening closing => exact ⟨trivial, trivial, trivial, trivial⟩
  | singleLine => exact ⟨trivial, trivial⟩

theorem Action.plain_toJson : ∀ action : Action, Plain action.toJson
  | .delete => trivial
  | .replace lines => ⟨plain_strings lines, trivial⟩

theorem RegionSpec.plain_toJson {spec : RegionSpec} (h : spec.ending.Representable) :
    Plain spec.toJson := by
  rw [toJson_eq]
  refine plainMembers_of_forall fun member hmember => ?_
  simp only [List.mem_append, List.mem_cons, List.not_mem_nil, or_false, Option.mem_toList,
    Option.map_eq_some_iff] at hmember
  rcases hmember with (rfl | rfl | rfl) | ⟨test, -, rfl⟩ | rfl | rfl | rfl
  · exact trivial
  · exact LineTest.plain_toJson spec.start
  · exact EndSpec.plain_toJson h
  · exact LineTest.plain_toJson test
  · exact trivial
  · exact trivial
  · exact Action.plain_toJson spec.action

/-! ### Plans -/

namespace Plan

/-- All offsets in the plan are machine words with a sign. -/
def Representable (plan : Plan) : Prop :=
  ∀ spec ∈ plan.regions, spec.ending.Representable

theorem plain_regionsJson {plan : Plan} (h : plan.Representable) : Plain plan.regionsJson :=
  plainItems_map fun spec hspec => RegionSpec.plain_toJson (h spec hspec)

theorem plain_toJson {plan : Plan} (h : plan.Representable) : Plain plan.toJson :=
  ⟨plain_regionsJson h, trivial⟩

/-- **The regions of a plan are read back**, one after the other. -/
theorem reads_readRegions {limit : Nat} {plan : Plan} (hfits : plan.Representable)
    (hdepth : plan.regionsJson.depth ≤ limit) :
    Reads (readRegions limit) plan.regionsJson plan.regions := by
  cases limit with
  | zero => exact absurd hdepth (Nat.not_succ_le_zero _)
  | succ limit =>
    exact reads_readList fun spec hspec => RegionSpec.reads_read spec (hfits spec hspec)
      (depth_item_le hdepth (List.mem_map_of_mem hspec))

theorem reads_read {limit : Nat} {plan : Plan} (hfits : plan.Representable)
    (hdepth : plan.toJson.depth ≤ limit) : Reads (Plan.read limit) plan.toJson plan := by
  cases limit with
  | zero => exact absurd hdepth (Nat.not_succ_le_zero _)
  | succ limit =>
    have hregions := reads_readRegions hfits (depth_member_le hdepth List.mem_cons_self)
    have hmember : ReadsMember (readMember limit) none "regions" plan.regionsJson
        (some plan.regions) := by
      refine readsMember_of_reads hregions some ?_
      intro c behind hcolon
      simp [readMember, hcolon]
    refine ⟨fun {text blanks rest} hspells hblanks _ offset => ?_⟩
    rw [Plan.read.eq_def, skip_spelled hspells hblanks]
    cases hspells with
    | @obj _ text hspells =>
      have hobject : ∀ offset, Gives (readMembers limit ⟨text ++ rest, offset⟩) plan
          ('\x7d' :: rest) := by
        intro offset
        obtain ⟨behind, hall⟩ := gives_members_fuel (.cons hmember (.nil _)) hspells rest offset
        exact ⟨behind, by simp only [readMembers, hall]; rfl⟩
      exact gives_inObject hobject _

/-! ### Which of the two it is -/

theorem isSpace_of_isBlank {c : Char} (h : Cursor.isBlank c = true) : Text.isSpace c = true := by
  simp only [Cursor.isBlank, Bool.or_eq_true, beq_iff_eq] at h
  rcases h with ((rfl | rfl) | rfl) | rfl <;> decide

/-- What is told from the first letter does not depend on the blanks in front of it. -/
theorem isBareList_cons {blanks : List Char} (h : Blanks blanks) {c : Char}
    (hc : Text.isSpace c = false) (rest : List Char) :
    isBareList (String.ofList (blanks ++ c :: rest)) = (c == '[') := by
  have htrim : Text.trimStart (blanks ++ c :: rest) = c :: rest := by
    rw [Text.trimStart, List.dropWhile_append_of_pos fun d hd => isSpace_of_isBlank (h d hd),
      List.dropWhile_cons_of_neg (by simp [hc])]
  simp [isBareList, htrim]

/-- **A plan is read from any text that spells it.** -/
theorem parse_of_spells {plan : Plan} (hfits : plan.Representable)
    (hdepth : plan.toJson.depth ≤ nestingLimit) {text before after : List Char}
    (hspells : Spells plan.toJson text) (hbefore : Blanks before) (hafter : Blanks after) :
    parse (String.ofList (before ++ (text ++ after))) = .ok plan := by
  have hwhole := whole_of_reads (reads_read hfits hdepth) hspells hbefore hafter
  have hform : isBareList (String.ofList (before ++ (text ++ after))) = false := by
    cases hspells
    exact isBareList_cons hbefore (by decide) _
  simp only [parse, decode, hform, hwhole, Bool.false_eq_true, if_false]

/-- **So is one of which a text spells the regions alone.** -/
theorem parse_of_spells_regions {plan : Plan} (hfits : plan.Representable)
    (hdepth : plan.regionsJson.depth ≤ nestingLimit) {text before after : List Char}
    (hspells : Spells plan.regionsJson text) (hbefore : Blanks before) (hafter : Blanks after) :
    parse (String.ofList (before ++ (text ++ after))) = .ok plan := by
  have hwhole := whole_of_reads (reads_readRegions hfits hdepth) hspells hbefore hafter
  have hform : isBareList (String.ofList (before ++ (text ++ after))) = true := by
    cases hspells
    exact isBareList_cons hbefore (by decide) _
  simp only [parse, decode, hform, hwhole, if_true, Except.map]

/-- **A plan is read back as it was printed**, in either of its two forms and by either printer,
as long as the text nests less than 128 deep. -/
theorem parse_print (plan : Plan) (hfits : plan.Representable) :
    (plan.toJson.depth < 128 →
      parse plan.print = .ok plan ∧ parse plan.toJson.pretty = .ok plan) ∧
    (plan.regionsJson.depth < 128 →
      parse plan.regionsJson.print = .ok plan ∧ parse plan.regionsJson.pretty = .ok plan) := by
  have hplain := plain_toJson hfits
  have hregions := plain_regionsJson hfits
  refine ⟨fun hdepth => ?_, fun hdepth => ?_⟩
  · have hread : ∀ text, Spells plan.toJson text → parse (String.ofList text) = .ok plan := by
      intro text hspells
      simpa using parse_of_spells hfits (Nat.le_of_lt_succ hdepth) hspells blanks_nil blanks_nil
    exact ⟨hread _ (spells_chars hplain), hread _ (spells_prettyChars 0 hplain)⟩
  · have hread : ∀ text, Spells plan.regionsJson text → parse (String.ofList text) = .ok plan := by
      intro text hspells
      simpa using
        parse_of_spells_regions hfits (Nat.le_of_lt_succ hdepth) hspells blanks_nil blanks_nil
    exact ⟨hread _ (spells_chars hregions), hread _ (spells_prettyChars 0 hregions)⟩

/-- A plan in which every kind of test, rule and action occurs, with texts that have to be
escaped. -/
def specimen : Plan where
  regions := [
    { name := "a \"quoted\" name\n"
      start := .any [.contains "\x00\x1f\\", .all [.blank, .negation (.pattern "é+\t")],
        .startsWith "日本"]
      ending := .before (.negation .blank) (-0x8000000000000000)
      companion := some (.startsWith "#[")
      multiplicity := .all
      required := false
      action := .replace ["fn f() \x7b", "\r", ""] },
    { name := "siblings"
      start := .contains "mod"
      ending := .sibling ["fn ", "pub fn "] (some "fn main")
      companion := none
      multiplicity := .first
      required := true
      action := .delete },
    { name := "brackets"
      start := .pattern "^class"
      ending := .balanced "\x7b" "\x7d"
      companion := some .blank
      multiplicity := .first
      required := false
      action := .replace [] },
    { name := ""
      start := .blank
      ending := .singleLine
      companion := none
      multiplicity := .all
      required := true
      action := .delete }]

theorem specimen_representable : specimen.Representable := by
  intro spec hspec
  simp only [specimen, List.mem_cons, List.not_mem_nil, or_false] at hspec
  rcases hspec with rfl | rfl | rfl | rfl
  · exact ⟨by decide, by decide⟩
  · exact trivial
  · exact trivial
  · exact trivial

theorem parse_print_specimen :
    parse specimen.print = .ok specimen ∧ parse specimen.toJson.pretty = .ok specimen ∧
    parse specimen.regionsJson.print = .ok specimen ∧
    parse specimen.regionsJson.pretty = .ok specimen := by
  have hread := parse_print specimen specimen_representable
  have hplan := hread.1 (by decide)
  have hregions := hread.2 (by decide)
  exact ⟨hplan.1, hplan.2, hregions.1, hregions.2⟩

end Plan

end LineCut
