/-
Reading plans.

Regions and tests are read straight from the text, so that a fault is reported where it stands.
The rule for the end of a region cannot be: which members it has depends on the member `rule`,
and that may come last.  So it is read as a value first and taken apart afterwards, and what is
wrong with its members is reported at the end of the value.

A region may also be written as an array of its members in their order, of which those that have
defaults may be missing at the end, and a rule as an array that begins with its name.  Alternatives
are written as an object with one member, whose key is the name of the alternative, or as that
name alone if nothing belongs to it.
-/
import LineCut.Plan
import LineCut.Json.Reader

namespace LineCut

open Json (Complaint Cursor Failure Read)

/-! ### Alternatives -/

/-- The names of the tests. -/
def LineTest.names : List String :=
  ["contains", "starts_with", "pattern", "blank", "any", "all", "not"]

/-- The names of the rules. -/
def EndSpec.names : List String :=
  ["before", "sibling", "balanced", "single_line"]

/-- What the name alone means, for a test to which nothing belongs. -/
def LineTest.ofName? : String → Option (LineTest String)
  | "blank" => some .blank
  | _ => none

/-- How often, by name. -/
def Multiplicity.ofName? : String → Option Multiplicity
  | "first" => some .first
  | "all" => some .all
  | _ => none

/-- What becomes of the lines, for an action to which nothing belongs. -/
def Action.ofName? : String → Option Action
  | "delete" => some .delete
  | _ => none

/-- The complaint about a name that stands alone although something belongs to it. -/
def bareName : Complaint :=
  .wrongType "unit variant" "newtype variant"

/-- The name of an alternative, which has to be a known one. -/
def readName (known : List String) (c : Cursor) : Read String :=
  match Json.readText "variant identifier" c with
  | .error failure => .error failure
  | .ok (name, c) =>
    if known.contains name then .ok (name, c) else .error (c.stop (.unknownVariant name known))

/-- The name of an alternative that is the key of the only member of an object. -/
def readKey (known : List String) (c : Cursor) : Read String :=
  let c := c.skip
  match c.rest with
  | [] => .error (c.refuse .endInObject)
  | '"' :: _ => readName known c
  | '\x7d' :: _ => .error (c.refuse .noValue)
  | _ => .error (c.refuse .keyNotString)

/-- Null, which is what belongs to an alternative to which nothing belongs. -/
def readNull (c : Cursor) : Read Unit :=
  let c := c.skip
  match c.rest with
  | [] => .error (c.refuse .endInValue)
  | 'n' :: _ => (Json.word ['u', 'l', 'l'] c.next).map fun c => ((), c)
  | _ => .error (Json.mismatch "unit" c)

/-- The brace that closes an alternative, behind the only member there may be. -/
def closeAlternative (c : Cursor) : Except Failure Cursor :=
  let c := c.skip
  match c.rest with
  | [] => .error (c.stop .endInObject)
  | '\x7d' :: _ => .ok c.next
  | _ => .error (c.stop .noValue)

/-- One of several alternatives.  `alone` says what a name without anything means, and `inside`
reads what belongs to a name; it is missing where no bracket may be opened. -/
def readAlternative {α : Type} (known : List String) (alone : String → Option α)
    (inside : Option (String → Cursor → Read α)) (c : Cursor) : Read α :=
  let c := c.skip
  match c.rest with
  | [] => .error (c.refuse .endInValue)
  | '"' :: _ =>
    match readName known c with
    | .error failure => .error failure
    | .ok (name, c) =>
      match alone name with
      | some x => .ok (x, c)
      | none => .error (c.drift bareName)
  | '\x7b' :: _ =>
    match inside with
    | none => .error (c.refuse .tooDeep)
    | some inside =>
      match readKey known c.next with
      | .error failure => .error failure
      | .ok (name, c) =>
        match Json.colon c with
        | .error failure => .error failure
        | .ok c =>
          match inside name c with
          | .error failure => .error failure
          | .ok (x, c) => (closeAlternative c).map fun c => (x, c)
  | _ => .error (c.refuse .noValue)

/-- A text that says what is looked for. -/
def readString (c : Cursor) : Read String :=
  Json.readText "a string" c

/-! ### Tests -/

/-- What belongs to a test of the given name; `inner` reads the test in a negation and `items`
the tests in a list, and is missing where no bracket may be opened. -/
def LineTest.readInside (inner : Cursor → Read (LineTest String))
    (items : Option (Cursor → Read (LineTest String))) (name : String) (c : Cursor) :
    Read (LineTest String) :=
  match name with
  | "contains" => (readString c).map fun (text, c) => (.contains text, c)
  | "starts_with" => (readString c).map fun (text, c) => (.startsWith text, c)
  | "pattern" => (readString c).map fun (text, c) => (.pattern text, c)
  | "blank" => (readNull c).map fun (_, c) => (.blank, c)
  | "any" => (Json.readList items c).map fun (tests, c) => (.any tests, c)
  | "all" => (Json.readList items c).map fun (tests, c) => (.all tests, c)
  | _ => (inner c).map fun (test, c) => (.negation test, c)

/-- A test inside which so many brackets may be open at once. -/
def LineTest.read : Nat → Cursor → Read (LineTest String)
  | 0 => readAlternative names ofName? none
  | 1 => readAlternative names ofName? (some (readInside (LineTest.read 0) none))
  | limit + 2 =>
    readAlternative names ofName?
      (some (readInside (LineTest.read (limit + 1)) (some (LineTest.read limit))))

/-! ### The parts of a rule that has been read as a value -/

/-- A text. -/
def textOf : Json → Except Complaint String
  | .str text => .ok text
  | value => .error (.wrongType value.found "a string")

/-- Texts in order. -/
def textsOf : Json → Except Complaint (List String)
  | .arr items => items.mapM textOf
  | value => .error (.wrongType value.found "a sequence")

/-- A text or null. -/
def optionalTextOf : Json → Except Complaint (Option String)
  | .null => .ok none
  | value => (textOf value).map some

/-- A number of lines, with a sign, in 64 bits. -/
def linesOf : Json → Except Complaint Int
  | .int n =>
    if -0x8000000000000000 ≤ n ∧ n < 0x8000000000000000 then .ok n
    else .error (.wrongValue (Json.int n).found "isize")
  | value => .error (.wrongType value.found "isize")

/-- Nothing. -/
def nothingOf : Json → Except Complaint Unit
  | .null | .obj [] => .ok ()
  | value => .error (.wrongType value.found "unit")

/-- An alternative whose name is not known. -/
def checkName (known : List String) (name : String) : Except Complaint String :=
  if known.contains name then .ok name else .error (.unknownVariant name known)

mutual

/-- A test. -/
def LineTest.ofJson : Json → Except Complaint (LineTest String)
  | .str name =>
    match checkName names name with
    | .error complaint => .error complaint
    | .ok name => (ofName? name).elim (.error bareName) .ok
  | .obj [(name, value)] =>
    match checkName names name with
    | .error complaint => .error complaint
    | .ok "contains" => (textOf value).map .contains
    | .ok "starts_with" => (textOf value).map .startsWith
    | .ok "pattern" => (textOf value).map .pattern
    | .ok "blank" => (nothingOf value).map fun _ => .blank
    | .ok "any" => (LineTest.listOfJson value).map .any
    | .ok "all" => (LineTest.listOfJson value).map .all
    | .ok _ => (LineTest.ofJson value).map .negation
  | .obj _ => .error (.wrongValue "map" "map with a single key")
  | value => .error (.wrongType value.found "string or map")
termination_by structural value => value

/-- An array of tests. -/
def LineTest.listOfJson : Json → Except Complaint (List (LineTest String))
  | .arr items => LineTest.allOfJson items
  | value => .error (.wrongType value.found "a sequence")
termination_by structural value => value

/-- Tests in order. -/
def LineTest.allOfJson : List Json → Except Complaint (List (LineTest String))
  | [] => .ok []
  | item :: rest =>
    match LineTest.ofJson item with
    | .error complaint => .error complaint
    | .ok test => (LineTest.allOfJson rest).map (test :: ·)
termination_by structural items => items

end

/-! ### Rules -/

/-- Go through the members of a rule.  A member it does not know is passed over. -/
def gather {σ : Type} (member : σ → String → Json → Except Complaint σ) :
    σ → List (String × Json) → Except Complaint σ
  | state, [] => .ok state
  | state, (key, value) :: rest =>
    match member state key value with
    | .error complaint => .error complaint
    | .ok state => gather member state rest

/-- Take a member that has not been there before. -/
def once {α : Type} (key : String) (before : Option α) (value : Except Complaint α) :
    Except Complaint (Option α) :=
  match before with
  | some _ => .error (.duplicateField key)
  | none => value.map some

/-- A member that has to be there. -/
def demand {α : Type} (key : String) : Option α → Except Complaint α
  | some x => .ok x
  | none => .error (.missingField key)

/-- What a rule written as an array is called when it is too short or too long. -/
def elementCount (count : Nat) : String :=
  if count = 1 then "1 element in sequence" else toString count ++ " elements in sequence"

/-- The items of a rule beyond those it has members for. -/
def noMore (taken : Nat) (rest : List Json) : Except Complaint Unit :=
  if rest.isEmpty then .ok ()
  else .error (.wrongLength (taken + rest.length) (elementCount taken))

/-- The rule that ends before a line, from its members. -/
def EndSpec.beforeOf : List (String × Json) → Except Complaint EndSpec := fun members => do
  let (test, offset) ← gather (fun (test, offset) key value =>
    match key with
    | "matcher" => (once key test (LineTest.ofJson value)).map fun test => (test, offset)
    | "offset" => (once key offset (linesOf value)).map fun offset => (test, offset)
    | _ => .ok (test, offset)) ((none, none) : Option (LineTest String) × Option Int) members
  let test ← demand "matcher" test
  return .before test (offset.getD 0)

/-- The rule that ends before a sibling, from its members. -/
def EndSpec.siblingOf : List (String × Json) → Except Complaint EndSpec := fun members => do
  let (openings, exclude) ← gather (fun (openings, exclude) key value =>
    match key with
    | "prefixes" => (once key openings (textsOf value)).map fun openings => (openings, exclude)
    | "exclude" => (once key exclude (optionalTextOf value)).map fun exclude => (openings, exclude)
    | _ => .ok (openings, exclude))
    ((none, none) : Option (List String) × Option (Option String)) members
  let openings ← demand "prefixes" openings
  return .sibling openings (exclude.getD none)

/-- The rule that balances delimiters, from its members. -/
def EndSpec.balancedOf : List (String × Json) → Except Complaint EndSpec := fun members => do
  let (opening, closing) ← gather (fun (opening, closing) key value =>
    match key with
    | "open" => (once key opening (textOf value)).map fun opening => (opening, closing)
    | "close" => (once key closing (textOf value)).map fun closing => (opening, closing)
    | _ => .ok (opening, closing)) ((none, none) : Option String × Option String) members
  let opening ← demand "open" opening
  let closing ← demand "close" closing
  return .balanced opening closing

/-- The rule of the given name, from its members. -/
def EndSpec.ofMembers (name : String) (members : List (String × Json)) :
    Except Complaint EndSpec :=
  match name with
  | "before" => beforeOf members
  | "sibling" => siblingOf members
  | "balanced" => balancedOf members
  | _ => .ok .singleLine

/-- The rule of the given name, from the items behind the name. -/
def EndSpec.ofItems (name : String) (items : List Json) : Except Complaint EndSpec :=
  match name, items with
  | "before", [] => .error (.wrongLength 0 "struct variant EndRule::Before with 2 elements")
  | "before", [test] => return .before (← LineTest.ofJson test) 0
  | "before", test :: offset :: rest => do
    let test ← LineTest.ofJson test
    let offset ← linesOf offset
    noMore 2 rest
    return .before test offset
  | "sibling", [] => .error (.wrongLength 0 "struct variant EndRule::Sibling with 2 elements")
  | "sibling", [openings] => return .sibling (← textsOf openings) none
  | "sibling", openings :: exclude :: rest => do
    let openings ← textsOf openings
    let exclude ← optionalTextOf exclude
    noMore 2 rest
    return .sibling openings exclude
  | "balanced", [] => .error (.wrongLength 0 "struct variant EndRule::Balanced with 2 elements")
  | "balanced", [opening] => do
    let _ ← textOf opening
    .error (.wrongLength 1 "struct variant EndRule::Balanced with 2 elements")
  | "balanced", opening :: closing :: rest => do
    let opening ← textOf opening
    let closing ← textOf closing
    noMore 2 rest
    return .balanced opening closing
  | _, items => do
    noMore 0 items
    return .singleLine

/-- A member of a rule: its name, or something kept for later. -/
def EndSpec.readMember (value : Cursor → Read Json)
    (before : Option String × List (String × Json)) (key : String) (c : Cursor) :
    Read (Option String × List (String × Json)) :=
  if key = "rule" then
    if before.1.isSome then .error (c.drift (.duplicateField key))
    else
      match Json.colon c with
      | .error failure => .error failure
      | .ok c => (readName names c).map fun (name, c) => ((some name, before.2), c)
  else (Json.anyMember value before.2 key c).map fun (kept, c) => ((before.1, kept), c)

/-- A rule as an object: its name and its other members. -/
def EndSpec.readObject (value : Cursor → Read Json) (c : Cursor) :
    Read (String × List (String × Json)) :=
  match Json.members (readMember value) c.fuel true (none, []) c with
  | .error failure => .error failure
  | .ok ((some name, kept), c) => .ok ((name, kept), c)
  | .ok ((none, _), c) => .error (c.drift (.missingField "rule"))

/-- A rule as an array: its name and its other items. -/
def EndSpec.readArray (value : Cursor → Read Json) (c : Cursor) : Read (String × List Json) :=
  match Json.nextItem true c with
  | .error failure => .error failure
  | .ok (false, c) => .error (c.drift (.missingField "rule"))
  | .ok (true, c) =>
    match readName names c with
    | .error failure => .error failure
    | .ok (name, c) =>
      (Json.items value c.fuel false c).map fun (kept, c) => ((name, kept), c)

/-- Give a complaint about a value that has been read the cursor behind it. -/
def judged {α : Type} (c : Cursor) : Except Complaint α → Read α
  | .ok x => .ok (x, c)
  | .error complaint => .error (c.drift complaint)

/-- A rule inside which so many brackets may be open at once. -/
def EndSpec.read (limit : Nat) (c : Cursor) : Read EndSpec :=
  let c := c.skip
  match c.rest, limit with
  | [], _ => .error (c.refuse .endInValue)
  | '\x7b' :: _, 0 | '[' :: _, 0 => .error (c.refuse .tooDeep)
  | '\x7b' :: _, limit + 1 =>
    match Json.inObject (readObject (Json.value limit)) c with
    | .error failure => .error failure
    | .ok ((name, members), c) => judged c (ofMembers name members)
  | '[' :: _, limit + 1 =>
    match Json.inArray (readArray (Json.value limit)) c with
    | .error failure => .error failure
    | .ok ((name, items), c) => judged c (ofItems name items)
  | _, _ => .error (Json.mismatch "internally tagged enum EndRule" c)

/-! ### Regions -/

/-- How often, inside which a bracket may be open if `nested` says so. -/
def Multiplicity.read (nested : Bool) (c : Cursor) : Read Multiplicity :=
  readAlternative ["first", "all"] ofName?
    (if nested then
      some fun name c => (readNull c).map fun (_, c) => ((ofName? name).getD .first, c)
    else none) c

/-- What becomes of the lines, inside which so many brackets may be open at once. -/
def Action.read (limit : Nat) (c : Cursor) : Read Action :=
  let inside := fun (name : String) (c : Cursor) =>
    match name with
    | "delete" => (readNull c).map fun (_, c) => (Action.delete, c)
    | _ =>
      (Json.readList (if limit ≤ 1 then none else some readString) c).map fun (lines, c) =>
        (Action.replace lines, c)
  readAlternative ["delete", "replace"] ofName? (if limit = 0 then none else some inside) c

/-- A test or null. -/
def readCompanion (limit : Nat) (c : Cursor) : Read (Option (LineTest String)) :=
  let c := c.skip
  match c.rest with
  | 'n' :: _ => (Json.word ['u', 'l', 'l'] c.next).map fun c => (none, c)
  | _ => (LineTest.read limit c).map fun (test, c) => (some test, c)

namespace RegionSpec

/-- The members of a region. -/
def fields : List String :=
  ["name", "start", "end", "also_remove_preceding_if", "multiplicity", "required", "action"]

/-- The members of a region that have been read so far. -/
structure Draft where
  name : Option String := none
  start : Option (LineTest String) := none
  ending : Option EndSpec := none
  companion : Option (Option (LineTest String)) := none
  multiplicity : Option Multiplicity := none
  required : Option Bool := none
  action : Option Action := none

/-- Read a member that has not been there before. -/
def readOnce {α : Type} (key : String) (before : Option α) (reader : Cursor → Read α)
    (keep : α → Draft) (c : Cursor) : Read Draft :=
  if before.isSome then .error (c.drift (.duplicateField key))
  else
    match Json.colon c with
    | .error failure => .error failure
    | .ok c => (reader c).map fun (x, c) => (keep x, c)

/-- Read a member, inside which so many brackets may be open at once. -/
def readMember (limit : Nat) (d : Draft) (key : String) (c : Cursor) : Read Draft :=
  match key with
  | "name" => readOnce key d.name readString (fun x => { d with name := some x }) c
  | "start" =>
    readOnce key d.start (LineTest.read limit) (fun x => { d with start := some x }) c
  | "end" => readOnce key d.ending (EndSpec.read limit) (fun x => { d with ending := some x }) c
  | "also_remove_preceding_if" =>
    readOnce key d.companion (readCompanion limit) (fun x => { d with companion := some x }) c
  | "multiplicity" =>
    readOnce key d.multiplicity (Multiplicity.read (limit != 0))
      (fun x => { d with multiplicity := some x }) c
  | "required" => readOnce key d.required Json.readBool (fun x => { d with required := some x }) c
  | "action" =>
    readOnce key d.action (Action.read limit) (fun x => { d with action := some x }) c
  | _ => .error (c.drift (.unknownField key fields))

/-- The region of a draft.  Three members have to be there; the others have defaults. -/
def ofDraft (d : Draft) : Except Complaint RegionSpec :=
  match d.name, d.start, d.ending with
  | none, _, _ => .error (.missingField "name")
  | _, none, _ => .error (.missingField "start")
  | _, _, none => .error (.missingField "end")
  | some name, some start, some ending =>
    .ok {
      name
      start
      ending
      companion := d.companion.getD none
      multiplicity := d.multiplicity.getD .first
      required := d.required.getD true
      action := d.action.getD .delete }

/-- A region as the members of an object. -/
def readMembers (limit : Nat) (c : Cursor) : Read RegionSpec :=
  match Json.members (readMember limit) c.fuel true {} c with
  | .error failure => .error failure
  | .ok (draft, c) => judged c (ofDraft draft)

/-- The next item of a region written as an array, which has to be there. -/
def readItem {α : Type} (index : Nat) (reader : Cursor → Read α) (c : Cursor) : Read α :=
  match Json.nextItem (index == 0) c with
  | .error failure => .error failure
  | .ok (false, c) => .error (c.drift (.wrongLength index "struct RegionSpec with 7 elements"))
  | .ok (true, c) => reader c

/-- The next item of a region written as an array, if there is one. -/
def readItem? {α : Type} (reader : Cursor → Read α) (default : α) (c : Cursor) : Read α :=
  match Json.nextItem false c with
  | .error failure => .error failure
  | .ok (false, c) => .ok (default, c)
  | .ok (true, c) => reader c

/-- A region as the items of an array. -/
def readItems (limit : Nat) (c : Cursor) : Read RegionSpec :=
  match readItem 0 readString c with
  | .error failure => .error failure
  | .ok (name, c) =>
    match readItem 1 (LineTest.read limit) c with
    | .error failure => .error failure
    | .ok (start, c) =>
      match readItem 2 (EndSpec.read limit) c with
      | .error failure => .error failure
      | .ok (ending, c) =>
        match readItem? (readCompanion limit) none c with
        | .error failure => .error failure
        | .ok (companion, c) =>
          match readItem? (Multiplicity.read (limit != 0)) .first c with
          | .error failure => .error failure
          | .ok (multiplicity, c) =>
            match readItem? Json.readBool true c with
            | .error failure => .error failure
            | .ok (required, c) =>
              (readItem? (Action.read limit) .delete c).map fun (action, c) =>
                (⟨name, start, ending, companion, multiplicity, required, action⟩, c)

/-- A region inside which so many brackets may be open at once. -/
def read (limit : Nat) (c : Cursor) : Read RegionSpec :=
  let c := c.skip
  match c.rest, limit with
  | [], _ => .error (c.refuse .endInValue)
  | '\x7b' :: _, 0 | '[' :: _, 0 => .error (c.refuse .tooDeep)
  | '\x7b' :: _, limit + 1 => Json.inObject (readMembers limit) c
  | '[' :: _, limit + 1 => Json.inArray (readItems limit) c
  | _, _ => .error (Json.mismatch "struct RegionSpec" c)

end RegionSpec

/-! ### Plans -/

namespace Plan

/-- The regions of a plan, inside whose list so many brackets may be open at once. -/
def readRegions (limit : Nat) (c : Cursor) : Read (List RegionSpec) :=
  match limit with
  | 0 => Json.readList none c
  | limit + 1 => Json.readList (some (RegionSpec.read limit)) c

/-- The only member of a plan. -/
def readMember (limit : Nat) (before : Option (List RegionSpec)) (key : String) (c : Cursor) :
    Read (Option (List RegionSpec)) :=
  if key ≠ "regions" then .error (c.drift (.unknownField key ["regions"]))
  else if before.isSome then .error (c.drift (.duplicateField key))
  else
    match Json.colon c with
    | .error failure => .error failure
    | .ok c => (readRegions limit c).map fun (regions, c) => (some regions, c)

/-- A plan as the members of an object. -/
def readMembers (limit : Nat) (c : Cursor) : Read Plan :=
  match Json.members (readMember limit) c.fuel true none c with
  | .error failure => .error failure
  | .ok (regions, c) => judged c ((demand "regions" regions).map Plan.mk)

/-- A plan as an object. -/
def read (limit : Nat) (c : Cursor) : Read Plan :=
  let c := c.skip
  match c.rest, limit with
  | [], _ => .error (c.refuse .endInValue)
  | '\x7b' :: _, 0 => .error (c.refuse .tooDeep)
  | '\x7b' :: _, limit + 1 => Json.inObject (readMembers limit) c
  | _, _ => .error (Json.mismatch "struct SurgeryPlan" c)

/-- A text that begins with an opening bracket, white space aside, is a list of regions. -/
def isBareList (text : String) : Bool :=
  (Text.trimStart text.toList).head? == some '['

/-- Read a plan, or a list of regions, which is a plan without the object around it. -/
def decode (text : String) : Except Failure Plan :=
  if isBareList text then (Json.whole (readRegions Json.nestingLimit) text).map Plan.mk
  else Json.whole (read Json.nestingLimit) text

/-- Read a plan.  The fault shows the beginning of the text. -/
def parse (text : String) : Except Fault Plan :=
  match decode text with
  | .ok plan => .ok plan
  | .error failure =>
    .error (.invalidJson (failure.message text) "parse surgery plan"
      (String.ofList (text.toList.take 200)))

end Plan

end LineCut
