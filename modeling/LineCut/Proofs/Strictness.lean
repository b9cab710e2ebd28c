/-
A misspelled member.

A plan refuses members that the format does not define, since a member that is passed over is a
wish that is not granted, and what is cut depends on it.  The object around the regions keeps to
that, and so does every region.  The rule for the end of a region does not.  It is read as a value
first, and of the members that are left in it only those are looked at that a rule of its name has.

Both are read off the format.  A text is a plan only if all members of its plan and its regions are
defined.  And two texts that differ in nothing but undefined members of rules are the same plan, so
that a misspelled offset moves nothing and is not complained of.
-/
import Mathlib
import LineCut.Proofs.Format

namespace LineCut

open Json

/-- All members of an object have one of the names. -/
def Json.KeysAmong (known : List String) : Json → Prop
  | .obj members => ∀ member ∈ members, member.1 ∈ known
  | _ => True

/-! ### Where the objects of a plan are -/

namespace EndSpec

/-- The members that a rule of the name has. -/
def fields : String → List String
  | "before" => ["rule", "matcher", "offset"]
  | "sibling" => ["rule", "prefixes", "exclude"]
  | "balanced" => ["rule", "open", "close"]
  | _ => ["rule"]

/-- The name of a rule, if it has one and only one. -/
def nameOf (members : List (String × Json)) : Option String :=
  match members.filter (·.1 == "rule") with
  | [(_, .str name)] => some name
  | _ => none

/-- A rule without the members that its name does not define. -/
def trim : Json → Json
  | .obj members =>
    match nameOf members with
    | some name => .obj (members.filter fun member => (fields name).contains member.1)
    | none => .obj members
  | value => value

/-- The rule has no members but those that its name defines. -/
def Defined : Json → Prop
  | .obj members => ∀ name, nameOf members = some name → Json.KeysAmong (fields name) (.obj members)
  | _ => True

end EndSpec

namespace RegionSpec

/-- The values in the place of a region's rule, of which there is one if the region is read. -/
def ruleValues : Json → List Json
  | .obj members => (members.filter (·.1 == "end")).map (·.2)
  | .arr (_ :: _ :: ending :: _) => [ending]
  | _ => []

/-- A region with its rule changed. -/
def mapRule (f : Json → Json) : Json → Json
  | .obj members => .obj (members.map fun member =>
    if member.1 = "end" then (member.1, f member.2) else member)
  | .arr (name :: start :: ending :: rest) => .arr (name :: start :: f ending :: rest)
  | value => value

end RegionSpec

namespace Plan

/-- The items of a value, which has some only if it is an array. -/
def itemsOf : Json → List Json
  | .arr items => items
  | _ => []

/-- An array with its items changed. -/
def mapItems (f : Json → Json) : Json → Json
  | .arr items => .arr (items.map f)
  | value => value

/-- The regions of a plan. -/
def regionValues : Json → List Json
  | .obj members => members.flatMap fun member => itemsOf member.2
  | value => itemsOf value

/-- A plan with its regions changed. -/
def mapRegions (f : Json → Json) : Json → Json
  | .obj members => .obj (members.map fun member => (member.1, mapItems f member.2))
  | value => mapItems f value

/-- A plan without the members that its rules do not define. -/
def trimRules : Json → Json :=
  mapRegions (RegionSpec.mapRule EndSpec.trim)

/-- The members of the plan and of its regions are those of the format. -/
structure Defined (value : Json) : Prop where
  plan : value.KeysAmong ["regions"]
  regions : ∀ region ∈ regionValues value, region.KeysAmong RegionSpec.fields

/-- So are those of the rules. -/
def RulesDefined (value : Json) : Prop :=
  ∀ region ∈ regionValues value, ∀ rule ∈ RegionSpec.ruleValues region, EndSpec.Defined rule

end Plan

/-! ### Members that are refused -/

/-- Each of the members is taken in one of the steps. -/
theorem Json.Steps.exists_step {σ : Type} {step : σ → String × Json → σ → Prop} {state after : σ}
    {entries : List (String × Json)} (h : Steps step state entries after) {entry : String × Json}
    (hentry : entry ∈ entries) : ∃ before next, step before entry next := by
  induction h with
  | nil => cases hentry
  | cons hstep _ ih =>
    rcases List.mem_cons.mp hentry with rfl | hrest
    · exact ⟨_, _, hstep⟩
    · exact ih hrest

theorem RegionSpec.mem_fields_of_sets {d after : Draft} {entry : String × Json}
    (h : Sets d entry after) : entry.1 ∈ fields := by
  unfold Sets at h
  split at h
  case h_8 => exact h.elim
  all_goals
    next heq => rw [heq]; decide

/-- **A region has no members but its own.** -/
theorem RegionSpec.Means.keysAmong {v : Json} {spec : RegionSpec} (h : Means v spec) :
    v.KeysAmong fields := by
  cases h with
  | members hsteps _ =>
    intro member hmember
    obtain ⟨_, _, hstep⟩ := hsteps.exists_step hmember
    exact mem_fields_of_sets hstep
  | items => trivial

/-- **So has a plan, and all of its regions.** -/
theorem Plan.Means.defined {v : Json} {plan : Plan} (h : Means v plan) : Defined v := by
  have hregions : ∀ {items : List Json} {regions : List RegionSpec},
      List.Forall₂ RegionSpec.Means items regions →
      ∀ region ∈ items, region.KeysAmong RegionSpec.fields := by
    intro items regions hall
    induction hall with
    | nil => simp
    | cons hmeans _ ih => exact List.forall_mem_cons.mpr ⟨hmeans.keysAmong, ih⟩
  cases h with
  | bare h =>
    obtain ⟨items, rfl, hall⟩ := h
    exact ⟨trivial, hregions hall⟩
  | object h =>
    obtain ⟨items, rfl, hall⟩ := h
    refine ⟨by simp [KeysAmong], ?_⟩
    simpa [regionValues, itemsOf] using hregions hall

/-! ### Members that are passed over -/

theorem gather_filter {σ : Type} {member : σ → String → Json → Except Complaint σ}
    (known : String → Bool) (h : ∀ state key value, known key = false →
      member state key value = .ok state) (state : σ) (members : List (String × Json)) :
    gather member state (members.filter fun m => known m.1) = gather member state members := by
  induction members generalizing state with
  | nil => rfl
  | cons entry rest ih =>
    obtain ⟨key, value⟩ := entry
    cases hkey : known key with
    | false => simp [hkey, gather, h, ih]
    | true =>
      simp only [hkey, List.filter_cons_of_pos, gather]
      split
      · rfl
      · exact ih _

namespace EndSpec

/-- **A rule is made of the members it defines**, whatever else is among them. -/
theorem ofMembers_filter (name : String) (members : List (String × Json)) :
    ofMembers name (members.filter fun member => (fields name).contains member.1) =
      ofMembers name members := by
  unfold ofMembers
  split
  case h_4 => rfl
  -- What is left to show of each rule is that its members are all that it looks at.
  all_goals
    simp only [beforeOf, siblingOf, balancedOf]
    rw [gather_filter fun key => (fields _).contains key]
    rintro ⟨_, _⟩ key value hkey
    simp only
    split
    · simp [fields] at hkey
    · simp [fields] at hkey
    · rfl

theorem nameOf_eq_some_iff {members : List (String × Json)} {name : String} :
    nameOf members = some name ↔ members.filter (·.1 == "rule") = [("rule", .str name)] := by
  unfold nameOf
  split
  · next key found hfilter =>
    have hkey : key = "rule" := by
      have hmem : (key, Json.str found) ∈ members.filter (·.1 == "rule") := by simp [hfilter]
      simpa using (List.mem_filter.mp hmem).2
    simp [hfilter, hkey]
  · next hother =>
    simp only [reduceCtorEq, false_iff]
    exact hother _ _

theorem means_obj_iff {members : List (String × Json)} {ending : EndSpec} :
    Means (.obj members) ending ↔ ∃ name ∈ names, nameOf members = some name ∧
      ofMembers name (members.filter (·.1 != "rule")) = .ok ending := by
  simp only [nameOf_eq_some_iff]
  constructor
  · rintro ⟨hrule, hname, h⟩
    exact ⟨_, hname, hrule, h⟩
  · rintro ⟨name, hname, hrule, h⟩
    exact .members hrule hname h

/-- The name is defined for every rule. -/
theorem nameOf_filter {members : List (String × Json)} {name : String}
    (h : nameOf members = some name) :
    nameOf (members.filter fun member => (fields name).contains member.1) = some name := by
  have hrule : (fields name).contains "rule" = true := by
    unfold fields
    split <;> decide
  rw [nameOf_eq_some_iff] at h ⊢
  rw [← h, List.filter_filter]
  refine List.filter_congr fun member _ => ?_
  by_cases hkey : member.1 = "rule"
  · simp only [hkey, hrule, Bool.and_true]
  · simp [hkey]

/-- **A rule means the same without the members that it does not define.** -/
theorem means_trim_iff {v : Json} {ending : EndSpec} : Means (trim v) ending ↔ Means v ending := by
  cases v with
  | obj members =>
    cases hname : nameOf members with
    | none => simp only [trim, hname]
    | some name =>
      have hkept : (members.filter fun member => (fields name).contains member.1).filter
          (·.1 != "rule") = (members.filter (·.1 != "rule")).filter
          fun member => (fields name).contains member.1 := by
        simp only [List.filter_filter, Bool.and_comm]
      have hof : ofMembers name ((members.filter fun member =>
          (fields name).contains member.1).filter (·.1 != "rule")) =
          ofMembers name (members.filter (·.1 != "rule")) := by
        rw [hkept, ofMembers_filter]
      simp only [trim, hname, means_obj_iff, nameOf_filter hname, Option.some.injEq]
      constructor
      · rintro ⟨_, hknown, rfl, h⟩
        exact ⟨name, hknown, rfl, hof ▸ h⟩
      · rintro ⟨_, hknown, rfl, h⟩
        exact ⟨name, hknown, rfl, hof ▸ h⟩
  | _ => exact Iff.rfl

end EndSpec

/-- Members that are changed to others that do the same come to the same. -/
theorem Json.steps_map_iff {σ : Type} {step : σ → String × Json → σ → Prop}
    {f : String × Json → String × Json}
    (h : ∀ state entry after, step state (f entry) after ↔ step state entry after)
    {state after : σ} {entries : List (String × Json)} :
    Steps step state (entries.map f) after ↔ Steps step state entries after := by
  induction entries generalizing state with
  | nil => exact Iff.rfl
  | cons entry rest ih =>
    constructor
    · intro hsteps
      cases hsteps with
      | cons hstep hrest => exact .cons ((h _ _ _).mp hstep) (ih.mp hrest)
    · intro hsteps
      cases hsteps with
      | cons hstep hrest => exact .cons ((h _ _ _).mpr hstep) (ih.mpr hrest)

/-- A region means the same if its rule does. -/
theorem RegionSpec.means_mapRule_iff {f : Json → Json}
    (h : ∀ v ending, EndSpec.Means (f v) ending ↔ EndSpec.Means v ending) {v : Json}
    {spec : RegionSpec} : Means (mapRule f v) spec ↔ Means v spec := by
  cases v with
  | obj members =>
    have hsets : ∀ d member after,
        Sets d (if member.1 = "end" then (member.1, f member.2) else member) after ↔
          Sets d member after := by
      intro d member after
      obtain ⟨key, value⟩ := member
      by_cases hkey : key = "end"
      · subst hkey
        simp [Sets, h]
      · simp [hkey]
    constructor
    · intro hmeans
      cases hmeans with
      | members hsteps hdraft => exact .members ((steps_map_iff hsets).mp hsteps) hdraft
    · intro hmeans
      cases hmeans with
      | members hsteps hdraft => exact .members ((steps_map_iff hsets).mpr hsteps) hdraft
  | arr items =>
    match items with
    | [] | [_] | [_, _] => exact Iff.rfl
    | name :: start :: ending :: rest =>
      constructor
      · intro hmeans
        cases hmeans with
        | items hstart hending hcompanion hmultiplicity hrequired haction =>
          exact .items hstart ((h _ _).mp hending) hcompanion hmultiplicity hrequired haction
      · intro hmeans
        cases hmeans with
        | items hstart hending hcompanion hmultiplicity hrequired haction =>
          exact .items hstart ((h _ _).mpr hending) hcompanion hmultiplicity hrequired haction
  | _ => exact Iff.rfl

namespace Plan

theorem regionsMean_mapItems_iff {f : Json → Json}
    (h : ∀ v spec, RegionSpec.Means (f v) spec ↔ RegionSpec.Means v spec) {v : Json}
    {regions : List RegionSpec} : RegionsMean (mapItems f v) regions ↔ RegionsMean v regions := by
  cases v with
  | arr items => simp [RegionsMean, mapItems, List.forall₂_map_left_iff, h]
  | _ => exact Iff.rfl

theorem means_obj_iff {members : List (String × Json)} {plan : Plan} :
    Means (.obj members) plan ↔
      ∃ v, members = [("regions", v)] ∧ RegionsMean v plan.regions := by
  constructor
  · intro h
    cases h with
    | bare h =>
      obtain ⟨items, heq, -⟩ := h
      cases heq
    | object h => exact ⟨_, rfl, h⟩
  · rintro ⟨v, rfl, h⟩
    exact .object h

/-- So does a plan if its regions do. -/
theorem means_mapRegions_iff {f : Json → Json}
    (h : ∀ v spec, RegionSpec.Means (f v) spec ↔ RegionSpec.Means v spec) {v : Json}
    {plan : Plan} : Means (mapRegions f v) plan ↔ Means v plan := by
  have hitems : ∀ {v : Json} {regions : List RegionSpec},
      RegionsMean (mapItems f v) regions ↔ RegionsMean v regions := regionsMean_mapItems_iff h
  cases v with
  | obj members =>
    simp only [mapRegions, means_obj_iff]
    constructor
    · rintro ⟨v, hmap, hmeans⟩
      obtain ⟨⟨key, value⟩, rfl, heq⟩ := List.map_eq_singleton_iff.mp hmap
      cases heq
      exact ⟨value, rfl, hitems.mp hmeans⟩
    · rintro ⟨v, rfl, hmeans⟩
      exact ⟨mapItems f v, rfl, hitems.mpr hmeans⟩
  | arr items =>
    constructor
    · intro hmeans
      cases hmeans with
      | bare hmeans => exact .bare (hitems.mp hmeans)
    · intro hmeans
      cases hmeans with
      | bare hmeans => exact .bare (hitems.mpr hmeans)
  | _ => exact Iff.rfl

/-- **A plan means the same without the members that its rules do not define.** -/
theorem means_trimRules_iff {v : Json} {plan : Plan} : Means (trimRules v) plan ↔ Means v plan :=
  means_mapRegions_iff fun _ _ => RegionSpec.means_mapRule_iff fun _ _ => EndSpec.means_trim_iff

/-! ### What a plan refuses -/

/-- There is one complaint about a text that is no plan. -/
theorem code_of_parse {text : String} {fault : Fault} (h : parse text = .error fault) :
    fault.code = "validation.invalid_json" := by
  unfold parse at h
  split at h
  · cases h
  · cases h
    rfl

/-- A text is the plan that its value means. -/
theorem parse_ok_iff_means {text : String} {v : Json} (hv : Says text v) {plan : Plan} :
    parse text = .ok plan ↔ Means v plan := by
  rw [parse_eq_ok_iff]
  constructor
  · rintro ⟨w, hw, hmeans⟩
    obtain rfl : w = v := Except.ok.inj (hw.symm.trans hv)
    exact hmeans
  · intro hmeans
    exact ⟨v, hv, hmeans⟩

/--
**Plans and regions are strict, rules are not.**  A text that is a plan is a value with no member of
the plan or of a region that the format does not define, and a text that is another value is refused
as malformed.  Two values that are the same without the members that their rules do not define are
the same plan, or both none.  So a text that is accepted has defined members only, unless a rule has
others and what is left without them is a plan.
-/
theorem parse_keys (text : String) :
    (∀ plan, parse text = .ok plan → ∃ v, Says text v ∧ Defined v) ∧
    (∀ v, Says text v → ¬ Defined v →
      ∃ fault, parse text = .error fault ∧ fault.code = "validation.invalid_json") ∧
    (∀ v other w, Says text v → Says other w → trimRules v = trimRules w →
      ∀ plan, parse text = .ok plan ↔ parse other = .ok plan) ∧
    (∀ v, Says text v →
      (((∃ plan, parse text = .ok plan) → Defined v ∧ RulesDefined v) ↔
        (RulesDefined v ∨ ¬ ∃ plan, Means (trimRules v) plan))) := by
  refine ⟨?_, ?_, ?_, ?_⟩
  · intro plan h
    obtain ⟨v, hv, hmeans⟩ := parse_eq_ok_iff.mp h
    exact ⟨v, hv, hmeans.defined⟩
  · intro v hv hundefined
    cases hparse : parse text with
    | ok plan => exact absurd ((parse_ok_iff_means hv).mp hparse).defined hundefined
    | error fault => exact ⟨fault, rfl, code_of_parse hparse⟩
  · intro v other w hv hw hsame plan
    rw [parse_ok_iff_means hv, parse_ok_iff_means hw, ← means_trimRules_iff, hsame,
      means_trimRules_iff]
  · intro v hv
    simp only [parse_ok_iff_means hv, means_trimRules_iff]
    constructor
    · intro h
      by_cases hplan : ∃ plan, Means v plan
      · exact Or.inl (h hplan).2
      · exact Or.inr hplan
    · rintro (hrules | hnone) ⟨plan, hmeans⟩
      · exact ⟨hmeans.defined, hrules⟩
      · exact absurd ⟨plan, hmeans⟩ hnone

/-- A list of one region, which starts at `a` and has the rule, and more members behind it. -/
def regionAtA (rule more : List (String × Json)) : Json :=
  .arr [.obj ([("name", .str "a"), ("start", .obj [("contains", .str "a")]), ("end", .obj rule)] ++
    more)]

/-- A rule that ends before `b`, with more members behind it. -/
def ruleBeforeB (more : List (String × Json)) : List (String × Json) :=
  [("rule", .str "before"), ("matcher", .obj [("contains", .str "b")])] ++ more

/-- A list of one region whose rule has a misspelled offset. -/
def misspelledOffset : String :=
  "[\x7b\"name\": \"a\", \"start\": \x7b\"contains\": \"a\"\x7d, " ++
    "\"end\": \x7b\"rule\": \"before\", \"matcher\": \x7b\"contains\": \"b\"\x7d, " ++
    "\"ofset\": -1\x7d\x7d]"

set_option maxRecDepth 2000 in
theorem says_misspelledOffset :
    Says misspelledOffset (regionAtA (ruleBeforeB [("ofset", .int (-1))]) []) := by
  unfold Says misspelledOffset
  cbv

set_option maxRecDepth 2000 in
theorem parse_misspelledOffset :
    parse misspelledOffset = .ok ⟨[⟨"a", .contains "a", .before (.contains "b") 0, none, .first,
      true, .delete⟩]⟩ := by
  unfold misspelledOffset
  cbv

/-- A misspelled offset is accepted, and the rule is not moved. -/
theorem misspelled_offset_accepted :
    Says misspelledOffset (regionAtA (ruleBeforeB [("ofset", .int (-1))]) []) ∧
      ¬ RulesDefined (regionAtA (ruleBeforeB [("ofset", .int (-1))]) []) ∧
      parse misspelledOffset = .ok ⟨[⟨"a", .contains "a", .before (.contains "b") 0, none, .first,
        true, .delete⟩]⟩ := by
  refine ⟨says_misspelledOffset, ?_, parse_misspelledOffset⟩
  intro h
  have hrule := h _ List.mem_cons_self _ List.mem_cons_self "before" rfl ("ofset", .int (-1))
    (by simp [ruleBeforeB])
  exact absurd hrule (by decide)

/-- The text with the misspelled offset is the plan that the text without an offset is; a region
with a misspelled `multiplicity` is none. -/
theorem parse_keys_misspelled :
    let plain := regionAtA (ruleBeforeB []) []
    let all := regionAtA (ruleBeforeB []) [("multiplcity", .str "all")]
    (∃ v, Says misspelledOffset v ∧ Defined v) ∧
    (∃ fault, parse all.print = .error fault ∧ fault.code = "validation.invalid_json") ∧
    ∀ plan, parse misspelledOffset = .ok plan ↔ parse plain.print = .ok plan := by
  intro plain all
  have hplain : Says plain.print plain := by
    refine says_print ?_ (by decide)
    simp [plain, regionAtA, ruleBeforeB, Plain, PlainItems, PlainMembers]
  have hall : Says all.print all := by
    refine says_print ?_ (by decide)
    simp [all, regionAtA, ruleBeforeB, Plain, PlainItems, PlainMembers]
  have hundefined : ¬ Defined all := by
    intro h
    have hregion := h.regions _ List.mem_cons_self ("multiplcity", .str "all") (by simp)
    exact absurd hregion (by decide)
  refine ⟨?_, ?_, ?_⟩
  · exact (parse_keys misspelledOffset).1 _ parse_misspelledOffset
  · exact (parse_keys all.print).2.1 all hall hundefined
  · exact (parse_keys misspelledOffset).2.2.1 _ _ _ says_misspelledOffset hplain (by rfl)

end Plan

end LineCut
