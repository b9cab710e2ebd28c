/-
Which plans can be used.

A plan can be used if it has regions, no two of them have the same name, and every one of them can
be used.  Compiling a plan decides that, and there are two sides to it.  A plan that can be used is
compiled into regions that mean what it says, one for each of its specs and in their order.  For one
that cannot, a key is blamed, and which one is part of what is promised: that of the regions if
there are none, that of the name of the first region that repeats one, and otherwise that of the
first thing that is wrong with the first region that has something wrong with it.

The three are tried in this order over the whole plan.  So a repeated name is blamed though an
earlier region cannot be used, and a name that is blank and repeated is blamed for being repeated.
-/
import Mathlib.Order.Bounds.Basic
import LineCut.Plan
import LineCut.Proofs.Demands

namespace LineCut

/-- Not all of the text is white space. -/
def HasText (text : String) : Prop :=
  ∃ c ∈ text.toList, Text.isSpace c = false

theorem isBlank_iff {text : String} : Text.isBlank text = true ↔ ¬ HasText text := by
  simp [Text.isBlank, HasText]

/-! ### Rules -/

namespace EndSpec

/-- What is demanded of the rule of region `index`, in order. -/
def demands (index : Nat) : EndSpec → List Demand
  | before test _ => [⟨regionKey index "end.matcher", test.Usable⟩]
  | sibling openings exclude =>
    [⟨regionKey index "end.prefixes", openings ≠ [] ∧ ∀ opening ∈ openings, HasText opening⟩,
      ⟨regionKey index "end.exclude", ∀ text, exclude = some text → HasText text⟩]
  | balanced opening closing =>
    [⟨regionKey index "end", opening ≠ "" ∧ closing ≠ "" ∧ opening ≠ closing⟩]
  | singleLine => []

/-- The rule can be used. -/
def Usable : EndSpec → Prop
  | before test _ => test.Usable
  | sibling openings exclude =>
    openings ≠ [] ∧ (∀ opening ∈ openings, HasText opening) ∧
      ∀ text, exclude = some text → HasText text
  | balanced opening closing => opening ≠ "" ∧ closing ≠ "" ∧ opening ≠ closing
  | singleLine => True

theorem forall_demands_iff {index : Nat} {spec : EndSpec} :
    (∀ demand ∈ spec.demands index, demand.met) ↔ spec.Usable := by
  cases spec with
  | sibling openings exclude => simp [demands, Usable, and_assoc]
  | _ => simp [demands, Usable]

end EndSpec

/-- The rule is as it has been said for the region of the name. -/
inductive Ending.Realises (name : String) : Ending → EndSpec → Prop
  | before {ready : LineTest Pattern} {test : LineTest String} {offset : Int}
      (h : ready.Realises test) : Realises name (.before ready offset) (.before test offset)
  /-- Lines that mention the region are passed over unless it is said which. -/
  | sibling {openings : List String} {exclude : Option String} :
      Realises name (.sibling openings (exclude.getD name)) (.sibling openings exclude)
  | balanced {opening closing : String} :
      Realises name (.balanced opening closing) (.balanced opening closing)
  | singleLine : Realises name .singleLine .singleLine

/-- **A rule is compiled into what it says.** -/
theorem EndSpec.enforces_compile (name : String) (index : Nat) (spec : EndSpec) :
    Enforces (spec.demands index) (fun ready => ready.Realises name spec)
      (spec.compile name index) := by
  cases spec with
  | before test offset =>
      have htest := test.enforces_compile (regionKey index "end.matcher")
      exact htest.map fun _ hready => .before hready
  | sibling openings exclude =>
      refine .check ?_ fun _ => .check ?_ fun _ => .accepts (by simp) .sibling
      · rw [Bool.or_eq_true, List.isEmpty_iff, List.any_eq_true]
        simp only [isBlank_iff, not_and_or, not_forall, not_not, exists_prop]
      · rw [Option.any_eq_true]
        simp only [isBlank_iff, not_forall, exists_prop]
  | balanced opening closing =>
      refine .check ?_ fun _ => .accepts (by simp) .balanced
      simp only [Bool.or_eq_true, String.isEmpty_iff, beq_iff_eq, not_and_or, not_not, or_assoc]
  | singleLine => exact .accepts (by simp [EndSpec.demands]) .singleLine

/-! ### Regions -/

namespace RegionSpec

/-- What is demanded of region `index`, in order. -/
def demands (index : Nat) (spec : RegionSpec) : List Demand :=
  ⟨regionKey index "name", HasText spec.name⟩ :: (spec.ending.demands index ++
    [⟨regionKey index "also_remove_preceding_if",
        ∀ test, spec.companion = some test → test.Usable⟩,
      ⟨regionKey index "start", spec.start.Usable⟩])

/-- The region can be used. -/
structure Usable (spec : RegionSpec) : Prop where
  name : HasText spec.name
  ending : spec.ending.Usable
  companion : ∀ test, spec.companion = some test → test.Usable
  start : spec.start.Usable

theorem forall_demands_iff {index : Nat} {spec : RegionSpec} :
    (∀ demand ∈ spec.demands index, demand.met) ↔ spec.Usable := by
  simp only [demands, List.forall_mem_cons, List.forall_mem_append, EndSpec.forall_demands_iff]
  constructor
  · intro ⟨hname, hending, hcompanion, hstart, _⟩
    exact ⟨hname, hending, hcompanion, hstart⟩
  · intro h
    exact ⟨h.name, h.ending, h.companion, h.start, by simp⟩

end RegionSpec

/-- The region is what has been said. -/
structure Region.Realises (region : Region) (spec : RegionSpec) : Prop where
  name_eq : region.name = spec.name
  start : region.start.Realises spec.start
  ending : region.ending.Realises spec.name spec.ending
  companion : Option.Rel LineTest.Realises region.companion spec.companion
  multiplicity_eq : region.multiplicity = spec.multiplicity
  required_eq : region.required = spec.required
  action_eq : region.action = spec.action

namespace RegionSpec

theorem enforces_companion (key : String) (companion : Option (LineTest String)) :
    Enforces [⟨key, ∀ test, companion = some test → test.Usable⟩]
      (fun ready => Option.Rel LineTest.Realises ready companion)
      (companion.mapM (·.compile key)) := by
  cases companion with
  | none => exact .accepts (by simp) .none
  | some test =>
      have htest := test.enforces_compile key
      exact (htest.map fun _ hready => .some hready).congr (by simp)

/-- **A region is compiled into what it says**, and the first thing that is wrong with it is blamed
if it cannot be used. -/
theorem enforces_compile (spec : RegionSpec) (index : Nat) :
    Enforces (spec.demands index) (·.Realises spec) (spec.compile index) := by
  refine .check isBlank_iff fun _ => ?_
  refine (spec.ending.enforces_compile spec.name index).bind fun ending hending => ?_
  refine (enforces_companion _ spec.companion).bind fun companion hcompanion => ?_
  refine (spec.start.enforces_compile _).bind fun start hstart => ?_
  exact .accepts (by simp) ⟨rfl, hstart, hending, hcompanion, rfl, rfl, rfl⟩

end RegionSpec

/-! ### Plans -/

namespace Plan

variable {earlier : List String} {spec : RegionSpec} {specs : List RegionSpec} {index : Nat}

/-- Region `k` has one of some names, or that of a region before it. -/
def RepeatsAt (earlier : List String) (specs : List RegionSpec) (k : Nat) : Prop :=
  ∃ spec, specs[k]? = some spec ∧ spec.name ∈ earlier ++ (specs.take k).map (·.name)

theorem repeatsAt_zero_iff : RepeatsAt earlier (spec :: specs) 0 ↔ spec.name ∈ earlier := by
  simp [RepeatsAt]

/-- For the later ones the name of the first is one of those before. -/
theorem repeatsAt_succ_iff {k : Nat} :
    RepeatsAt earlier (spec :: specs) (k + 1) ↔ RepeatsAt (spec.name :: earlier) specs k := by
  simp only [RepeatsAt, List.getElem?_cons_succ, List.take_succ_cons, List.map_cons,
    List.mem_append, List.mem_cons]
  simp only [or_left_comm, or_assoc]

/-- **Names are repeated nowhere if they are distinct**, and other than those given. -/
theorem forall_not_repeatsAt_iff :
    (∀ k, ¬ RepeatsAt earlier specs k) ↔
      (∀ spec ∈ specs, spec.name ∉ earlier) ∧ (specs.map (·.name)).Nodup := by
  induction specs generalizing earlier with
  | nil => simp [RepeatsAt]
  | cons spec rest ih =>
      have hsplit : (∀ k, ¬ RepeatsAt earlier (spec :: rest) k) ↔
          spec.name ∉ earlier ∧ ∀ k, ¬ RepeatsAt (spec.name :: earlier) rest k := by
        constructor
        · intro h
          exact ⟨fun hmem => h 0 (repeatsAt_zero_iff.mpr hmem),
            fun k hk => h (k + 1) (repeatsAt_succ_iff.mpr hk)⟩
        · intro ⟨hfirst, hrest⟩ k
          cases k with
          | zero => exact fun hk => hfirst (repeatsAt_zero_iff.mp hk)
          | succ k => exact fun hk => hrest k (repeatsAt_succ_iff.mp hk)
      rw [hsplit, ih, List.map_cons, List.nodup_cons, List.forall_mem_cons]
      simp only [List.mem_cons, not_or, List.mem_map, not_exists, not_and]
      constructor
      · intro ⟨hfirst, hrest, hdistinct⟩
        exact ⟨⟨hfirst, fun other hmem => (hrest other hmem).2⟩,
          fun other hmem => (hrest other hmem).1, hdistinct⟩
      · intro ⟨⟨hfirst, hothers⟩, hother, hdistinct⟩
        exact ⟨hfirst, fun other hmem => ⟨hother other hmem, hothers other hmem⟩, hdistinct⟩

/-- **The search for a repeated name finds the first.**  The induction is on the regions, whose
names join those given one after another. -/
theorem repeatedName_cases (earlier : List String) (index : Nat) (specs : List RegionSpec) :
    (repeatedName earlier index specs = none ∧ ∀ k, ¬ RepeatsAt earlier specs k) ∨
      ∃ k name, repeatedName earlier index specs = some (index + k, name) ∧
        IsLeast {k | RepeatsAt earlier specs k} k := by
  induction specs generalizing earlier index with
  | nil => exact Or.inl ⟨rfl, by simp [RepeatsAt]⟩
  | cons spec rest ih =>
      rw [repeatedName]
      by_cases hmem : spec.name ∈ earlier
      · rw [if_pos (by simpa using hmem)]
        exact Or.inr ⟨0, spec.name, rfl, repeatsAt_zero_iff.mpr hmem, fun _ _ => Nat.zero_le _⟩
      · rw [if_neg (by simpa using hmem)]
        have hfirst : ¬ RepeatsAt earlier (spec :: rest) 0 := repeatsAt_zero_iff.not.mpr hmem
        rcases ih (spec.name :: earlier) (index + 1) with
          ⟨hnone, hrest⟩ | ⟨k, name, hsome, hk, hleast⟩
        · refine Or.inl ⟨hnone, ?_⟩
          intro k
          cases k with
          | zero => exact hfirst
          | succ k => exact fun hk => hrest k (repeatsAt_succ_iff.mp hk)
        · refine Or.inr ⟨k + 1, name, by rw [hsome, Nat.add_right_comm, Nat.add_assoc],
            repeatsAt_succ_iff.mpr hk, ?_⟩
          intro j hj
          cases j with
          | zero => exact absurd hj hfirst
          | succ j => exact Nat.succ_le_succ (hleast (repeatsAt_succ_iff.mp hj))

/-- **Regions are compiled up to the first that cannot be used.**  The induction is on the
regions. -/
theorem compileFrom_cases (index : Nat) (specs : List RegionSpec) :
    ((∀ spec ∈ specs, spec.Usable) ∧ ∃ regions, compileFrom index specs = .ok regions ∧
      List.Forall₂ Region.Realises regions specs) ∨
    ∃ k spec key value problem, specs[k]? = some spec ∧ (∀ other ∈ specs.take k, other.Usable) ∧
      FirstUnmet (spec.demands (index + k)) key ∧
      compileFrom index specs = .error (.invalidValue key value problem) := by
  induction specs generalizing index with
  | nil => exact Or.inl ⟨by simp, [], rfl, .nil⟩
  | cons spec rest ih =>
      rw [compileFrom]
      have hspec := spec.enforces_compile index
      generalize spec.compile index = outcome at hspec
      cases hspec with
      | blames hfirst => exact Or.inr ⟨0, spec, _, _, _, rfl, by simp, hfirst, rfl⟩
      | @accepts region hmet hregion =>
          have husable := RegionSpec.forall_demands_iff.mp hmet
          rcases ih (index + 1) with
            ⟨hall, regions, hregions, hrealise⟩ |
            ⟨k, other, key, value, problem, hk, hbefore, hfirst, herror⟩
          · refine Or.inl ⟨List.forall_mem_cons.mpr ⟨husable, hall⟩, region :: regions, ?_,
              .cons hregion hrealise⟩
            rw [hregions]
            rfl
          · refine Or.inr ⟨k + 1, other, key, value, problem, hk, ?_, ?_, ?_⟩
            · rw [List.take_succ_cons]
              exact List.forall_mem_cons.mpr ⟨husable, hbefore⟩
            · rw [Nat.add_comm k 1, ← Nat.add_assoc]
              exact hfirst
            · rw [herror]
              rfl

/-- The plan can be used. -/
structure Usable (plan : Plan) : Prop where
  nonempty : plan.regions ≠ []
  distinct : (plan.regions.map (·.name)).Nodup
  regions : ∀ spec ∈ plan.regions, spec.Usable

/-- The key that is blamed if the plan cannot be used. -/
inductive Blames (plan : Plan) : String → Prop
  /-- There are no regions. -/
  | regions (h : plan.regions = []) : Blames plan "regions"
  /-- It is the first region that has the name of one before it. -/
  | name {i : Nat} (h : IsLeast {i | RepeatsAt [] plan.regions i} i) :
      Blames plan (regionKey i "name")
  /-- No name is repeated, and it is the first region that cannot be used, with what is wrong
  first. -/
  | region {i : Nat} {spec : RegionSpec} {key : String}
      (hdistinct : (plan.regions.map (·.name)).Nodup) (hspec : plan.regions[i]? = some spec)
      (hbefore : ∀ other ∈ plan.regions.take i, other.Usable)
      (h : FirstUnmet (spec.demands i) key) : Blames plan key

variable {plan : Plan} {key : String}

theorem not_repeatsAt_of_distinct (h : (specs.map (·.name)).Nodup) (k : Nat) :
    ¬ RepeatsAt [] specs k :=
  forall_not_repeatsAt_iff.mpr ⟨by simp, h⟩ k

/-- A plan for which something is blamed cannot be used. -/
theorem Blames.not_usable (h : plan.Blames key) : ¬ plan.Usable := by
  intro husable
  cases h with
  | regions hempty => exact husable.nonempty hempty
  | name hleast => exact not_repeatsAt_of_distinct husable.distinct _ hleast.1
  | region _ hspec _ hfirst =>
      have hregion := husable.regions _ (List.mem_of_getElem? hspec)
      exact hfirst.not_forall (RegionSpec.forall_demands_iff.mpr hregion)

/-- The first region that cannot be used is not among those before another such. -/
theorem le_of_usable_before {i j : Nat} {other : RegionSpec} {key : String}
    (hbefore : ∀ spec ∈ plan.regions.take i, spec.Usable) (hother : plan.regions[j]? = some other)
    (hfirst : FirstUnmet (other.demands j) key) : i ≤ j := by
  by_contra hlt
  have hmem : other ∈ plan.regions.take i := by
    refine List.mem_of_getElem? (i := j) ?_
    rw [List.getElem?_take, if_pos (by omega), hother]
  exact hfirst.not_forall (RegionSpec.forall_demands_iff.mpr (hbefore other hmem))

/-- **Only one key is blamed.** -/
theorem Blames.unique {other : String} (h : plan.Blames key) (hother : plan.Blames other) :
    key = other := by
  cases h with
  | regions hempty =>
      cases hother with
      | regions => rfl
      | name hleast =>
          obtain ⟨spec, hspec, -⟩ := hleast.1
          simp [hempty] at hspec
      | region _ hspec => simp [hempty] at hspec
  | name hleast =>
      cases hother with
      | regions hempty =>
          obtain ⟨spec, hspec, -⟩ := hleast.1
          simp [hempty] at hspec
      | name hother => rw [hleast.unique hother]
      | region hdistinct => exact absurd hleast.1 (not_repeatsAt_of_distinct hdistinct _)
  | region hdistinct hspec hbefore hfirst =>
      cases hother with
      | regions hempty => simp [hempty] at hspec
      | name hleast => exact absurd hleast.1 (not_repeatsAt_of_distinct hdistinct _)
      | region _ hspec' hbefore' hfirst' =>
          obtain rfl := Nat.le_antisymm (le_of_usable_before hbefore hspec' hfirst')
            (le_of_usable_before hbefore' hspec hfirst)
          rw [hspec] at hspec'
          cases hspec'
          exact hfirst.unique hfirst'

/-- **A plan is compiled, or a key is blamed.** -/
theorem compile_cases (plan : Plan) :
    (plan.Usable ∧ ∃ regions, plan.compile = .ok regions ∧
      List.Forall₂ Region.Realises regions plan.regions) ∨
    ∃ key value problem, plan.Blames key ∧
      plan.compile = .error (.invalidValue key value problem) := by
  unfold compile
  by_cases hempty : plan.regions = []
  · rw [if_pos (by simpa using hempty)]
    exact Or.inr ⟨_, _, _, .regions hempty, rfl⟩
  · rw [if_neg (by simpa using hempty)]
    rcases repeatedName_cases [] 0 plan.regions with ⟨hnone, hfresh⟩ | ⟨i, name, hsome, hleast⟩
    · have hdistinct := (forall_not_repeatsAt_iff.mp hfresh).2
      rw [hnone]
      rcases compileFrom_cases 0 plan.regions with
        ⟨hall, regions, hregions, hrealise⟩ |
        ⟨i, spec, key, value, problem, hspec, hbefore, hfirst, herror⟩
      · exact Or.inl ⟨⟨hempty, hdistinct, hall⟩, regions, hregions, hrealise⟩
      · rw [Nat.zero_add] at hfirst
        exact Or.inr ⟨key, value, problem, .region hdistinct hspec hbefore hfirst, herror⟩
    · rw [hsome, Nat.zero_add]
      exact Or.inr ⟨_, _, _, .name hleast, rfl⟩

/--
**A plan is compiled exactly if it can be used**, and then into regions that mean what it says, in
its order.  If it cannot be used the fault is that of a value that cannot be used, and the key is
the one that is to be blamed: there is only one.
-/
theorem compile_decides (plan : Plan) :
    ((∃ regions, plan.compile = .ok regions) ↔ plan.Usable) ∧
    (∀ regions, plan.compile = .ok regions → List.Forall₂ Region.Realises regions plan.regions) ∧
    ∀ fault, plan.compile = .error fault → fault.code = "config.invalid_value" ∧
      ∃ key value problem, fault = .invalidValue key value problem ∧
        ∀ other, plan.Blames other ↔ other = key := by
  rcases plan.compile_cases with
    ⟨husable, found, hok, hrealise⟩ | ⟨key, value, problem, hblames, herror⟩
  · refine ⟨⟨fun _ => husable, fun _ => ⟨found, hok⟩⟩, ?_, ?_⟩
    · intro regions hregions
      rw [hok] at hregions
      cases hregions
      exact hrealise
    · intro fault hfault
      rw [hok] at hfault
      cases hfault
  · refine ⟨⟨?_, fun husable => absurd husable hblames.not_usable⟩, ?_, ?_⟩
    · intro ⟨regions, hregions⟩
      rw [herror] at hregions
      cases hregions
    · intro regions hregions
      rw [herror] at hregions
      cases hregions
    · intro fault hfault
      rw [herror] at hfault
      cases hfault
      refine ⟨rfl, key, value, problem, rfl, ?_⟩
      intro other
      constructor
      · exact fun hother => hother.unique hblames
      · intro heq
        rw [heq]
        exact hblames

/-- A class with the comments above it, up to the next one. -/
def panel : RegionSpec :=
  (RegionSpec.method "Panel" "class Panel" ["class ", "end"]).withPreceding
    (.any [.startsWith "//", .negation (.contains " ")])

/-- The class can be used in a plan.  If it stands in one twice, its second name is blamed, whatever
is wrong with other regions. -/
theorem compile_decides_repeated :
    let vague : RegionSpec := { name := "use", start := .contains "", ending := .sibling [] none }
    let bad : Plan := ⟨[panel, vague, panel]⟩
    (∃ regions, Plan.compile ⟨[panel]⟩ = .ok regions ∧ Usable ⟨[panel]⟩ ∧
      List.Forall₂ Region.Realises regions [panel]) ∧
      ∃ fault, bad.compile = .error fault ∧ fault.code = "config.invalid_value" ∧
        ∀ other, bad.Blames other ↔ other = "regions[2].name" := by
  intro vague bad
  obtain ⟨hdecides, hrealises, -⟩ := compile_decides ⟨[panel]⟩
  obtain ⟨-, -, hblames⟩ := compile_decides bad
  have hgood : ∃ regions, Plan.compile ⟨[panel]⟩ = .ok regions := ⟨_, rfl⟩
  have hbad : bad.compile = .error (.invalidValue "regions[2].name" (some "Panel")
      "Region names must be unique within a plan") := by
    rfl
  obtain ⟨regions, hregions⟩ := hgood
  obtain ⟨hcode, key, value, problem, hfault, honly⟩ := hblames _ hbad
  cases hfault
  exact ⟨⟨regions, hregions, hdecides.mp ⟨regions, hregions⟩, hrealises regions hregions⟩,
    _, hbad, hcode, honly⟩

end Plan

end LineCut
