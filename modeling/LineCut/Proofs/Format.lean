/-
The format of plans.

What a text has to say to be a plan is spread over a reader for each part, and the readers are
written to complain well.  Here it is said without them: `Means` relates a value to the region or
the plan it is, and a text is read as a plan exactly if it is read as a value that means one.

A region may be written in two ways.  The members of an object come in any order and may be missing,
and each of them sets one part of a draft.  The items of an array come in a fixed order, and only
the last of them may be missing; so what is read is followed from the last item to the first, since
it is at the end that an item may not be there.
-/
import LineCut.Proofs.RoundTrip
import LineCut.Proofs.Rules

namespace LineCut

open Json

variable {c behind : Cursor}

/-! ### Regions -/

namespace RegionSpec

/-- What a member of a region adds to what has been read of it; none may be there twice. -/
def Sets (d : Draft) (entry : String × Json) (after : Draft) : Prop :=
  match entry.1 with
  | "name" => d.name = none ∧ ∃ x, entry.2 = .str x ∧ { d with name := some x } = after
  | "start" => d.start = none ∧ ∃ x, LineTest.Means entry.2 x ∧ { d with start := some x } = after
  | "end" => d.ending = none ∧ ∃ x, EndSpec.Means entry.2 x ∧ { d with ending := some x } = after
  | "also_remove_preceding_if" =>
    d.companion = none ∧ ∃ x, CompanionMeans entry.2 x ∧ { d with companion := some x } = after
  | "multiplicity" =>
    d.multiplicity = none ∧ ∃ x, Multiplicity.Means entry.2 x ∧
      { d with multiplicity := some x } = after
  | "required" => d.required = none ∧ ∃ x, entry.2 = .bool x ∧ { d with required := some x } = after
  | "action" => d.action = none ∧ ∃ x, Action.Means entry.2 x ∧ { d with action := some x } = after
  | _ => False

theorem readOnce_eq_ok_iff {α : Type} {key : String} {before : Option α}
    {reader : Cursor → Read α} {keep : α → Draft} {limit : Nat} {means : Json → α → Prop}
    (h : Decodes reader (value limit) means) {after : Draft} :
    readOnce key before reader keep c = .ok (after, behind) ↔
      ∃ start v, colon c = .ok start ∧ value limit start = .ok (v, behind) ∧
        before = none ∧ ∃ x, means v x ∧ keep x = after := by
  unfold readOnce
  cases before with
  | some x => simp
  | none =>
    simp only [Option.isSome_none, Bool.false_eq_true, if_false, true_and]
    refine h.member_iff keep ?_ ?_
    · intro start hcolon
      simp only [hcolon]
    · intro failure hcolon
      simp only [hcolon]

theorem takes_readMember (limit : Nat) : Takes (readMember limit) (value limit) Sets := by
  refine ⟨fun {d key c after behind} => ?_⟩
  unfold readMember Sets
  split
  · exact readOnce_eq_ok_iff (decodes_readText "a string" limit)
  · exact readOnce_eq_ok_iff (LineTest.decodes_read limit)
  · exact readOnce_eq_ok_iff (EndSpec.decodes_read limit)
  · exact readOnce_eq_ok_iff (decodes_readCompanion limit)
  · exact readOnce_eq_ok_iff (Multiplicity.decodes_read limit)
  · exact readOnce_eq_ok_iff (decodes_readBool limit)
  · exact readOnce_eq_ok_iff (Action.decodes_read limit)
  · simp

/-- The next of the items in order, or what it is by default if there is none. -/
inductive Next {α : Type} (means : Json → α → Prop) (default : α) :
    List Json → α → List Json → Prop
  | absent : Next means default [] default []
  | present {v : Json} {x : α} {rest : List Json} (h : means v x) :
      Next means default (v :: rest) x rest

/-- The value is the region: an object each of whose members sets one part, or an array of the
parts in order. -/
inductive Means : Json → RegionSpec → Prop
  | members {all : List (String × Json)} {draft : Draft} {spec : RegionSpec}
      (hsteps : Steps Sets {} all draft) (h : ofDraft draft = .ok spec) : Means (.obj all) spec
  | items {spec : RegionSpec} {start ending : Json} {rest₁ rest₂ rest₃ rest₄ : List Json}
      (hstart : LineTest.Means start spec.start) (hending : EndSpec.Means ending spec.ending)
      (hcompanion : Next CompanionMeans none rest₁ spec.companion rest₂)
      (hmultiplicity : Next Multiplicity.Means .first rest₂ spec.multiplicity rest₃)
      (hrequired : Next (fun v b => v = .bool b) true rest₃ spec.required rest₄)
      (haction : Next Action.Means .delete rest₄ spec.action []) :
      Means (.arr (.str spec.name :: start :: ending :: rest₁)) spec

/-- What is left of an array: its further items and its bracket. -/
def Remainder (limit : Nat) (first : Bool) (c : Cursor) (items : List Json) (behind : Cursor) :
    Prop :=
  ∃ middle, Items (value limit) first c items middle ∧ closeArray middle = .ok behind

/-- No item is left where the bracket comes next, and only there. -/
theorem remainder_nil_iff {limit : Nat} {first : Bool} :
    Remainder limit first c [] behind ↔ c.Faces ']' ∧ c.skip.next = behind := by
  constructor
  · rintro ⟨middle, hitems, hclose⟩
    cases hitems with
    | nil hnext =>
      obtain ⟨hfaces, rfl⟩ := nextItem_false_iff.mp hnext
      obtain ⟨-, rfl⟩ := closeArray_iff.mp hclose
      exact ⟨hfaces, by rw [skip_skip]⟩
  · rintro ⟨hfaces, rfl⟩
    exact ⟨c.skip, .nil (nextItem_false_iff.mpr ⟨hfaces, rfl⟩),
      closeArray_iff.mpr ⟨faces_skip_iff.mpr hfaces, by rw [skip_skip]⟩⟩

theorem remainder_cons_iff {limit : Nat} {first : Bool} {v : Json} {rest : List Json} :
    Remainder limit first c (v :: rest) behind ↔
      ∃ start middle, nextItem first c = .ok (true, start) ∧
        value limit start = .ok (v, middle) ∧ Remainder limit false middle rest behind := by
  constructor
  · rintro ⟨last, hitems, hclose⟩
    cases hitems with
    | cons hnext hv hrest => exact ⟨_, _, hnext, hv, last, hrest, hclose⟩
  · rintro ⟨start, middle, hnext, hv, last, hrest, hclose⟩
    exact ⟨last, .cons hnext hv hrest, hclose⟩

theorem eq_nil_of_remainder {limit : Nat} {rest : List Json} (hfaces : c.Faces ']')
    (h : Remainder limit false c rest behind) : rest = [] := by
  cases rest with
  | nil => rfl
  | cons v rest =>
    obtain ⟨start, middle, hnext, -, -⟩ := remainder_cons_iff.mp h
    rw [nextItem_false_iff.mpr ⟨hfaces, rfl⟩] at hnext
    cases hnext

section Items

variable {α : Type} {reader : Cursor → Read α} {limit : Nat} {means : Json → α → Prop}
  {rest : List Json} {x : α}

theorem readItem_then_iff (index : Nat) (h : Decodes reader (value limit) means) :
    (∃ middle, readItem index reader c = .ok (x, middle) ∧
      Remainder limit false middle rest behind) ↔
      ∃ v, means v x ∧ Remainder limit (index == 0) c (v :: rest) behind := by
  simp only [remainder_cons_iff]
  unfold readItem
  constructor
  · rintro ⟨middle, hread, hrest⟩
    split at hread
    · cases hread
    · cases hread
    · next start hnext =>
      obtain ⟨v, hv, hmeans⟩ := h.iff.mp hread
      exact ⟨v, hmeans, start, middle, hnext, hv, hrest⟩
  · rintro ⟨v, hmeans, start, middle, hnext, hv, hrest⟩
    refine ⟨middle, ?_, hrest⟩
    simp only [hnext]
    exact h.iff.mpr ⟨v, hv, hmeans⟩

theorem readItem?_then_iff (h : Decodes reader (value limit) means) {default : α} :
    (∃ middle, readItem? reader default c = .ok (x, middle) ∧
      Remainder limit false middle rest behind) ↔
      ∃ vs, Next means default vs x rest ∧ Remainder limit false c vs behind := by
  unfold readItem?
  constructor
  · rintro ⟨middle, hread, hrest⟩
    split at hread
    · cases hread
    · next hnext =>
      cases hread
      obtain ⟨hfaces, rfl⟩ := nextItem_false_iff.mp hnext
      obtain rfl := eq_nil_of_remainder (faces_skip_iff.mpr hfaces) hrest
      rw [remainder_nil_iff, skip_skip] at hrest
      exact ⟨[], .absent, remainder_nil_iff.mpr ⟨hfaces, hrest.2⟩⟩
    · next start hnext =>
      obtain ⟨v, hv, hmeans⟩ := h.iff.mp hread
      exact ⟨v :: rest, .present hmeans, remainder_cons_iff.mpr ⟨start, middle, hnext, hv, hrest⟩⟩
  · rintro ⟨vs, hnext, hrest⟩
    cases hnext with
    | absent =>
      obtain ⟨hfaces, rfl⟩ := remainder_nil_iff.mp hrest
      refine ⟨c.skip, ?_, remainder_nil_iff.mpr ⟨faces_skip_iff.mpr hfaces, by rw [skip_skip]⟩⟩
      simp only [nextItem_false_iff.mpr ⟨hfaces, rfl⟩]
    | present hmeans =>
      obtain ⟨start, middle, hnext, hv, hrest⟩ := remainder_cons_iff.mp hrest
      refine ⟨middle, ?_, hrest⟩
      simp only [hnext]
      exact h.iff.mpr ⟨_, hv, hmeans⟩

end Items

/-- A region as an array, read item by item. -/
theorem readItems_eq_ok_iff {limit : Nat} {spec : RegionSpec} :
    (∃ middle, readItems limit c = .ok (spec, middle) ∧ closeArray middle = .ok behind) ↔
      ∃ vs, Means (.arr vs) spec ∧ Remainder limit true c vs behind := by
  have htext := decodes_readText "a string" limit
  have hbool := decodes_readBool limit
  have hcompanions := decodes_readCompanion limit
  constructor
  · rintro ⟨middle, h, hclose⟩
    unfold readItems at h
    split at h
    · cases h
    next name _ hname =>
    split at h
    · cases h
    next start _ hstart =>
    split at h
    · cases h
    next ending _ hending =>
    split at h
    · cases h
    next companion _ hcompanion =>
    split at h
    · cases h
    next multiplicity _ hmultiplicity =>
    split at h
    · cases h
    next required _ hrequired =>
    obtain ⟨⟨action, d⟩, haction, heq⟩ := map_eq_ok_iff.mp h
    cases heq
    -- what each item means is known from the last one on, since that is where the array ends
    have hend : Remainder limit false middle [] behind :=
      remainder_nil_iff.mpr (closeArray_iff.mp hclose)
    obtain ⟨rest₄, haction, h₄⟩ :=
      (readItem?_then_iff (Action.decodes_read limit)).mp ⟨_, haction, hend⟩
    obtain ⟨rest₃, hrequired, h₃⟩ := (readItem?_then_iff hbool).mp ⟨_, hrequired, h₄⟩
    obtain ⟨rest₂, hmultiplicity, h₂⟩ :=
      (readItem?_then_iff (Multiplicity.decodes_read limit)).mp ⟨_, hmultiplicity, h₃⟩
    obtain ⟨rest₁, hcompanion, h₁⟩ := (readItem?_then_iff hcompanions).mp ⟨_, hcompanion, h₂⟩
    obtain ⟨endingValue, hending, hrest⟩ :=
      (readItem_then_iff 2 (EndSpec.decodes_read limit)).mp ⟨_, hending, h₁⟩
    obtain ⟨startValue, hstart, hrest⟩ :=
      (readItem_then_iff 1 (LineTest.decodes_read limit)).mp ⟨_, hstart, hrest⟩
    obtain ⟨_, rfl, hrest⟩ := (readItem_then_iff 0 htext).mp ⟨_, hname, hrest⟩
    exact ⟨_, .items hstart hending hcompanion hmultiplicity hrequired haction, hrest⟩
  · rintro ⟨vs, hmeans, hrest⟩
    cases hmeans with
    | items hstart hending hcompanion hmultiplicity hrequired haction =>
      obtain ⟨c₁, hname, hrest⟩ := (readItem_then_iff 0 htext).mpr ⟨_, rfl, hrest⟩
      obtain ⟨c₂, hstart, hrest⟩ :=
        (readItem_then_iff 1 (LineTest.decodes_read limit)).mpr ⟨_, hstart, hrest⟩
      obtain ⟨c₃, hending, hrest⟩ :=
        (readItem_then_iff 2 (EndSpec.decodes_read limit)).mpr ⟨_, hending, hrest⟩
      obtain ⟨c₄, hcompanion, hrest⟩ :=
        (readItem?_then_iff hcompanions).mpr ⟨_, hcompanion, hrest⟩
      obtain ⟨c₅, hmultiplicity, hrest⟩ :=
        (readItem?_then_iff (Multiplicity.decodes_read limit)).mpr ⟨_, hmultiplicity, hrest⟩
      obtain ⟨c₆, hrequired, hrest⟩ := (readItem?_then_iff hbool).mpr ⟨_, hrequired, hrest⟩
      obtain ⟨c₇, haction, hrest⟩ :=
        (readItem?_then_iff (Action.decodes_read limit)).mpr ⟨_, haction, hrest⟩
      refine ⟨c₇, ?_, closeArray_iff.mpr (remainder_nil_iff.mp hrest)⟩
      have hname : readItem 0 readString c = .ok (spec.name, c₁) := hname
      simp only [readItems, hname, hstart, hending, hcompanion, hmultiplicity, hrequired, haction,
        Except.map]

/-- **A region is read from the text as it is from the value.** -/
theorem decodes_read (limit : Nat) : Decodes (RegionSpec.read limit) (value limit) Means := by
  refine ⟨fun {c spec behind} => ?_⟩
  simp only [value_eq_ok_iff]
  constructor
  · intro h
    unfold RegionSpec.read at h
    simp only at h
    split at h
    · cases h
    · cases h
    · cases h
    · next limit hlook =>
      obtain ⟨middle, hinside, hclose⟩ := inObject_eq_ok_iff.mp h
      unfold readMembers at hinside
      split at hinside
      · cases hinside
      · next draft d hread =>
        obtain ⟨hdraft, rfl⟩ := judged_eq_ok_iff.mp hinside
        obtain ⟨all, hentries, hsteps⟩ := (members_fuel_iff (takes_readMember limit)).mp hread
        exact ⟨.obj all, .obj ⟨_, hlook⟩ hentries hclose, .members hsteps hdraft⟩
    · next limit hlook =>
      obtain ⟨vs, hmeans, middle, hitems, hclose⟩ :=
        readItems_eq_ok_iff.mp (inArray_eq_ok_iff.mp h)
      exact ⟨.arr vs, .arr ⟨_, hlook⟩ hitems hclose, hmeans⟩
    · cases h
  · rintro ⟨v, hshaped, hmeans⟩
    cases hshaped with
    | obj hfaces hentries hclose =>
      obtain ⟨rest, hrest⟩ := hfaces
      cases hmeans with
      | members hsteps hdraft =>
        have hread := (members_fuel_iff (takes_readMember _)).mpr ⟨_, hentries, hsteps⟩
        simp only [RegionSpec.read, hrest]
        refine inObject_eq_ok_iff.mpr ⟨_, ?_, hclose⟩
        simp only [readMembers, hread]
        exact judged_eq_ok_iff.mpr ⟨hdraft, rfl⟩
    | arr hfaces hitems hclose =>
      obtain ⟨rest, hrest⟩ := hfaces
      simp only [RegionSpec.read, hrest]
      exact inArray_eq_ok_iff.mpr (readItems_eq_ok_iff.mpr ⟨_, hmeans, _, hitems, hclose⟩)
    | _ => cases hmeans

end RegionSpec

/-! ### Plans -/

namespace Plan

/-- The value is the list of regions. -/
def RegionsMean (value : Json) (regions : List RegionSpec) : Prop :=
  ∃ items, value = .arr items ∧ List.Forall₂ RegionSpec.Means items regions

/-- The value is the plan: its regions, alone or as the only member of an object. -/
inductive Means : Json → Plan → Prop
  | bare {value : Json} {plan : Plan} (h : RegionsMean value plan.regions) : Means value plan
  | object {value : Json} {plan : Plan} (h : RegionsMean value plan.regions) :
      Means (.obj [("regions", value)]) plan

theorem decodes_readRegions (limit : Nat) :
    Decodes (readRegions limit) (value limit) RegionsMean := by
  cases limit with
  | zero => exact decodes_readList_none
  | succ limit => exact decodes_readList (RegionSpec.decodes_read limit)

/-- The only member of a plan. -/
def Gets (before : Option (List RegionSpec)) (entry : String × Json)
    (after : Option (List RegionSpec)) : Prop :=
  entry.1 = "regions" ∧ before = none ∧ ∃ regions, RegionsMean entry.2 regions ∧
    some regions = after

theorem takes_readMember (limit : Nat) : Takes (readMember limit) (value limit) Gets := by
  refine ⟨fun {before key c after behind} => ?_⟩
  unfold readMember Gets
  by_cases hkey : key = "regions"
  · cases before with
    | some regions => simp [hkey]
    | none =>
      simp only [hkey, ne_eq, not_true_eq_false, if_false, Option.isSome_none, Bool.false_eq_true,
        true_and]
      refine (decodes_readRegions limit).member_iff some ?_ ?_
      · intro start hcolon
        simp only [hcolon]
      · intro failure hcolon
        simp only [hcolon]
  · simp [hkey]

theorem steps_gets_iff {all : List (String × Json)} {regions : List RegionSpec} :
    Steps Gets none all (some regions) ↔
      ∃ v, all = [("regions", v)] ∧ RegionsMean v regions := by
  constructor
  · intro h
    cases h with
    | @cons _ _ _ entry rest hstep hrest =>
      obtain ⟨hkey, -, found, hmeans, rfl⟩ := hstep
      cases hrest with
      | nil => exact ⟨entry.2, by rw [← hkey], hmeans⟩
      | cons hagain _ => exact absurd hagain.2.1 (Option.some_ne_none _)
  · rintro ⟨v, rfl, hmeans⟩
    exact .cons ⟨rfl, rfl, regions, hmeans, rfl⟩ (.nil _)

theorem decodes_read (limit : Nat) :
    Decodes (Plan.read limit) (value limit)
      fun v plan => ∃ regions, v = .obj [("regions", regions)] ∧
        RegionsMean regions plan.regions := by
  refine ⟨fun {c plan behind} => ?_⟩
  simp only [value_eq_ok_iff]
  constructor
  · intro h
    unfold Plan.read at h
    simp only at h
    split at h
    · cases h
    · cases h
    · next limit hlook =>
      obtain ⟨middle, hinside, hclose⟩ := inObject_eq_ok_iff.mp h
      unfold readMembers at hinside
      split at hinside
      · cases hinside
      · next read d hread =>
        obtain ⟨hdemand, rfl⟩ := judged_eq_ok_iff.mp hinside
        obtain ⟨regions, hregions, rfl⟩ := map_eq_ok_iff.mp hdemand
        cases read with
        | none => cases hregions
        | some found =>
          cases hregions
          obtain ⟨all, hentries, hsteps⟩ := (members_fuel_iff (takes_readMember limit)).mp hread
          obtain ⟨v, rfl, hmeans⟩ := steps_gets_iff.mp hsteps
          exact ⟨_, .obj ⟨_, hlook⟩ hentries hclose, v, rfl, hmeans⟩
    · cases h
  · rintro ⟨_, hshaped, v, rfl, hmeans⟩
    cases hshaped with
    | obj hfaces hentries hclose =>
      obtain ⟨rest, hrest⟩ := hfaces
      have hsteps := steps_gets_iff.mpr ⟨v, rfl, hmeans⟩
      have hread := (members_fuel_iff (takes_readMember _)).mpr ⟨_, hentries, hsteps⟩
      simp only [Plan.read, hrest]
      refine inObject_eq_ok_iff.mpr ⟨_, ?_, hclose⟩
      simp only [readMembers, hread]
      rfl

/-- Whether a text is a bare list shows in the first character behind its blanks. -/
theorem isBareList_of_faces {text : String} {char : Char} (h : (Cursor.start text).Faces char)
    (hchar : Text.isSpace char = false) : isBareList text = (char == '[') := by
  obtain ⟨rest, hrest⟩ := h
  have htext : text = String.ofList (text.toList.takeWhile Cursor.isBlank ++ char :: rest) := by
    have hsplit := List.takeWhile_append_dropWhile (p := Cursor.isBlank) (l := text.toList)
    have hdrop : text.toList.dropWhile Cursor.isBlank = char :: rest := hrest
    rw [hdrop] at hsplit
    rw [hsplit, String.ofList_toList]
  rw [htext]
  refine isBareList_cons (fun c hc => ?_) hchar rest
  exact List.mem_takeWhile_imp hc

theorem parse_eq_ok_iff_decode {text : String} {plan : Plan} :
    parse text = .ok plan ↔ decode text = .ok plan := by
  unfold parse
  cases decode text <;> simp

/-- **What a text is as a plan is what it means as a value.** -/
theorem parse_eq_ok_iff {text : String} {plan : Plan} :
    parse text = .ok plan ↔ ∃ v, Says text v ∧ Means v plan := by
  have hbare : whole (readRegions nestingLimit) text = .ok plan.regions ↔
      ∃ v, Says text v ∧ RegionsMean v plan.regions :=
    (decodes_readRegions nestingLimit).whole_iff
  have hobject : whole (Plan.read nestingLimit) text = .ok plan ↔ ∃ v, Says text v ∧ _ :=
    (decodes_read nestingLimit).whole_iff
  rw [parse_eq_ok_iff_decode]
  unfold decode
  constructor
  · intro h
    split at h
    · obtain ⟨regions, hregions, rfl⟩ := map_eq_ok_iff.mp h
      obtain ⟨v, hv, hmeans⟩ := hbare.mp hregions
      exact ⟨v, hv, .bare hmeans⟩
    · obtain ⟨v, hv, regions, rfl, hmeans⟩ := hobject.mp h
      exact ⟨_, hv, .object hmeans⟩
  · rintro ⟨v, hv, hmeans⟩
    obtain ⟨d, hread, -⟩ := whole_eq_ok_iff.mp hv
    cases hmeans with
    | bare hregions =>
      have hform : isBareList text = true := by
        obtain ⟨items, rfl, -⟩ := hregions
        cases value_eq_ok_iff.mp hread with
        | arr hfaces _ _ => exact isBareList_of_faces hfaces (by decide)
      simp only [hform, if_true, hbare.mpr ⟨v, hv, hregions⟩, Except.map]
    | object hregions =>
      have hform : isBareList text = false := by
        cases value_eq_ok_iff.mp hread with
        | obj hfaces _ _ => exact isBareList_of_faces hfaces (by decide)
      simp only [hform, Bool.false_eq_true, if_false]
      exact hobject.mpr ⟨_, hv, _, rfl, hregions⟩

end Plan

end LineCut
