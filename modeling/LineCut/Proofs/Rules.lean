/-
Rules, read as values.

The rule for the end of a region is read as a value in the first place, so what it means could be
read off the reader, but for two things.  The walk through its members sorts out the name on the
way, and refuses a second one; what comes of it is said here of the members as a whole, as two
filters.  And a rule written as an array is read with other fuel than an array of any values is.
-/
import LineCut.Proofs.Alternatives

namespace LineCut

open Json

variable {c behind : Cursor}

/-! ### Rules -/

theorem judged_eq_ok_iff {α : Type} {outcome : Except Complaint α} {x : α} :
    judged c outcome = .ok (x, behind) ↔ outcome = .ok x ∧ c = behind := by
  cases outcome <;> simp [judged]

namespace EndSpec

/-- The value is the rule: an object with one name among its members, or an array that begins with
the name. -/
inductive Means : Json → EndSpec → Prop
  | members {all : List (String × Json)} {name : String} {ending : EndSpec}
      (hrule : all.filter (·.1 == "rule") = [("rule", .str name)]) (hname : name ∈ names)
      (h : ofMembers name (all.filter (·.1 != "rule")) = .ok ending) : Means (.obj all) ending
  | items {name : String} {rest : List Json} {ending : EndSpec} (hname : name ∈ names)
      (h : ofItems name rest = .ok ending) : Means (.arr (.str name :: rest)) ending

/-- What the member of a rule does to what has been kept: it is the name, if there is none yet, or
kept for later. -/
def Keeps (before : Option String × List (String × Json)) (entry : String × Json)
    (after : Option String × List (String × Json)) : Prop :=
  if entry.1 = "rule" then
    before.1 = none ∧ ∃ name, (entry.2 = .str name ∧ name ∈ names) ∧ (some name, before.2) = after
  else (before.1, before.2 ++ [entry]) = after

theorem takes_readMember (limit : Nat) :
    Takes (readMember (value limit)) (value limit) Keeps := by
  refine ⟨fun {before key c after behind} => ?_⟩
  unfold readMember Keeps
  by_cases hkey : key = "rule"
  · simp only [hkey, if_true]
    cases hbefore : before.1 with
    | some name => simp
    | none =>
      simp only [Option.isSome_none, Bool.false_eq_true, if_false, true_and]
      refine (decodes_readName names limit).member_iff (fun name => (some name, before.2)) ?_ ?_
      · intro start hcolon
        simp only [hcolon]
      · intro failure hcolon
        simp only [hcolon]
  · simp only [hkey, if_false]
    refine ((decodes_value limit).member_iff (c := c)
      (fun v => (before.1, before.2 ++ [(key, v)])) ?_ ?_).trans ?_
    · intro start hcolon
      cases hv : value limit start <;> simp [anyMember, hcolon, hv, Except.map]
    · intro failure hcolon
      simp [anyMember, hcolon, Except.map]
    · simp

/-- Once there is a name, all members are kept, and none of them is a name. -/
theorem steps_keeps_some_iff {name : String} {before all : List (String × Json)}
    {after : Option String × List (String × Json)} :
    Steps Keeps (some name, before) all after ↔
      all.filter (·.1 == "rule") = [] ∧
        after = (some name, before ++ all.filter (·.1 != "rule")) := by
  induction all generalizing before with
  | nil =>
    constructor
    · rintro ⟨⟩
      simp
    · rintro ⟨-, rfl⟩
      simpa using Steps.nil _
  | cons entry all ih =>
    by_cases hkey : entry.1 = "rule"
    · constructor
      · intro h
        cases h with
        | cons hstep _ => simp [Keeps, hkey] at hstep
      · simp [hkey]
    · constructor
      · intro h
        cases h with
        | cons hstep hrest =>
          simp only [Keeps, hkey, if_false] at hstep
          subst hstep
          simpa [hkey] using ih.mp hrest
      · intro h
        have hstep : Keeps (some name, before) entry (some name, before ++ [entry]) := by
          simp [Keeps, hkey]
        exact .cons hstep (ih.mpr (by simpa [hkey] using h))

/-- The walk through the members of a rule comes to its only name, and to its other members. -/
theorem steps_keeps_iff {name : String} {before all kept : List (String × Json)} :
    Steps Keeps (none, before) all (some name, kept) ↔
      all.filter (·.1 == "rule") = [("rule", .str name)] ∧ name ∈ names ∧
        kept = before ++ all.filter (·.1 != "rule") := by
  induction all generalizing before with
  | nil =>
    constructor
    · intro h
      cases h
    · rintro ⟨h, -⟩
      cases h
  | cons entry all ih =>
    obtain ⟨key, v⟩ := entry
    by_cases hkey : key = "rule"
    · subst hkey
      constructor
      · intro h
        cases h with
        | cons hstep hrest =>
          simp only [Keeps, if_true, true_and] at hstep
          obtain ⟨other, hname, rfl, rfl⟩ := hstep
          obtain ⟨hnone, heq⟩ := steps_keeps_some_iff.mp hrest
          cases heq
          simp [hnone, hname]
      · rintro ⟨hrule, hname, rfl⟩
        simp only [beq_self_eq_true, List.filter_cons_of_pos, List.cons.injEq, Prod.mk.injEq,
          true_and] at hrule
        have hstep : Keeps (none, before) ("rule", v) (some name, before) := by
          simp [Keeps, hrule.1, hname]
        exact .cons hstep (steps_keeps_some_iff.mpr ⟨hrule.2, by simp⟩)
    · constructor
      · intro h
        cases h with
        | cons hstep hrest =>
          simp only [Keeps, hkey, if_false] at hstep
          subst hstep
          simpa [hkey] using ih.mp hrest
      · intro h
        have hstep : Keeps (none, before) (key, v) (none, before ++ [(key, v)]) := by
          simp [Keeps, hkey]
        exact .cons hstep (ih.mpr (by simpa [hkey] using h))

theorem readObject_eq_ok_iff {limit : Nat} {name : String} {kept : List (String × Json)} :
    readObject (value limit) c = .ok ((name, kept), behind) ↔
      ∃ all, Entries (value limit) true c all behind ∧
        all.filter (·.1 == "rule") = [("rule", .str name)] ∧ name ∈ names ∧
        kept = all.filter (·.1 != "rule") := by
  have hmembers : members (readMember (value limit)) c.fuel true (none, []) c =
      .ok ((some name, kept), behind) ↔ _ := members_fuel_iff (takes_readMember limit)
  simp only [steps_keeps_iff, List.nil_append] at hmembers
  rw [← hmembers]
  unfold readObject
  constructor
  · intro h
    split at h
    · cases h
    · next hread =>
      cases h
      exact hread
    · cases h
  · intro hread
    simp only [hread]

theorem readArray_eq_ok_iff {limit : Nat} {name : String} {rest : List Json} :
    readArray (value limit) c = .ok ((name, rest), behind) ↔
      name ∈ names ∧ Items (value limit) true c (.str name :: rest) behind := by
  unfold readArray
  constructor
  · intro h
    split at h
    · cases h
    · cases h
    · next start hnext =>
      split at h
      · cases h
      · next known middle hread =>
        obtain ⟨htext, hname⟩ := readName_eq_ok_iff.mp hread
        obtain ⟨⟨kept, d⟩, hitems, heq⟩ := map_eq_ok_iff.mp h
        cases heq
        exact ⟨hname, .cons hnext (value_eq_ok_iff.mpr (.str htext))
          ((items_fuel_iff (advances_value limit)).mp hitems)⟩
  · rintro ⟨hname, hall⟩
    cases hall with
    | cons hnext hv hrest =>
      cases value_eq_ok_iff.mp hv with
      | str htext =>
        have hread := readName_eq_ok_iff.mpr ⟨htext, hname⟩
        have hitems := (items_fuel_iff (advances_value limit)).mpr hrest
        simp only [hnext, hread, hitems, Except.map]

/-- **A rule is read from the text as it is from the value.** -/
theorem decodes_read (limit : Nat) : Decodes (EndSpec.read limit) (value limit) Means := by
  refine ⟨fun {c ending behind} => ?_⟩
  simp only [value_eq_ok_iff]
  constructor
  · intro h
    unfold EndSpec.read at h
    simp only at h
    split at h
    · cases h
    · cases h
    · cases h
    · next limit hlook =>
      split at h
      · cases h
      · next name kept d hread =>
        obtain ⟨hmembers, rfl⟩ := judged_eq_ok_iff.mp h
        obtain ⟨middle, hobject, hclose⟩ := inObject_eq_ok_iff.mp hread
        obtain ⟨all, hentries, hrule, hname, rfl⟩ := readObject_eq_ok_iff.mp hobject
        exact ⟨.obj all, .obj ⟨_, hlook⟩ hentries hclose, .members hrule hname hmembers⟩
    · next limit hlook =>
      split at h
      · cases h
      · next name rest d hread =>
        obtain ⟨hitems, rfl⟩ := judged_eq_ok_iff.mp h
        obtain ⟨middle, harray, hclose⟩ := inArray_eq_ok_iff.mp hread
        obtain ⟨hname, hall⟩ := readArray_eq_ok_iff.mp harray
        exact ⟨.arr (.str name :: rest), .arr ⟨_, hlook⟩ hall hclose, .items hname hitems⟩
    · cases h
  · rintro ⟨v, hshaped, hmeans⟩
    cases hmeans with
    | members hrule hname h =>
      cases hshaped with
      | obj hfaces hentries hclose =>
        obtain ⟨rest, hrest⟩ := hfaces
        have hobject := readObject_eq_ok_iff.mpr ⟨_, hentries, hrule, hname, rfl⟩
        have hread := inObject_eq_ok_iff.mpr ⟨_, hobject, hclose⟩
        simp only [EndSpec.read, hrest, hread]
        exact judged_eq_ok_iff.mpr ⟨h, rfl⟩
    | items hname h =>
      cases hshaped with
      | arr hfaces hall hclose =>
        obtain ⟨rest, hrest⟩ := hfaces
        have harray := readArray_eq_ok_iff.mpr ⟨hname, hall⟩
        have hread := inArray_eq_ok_iff.mpr ⟨_, harray, hclose⟩
        simp only [EndSpec.read, hrest, hread]
        exact judged_eq_ok_iff.mpr ⟨h, rfl⟩

end EndSpec

end LineCut
