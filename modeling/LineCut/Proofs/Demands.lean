/-
What is demanded of the parts of a plan.

A plan is checked from front to back, and the first thing in it that cannot be used ends the check.
Two things are wanted of such a check, which plans it accepts and what it blames if it does not, and
they belong together: what is blamed is the first of the demands that is not met, in the order in
which they are made.  So demands come in a list here, each with the key of what it is about, and a
check `Enforces` them if it comes to a value when all of them are met and blames the key of the
first that is not when they are not.  It is never both, since it only comes to one thing, and a
check that enforces some demands can be followed by one that enforces others.

With the demands goes what the value means.  A test of lines is compiled into another test; what
that is good for is that the two say the same of every line.  What a test says is written down here
without looking at how it is run: a text is in the line, the line begins with it, one of the tests
is true of it or all of them are.
-/
import Mathlib.Data.List.Forall2
import LineCut.Region

namespace LineCut

variable {α β : Type}

/-! ### Demands and checks -/

/-- Something that is demanded, and the key of what it is demanded of. -/
structure Demand where
  key : String
  met : Prop

/-- The key of the first of the demands that is not met. -/
inductive FirstUnmet : List Demand → String → Prop
  | here {demand : Demand} {rest : List Demand} (h : ¬ demand.met) :
      FirstUnmet (demand :: rest) demand.key
  | later {demand : Demand} {rest : List Demand} {key : String} (hmet : demand.met)
      (h : FirstUnmet rest key) : FirstUnmet (demand :: rest) key

/-- What a check comes to that makes demands in order: a value that means what it should if all of
them are met, and otherwise a fault that blames the first that is not. -/
inductive Enforces (demands : List Demand) (means : α → Prop) : Except Fault α → Prop
  | accepts {value : α} (hmet : ∀ demand ∈ demands, demand.met) (hvalue : means value) :
      Enforces demands means (.ok value)
  | blames {key : String} {value : Option String} {problem : String}
      (h : FirstUnmet demands key) :
      Enforces demands means (.error (.invalidValue key value problem))

namespace FirstUnmet

variable {demands later : List Demand} {key : String}

theorem not_forall (h : FirstUnmet demands key) : ¬ ∀ demand ∈ demands, demand.met := by
  induction h with
  | here hnot => exact fun hall => hnot (hall _ (by simp))
  | later _ _ ih => exact fun hall => ih fun demand hmem => hall demand (by simp [hmem])

/-- **Only one key is blamed.** -/
theorem unique {other : String} (h : FirstUnmet demands key) (hother : FirstUnmet demands other) :
    key = other := by
  induction h with
  | here hnot =>
      cases hother with
      | here => rfl
      | later hmet => exact absurd hmet hnot
  | later hmet _ ih =>
      cases hother with
      | here hnot => exact absurd hmet hnot
      | later _ hrest => exact ih hrest

theorem append (h : FirstUnmet demands key) (later : List Demand) :
    FirstUnmet (demands ++ later) key := by
  induction h with
  | here hnot => exact .here hnot
  | later hmet _ ih => exact .later hmet ih

theorem of_append (hmet : ∀ demand ∈ demands, demand.met) (h : FirstUnmet later key) :
    FirstUnmet (demands ++ later) key := by
  induction demands with
  | nil => exact h
  | cons demand rest ih =>
      exact .later (hmet demand (by simp)) (ih fun other hmem => hmet other (by simp [hmem]))

end FirstUnmet

namespace Enforces

variable {demands later : List Demand} {means : α → Prop} {meansLater : β → Prop}
  {outcome : Except Fault α} {key : String} {P Q : Prop}

/-- Demands that are met may be made before. -/
theorem of_append (hmet : ∀ demand ∈ demands, demand.met) (h : Enforces later means outcome) :
    Enforces (demands ++ later) means outcome := by
  cases h with
  | accepts hlater hvalue =>
      refine .accepts ?_ hvalue
      intro demand hmem
      rcases List.mem_append.mp hmem with hfront | hback
      · exact hmet demand hfront
      · exact hlater demand hback
  | blames h => exact .blames (.of_append hmet h)

/-- **One check behind another**, which is made with what the first comes to. -/
theorem bind {next : α → Except Fault β} (h : Enforces demands means outcome)
    (hnext : ∀ value, means value → Enforces later meansLater (next value)) :
    Enforces (demands ++ later) meansLater (outcome >>= next) := by
  cases h with
  | accepts hmet hvalue => exact .of_append hmet (hnext _ hvalue)
  | blames h => exact .blames (h.append later)

/-- The value may be put to another use. -/
theorem map {f : α → β} (h : Enforces demands means outcome)
    (hvalue : ∀ value, means value → meansLater (f value)) :
    Enforces demands meansLater (outcome.map f) := by
  cases h with
  | accepts hmet hmeans => exact .accepts hmet (hvalue _ hmeans)
  | blames h => exact .blames h

/-- **A demand that is made at once**, before anything else is looked at. -/
theorem check {bad : Bool} {value : Option String} {problem : String} (hbad : bad = true ↔ ¬ P)
    (h : P → Enforces later means outcome) :
    Enforces (⟨key, P⟩ :: later) means
      (if bad then .error (.invalidValue key value problem) else outcome) := by
  by_cases hcond : bad = true
  · rw [if_pos hcond]
    exact .blames (.here (hbad.mp hcond))
  · rw [if_neg hcond]
    have hmet : P := by
      by_contra hnot
      exact hcond (hbad.mpr hnot)
    have hfirst : ∀ demand ∈ [(⟨key, P⟩ : Demand)], demand.met := by simpa using hmet
    exact of_append hfirst (h hmet)

/-- A demand may be put in other words. -/
theorem congr (h : Enforces [⟨key, P⟩] means outcome) (hiff : P ↔ Q) :
    Enforces [⟨key, Q⟩] means outcome := by
  rw [← propext hiff]
  exact h

/-- Two demands on the same are one. -/
theorem merge (h : Enforces [⟨key, P⟩, ⟨key, Q⟩] means outcome) :
    Enforces [⟨key, P ∧ Q⟩] means outcome := by
  cases h with
  | accepts hmet hvalue => exact .accepts (by simpa using hmet) hvalue
  | blames h =>
      have hnot : ¬ (P ∧ Q) := by simpa using h.not_forall
      cases h with
      | here => exact .blames (.here hnot)
      | later _ h =>
          cases h with
          | here => exact .blames (.here hnot)
          | later _ h => cases h

end Enforces

/-! ### What a test says -/

namespace LineTest

/-- What the test says is true of the line. -/
def TrueOf (line : String) : LineTest String → Prop
  | contains text => text.toList <:+: line.toList
  | startsWith text => text.toList <+: Text.trimStart line.toList
  | pattern source => ∃ ready, Pattern.compile source = .ok ready ∧ ready.isMatch line = true
  | blank => ∀ c ∈ line.toList, Text.isSpace c = true
  | any tests => ∃ test, ∃ _ : test ∈ tests, TrueOf line test
  | all tests => ∀ test, test ∈ tests → TrueOf line test
  | negation test => ¬ TrueOf line test

/-- The test can be used: no literal in it is empty, no list of tests, and every pattern is one. -/
def Usable : LineTest String → Prop
  | contains text => text ≠ ""
  | startsWith text => text ≠ ""
  | pattern source => ∃ ready, Pattern.compile source = .ok ready
  | blank => True
  | any tests => tests ≠ [] ∧ ∀ test, test ∈ tests → Usable test
  | all tests => tests ≠ [] ∧ ∀ test, test ∈ tests → Usable test
  | negation test => Usable test

/-- The one test holds of exactly those lines of which the other is true. -/
def Realises (ready : LineTest Pattern) (test : LineTest String) : Prop :=
  ∀ line, ready.holds line = true ↔ test.TrueOf line

variable {ready : List (LineTest Pattern)} {tests : List (LineTest String)}

/-- One of them holds where one of the others is true. -/
theorem realises_any (h : List.Forall₂ Realises ready tests) :
    Realises (.any ready) (.any tests) := by
  intro line
  show someHolds line ready = true ↔ _
  rw [TrueOf]
  induction h with
  | nil => simp [someHolds]
  | cons hfirst _ ih =>
      rw [someHolds, Bool.or_eq_true, hfirst line, ih]
      simp

/-- All of them hold where all of the others are true. -/
theorem realises_all (h : List.Forall₂ Realises ready tests) :
    Realises (.all ready) (.all tests) := by
  intro line
  show everyHolds line ready = true ↔ _
  rw [TrueOf]
  induction h with
  | nil => simp [everyHolds]
  | cons hfirst _ ih =>
      rw [everyHolds, Bool.and_eq_true, hfirst line, ih]
      simp

theorem enforces_checkLiteral (key text : String) :
    Enforces [⟨key, text ≠ ""⟩] (· = text) (checkLiteral key text) := by
  refine .check ?_ fun _ => .accepts (by simp) rfl
  rw [String.isEmpty_iff, not_not]

/-- Tests are checked one behind another. -/
theorem compileAll_cons (key : String) (first : Bool) (test : LineTest String)
    (rest : List (LineTest String)) :
    compileAll key first (test :: rest) =
      compile key test >>= fun ready => (compileAll key false rest).map (ready :: ·) := by
  rw [compileAll]
  cases compile key test with
  | error fault => rfl
  | ok ready => rfl

mutual

/-- **A test that can be used is compiled into one that says the same**, and its key is blamed for
any other.  The recursion is that of the test. -/
theorem enforces_compile (key : String) : ∀ test : LineTest String,
    Enforces [⟨key, test.Usable⟩] (fun ready => ready.Realises test) (test.compile key)
  | contains text => by
    have hcheck := enforces_checkLiteral key text
    refine (hcheck.map ?_).congr (by rw [Usable])
    intro value hvalue line
    rw [hvalue, TrueOf]
    exact Text.holds_iff
  | startsWith text => by
    have hcheck := enforces_checkLiteral key text
    refine (hcheck.map ?_).congr (by rw [Usable])
    intro value hvalue line
    rw [hvalue, TrueOf]
    exact List.isPrefixOf_iff_prefix
  | pattern source => by
    rw [compile]
    cases hcompile : Pattern.compile source with
    | error fault => exact .blames (.here (by simp [Usable, hcompile]))
    | ok ready =>
        refine .accepts (by simp [Usable, hcompile]) ?_
        intro line
        simp [holds, TrueOf, hcompile]
  | blank => by
    refine .accepts (by simp [Usable]) ?_
    intro line
    simp [holds, TrueOf, Text.isBlank]
  | any tests => by
    have hall := enforces_compileAll key true tests
    refine (hall.map ?_).congr (by rw [Usable]; simp)
    intro ready hready
    exact realises_any hready
  | all tests => by
    have hall := enforces_compileAll key true tests
    refine (hall.map ?_).congr (by rw [Usable]; simp)
    intro ready hready
    exact realises_all hready
  | negation test => by
    have hinner := enforces_compile key test
    refine (hinner.map ?_).congr (by rw [Usable])
    intro ready hready line
    rw [TrueOf, ← hready line]
    simp [holds]

/-- The same of tests in order, of which there may have to be one. -/
theorem enforces_compileAll (key : String) (first : Bool) : ∀ tests : List (LineTest String),
    Enforces [⟨key, (first = true → tests ≠ []) ∧ ∀ test ∈ tests, test.Usable⟩]
      (fun ready => List.Forall₂ Realises ready tests) (compileAll key first tests)
  | [] => by
    rw [compileAll]
    exact .check (by simp) fun _ => .accepts (by simp) .nil
  | test :: rest => by
    have hfirst := enforces_compile key test
    have hrest := enforces_compileAll key false rest
    have hboth : Enforces
        [⟨key, test.Usable⟩, ⟨key, (false = true → rest ≠ []) ∧ ∀ other ∈ rest, other.Usable⟩]
        (fun ready => List.Forall₂ Realises ready (test :: rest))
        (compileAll key first (test :: rest)) := by
      rw [compileAll_cons]
      exact hfirst.bind fun _ hready => hrest.map fun _ hothers => .cons hready hothers
    exact hboth.merge.congr (by simp)

end

end LineTest

end LineCut
