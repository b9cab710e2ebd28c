/-
Questions about one line.

A test looks at a line on its own.  It is written over texts of patterns and is put to use over
patterns that have been understood; between the two stands a check that no part of it is vacuous.
A literal that is empty would be found in every line, and an empty list of tests would hold always
or never, so both are refused.
-/
import LineCut.Fault
import LineCut.Pattern
import LineCut.Text.Search

namespace LineCut

/-- A test of a line, with patterns of the kind `π`. -/
inductive LineTest (π : Type) where
  /-- The text is somewhere in the line. -/
  | contains (text : String)
  /-- The line begins with the text, its indentation aside. -/
  | startsWith (text : String)
  /-- The pattern is found in the line. -/
  | pattern (pattern : π)
  /-- Nothing but white space is in the line. -/
  | blank
  /-- One of the tests holds. -/
  | any (tests : List (LineTest π))
  /-- All of the tests hold. -/
  | all (tests : List (LineTest π))
  /-- The test does not hold. -/
  | negation (test : LineTest π)
  deriving Repr, Inhabited

namespace LineTest

/-! ### Asking -/

mutual

/-- Whether a line passes. -/
def holds (line : String) : LineTest Pattern → Bool
  | contains text => Text.mentions line text
  | startsWith text => Text.opensWith line text
  | pattern p => p.isMatch line
  | blank => Text.isBlank line
  | any tests => someHolds line tests
  | all tests => everyHolds line tests
  | negation test => !holds line test
termination_by structural test => test

/-- Whether a line passes one of the tests. -/
def someHolds (line : String) : List (LineTest Pattern) → Bool
  | [] => false
  | test :: rest => holds line test || someHolds line rest
termination_by structural tests => tests

/-- Whether a line passes all of the tests. -/
def everyHolds (line : String) : List (LineTest Pattern) → Bool
  | [] => true
  | test :: rest => holds line test && everyHolds line rest
termination_by structural tests => tests

end

/-! ### Checking -/

/-- A literal, which has to have characters. -/
def checkLiteral (key text : String) : Except Fault String :=
  if text.isEmpty then
    .error (.invalidValue key none
      "Literal matcher must not be empty (it would match every line)")
  else .ok text

mutual

/-- Check a test and understand its patterns.  The key says where in the plan it stands. -/
def compile (key : String) : LineTest String → Except Fault (LineTest Pattern)
  | contains text => (checkLiteral key text).map .contains
  | startsWith text => (checkLiteral key text).map .startsWith
  | pattern source =>
    match Pattern.compile source with
    | .ok p => .ok (.pattern p)
    | .error refusal => .error (.invalidValue key (some source) (refusal.message source))
  | blank => .ok .blank
  | any tests => (compileAll key true tests).map .any
  | all tests => (compileAll key true tests).map .all
  | negation test => (compile key test).map .negation
termination_by structural test => test

/-- Check tests in order; `first` says that there has to be one. -/
def compileAll (key : String) (first : Bool) :
    List (LineTest String) → Except Fault (List (LineTest Pattern))
  | [] =>
    if first then .error (.invalidValue key none "Combinator needs at least one matcher")
    else .ok []
  | test :: rest =>
    match compile key test with
    | .error fault => .error fault
    | .ok ready => (compileAll key false rest).map (ready :: ·)
termination_by structural tests => tests

end

end LineTest

/-! ### The first line that passes -/

/-- The first line from index `start` on that passes a test. -/
def findFrom (test : String → Bool) (lines : List String) (start : Nat) : Option Nat :=
  ((lines.drop start).findIdx? test).map (start + ·)

/-- What is found lies at or behind the start, and among the lines. -/
theorem bounds_of_findFrom {test : String → Bool} {lines : List String} {start i : Nat}
    (h : findFrom test lines start = some i) : start ≤ i ∧ i < lines.length := by
  simp only [findFrom, Option.map_eq_some_iff] at h
  obtain ⟨j, hj, rfl⟩ := h
  have hlt := (List.findIdx?_eq_some_iff_getElem.1 hj).1
  rw [List.length_drop] at hlt
  omega

end LineCut
