/-
What can be wrong with a pattern, and how that is shown.

A fault points at a piece of the pattern.  Three faults are about two pieces, since the second is
only wrong because of the first: a flag given twice, a minus given twice, a name given twice.

The message shows the pattern with carets under the pieces.  A pattern of one line is shown
indented; one of several lines is shown between rules with its lines numbered, and a piece that
runs over a line end is named below instead of being underlined.
-/

namespace LineCut.Pattern

/-! ### Places -/

/-- A place in front of a character, by line and column, both counted from one. -/
structure Place where
  line : Nat
  column : Nat
  deriving DecidableEq, Repr

/-- A piece of a pattern, up to but not including its last place. -/
structure Span where
  first : Place
  last : Place
  deriving DecidableEq, Repr

/-- Reading order. -/
def Place.before (p q : Place) : Bool :=
  p.line < q.line || (p.line == q.line && p.column < q.column)

/-- Order by the first place, then by the last. -/
def Span.atMost (s t : Span) : Bool :=
  s.first.before t.first || (s.first == t.first && !t.last.before s.last)

/-- Whether a piece stays on its line. -/
def Span.oneLine (s : Span) : Bool :=
  s.first.line == s.last.line

/-! ### Faults -/

/-- How deeply groups, classes and repetitions may be nested. -/
def nestingLimit : Nat := 250

/-- What is wrong. -/
inductive Flaw where
  | classEscape
  | classRangeOrder
  | classRangeBound
  | classUnclosed
  | decimalInvalid
  | hexEmpty
  | hexInvalid
  | hexDigit
  | escapeEnd
  | escapeUnknown
  | flagDangling
  | flagRepeated (earlier : Span)
  | flagMinusRepeated (earlier : Span)
  | flagEnd
  | flagUnknown
  | nameRepeated (earlier : Span)
  | nameEmpty
  | nameCharacter
  | nameEnd
  | groupUnclosed
  | groupUnopened
  | nesting
  | countOrder
  | countEmpty
  | countUnclosed
  | nothingToRepeat
  | boundaryUnclosed
  | boundaryUnknown
  | boundaryOrCountEnd
  | propertyInvalid
  | backreference
  | lookAround
  | unicodeOff
  | notUtf8
  | propertyUnknown
  | propertyValueUnknown
  deriving DecidableEq, Repr

/-- What is wrong, in words. -/
def Flaw.message : Flaw → String
  | classEscape => "invalid escape sequence found in character class"
  | classRangeOrder => "invalid character class range, the start must be <= the end"
  | classRangeBound => "invalid range boundary, must be a literal"
  | classUnclosed => "unclosed character class"
  | decimalInvalid => "decimal literal invalid"
  | hexEmpty => "hexadecimal literal empty"
  | hexInvalid => "hexadecimal literal is not a Unicode scalar value"
  | hexDigit => "invalid hexadecimal digit"
  | escapeEnd => "incomplete escape sequence, reached end of pattern prematurely"
  | escapeUnknown => "unrecognized escape sequence"
  | flagDangling => "dangling flag negation operator"
  | flagRepeated _ => "duplicate flag"
  | flagMinusRepeated _ => "flag negation operator repeated"
  | flagEnd => "expected flag but got end of regex"
  | flagUnknown => "unrecognized flag"
  | nameRepeated _ => "duplicate capture group name"
  | nameEmpty => "empty capture group name"
  | nameCharacter => "invalid capture group character"
  | nameEnd => "unclosed capture group name"
  | groupUnclosed => "unclosed group"
  | groupUnopened => "unopened group"
  | nesting =>
    "exceed the maximum number of nested parentheses/brackets (" ++ toString nestingLimit ++ ")"
  | countOrder => "invalid repetition count range, the start must be <= the end"
  | countEmpty => "repetition quantifier expects a valid decimal"
  | countUnclosed => "unclosed counted repetition"
  | nothingToRepeat => "repetition operator missing expression"
  | boundaryUnclosed =>
    "special word boundary assertion is either unclosed or contains an invalid character"
  | boundaryUnknown =>
    "unrecognized special word boundary assertion, valid choices are: start, end, start-half " ++
      "or end-half"
  | boundaryOrCountEnd =>
    "found either the beginning of a special word boundary or a bounded repetition on a \\b " ++
      "with an opening brace, but no closing brace"
  | propertyInvalid => "invalid Unicode character class"
  | backreference => "backreferences are not supported"
  | lookAround => "look-around, including look-ahead and look-behind, is not supported"
  | unicodeOff => "Unicode not allowed here"
  | notUtf8 => "pattern can match invalid UTF-8"
  | propertyUnknown => "Unicode property not found"
  | propertyValueUnknown => "Unicode property value not found"

/-- A flaw and the piece of the pattern that has it. -/
structure Fault where
  flaw : Flaw
  span : Span
  deriving DecidableEq, Repr

/-- The pieces that a message points at. -/
def Fault.spans (fault : Fault) : List Span :=
  match fault.flaw with
  | .flagRepeated earlier | .flagMinusRepeated earlier | .nameRepeated earlier =>
    [fault.span, earlier]
  | _ => [fault.span]

/-! ### The message -/

/-- The lines of a pattern, each without what ends it.  What follows the last line end is a line
only if there is something there. -/
def linesOf (taken : List Char) : List Char → List (List Char)
  | [] => if taken.isEmpty then [] else [taken.reverse]
  | '\n' :: rest =>
    (match taken with
      | '\r' :: front => front.reverse
      | _ => taken.reverse) :: linesOf [] rest
  | c :: rest => linesOf (c :: taken) rest

/-- Blanks and carets that underline pieces of one line, which come in order.  `column` is the
number of columns already filled. -/
def carets (column : Nat) : List Span → List Char
  | [] => []
  | s :: rest =>
    let blank := s.first.column - 1 - column
    let width := max 1 (s.last.column - s.first.column)
    List.replicate blank ' ' ++ List.replicate width '^' ++ carets (column + blank + width) rest

/-- A line number, filled up with blanks in front. -/
def lineNumber (width n : Nat) : List Char :=
  let digits := Nat.toDigits 10 n
  List.replicate (width - digits.length) ' ' ++ digits

/-- The lines of a pattern from number `n` on, each followed by its underlining if it has one.
`width` is that of the line numbers, and zero if there are none. -/
def annotate (width : Nat) (spans : List Span) : Nat → List (List Char) → List Char
  | _, [] => []
  | n, line :: rest =>
    let margin := if width == 0 then [' ', ' ', ' ', ' '] else lineNumber width n ++ [':', ' ']
    let here := spans.filter fun s => s.first.line == n
    let notes :=
      if here.isEmpty then [] else List.replicate margin.length ' ' ++ carets 0 here ++ ['\n']
    margin ++ line ++ '\n' :: (notes ++ annotate width spans (n + 1) rest)

/-- A piece that is not on one line, in words. -/
def spanNote (s : Span) : String :=
  "on line " ++ toString s.first.line ++ " (column " ++ toString s.first.column ++
    ") through line " ++ toString s.last.line ++ " (column " ++ toString (s.last.column - 1) ++ ")"

/-- The rule above and below a pattern of several lines. -/
def rule : String :=
  String.ofList (List.replicate 79 '~')

/-- The message about a fault of a pattern. -/
def Fault.message (fault : Fault) (pattern : String) : String :=
  let text := pattern.toList
  let lines := linesOf [] text
  let count := if text.getLast? == some '\n' then lines.length + 1 else lines.length
  let width := if count ≤ 1 then 0 else (Nat.toDigits 10 count).length
  let spans := fault.spans.mergeSort Span.atMost
  let shown := String.ofList (annotate width (spans.filter Span.oneLine) 1 lines)
  let error := "error: " ++ fault.flaw.message
  if text.contains '\n' then
    let notes := (spans.filter fun s => !s.oneLine).map spanNote
    "regex parse error:\n" ++ rule ++ "\n" ++ shown ++ rule ++ "\n" ++
      (if notes.isEmpty then "" else "\n".intercalate notes ++ "\n") ++ error
  else "regex parse error:\n" ++ shown ++ error

/-! ### Refusals -/

/-- How many bytes a pattern may take. -/
def sizeLimit : Nat := 10485760

/-- Why a text is not taken for a pattern. -/
inductive Refusal where
  /-- There is something wrong with it. -/
  | flawed (fault : Fault)
  /-- It takes too many bytes. -/
  | tooLarge
  deriving DecidableEq, Repr

/-- The message about a text that is not taken for a pattern. -/
def Refusal.message (refusal : Refusal) (pattern : String) : String :=
  match refusal with
  | flawed fault => fault.message pattern
  | tooLarge => "Compiled regex exceeds size limit of " ++ toString sizeLimit ++ " bytes."

end LineCut.Pattern
