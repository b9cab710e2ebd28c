/-
The parts of a pattern, each with the piece of the text it was read from.

The tree keeps what the reader saw and decides nothing: flags stand where they were written, and
a class is still the expression it was written as.
-/
import LineCut.Pattern.Fault

namespace LineCut.Pattern

/-- A character that stands for itself.  `byte` says that it was written as a two-digit
hexadecimal escape, which means a byte where Unicode is off. -/
structure Literal where
  span : Span
  char : Char
  byte : Bool
  deriving DecidableEq, Repr

/-- The three classes with one-letter escapes. -/
inductive Shorthand where
  | digit
  | space
  | word
  deriving DecidableEq, Repr

/-- The classes that bracketed classes know by name. -/
inductive AsciiClass where
  | alnum
  | alpha
  | ascii
  | blank
  | cntrl
  | digit
  | graph
  | lower
  | print
  | punct
  | space
  | upper
  | word
  | xdigit
  deriving DecidableEq, Repr

/-- The class of that name. -/
def AsciiClass.ofName? : String → Option AsciiClass
  | "alnum" => some .alnum
  | "alpha" => some .alpha
  | "ascii" => some .ascii
  | "blank" => some .blank
  | "cntrl" => some .cntrl
  | "digit" => some .digit
  | "graph" => some .graph
  | "lower" => some .lower
  | "print" => some .print
  | "punct" => some .punct
  | "space" => some .space
  | "upper" => some .upper
  | "word" => some .word
  | "xdigit" => some .xdigit
  | _ => none

/-- A class given by a property, or by a property and its value. -/
structure PropertyClass where
  span : Span
  negated : Bool
  name : String
  value : Option String
  deriving DecidableEq, Repr

/-- The operators between classes. -/
inductive ClassOperator where
  | inter
  | diff
  | symmDiff
  deriving DecidableEq, Repr

/-- What stands in a bracketed class. -/
inductive ClassNode where
  | empty (span : Span)
  | literal (l : Literal)
  | range (span : Span) (low high : Literal)
  | ascii (span : Span) (negated : Bool) (kind : AsciiClass)
  | shorthand (span : Span) (negated : Bool) (kind : Shorthand)
  | property (p : PropertyClass)
  | bracketed (span : Span) (negated : Bool) (inner : ClassNode)
  | union (span : Span) (items : List ClassNode)
  | combine (span : Span) (operator : ClassOperator) (left right : ClassNode)
  deriving Repr

/-- The piece a class was read from. -/
def ClassNode.span : ClassNode → Span
  | .empty span => span
  | .literal l => l.span
  | .range span _ _ => span
  | .ascii span _ _ => span
  | .shorthand span _ _ => span
  | .property p => p.span
  | .bracketed span _ _ => span
  | .union span _ => span
  | .combine span _ _ _ => span

/-- The flags. -/
inductive Flag where
  | caseless
  | multiLine
  | dotAll
  | swapGreed
  | unicode
  | crlf
  | spaced
  deriving DecidableEq, Repr

/-- The flag with that letter. -/
def Flag.ofLetter? : Char → Option Flag
  | 'i' => some .caseless
  | 'm' => some .multiLine
  | 's' => some .dotAll
  | 'U' => some .swapGreed
  | 'u' => some .unicode
  | 'R' => some .crlf
  | 'x' => some .spaced
  | _ => none

/-- What is asked of a place between two characters. -/
inductive Assertion where
  | lineStart
  | lineEnd
  | textStart
  | textEnd
  | boundary
  | noBoundary
  | wordStart
  | wordEnd
  | wordStartHalf
  | wordEndHalf
  deriving DecidableEq, Repr

/-- A pattern as it was written. -/
inductive Node where
  | empty (span : Span)
  | flags (span : Span) (changes : List (Flag × Bool))
  | literal (l : Literal)
  | dot (span : Span)
  | assertion (span : Span) (kind : Assertion)
  | shorthand (span : Span) (negated : Bool) (kind : Shorthand)
  | property (p : PropertyClass)
  | bracketed (span : Span) (negated : Bool) (inner : ClassNode)
  | repetition (span : Span) (low : Nat) (high : Option Nat) (body : Node)
  | group (span : Span) (changes : List (Flag × Bool)) (body : Node)
  | alternation (span : Span) (branches : List Node)
  | sequence (span : Span) (parts : List Node)
  deriving Repr

/-- The piece a pattern was read from. -/
def Node.span : Node → Span
  | .empty span => span
  | .flags span _ => span
  | .literal l => l.span
  | .dot span => span
  | .assertion span _ => span
  | .shorthand span _ _ => span
  | .property p => p.span
  | .bracketed span _ _ => span
  | .repetition span _ _ _ => span
  | .group span _ _ => span
  | .alternation span _ => span
  | .sequence span _ => span

/-! ### Nesting

Every part that holds others opens a level, except that a list of one thing is that thing.
-/

/-- The first part of a class, in reading order, that is nested deeper than allowed. -/
def ClassNode.tooDeep (depth : Nat) : ClassNode → Option Span
  | .bracketed span _ inner =>
    if nestingLimit ≤ depth then some span else inner.tooDeep (depth + 1)
  | .union span items =>
    if nestingLimit ≤ depth then some span
    else items.attach.findSome? fun ⟨item, _⟩ => item.tooDeep (depth + 1)
  | .combine span _ left right =>
    if nestingLimit ≤ depth then some span
    else (left.tooDeep (depth + 1)).or (right.tooDeep (depth + 1))
  | _ => none

/-- The first part of a pattern, in reading order, that is nested deeper than allowed. -/
def Node.tooDeep (depth : Nat) : Node → Option Span
  | .bracketed span _ inner =>
    if nestingLimit ≤ depth then some span else inner.tooDeep (depth + 1)
  | .repetition span _ _ body =>
    if nestingLimit ≤ depth then some span else body.tooDeep (depth + 1)
  | .group span _ body =>
    if nestingLimit ≤ depth then some span else body.tooDeep (depth + 1)
  | .alternation span branches =>
    if nestingLimit ≤ depth then some span
    else branches.attach.findSome? fun ⟨branch, _⟩ => branch.tooDeep (depth + 1)
  | .sequence span parts =>
    if nestingLimit ≤ depth then some span
    else parts.attach.findSome? fun ⟨part, _⟩ => part.tooDeep (depth + 1)
  | _ => none

end LineCut.Pattern
