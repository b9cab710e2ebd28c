/-
From what a pattern says to what it means.

The flags in force are handed along in reading order.  Flags given inside a group end with it;
flags given between parts hold for everything that follows in the same group, also across the
bars of an alternation.

Where Unicode is off, a pattern speaks of bytes, and then it must not be able to match a piece of
a character.  That is refused where it is said: a dot, a negated class, a byte above ASCII.  What
is left of such a pattern speaks of ASCII characters, so a set of characters is the meaning of
every class in either mode.
-/
import LineCut.Pattern.Reader
import LineCut.Pattern.Expr

namespace LineCut.Pattern

open Unicode (CharSet)

/-- The flags that change what a pattern means. -/
structure Flags where
  caseless : Bool
  multiLine : Bool
  dotAll : Bool
  unicode : Bool
  crlf : Bool
  deriving DecidableEq, Repr

namespace Flags

/-- The flags at the beginning of a pattern. -/
def initial : Flags := ⟨false, false, false, true, false⟩

/-- Switch one flag. -/
def switch (flags : Flags) : Flag × Bool → Flags
  | (.caseless, on) => { flags with caseless := on }
  | (.multiLine, on) => { flags with multiLine := on }
  | (.dotAll, on) => { flags with dotAll := on }
  | (.unicode, on) => { flags with unicode := on }
  | (.crlf, on) => { flags with crlf := on }
  | (.swapGreed, _) | (.spaced, _) => flags

/-- Switch several. -/
def switchAll (flags : Flags) (changes : List (Flag × Bool)) : Flags :=
  changes.foldl switch flags

end Flags

/-! ### Classes -/

/-- The characters of an ASCII class. -/
def AsciiClass.set : AsciiClass → CharSet
  | alnum => .ofRanges [(48, 57), (65, 90), (97, 122)]
  | alpha => .ofRanges [(65, 90), (97, 122)]
  | ascii => .interval 0 127
  | blank => .ofRanges [(9, 9), (32, 32)]
  | cntrl => .ofRanges [(0, 31), (127, 127)]
  | digit => .interval 48 57
  | graph => .interval 33 126
  | lower => .interval 97 122
  | print => .interval 32 126
  | punct => .ofRanges [(33, 47), (58, 64), (91, 96), (123, 126)]
  | space => .ofRanges [(9, 13), (32, 32)]
  | upper => .interval 65 90
  | word => Words.ascii.set
  | xdigit => .ofRanges [(48, 57), (65, 70), (97, 102)]

/-- Which characters words are made of. -/
def Flags.words (flags : Flags) : Words :=
  if flags.unicode then .unicode else .ascii

/-- The characters of a class with a one-letter escape. -/
def Shorthand.set (flags : Flags) : Shorthand → CharSet
  | digit => if flags.unicode then Unicode.digits else AsciiClass.digit.set
  | space => if flags.unicode then Unicode.blanks else AsciiClass.space.set
  | word => flags.words.set

/-- Close a class under letter case where case does not count. -/
def foldCase (flags : Flags) (set : CharSet) : CharSet :=
  if !flags.caseless then set
  else if flags.unicode then Unicode.Folding.close set
  else Unicode.Folding.closeAscii set

/-- The complement, if the class is negated. -/
def negate (negated : Bool) (set : CharSet) : CharSet :=
  if negated then set.complement else set

/-- A class whose characters have to be ASCII ones where Unicode is off. -/
def checked (flags : Flags) (span : Span) (set : CharSet) : Except Fault CharSet :=
  if !flags.unicode && !set.isAscii then .error ⟨.notUtf8, span⟩ else .ok set

/-- The class of a one-letter escape.  It is closed under letter case as it is. -/
def shorthandSet (flags : Flags) (span : Span) (negated : Bool) (kind : Shorthand) :
    Except Fault CharSet :=
  checked flags span (negate negated (kind.set flags))

/-- The class of a property.  Where Unicode is off there is none. -/
def propertySet (flags : Flags) (p : PropertyClass) : Except Fault CharSet :=
  if !flags.unicode then .error ⟨.unicodeOff, p.span⟩
  else
    let looked :=
      match p.value with
      | none => Unicode.named p.name
      | some value => Unicode.valued p.name value
    match looked with
    | .ok set => .ok (negate p.negated (foldCase flags set))
    | .error .property => .error ⟨.propertyUnknown, p.span⟩
    | .error .value => .error ⟨.propertyValueUnknown, p.span⟩

/-- A character as a member of a class.  Where Unicode is off, it has to be an ASCII one. -/
def memberCode (flags : Flags) (l : Literal) : Except Fault Nat :=
  if flags.unicode || l.char.toNat < 0x80 then .ok l.char.toNat
  else if l.byte && l.char.toNat < 0x100 then .error ⟨.notUtf8, l.span⟩
  else .error ⟨.unicodeOff, l.span⟩

/-- Two classes under an operator. -/
def ClassOperator.apply : ClassOperator → CharSet → CharSet → CharSet
  | inter => CharSet.inter
  | diff => CharSet.diff
  | symmDiff => CharSet.symmDiff

mutual

/-- The characters of what stands in a class. -/
def ClassNode.set (flags : Flags) : ClassNode → Except Fault CharSet
  | .empty _ => .ok .empty
  | .literal l => do
    let code ← memberCode flags l
    return .interval code code
  | .range _ low high => do
    let low ← memberCode flags low
    let high ← memberCode flags high
    return .interval low high
  | .ascii span negated kind => checked flags span (negate negated (foldCase flags kind.set))
  | .shorthand span negated kind => shorthandSet flags span negated kind
  | .property p => propertySet flags p
  | .bracketed span negated inner => do
    let set ← inner.set flags
    checked flags span (negate negated (foldCase flags set))
  | .union _ items => do
    let sets ← ClassNode.sets flags items
    return .ofRanges (sets.flatMap fun set => set.ranges.toList)
  | .combine _ operator left right => do
    let left ← left.set flags
    let right ← right.set flags
    return operator.apply (foldCase flags left) (foldCase flags right)
termination_by structural node => node

/-- The characters of each item. -/
def ClassNode.sets (flags : Flags) : List ClassNode → Except Fault (List CharSet)
  | [] => .ok []
  | item :: rest => do
    let set ← item.set flags
    let sets ← ClassNode.sets flags rest
    return set :: sets
termination_by structural items => items

end

/-! ### Parts -/

/-- One character that stands for itself. -/
def literalSet (flags : Flags) (l : Literal) : Except Fault CharSet :=
  if !flags.unicode && l.byte && 0x80 ≤ l.char.toNat && l.char.toNat < 0x100 then
    .error ⟨.notUtf8, l.span⟩
  else .ok (foldCase flags (.single l.char))

/-- Any character, or any but those that end a line. -/
def dotSet (flags : Flags) (span : Span) : Except Fault CharSet :=
  if !flags.unicode then .error ⟨.notUtf8, span⟩
  else if flags.dotAll then .ok (.interval 0 Unicode.lastCode)
  else if flags.crlf then .ok (CharSet.ofRanges [(10, 10), (13, 13)]).complement
  else .ok (CharSet.interval 10 10).complement

/-- What an assertion asks. -/
def Assertion.look (flags : Flags) : Assertion → Look
  | lineStart =>
    if !flags.multiLine then .textStart else if flags.crlf then .lineStartCr else .lineStart
  | lineEnd => if !flags.multiLine then .textEnd else if flags.crlf then .lineEndCr else .lineEnd
  | textStart => .textStart
  | textEnd => .textEnd
  | boundary => .boundary flags.words
  | noBoundary => .noBoundary flags.words
  | wordStart => .wordStart flags.words
  | wordEnd => .wordEnd flags.words
  | wordStartHalf => .wordStartHalf flags.words
  | wordEndHalf => .wordEndHalf flags.words

/-- A step across a character of a class. -/
def overSet (flags : Flags) (set : Except Fault CharSet) : Except Fault (Expr Step × Flags) :=
  set.map fun set => (.step (.across set), flags)

mutual

/-- The meaning of a part under the flags in force, with the flags in force behind it. -/
def Node.expr (flags : Flags) : Node → Except Fault (Expr Step × Flags)
  | .empty _ => .ok (.stay, flags)
  | .flags _ changes => .ok (.stay, flags.switchAll changes)
  | .literal l => overSet flags (literalSet flags l)
  | .dot span => overSet flags (dotSet flags span)
  | .assertion _ kind => .ok (.step (.at (kind.look flags)), flags)
  | .shorthand span negated kind => overSet flags (shorthandSet flags span negated kind)
  | .property p => overSet flags (propertySet flags p)
  | .bracketed span negated inner =>
    overSet flags do
      let set ← inner.set flags
      checked flags span (negate negated (foldCase flags set))
  | .repetition _ low high body => do
    let (body, flags) ← body.expr flags
    return (.repeated low high body, flags)
  | .group _ changes body => do
    let (body, _) ← body.expr (flags.switchAll changes)
    return (body, flags)
  | .alternation _ branches => do
    let (exprs, flags) ← Node.exprs flags branches
    match exprs with
    | [] => return (.stay, flags)
    | first :: rest => return (rest.foldl .alt first, flags)
  | .sequence _ parts => do
    let (exprs, flags) ← Node.exprs flags parts
    return (exprs.foldl .seq .stay, flags)
termination_by structural node => node

/-- The meanings of parts in reading order. -/
def Node.exprs (flags : Flags) : List Node → Except Fault (List (Expr Step) × Flags)
  | [] => .ok ([], flags)
  | part :: rest => do
    let (first, flags) ← part.expr flags
    let (others, flags) ← Node.exprs flags rest
    return (first :: others, flags)
termination_by structural parts => parts

end

end LineCut.Pattern
