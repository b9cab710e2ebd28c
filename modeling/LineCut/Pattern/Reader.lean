/-
Reading a pattern.

Groups, alternatives and bracketed classes nest, and the reader keeps what is open on a stack
rather than calling itself, so it goes through the pattern once, from left to right, and every
round takes at least one character.  The fuel of the loops is therefore the length of what is
left.

Where the pattern asks for it, blanks and comments between its parts do not count.  Some places
skip them and some do not: a question mark that makes a repetition reluctant has to follow at
once, while the digits of a count may be apart.
-/
import LineCut.Pattern.Node
import LineCut.Unicode.Newcomers
import LineCut.Text.Blank

namespace LineCut.Pattern

open LineCut.Text (isSpace)

/-- Where reading stands: what is left, the place of its first character, and whether blanks
count. -/
structure Scan where
  rest : List Char
  place : Place
  spaced : Bool
  deriving DecidableEq, Repr

/-- A step of reading. -/
abbrev Parse := StateT Scan (Except Fault)

/-- The place behind a character. -/
def Place.after (p : Place) (c : Char) : Place :=
  if c == '\n' then ⟨p.line + 1, 1⟩ else ⟨p.line, p.column + 1⟩

/-! ### Moving -/

/-- Give up. -/
def fail {α : Type} (flaw : Flaw) (span : Span) : Parse α :=
  throw ⟨flaw, span⟩

/-- The character that comes next. -/
def look : Parse (Option Char) := do
  return (← get).rest.head?

/-- Whether a certain character comes next. -/
def looksAt (c : Char) : Parse Bool := do
  return (← look) == some c

/-- Whether nothing is left. -/
def atEnd : Parse Bool := do
  return (← get).rest.isEmpty

/-- The place reached. -/
def here : Parse Place := do
  return (← get).place

/-- The empty piece at the place reached. -/
def hereSpan : Parse Span := do
  let p ← here
  return ⟨p, p⟩

/-- The piece of the character that comes next. -/
def charSpan : Parse Span := do
  let scan ← get
  match scan.rest with
  | [] => return ⟨scan.place, scan.place⟩
  | c :: _ => return ⟨scan.place, scan.place.after c⟩

/-- The piece from a place to the one reached. -/
def spanFrom (first : Place) : Parse Span := do
  return ⟨first, ← here⟩

/-- Take a character; the answer is whether something is left. -/
def bump : Parse Bool := do
  let scan ← get
  match scan.rest with
  | [] => return false
  | c :: rest =>
    set { scan with rest, place := scan.place.after c }
    return !rest.isEmpty

/-- What is left behind blanks and comments, and its place. -/
def skipBlanks (comment : Bool) (place : Place) : List Char → List Char × Place
  | [] => ([], place)
  | c :: rest =>
    if comment then skipBlanks (c != '\n') (place.after c) rest
    else if isSpace c then skipBlanks false (place.after c) rest
    else if c == '#' then skipBlanks true (place.after c) rest
    else (c :: rest, place)

/-- Skip blanks and comments where they do not count. -/
def skip : Parse Unit := do
  let scan ← get
  if scan.spaced then
    let (rest, place) := skipBlanks false scan.place scan.rest
    set { scan with rest, place }

/-- Take a character, then skip; the answer is whether something is left. -/
def bumpSkip : Parse Bool := do
  if ← bump then
    skip
    return !(← atEnd)
  else return false

/-- Take as many characters as there are in a list. -/
def bumpAll : List Char → Parse Unit
  | [] => return
  | _ :: rest => do
    let _ ← bump
    bumpAll rest

/-- Take a word if it comes next; the answer is whether it did. -/
def takes (word : String) : Parse Bool := do
  if word.toList.isPrefixOf (← get).rest then
    bumpAll word.toList
    return true
  else return false

/-- The character behind the next one. -/
def lookBehind : Parse (Option Char) := do
  return (← get).rest.tail.head?

/-- Where blanks do not count, the first character that is none, or the end of a comment that
opens there. -/
def behindBlanks (comment : Bool) : List Char → List Char
  | [] => []
  | c :: rest =>
    if isSpace c then behindBlanks comment rest
    else if !comment && c == '#' then behindBlanks true rest
    else c :: rest

/-- The character behind the next one and behind the blanks that do not count; if only blanks
are left, the first of them. -/
def lookFar : Parse (Option Char) := do
  let scan ← get
  if scan.spaced then
    let behind := behindBlanks false scan.rest.tail
    return if behind.isEmpty then scan.rest.tail.head? else behind.head?
  else return scan.rest.tail.head?

/-! ### Numbers -/

/-- Take decimal digits.  The fuel is spent on characters. -/
def takeDigits : Nat → List Char → Parse (List Char)
  | 0, taken => return taken.reverse
  | fuel + 1, taken => do
    match ← look with
    | some c =>
      if c.isDigit then
        let _ ← bumpSkip
        takeDigits fuel (c :: taken)
      else return taken.reverse
    | none => return taken.reverse

/-- Take blanks, whether they count or not; `step` takes one. -/
def takeSpaces (step : Parse Bool) : Nat → Parse Unit
  | 0 => return
  | fuel + 1 => do
    match ← look with
    | some c =>
      if isSpace c then
        let _ ← step
        takeSpaces step fuel
    | none => return

/-- The value of decimal digits. -/
def decimalValue (digits : List Char) : Nat :=
  digits.foldl (fun n d => 10 * n + (d.toNat - 48)) 0

/-- A count, with blanks allowed around it; its failure is handed back, because what follows may
matter more. -/
def decimal : Parse (Except Fault Nat) := do
  let fuel := (← get).rest.length
  takeSpaces bump fuel
  let first ← here
  let digits ← takeDigits fuel []
  let span ← spanFrom first
  takeSpaces bumpSkip fuel
  if digits.isEmpty then return .error ⟨.countEmpty, span⟩
  else if 0x100000000 ≤ decimalValue digits then return .error ⟨.decimalInvalid, span⟩
  else return .ok (decimalValue digits)

/-! ### Escapes -/

/-- The characters that mean something of their own. -/
def isMeta (c : Char) : Bool :=
  "\\.+*?()|[]\x7b\x7d^$#&-~".toList.contains c

/-- The characters that a backslash turns into themselves. -/
def isEscapable (c : Char) : Bool :=
  isMeta c || (c.toNat < 0x80 && !c.isAlphanum && c != '<' && c != '>')

/-- The character of that number, if there is one. -/
def scalar? (n : Nat) : Option Char :=
  if h : n.isValidChar then some ⟨UInt32.ofNatLT n (Nat.lt_trans (by
      rcases h with h | ⟨_, h⟩ <;> omega) (by decide : 0x110000 < UInt32.size)), by
    simpa [UInt32.isValidChar] using h⟩
  else none

/-- The value of hexadecimal digits. -/
def hexValue (digits : List Char) : Nat :=
  Unicode.Table.number digits

/-- A fixed number of hexadecimal digits. -/
def hexDigits (count : Nat) : Nat → List Char → Parse (List Char)
  | 0, taken => return taken.reverse
  | left + 1, taken => do
    if left + 1 != count then
      unless ← bumpSkip do
        fail .escapeEnd (← hereSpan)
    match ← look with
    | some c =>
      if (Unicode.Table.digit? c).isSome then hexDigits count left (c :: taken)
      else fail .hexDigit (← charSpan)
    | none => fail .escapeEnd (← hereSpan)

/-- Hexadecimal digits up to a closing brace.  The fuel is spent on characters. -/
def hexBraced : Nat → List Char → Parse (List Char)
  | 0, taken => return taken.reverse
  | fuel + 1, taken => do
    if ← bumpSkip then
      match ← look with
      | some '\x7d' => return taken.reverse
      | some c =>
        if (Unicode.Table.digit? c).isSome then hexBraced fuel (c :: taken)
        else fail .hexDigit (← charSpan)
      | none => return taken.reverse
    else return taken.reverse

/-- A character given by its number, from the letter behind the backslash. -/
def hexLiteral (start : Place) : Parse Node := do
  let letter ← look
  unless ← bumpSkip do
    fail .escapeEnd (← hereSpan)
  if ← looksAt '\x7b' then
    let brace ← here
    let first := (← charSpan).last
    let digits ← hexBraced (← get).rest.length []
    if ← atEnd then
      fail .escapeEnd (← spanFrom brace)
    let span ← spanFrom first
    let _ ← bumpSkip
    if digits.isEmpty then
      fail .hexEmpty (← spanFrom brace)
    match scalar? (hexValue digits) with
    | some c => return .literal ⟨← spanFrom start, c, false⟩
    | none => fail .hexInvalid span
  else
    let first ← here
    let count := if letter == some 'x' then 2 else if letter == some 'u' then 4 else 8
    let digits ← hexDigits count count []
    let _ ← bumpSkip
    let span ← spanFrom first
    match scalar? (hexValue digits) with
    | some c => return .literal ⟨⟨start, span.last⟩, c, letter == some 'x'⟩
    | none => fail .hexInvalid span

/-- The characters up to a closing brace.  The fuel is spent on characters. -/
def nameBraced : Nat → List Char → Parse (List Char)
  | 0, taken => return taken.reverse
  | fuel + 1, taken => do
    if ← bumpSkip then
      match ← look with
      | some '\x7d' => return taken.reverse
      | some c => nameBraced fuel (c :: taken)
      | none => return taken.reverse
    else return taken.reverse

/-- Split at the first place where a separator stands. -/
def splitAt? (separator : List Char) : List Char → Option (List Char × List Char)
  | [] => none
  | c :: rest =>
    if separator.isPrefixOf (c :: rest) then some ([], (c :: rest).drop separator.length)
    else (splitAt? separator rest).map fun (before, after) => (c :: before, after)

/-- What the braces of a property say: its name, the value if one is given, and whether that value
is one that the characters must not have. -/
def propertyName (text : List Char) : String × Option String × Bool :=
  let pair := fun (unequal : Bool) (found : List Char × List Char) =>
    (String.ofList found.1, some (String.ofList found.2), unequal)
  match splitAt? ['!', '='] text, (splitAt? [':'] text).or (splitAt? ['='] text) with
  | some found, _ => pair true found
  | none, some found => pair false found
  | none, none => (String.ofList text, none, false)

/-- A class given by a property, from the letter behind the backslash.  A capital letter and an
unequal sign each turn it into its complement, and the two together cancel. -/
def propertyClass (start : Place) : Parse Node := do
  let negated ← looksAt 'P'
  unless ← bumpSkip do
    fail .escapeEnd (← hereSpan)
  match ← look with
  | some '\x7b' =>
    let name ← nameBraced (← get).rest.length []
    if ← atEnd then
      fail .escapeEnd (← hereSpan)
    let _ ← bump
    let (name, value, unequal) := propertyName name
    return .property ⟨← spanFrom start, negated != unequal, name, value⟩
  | some '\\' => fail .propertyInvalid (← charSpan)
  | some c =>
    let _ ← bumpSkip
    return .property ⟨← spanFrom start, negated, String.singleton c, none⟩
  | none => fail .escapeEnd (← hereSpan)

/-- What may stand in the name of a special word boundary. -/
def isBoundaryLetter (c : Char) : Bool :=
  c.isAlpha || c == '-'

/-- Take letters of such a name.  The fuel is spent on characters. -/
def boundaryLetters : Nat → List Char → Parse (List Char)
  | 0, taken => return taken.reverse
  | fuel + 1, taken => do
    match ← look with
    | some c =>
      if isBoundaryLetter c then
        let _ ← bumpSkip
        boundaryLetters fuel (c :: taken)
      else return taken.reverse
    | none => return taken.reverse

/-- A word boundary, from behind its letter.  A brace opens the name of a special one, unless what
follows it cannot be a name; then it is left alone. -/
def boundary (start : Place) : Parse Node := do
  let span ← spanFrom start
  unless ← looksAt '\x7b' do
    return .assertion span .boundary
  let back ← get
  let brace ← here
  unless ← bumpSkip do
    fail .boundaryOrCountEnd (← spanFrom start)
  let first ← here
  match ← look with
  | some c =>
    unless isBoundaryLetter c do
      set back
      return .assertion span .boundary
  | none => pure ()
  let name ← boundaryLetters (← get).rest.length []
  unless ← looksAt '\x7d' do
    fail .boundaryUnclosed (← spanFrom brace)
  let inner ← spanFrom first
  let _ ← bump
  match String.ofList name with
  | "start" => return .assertion (← spanFrom start) .wordStart
  | "end" => return .assertion (← spanFrom start) .wordEnd
  | "start-half" => return .assertion (← spanFrom start) .wordStartHalf
  | "end-half" => return .assertion (← spanFrom start) .wordEndHalf
  | _ => fail .boundaryUnknown inner

/-- What a backslash and what follows it stand for. -/
def escape : Parse Node := do
  let start ← here
  unless ← bump do
    fail .escapeEnd (← spanFrom start)
  let c := (← look).getD '\\'
  if c.isDigit then
    fail .backreference ⟨start, (← charSpan).last⟩
  if c == 'x' || c == 'u' || c == 'U' then
    hexLiteral start
  else if c == 'p' || c == 'P' then
    propertyClass start
  else
    let _ ← bump
    let span ← spanFrom start
    let literal := fun c => Node.literal ⟨span, c, false⟩
    if isEscapable c then return literal c
    match c with
    | 'd' => return .shorthand span false .digit
    | 'D' => return .shorthand span true .digit
    | 's' => return .shorthand span false .space
    | 'S' => return .shorthand span true .space
    | 'w' => return .shorthand span false .word
    | 'W' => return .shorthand span true .word
    | 'a' => return literal '\x07'
    | 'f' => return literal '\x0c'
    | 't' => return literal '\t'
    | 'n' => return literal '\n'
    | 'r' => return literal '\r'
    | 'v' => return literal '\x0b'
    | 'A' => return .assertion span .textStart
    | 'z' => return .assertion span .textEnd
    | 'b' => boundary start
    | 'B' => return .assertion span .noBoundary
    | '<' => return .assertion span .wordStart
    | '>' => return .assertion span .wordEnd
    | _ => fail .escapeUnknown span

/-! ### Bracketed classes -/

/-- The items of a class in the making, the last first, and the piece they cover. -/
structure Items where
  span : Span
  items : List ClassNode

/-- Add an item. -/
def Items.push (u : Items) (item : ClassNode) : Items :=
  if u.items.isEmpty then ⟨item.span, [item]⟩
  else ⟨⟨u.span.first, item.span.last⟩, item :: u.items⟩

/-- The class of the items. -/
def Items.close (u : Items) : ClassNode :=
  match u.items with
  | [] => .empty u.span
  | [item] => item
  | items => .union u.span items.reverse

/-- What is open around the items in the making: a class, with the items before it, or an
operator, with what stands on its left. -/
inductive ClassFrame where
  | bracket (outer : Items) (span : Span) (negated : Bool)
  | operator (operator : ClassOperator) (left : ClassNode)

/-- A class in the making. -/
structure ClassBuilding where
  items : Items
  stack : List ClassFrame

/-- No items, at the place reached. -/
def noItems : Parse Items := do
  return ⟨← hereSpan, []⟩

/-- The failure of a class whose closing bracket is missing: it points at the beginning of the
innermost one. -/
def unclosedClass {α : Type} (stack : List ClassFrame) : Parse α := do
  let spans := stack.filterMap fun
    | .bracket _ span _ => some span
    | .operator _ _ => none
  match spans with
  | span :: _ => fail .classUnclosed span
  | [] => fail .classUnclosed (← hereSpan)

/-- The hyphens that a class begins with.  The fuel is spent on characters. -/
def leadingHyphens (start : Place) : Nat → Items → Parse Items
  | 0, items => return items
  | fuel + 1, items => do
    if ← looksAt '-' then
      let items := items.push (.literal ⟨← charSpan, '-', false⟩)
      unless ← bumpSkip do
        fail .classUnclosed ⟨start, start⟩
      leadingHyphens start fuel items
    else return items

/-- Open a class: the bracket, a caret, hyphens, and a closing bracket that cannot close it. -/
def openClass (building : ClassBuilding) : Parse ClassBuilding := do
  let start ← here
  unless ← bumpSkip do
    fail .classUnclosed (← spanFrom start)
  let negated ← looksAt '^'
  if negated then
    unless ← bumpSkip do
      fail .classUnclosed (← spanFrom start)
  let items ← leadingHyphens start (← get).rest.length (← noItems)
  if items.items.isEmpty && (← looksAt ']') then
    let items := items.push (.literal ⟨← charSpan, ']', false⟩)
    unless ← bumpSkip do
      fail .classUnclosed (← spanFrom start)
    return ⟨items, .bracket building.items (← spanFrom start) negated :: building.stack⟩
  else
    return ⟨items, .bracket building.items (← spanFrom start) negated :: building.stack⟩

/-- Give the innermost open operator its right side. -/
def closeOperator (right : ClassNode) : List ClassFrame → ClassNode × List ClassFrame
  | .operator operator left :: stack =>
    (.combine ⟨left.span.first, right.span.last⟩ operator left right, stack)
  | stack => (right, stack)

/-- An operator: what stands before it, back to the bracket, is its left side. -/
def openOperator (operator : ClassOperator) (building : ClassBuilding) : Parse ClassBuilding := do
  let (left, stack) := closeOperator building.items.close building.stack
  return ⟨← noItems, .operator operator left :: stack⟩

/-- A class known by name, such as `[:alpha:]`.  What is no such class is left alone. -/
def asciiClass? : Parse (Option ClassNode) := do
  let back ← get
  let start ← here
  let rest := back.rest
  match rest with
  | '[' :: ':' :: inner =>
    let negated := inner.head? == some '^'
    let inner := if negated then inner.tail else inner
    let name := inner.takeWhile (· != ':')
    match AsciiClass.ofName? (String.ofList name), inner.drop name.length with
    | some kind, ':' :: ']' :: behind =>
      bumpAll (rest.take (rest.length - behind.length))
      return some (.ascii (← spanFrom start) negated kind)
    | _, _ => return none
  | _ => return none

/-- A single character or escape of a class. -/
def classAtom : Parse Node := do
  match ← look with
  | some '\\' => escape
  | some c =>
    let span ← charSpan
    let _ ← bump
    return .literal ⟨span, c, false⟩
  | none => fail .classUnclosed (← hereSpan)

/-- An item made of one character or escape. -/
def itemOf (node : Node) : Parse ClassNode :=
  match node with
  | .literal literal => return .literal literal
  | .shorthand span negated kind => return .shorthand span negated kind
  | .property property => return .property property
  | other => fail .classEscape other.span

/-- A bound of a range. -/
def boundOf (node : Node) : Parse Literal :=
  match node with
  | .literal literal => return literal
  | other => fail .classRangeBound other.span

/-- A character, an escape, or a range. -/
def classRange (stack : List ClassFrame) : Parse ClassNode := do
  let low ← classAtom
  skip
  if ← atEnd then
    unclosedClass stack
  let far ← lookFar
  if !(← looksAt '-') || far == some ']' || far == some '-' then
    itemOf low
  else
    unless ← bumpSkip do
      unclosedClass stack
    let high ← classAtom
    let span : Span := ⟨low.span.first, high.span.last⟩
    let low ← boundOf low
    let high ← boundOf high
    if high.char < low.char then
      fail .classRangeOrder span
    return .range span low high

/-- One round inside a class: either it goes on, or the outermost bracket has been closed. -/
def classStep (building : ClassBuilding) : Parse (Except Node ClassBuilding) := do
  skip
  let goOn := fun (item : ClassNode) =>
    Except.ok { building with items := building.items.push item }
  match ← look with
  | none => unclosedClass building.stack
  | some '[' =>
    if building.stack.isEmpty then
      return .ok (← openClass building)
    else
      match ← asciiClass? with
      | some item => return goOn item
      | none => return .ok (← openClass building)
  | some ']' =>
    let (inner, stack) := closeOperator building.items.close building.stack
    let _ ← bump
    match stack with
    | .bracket outer span negated :: stack =>
      let span : Span := ⟨span.first, ← here⟩
      if stack.isEmpty then return .error (.bracketed span negated inner)
      else return .ok ⟨outer.push (.bracketed span negated inner), stack⟩
    | _ => unclosedClass stack
  | some c =>
    let doubled := (← lookBehind) == some c
    if c == '&' && doubled then
      bumpAll ['&', '&']
      return .ok (← openOperator .inter building)
    else if c == '-' && doubled then
      bumpAll ['-', '-']
      return .ok (← openOperator .diff building)
    else if c == '~' && doubled then
      bumpAll ['~', '~']
      return .ok (← openOperator .symmDiff building)
    else return goOn (← classRange building.stack)

/-- Rounds until the outermost bracket is closed. -/
def classLoop : Nat → ClassBuilding → Parse Node
  | 0, building => unclosedClass building.stack
  | fuel + 1, building => do
    match ← classStep building with
    | .error node => return node
    | .ok building => classLoop fuel building

/-- A bracketed class, from its opening bracket. -/
def bracketed : Parse Node := do
  classLoop ((← get).rest.length + 1) ⟨← noItems, []⟩

/-! ### Groups -/

/-- Whether a character may stand in the name of a group. -/
def isNameCharacter (first : Bool) (c : Char) : Bool :=
  if first then c == '_' || Unicode.isLetter c
  else
    c == '_' || c == '.' || c == '[' || c == ']' || Unicode.isLetter c || Unicode.isNumeral c

/-- The characters of a group's name, up to the closing angle.  The fuel is spent on
characters. -/
def groupName : Nat → List Char → Parse (List Char)
  | 0, taken => return taken.reverse
  | fuel + 1, taken => do
    match ← look with
    | some '>' => return taken.reverse
    | some c =>
      unless isNameCharacter taken.isEmpty c do
        fail .nameCharacter (← charSpan)
      let _ ← bump
      groupName fuel (c :: taken)
    | none => return taken.reverse

/-- A group's name and its piece, from behind the opening angle; none of the names used so far
may be used again. -/
def captureName (names : List (String × Span)) : Parse (String × Span) := do
  if ← atEnd then
    fail .nameEnd (← hereSpan)
  let first ← here
  let name ← groupName ((← get).rest.length + 1) []
  let span ← spanFrom first
  if ← atEnd then
    fail .nameEnd (← hereSpan)
  let _ ← bump
  if name.isEmpty then
    fail .nameEmpty ⟨first, first⟩
  match names.find? fun used => used.1 == String.ofList name with
  | some (_, earlier) => fail (.nameRepeated earlier) span
  | none => return (String.ofList name, span)

/-- The flags of a group, up to a colon or the closing bracket.  `minus` is the piece of a minus
that has been taken, and `dangling` says that no flag has followed it. -/
def flagList : Nat → (minus : Option Span) → (dangling : Bool) → List (Flag × Bool × Span) →
    Parse (List (Flag × Bool × Span) × Bool)
  | 0, minus, _, taken => return (taken.reverse, minus.isSome)
  | fuel + 1, minus, dangling, taken => do
    match ← look with
    | none => fail .flagEnd (← hereSpan)
    | some c =>
      if c == ':' || c == ')' then
        if dangling then
          fail .flagDangling (minus.getD (← hereSpan))
        return (taken.reverse, minus.isSome)
      else if c == '-' then
        let span ← charSpan
        match minus with
        | some earlier => fail (.flagMinusRepeated earlier) span
        | none =>
          unless ← bump do
            fail .flagEnd (← hereSpan)
          flagList fuel (some span) true taken
      else
        let span ← charSpan
        match Flag.ofLetter? c with
        | none => fail .flagUnknown span
        | some flag =>
          match taken.find? fun (f, _, _) => f == flag with
          | some (_, _, earlier) => fail (.flagRepeated earlier) span
          | none =>
            unless ← bump do
              fail .flagEnd (← hereSpan)
            flagList fuel minus false ((flag, minus.isNone, span) :: taken)

/-- A sequence in the making, the last part first, and the place where it began. -/
structure Sequence where
  start : Place
  parts : List Node

/-- The sequence as one node. -/
def Sequence.close (s : Sequence) (last : Place) : Node :=
  match s.parts with
  | [] => .empty ⟨s.start, last⟩
  | [part] => part
  | parts => .sequence ⟨s.start, last⟩ parts.reverse

/-- What is open around the sequence in the making: a group, with the sequence before it and
whether blanks counted there, or an alternation with its finished branches, the last first. -/
inductive Frame where
  | group (outer : Sequence) (span : Span) (changes : List (Flag × Bool)) (spaced : Bool)
  | branches (start : Place) (done : List Node)

/-- A pattern in the making, with the names its groups have. -/
structure Building where
  sequence : Sequence
  stack : List Frame
  names : List (String × Span)

/-- Add a part to the sequence. -/
def Building.push (building : Building) (part : Node) : Building :=
  { building with sequence := { building.sequence with parts := part :: building.sequence.parts } }

/-- Enter a group. -/
def enter (building : Building) (span : Span) (changes : List (Flag × Bool)) :
    Parse Building := do
  let scan ← get
  let spaced := ((changes.find? fun change => change.1 == Flag.spaced).map (·.2)).getD scan.spaced
  set { scan with spaced }
  return { building with
    sequence := ⟨← here, []⟩
    stack := .group building.sequence span changes scan.spaced :: building.stack }

/-- What an opening bracket opens: a group, or flags for the rest of the group it stands in. -/
def openGroup (building : Building) : Parse Building := do
  let bracket ← charSpan
  let _ ← bump
  skip
  if ← takes "?=" <||> takes "?!" <||> takes "?<=" <||> takes "?<!" then
    fail .lookAround (← spanFrom bracket.first)
  let inner ← hereSpan
  if ← takes "?P<" <||> takes "?<" then
    let name ← captureName building.names
    enter { building with names := building.names ++ [name] } bracket []
  else if ← takes "?" then
    if ← atEnd then
      fail .groupUnclosed bracket
    let (flags, minus) ← flagList ((← get).rest.length + 1) none false []
    let changes := flags.map fun (flag, on, _) => (flag, on)
    let closed ← looksAt ')'
    let _ ← bump
    if closed then
      if changes.isEmpty && !minus then
        fail .nothingToRepeat inner
      match changes.find? fun change => change.1 == Flag.spaced with
      | some (_, spaced) => modify fun scan => { scan with spaced }
      | none => pure ()
      return building.push (.flags (← spanFrom bracket.first) changes)
    else enter building bracket changes
  else enter building bracket []

/-- Finish a branch. -/
def openBranch (building : Building) : Parse Building := do
  let branch := building.sequence.close (← here)
  let stack :=
    match building.stack with
    | .branches start done :: rest => Frame.branches start (branch :: done) :: rest
    | stack => .branches building.sequence.start [branch] :: stack
  let _ ← bump
  return { building with sequence := ⟨← here, []⟩, stack }

/-- The body of a group that ends here, with the frames that are open around it. -/
def closeBody (sequence : Sequence) (last : Place) : List Frame → Node × List Frame
  | .branches start done :: stack =>
    (.alternation ⟨start, last⟩ (sequence.close last :: done).reverse, stack)
  | stack => (sequence.close last, stack)

/-- Leave a group. -/
def closeGroup (building : Building) : Parse Building := do
  let last ← here
  match closeBody building.sequence last building.stack with
  | (body, .group outer span changes spaced :: stack) =>
    modify fun scan => { scan with spaced }
    let _ ← bump
    let group := Node.group ⟨span.first, ← here⟩ changes body
    return { building with sequence := { outer with parts := group :: outer.parts }, stack }
  | _ => fail .groupUnopened (← charSpan)

/-- The whole pattern, at its end. -/
def closePattern (building : Building) : Parse Node := do
  match closeBody building.sequence (← here) building.stack with
  | (body, []) => return body
  | (_, .group _ span _ _ :: _) => fail .groupUnclosed span
  | (_, .branches _ _ :: _) => fail .groupUnclosed (← hereSpan)

/-! ### Repetitions -/

/-- The part that a repetition repeats, and the sequence without it. -/
def toRepeat (building : Building) : Parse (Node × Building) := do
  match building.sequence.parts with
  | [] => fail .nothingToRepeat (← hereSpan)
  | .empty _ :: _ | .flags _ _ :: _ => fail .nothingToRepeat (← hereSpan)
  | part :: parts =>
    return (part, { building with sequence := { building.sequence with parts } })

/-- A repetition written as one character. -/
def shortRepetition (low : Nat) (high : Option Nat) (building : Building) : Parse Building := do
  let (part, building) ← toRepeat building
  if (← bump) && (← looksAt '?') then
    let _ ← bump
  return building.push (.repetition ⟨part.span.first, ← here⟩ low high part)

/-- The bounds of a counted repetition, from behind the brace. -/
def bounds (start : Place) : Parse (Nat × Option Nat) := do
  let low ← decimal
  if ← atEnd then
    fail .countUnclosed (← spanFrom start)
  if ← looksAt ',' then
    unless ← bumpSkip do
      fail .countUnclosed (← spanFrom start)
    if ← looksAt '\x7d' then
      return (← low, none)
    else
      let low ← low
      let high ← decimal
      return (low, some (← high))
  else
    let low ← low
    return (low, some low)

/-- A repetition with bounds in braces. -/
def countedRepetition (building : Building) : Parse Building := do
  let start ← here
  let (part, building) ← toRepeat building
  unless ← bumpSkip do
    fail .countUnclosed (← spanFrom start)
  let (low, high) ← bounds start
  unless ← looksAt '\x7d' do
    fail .countUnclosed (← spanFrom start)
  if (← bumpSkip) && (← looksAt '?') then
    let _ ← bump
  if high.any (· < low) then
    fail .countOrder (← spanFrom start)
  return building.push (.repetition ⟨part.span.first, ← here⟩ low high part)

/-! ### The pattern -/

/-- One round: the part, bracket or operator that comes next. -/
def step (building : Building) (c : Char) : Parse Building := do
  match c with
  | '(' => openGroup building
  | ')' => closeGroup building
  | '|' => openBranch building
  | '[' => return building.push (← bracketed)
  | '?' => shortRepetition 0 (some 1) building
  | '*' => shortRepetition 0 none building
  | '+' => shortRepetition 1 none building
  | '\x7b' => countedRepetition building
  | '\\' => return building.push (← escape)
  | c =>
    let span ← charSpan
    let _ ← bump
    match c with
    | '.' => return building.push (.dot span)
    | '^' => return building.push (.assertion span .lineStart)
    | '$' => return building.push (.assertion span .lineEnd)
    | c => return building.push (.literal ⟨span, c, false⟩)

/-- Rounds until nothing is left. -/
def loop : Nat → Building → Parse Building
  | 0, building => return building
  | fuel + 1, building => do
    skip
    match ← look with
    | none => return building
    | some c => loop fuel (← step building c)

/-- The whole pattern. -/
def pattern : Parse Node := do
  let start ← here
  let building ← loop ((← get).rest.length + 1) ⟨⟨start, []⟩, [], []⟩
  let node ← closePattern building
  match node.tooDeep 0 with
  | some span => fail .nesting span
  | none => return node

/-- Read a pattern. -/
def Node.read (text : String) : Except Fault Node :=
  (pattern.run ⟨text.toList, ⟨1, 1⟩, false⟩).map (·.1)

end LineCut.Pattern
