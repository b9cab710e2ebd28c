/-
Reading JSON.

A reader takes a cursor and gives back what it has read with the cursor behind it, or a failure.
The readers here are of two kinds.  Those of the first half read the tokens: blanks, words,
numbers, texts.  Those of the second half walk through arrays and objects and leave it to a
reader they are given what an item or a member is.  So a caller who knows the shape it wants
reads that shape straight from the text, and a fault in the shape is met in the order of the
text, before any fault of the syntax that stands behind it.

A failure is placed in one of two ways.  `stop` places it at the cursor; `refuse` at the byte the
cursor is looking at, which is one further on unless the text has ended.

Nesting is bounded.  A reader of values that may hold further values counts down from
`nestingLimit`, and a bracket that meets zero is refused.
-/
import LineCut.Json.Failure
import LineCut.Decimal.Shortest

namespace LineCut.Json

/-- The outcome of reading an `α`. -/
abbrev Read (α : Type) := Except Failure (α × Cursor)

/-- How many brackets may be open at once. -/
def nestingLimit : Nat := 127

namespace Cursor

/-- At the beginning of a text. -/
def start (text : String) : Cursor := ⟨text.toList, 0⟩

/-- One character further on. -/
def next (c : Cursor) : Cursor :=
  match c.rest with
  | [] => c
  | char :: rest => ⟨rest, c.offset + char.utf8Size⟩

/-- The blanks of JSON. -/
def isBlank (char : Char) : Bool :=
  char == ' ' || char == '\n' || char == '\t' || char == '\r'

/-- Behind the blanks. -/
def skip (c : Cursor) : Cursor :=
  ⟨c.rest.dropWhile isBlank, c.offset + (c.rest.takeWhile isBlank).length⟩

/-- The character the cursor looks at. -/
def look (c : Cursor) : Option Char := c.rest.head?

/-- Fuel for what takes a character at a time: the characters that are left, and one more.  A list
is fuel as good as its length, and need not be counted. -/
def fuel (c : Cursor) : List Char :=
  ' ' :: c.rest

/-- Fail at the cursor. -/
def stop (c : Cursor) (complaint : Complaint) : Failure :=
  ⟨complaint, some c.offset, c⟩

/-- Fail at the byte the cursor looks at. -/
def refuse (c : Cursor) (complaint : Complaint) : Failure :=
  ⟨complaint, some (if c.rest.isEmpty then c.offset else c.offset + 1), c⟩

/-- Fail a few bytes behind the cursor. -/
def stopAfter (c : Cursor) (bytes : Nat) (complaint : Complaint) : Failure :=
  ⟨complaint, some (c.offset + bytes), c⟩

/-- Fail without a place. -/
def drift (c : Cursor) (complaint : Complaint) : Failure :=
  ⟨complaint, none, c⟩

end Cursor

/-! ### Words -/

/-- The letters of a word, each of which has to be there. -/
def word : List Char → Cursor → Except Failure Cursor
  | [], c => .ok c
  | letter :: letters, c =>
    match c.rest with
    | [] => .error (c.stop .endInValue)
    | char :: _ =>
      if char = letter then word letters c.next else .error (c.stopAfter 1 .badWord)

/-! ### Numbers

An integer keeps its value as long as it fits 64 bits without a sign.  Of a longer one the digits
that fit are kept and the others only counted, and the same holds of the digits behind the point;
what has been kept is then scaled by a power of ten.
-/

/-- The digits at the cursor. -/
def digits (c : Cursor) : List Nat × Cursor :=
  let taken := c.rest.takeWhile Char.isDigit
  (taken.map fun d => d.toNat - 48, ⟨c.rest.drop taken.length, c.offset + taken.length⟩)

/-- Append digits to a number while it fits 64 bits: the number, and how many digits it took. -/
def gather (n : Nat) : List Nat → Nat × Nat
  | [] => (n, 0)
  | d :: rest =>
    if 10 * n + d < 0x10000000000000000 then
      let (m, taken) := gather (10 * n + d) rest
      (m, taken + 1)
    else (n, 0)

/-- `kept * 10 ^ exponent`, or nothing if that is too large. -/
def scale : Nat → Float → Int → Option Float
  | 0, x, _ => some x
  | fuel + 1, x, exponent =>
    if exponent.natAbs ≤ 308 then
      let power := Float.ofScientific 1 false exponent.natAbs
      if 0 ≤ exponent then
        if (x * power).isInf then none else some (x * power)
      else some (x / power)
    else if x == 0 then some x
    else if 0 ≤ exponent then none
    else scale fuel (x / 1e308) (exponent + 308)

/-- A number that is no integer, by the digits kept and the exponent. -/
def scaled (negative : Bool) (kept : Nat) (exponent : Int) (c : Cursor) : Read Json :=
  match scale 8 (UInt64.ofNat kept).toFloat exponent with
  | none => .error (c.stop .numberRange)
  | some x => .ok (.real (Decimal.text (if negative then -x else x)), c)

/-- The largest exponent that is read digit by digit. -/
def exponentLimit : Nat := 0x7FFFFFFF

/-- The digits of an exponent: its value, or the number of digits at which it gets too large. -/
def exponentOf (n : Nat) : List Nat → Except Nat Nat
  | [] => .ok n
  | d :: rest =>
    if 10 * n + d ≤ exponentLimit then
      match exponentOf (10 * n + d) rest with
      | .ok m => .ok m
      | .error taken => .error (taken + 1)
    else .error 1

/-- The exponent of a number, from the letter that opens it. -/
def exponentPart (negative : Bool) (kept : Nat) (before : Int) (c : Cursor) : Read Json :=
  let c := c.next
  let (down, c) :=
    match c.look with
    | some '+' => (false, c.next)
    | some '-' => (true, c.next)
    | _ => (false, c)
  match digits c with
  | ([], _) =>
    match c.look with
    | none => .error (c.stop .endInValue)
    | some _ => .error (c.stopAfter 1 .badNumber)
  | (ds, behind) =>
    match exponentOf 0 ds with
    | .ok n => scaled negative kept (if down then before - n else before + n) behind
    | .error taken =>
      if kept != 0 && !down then .error (c.stopAfter taken .numberRange)
      else .ok (.real (if negative then "-0.0" else "0.0"), behind)

/-- The digits behind the point of a number, from the point, and what follows them. -/
def fractionPart (negative : Bool) (kept dropped : Nat) (c : Cursor) : Read Json :=
  match digits c.next with
  | ([], behind) =>
    match behind.look with
    | none => .error (behind.refuse .endInValue)
    | some _ => .error (behind.refuse .badNumber)
  | (ds, behind) =>
    let (kept, taken) := gather kept ds
    let exponent := (dropped : Int) - taken
    if behind.look == some 'e' || behind.look == some 'E' then
      exponentPart negative kept exponent behind
    else scaled negative kept exponent behind

/-- An integer without point or exponent.  What fits neither kind of 64-bit integer is no
integer, and neither is zero with a sign. -/
def integer (negative : Bool) (n : Nat) : Json :=
  if negative then
    if n == 0 || 0x8000000000000000 < n then .real (Decimal.text (-(UInt64.ofNat n).toFloat))
    else .int (-n)
  else .int n

/-- What follows the digits in front of a point. -/
def wholePart (negative : Bool) (kept dropped : Nat) (c : Cursor) : Read Json :=
  if c.look == some '.' then fractionPart negative kept dropped c
  else if c.look == some 'e' || c.look == some 'E' then exponentPart negative kept dropped c
  else if dropped == 0 then .ok (integer negative kept, c)
  else scaled negative kept dropped c

/-- A number, its sign taken. -/
def unsigned (negative : Bool) (c : Cursor) : Read Json :=
  match digits c with
  | ([], _) =>
    match c.look with
    | none => .error (c.stop .endInValue)
    | some _ => .error (c.stopAfter 1 .badNumber)
  | (0 :: ds, behind) =>
    if ds.isEmpty then wholePart negative 0 0 behind else .error (c.next.refuse .badNumber)
  | (ds, behind) =>
    let (kept, taken) := gather 0 ds
    wholePart negative kept (ds.length - taken) behind

/-- A number. -/
def number (c : Cursor) : Read Json :=
  if c.look == some '-' then unsigned true c.next else unsigned false c

/-! ### Texts -/

/-- The value of a hexadecimal digit. -/
def hexDigit? (c : Char) : Option Nat :=
  let n := c.toNat
  if 48 ≤ n && n ≤ 57 then some (n - 48)
  else if 65 ≤ n && n ≤ 70 then some (n - 55)
  else if 97 ≤ n && n ≤ 102 then some (n - 87)
  else none

/-- How many bytes a text has. -/
def bytes (text : List Char) : Nat :=
  text.foldl (fun n c => n + c.utf8Size) 0

/-- The four hexadecimal digits of an escape. -/
def codeUnit (c : Cursor) : Read Nat :=
  match (c.rest.take 4).mapM hexDigit? with
  | some [a, b, d, e] =>
    .ok (((a * 16 + b) * 16 + d) * 16 + e, ⟨c.rest.drop 4, c.offset + 4⟩)
  | _ =>
    if 4 ≤ bytes c.rest then .error (c.stopAfter 4 .badEscape)
    else .error (c.stopAfter (bytes c.rest) .endInString)

/-- The second half of a pair of escapes that stand for one character. -/
def lowSurrogate (high : Nat) (c : Cursor) : Read Char :=
  match c.rest with
  | [] => .error (c.stop .endInString)
  | '\\' :: [] => .error (c.next.stop .endInString)
  | '\\' :: 'u' :: _ =>
    match codeUnit c.next.next with
    | .error failure => .error failure
    | .ok (low, behind) =>
      if 0xDC00 ≤ low && low ≤ 0xDFFF then
        .ok (Char.ofNat ((high - 0xD800) * 0x400 + (low - 0xDC00) + 0x10000), behind)
      else .error (behind.stop .loneSurrogate)
  | '\\' :: _ => .error (c.next.stopAfter 1 .endOfEscape)
  | _ => .error (c.stopAfter 1 .endOfEscape)

/-- What stands behind a backslash. -/
def escape (c : Cursor) : Read Char :=
  match c.rest with
  | [] => .error (c.stop .endInString)
  | '"' :: _ => .ok ('"', c.next)
  | '\\' :: _ => .ok ('\\', c.next)
  | '/' :: _ => .ok ('/', c.next)
  | 'b' :: _ => .ok ('\x08', c.next)
  | 'f' :: _ => .ok ('\x0c', c.next)
  | 'n' :: _ => .ok ('\n', c.next)
  | 'r' :: _ => .ok ('\r', c.next)
  | 't' :: _ => .ok ('\t', c.next)
  | 'u' :: _ =>
    match codeUnit c.next with
    | .error failure => .error failure
    | .ok (code, behind) =>
      if 0xDC00 ≤ code && code ≤ 0xDFFF then .error (behind.stop .loneSurrogate)
      else if 0xD800 ≤ code && code ≤ 0xDBFF then lowSurrogate code behind
      else .ok (Char.ofNat code, behind)
  | _ => .error (c.stopAfter 1 .badEscape)

/-- The characters up to the closing quote.  Those taken so far come last first; the fuel is
spent on characters, so that their number is enough. -/
def textChars : (fuel : List Char) → (taken : List Char) → Cursor → Read String
  | [], _, c => .error (c.stop .endInString)
  | _ :: fuel, taken, c =>
    match c.rest with
    | [] => .error (c.stop .endInString)
    | char :: _ =>
      if char = '"' then .ok (String.ofList taken.reverse, c.next)
      else if char = '\\' then
        match escape c.next with
        | .error failure => .error failure
        | .ok (meant, behind) => textChars fuel (meant :: taken) behind
      else if char.toNat < 0x20 then .error (c.stopAfter 1 .controlCharacter)
      else textChars fuel (char :: taken) c.next

/-- A text whose opening quote has been taken. -/
def textBody (c : Cursor) : Read String :=
  textChars c.fuel [] c

/-! ### Values without items -/

/-- A value that is no array and no object, if one begins here. -/
def scalar? (c : Cursor) : Option (Read Json) :=
  match c.rest with
  | 'n' :: _ => some ((word ['u', 'l', 'l'] c.next).map fun c => (.null, c))
  | 't' :: _ => some ((word ['r', 'u', 'e'] c.next).map fun c => (.bool true, c))
  | 'f' :: _ => some ((word ['a', 'l', 's', 'e'] c.next).map fun c => (.bool false, c))
  | '"' :: _ => some ((textBody c.next).map fun (text, c) => (.str text, c))
  | char :: _ => if char == '-' || char.isDigit then some (number c) else none
  | [] => none

/-- The failure of a value that is not of the wanted kind.  A value without items is read first,
and a fault in its syntax wins. -/
def mismatch (wanted : String) (c : Cursor) : Failure :=
  match scalar? c with
  | some (.ok (value, behind)) => behind.stop (.wrongType value.found wanted)
  | some (.error failure) => failure
  | none =>
    match c.look with
    | some '[' => c.stop (.wrongType "sequence" wanted)
    | some '\x7b' => c.stop (.wrongType "map" wanted)
    | _ => c.refuse .noValue

/-- A text, called `wanted` if something else is there. -/
def readText (wanted : String) (c : Cursor) : Read String :=
  let c := c.skip
  match c.rest with
  | [] => .error (c.refuse .endInValue)
  | '"' :: _ => textBody c.next
  | _ => .error (mismatch wanted c)

/-- A truth value. -/
def readBool (c : Cursor) : Read Bool :=
  let c := c.skip
  match c.rest with
  | [] => .error (c.refuse .endInValue)
  | 't' :: _ => (word ['r', 'u', 'e'] c.next).map fun c => (true, c)
  | 'f' :: _ => (word ['a', 'l', 's', 'e'] c.next).map fun c => (false, c)
  | _ => .error (mismatch "a boolean" c)

/-! ### Arrays -/

/-- Whether another item follows, with the cursor in front of it; if none does, the cursor looks
at the closing bracket. -/
def nextItem (first : Bool) (c : Cursor) : Read Bool :=
  let c := c.skip
  match c.rest with
  | [] => .error (c.refuse .endInArray)
  | ']' :: _ => .ok (false, c)
  | ',' :: _ =>
    if first then .ok (true, c)
    else
      let c := c.next.skip
      match c.rest with
      | [] => .error (c.refuse .endInValue)
      | ']' :: _ => .error (c.refuse .trailingComma)
      | _ => .ok (true, c)
  | _ => if first then .ok (true, c) else .error (c.refuse .noArrayComma)

/-- All items that follow.  The fuel is spent on items. -/
def items {α : Type} (item : Cursor → Read α) :
    (fuel : List Char) → (first : Bool) → Cursor → Read (List α)
  | [], _, c => .error (c.refuse .endInArray)
  | _ :: fuel, first, c =>
    match nextItem first c with
    | .error failure => .error failure
    | .ok (false, c) => .ok ([], c)
    | .ok (true, c) =>
      match item c with
      | .error failure => .error failure
      | .ok (x, c) =>
        match items item fuel false c with
        | .error failure => .error failure
        | .ok (xs, c) => .ok (x :: xs, c)

/-- Behind the bracket that closes an array. -/
def closeArray (c : Cursor) : Except Failure Cursor :=
  let c := c.skip
  match c.rest with
  | [] => .error (c.refuse .endInArray)
  | ']' :: _ => .ok c.next
  | ',' :: _ =>
    let c := c.next.skip
    if c.look == some ']' then .error (c.refuse .trailingComma)
    else .error (c.refuse .trailingText)
  | _ => .error (c.refuse .trailingText)

/-- The byte where an array is given up after a failure at the cursor: behind its bracket if that
comes next, behind a comma and the blanks after it if that does. -/
def giveUpArray (c : Cursor) : Nat :=
  let c := c.skip
  match c.rest with
  | ']' :: _ => c.next.offset
  | ',' :: _ => c.next.skip.offset
  | _ => c.offset

/-- The inside of an array, from its opening bracket to behind the closing one. -/
def inArray {α : Type} (inside : Cursor → Read α) (c : Cursor) : Read α :=
  match inside c.next with
  | .error failure => .error (failure.settle (giveUpArray failure.cursor))
  | .ok (x, c) => (closeArray c).map fun c => (x, c)

/-- An array of items; `nested` reads one, and is missing where no bracket may be opened. -/
def readList {α : Type} (nested : Option (Cursor → Read α)) (c : Cursor) : Read (List α) :=
  let c := c.skip
  match c.rest with
  | [] => .error (c.refuse .endInValue)
  | '[' :: _ =>
    match nested with
    | none => .error (c.refuse .tooDeep)
    | some item => inArray (fun c => items item c.fuel true c) c
  | _ => .error (mismatch "a sequence" c)

/-! ### Objects -/

/-- The key of another member if one follows, with the cursor behind it; if none does, the cursor
looks at the closing brace. -/
def nextKey (first : Bool) (c : Cursor) : Read (Option String) :=
  let c := c.skip
  let key := fun (c : Cursor) =>
    match c.rest with
    | [] => .error (c.refuse .endInValue)
    | '"' :: _ => (textBody c.next).map fun (key, c) => (some key, c)
    | '\x7d' :: _ => .error (c.refuse .trailingComma)
    | _ => .error (c.refuse .keyNotString)
  match c.rest with
  | [] => .error (c.refuse .endInObject)
  | '\x7d' :: _ => .ok (none, c)
  | ',' :: _ => if first then key c else key c.next.skip
  | _ => if first then key c else .error (c.refuse .noObjectComma)

/-- Behind the colon that follows a key. -/
def colon (c : Cursor) : Except Failure Cursor :=
  let c := c.skip
  match c.rest with
  | [] => .error (c.refuse .endInObject)
  | ':' :: _ => .ok c.next
  | _ => .error (c.refuse .noColon)

/-- All members that follow, each of which takes its key and what has been read before it.  The
fuel is spent on members. -/
def members {σ : Type} (member : σ → String → Cursor → Read σ) :
    (fuel : List Char) → (first : Bool) → σ → Cursor → Read σ
  | [], _, _, c => .error (c.refuse .endInObject)
  | _ :: fuel, first, state, c =>
    match nextKey first c with
    | .error failure => .error failure
    | .ok (none, c) => .ok (state, c)
    | .ok (some key, c) =>
      match member state key c with
      | .error failure => .error failure
      | .ok (state, c) => members member fuel false state c

/-- Behind the brace that closes an object. -/
def closeObject (c : Cursor) : Except Failure Cursor :=
  let c := c.skip
  match c.rest with
  | [] => .error (c.refuse .endInObject)
  | '\x7d' :: _ => .ok c.next
  | ',' :: _ => .error (c.refuse .trailingComma)
  | _ => .error (c.refuse .trailingText)

/-- The byte where an object is given up after a failure at the cursor: behind its brace if that
comes next. -/
def giveUpObject (c : Cursor) : Nat :=
  let c := c.skip
  match c.rest with
  | '\x7d' :: _ => c.next.offset
  | _ => c.offset

/-- The inside of an object, from its opening brace to behind the closing one. -/
def inObject {α : Type} (inside : Cursor → Read α) (c : Cursor) : Read α :=
  match inside c.next with
  | .error failure => .error (failure.settle (giveUpObject failure.cursor))
  | .ok (x, c) => (closeObject c).map fun c => (x, c)

/-! ### Any value -/

/-- A member of an object of which nothing is known: its key and value, added to those before. -/
def anyMember (value : Cursor → Read Json) (before : List (String × Json)) (key : String)
    (c : Cursor) : Read (List (String × Json)) :=
  match colon c with
  | .error failure => .error failure
  | .ok c => (value c).map fun (v, c) => (before ++ [(key, v)], c)

/-- Any value, in which `nested` reads the values inside, and is missing where no bracket may be
opened. -/
def valueWith (nested : Option (Cursor → Read Json)) (c : Cursor) : Read Json :=
  let c := c.skip
  match scalar? c with
  | some outcome => outcome
  | none =>
    match c.rest with
    | [] => .error (c.refuse .endInValue)
    | '[' :: _ =>
      match nested with
      | none => .error (c.refuse .tooDeep)
      | some value =>
        (inArray (fun c => items value c.fuel true c) c).map fun (xs, c) =>
          (.arr xs, c)
    | '\x7b' :: _ =>
      match nested with
      | none => .error (c.refuse .tooDeep)
      | some value =>
        (inObject (fun c => members (anyMember value) c.fuel true [] c) c).map
          fun (ms, c) => (.obj ms, c)
    | _ => .error (c.refuse .noValue)

/-- Any value inside which so many brackets may be open at once. -/
def value : Nat → Cursor → Read Json
  | 0 => valueWith none
  | limit + 1 => valueWith (some (value limit))

/-- A whole text: what the reader reads, and nothing but blanks behind it. -/
def whole {α : Type} (reader : Cursor → Read α) (text : String) : Except Failure α :=
  match reader (.start text) with
  | .error failure => .error failure
  | .ok (x, c) =>
    let c := c.skip
    if c.rest.isEmpty then .ok x else .error (c.refuse .trailingText)

end LineCut.Json
