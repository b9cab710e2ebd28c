/-
Writing JSON.

Two forms: one without any blanks, and one with a line for each item and each member.  In both, a
text is written with the escapes that JSON demands and no others, so everything outside ASCII
stands for itself.
-/
import LineCut.Json.Value

namespace LineCut.Json

/-- A control character by its code point, in four hexadecimal digits. -/
def escapeCode (c : Char) : List Char :=
  let digits := Nat.toDigits 16 c.toNat
  '\\' :: 'u' :: (List.replicate (4 - digits.length) '0' ++ digits)

/-- A character inside a written text. -/
def escapeChar (c : Char) : List Char :=
  if c = '"' then ['\\', '"']
  else if c = '\\' then ['\\', '\\']
  else if c = '\x08' then ['\\', 'b']
  else if c = '\x0c' then ['\\', 'f']
  else if c = '\n' then ['\\', 'n']
  else if c = '\r' then ['\\', 'r']
  else if c = '\t' then ['\\', 't']
  else if c.toNat < 0x20 then escapeCode c
  else [c]

/-- A text in its quotes. -/
def stringChars (text : String) : List Char :=
  '"' :: (text.toList.flatMap escapeChar ++ ['"'])

/-- An integer in decimal digits. -/
def intChars (n : Int) : List Char :=
  match n with
  | .ofNat m => Nat.toDigits 10 m
  | .negSucc m => '-' :: Nat.toDigits 10 (m + 1)

/-- A truth value. -/
def boolChars (b : Bool) : List Char :=
  if b then ['t', 'r', 'u', 'e'] else ['f', 'a', 'l', 's', 'e']

/-! ### Without blanks

What follows an item or a member is written by the list it belongs to: a comma and the next one,
or the closing bracket.
-/

mutual

/-- A value without any blanks. -/
def chars : Json → List Char
  | .null => ['n', 'u', 'l', 'l']
  | .bool b => boolChars b
  | .int n => intChars n
  | .real shown => shown.toList
  | .str text => stringChars text
  | .arr items => '[' :: itemsChars true items
  | .obj members => '\x7b' :: membersChars true members
termination_by structural value => value

/-- The items up to the closing bracket; `first` says that no comma is due. -/
def itemsChars (first : Bool) : List Json → List Char
  | [] => [']']
  | item :: rest => (if first then [] else [',']) ++ chars item ++ itemsChars false rest
termination_by structural items => items

/-- The members up to the closing brace; `first` says that no comma is due. -/
def membersChars (first : Bool) : List (String × Json) → List Char
  | [] => ['\x7d']
  | (key, value) :: rest =>
    (if first then [] else [',']) ++ stringChars key ++ ':' :: chars value ++
      membersChars false rest
termination_by structural members => members

end

/-- The text of a value, without blanks. -/
def print (value : Json) : String :=
  String.ofList (chars value)

/-! ### A line for each item and member -/

/-- A line end and the blanks that the next line begins with. -/
def newLine (indent : Nat) : List Char :=
  '\n' :: List.replicate indent ' '

mutual

/-- A value that starts at the given indentation. -/
def prettyChars (indent : Nat) : Json → List Char
  | .null => ['n', 'u', 'l', 'l']
  | .bool b => boolChars b
  | .int n => intChars n
  | .real shown => shown.toList
  | .str text => stringChars text
  | .arr items =>
    if items.isEmpty then ['[', ']']
    else '[' :: (prettyItems (indent + 2) true items ++ newLine indent ++ [']'])
  | .obj members =>
    if members.isEmpty then ['\x7b', '\x7d']
    else '\x7b' :: (prettyMembers (indent + 2) true members ++ newLine indent ++ ['\x7d'])
termination_by structural value => value

/-- The items, each on lines of its own. -/
def prettyItems (indent : Nat) (first : Bool) : List Json → List Char
  | [] => []
  | item :: rest =>
    (if first then [] else [',']) ++ newLine indent ++ prettyChars indent item ++
      prettyItems indent false rest
termination_by structural items => items

/-- The members, each on lines of its own. -/
def prettyMembers (indent : Nat) (first : Bool) : List (String × Json) → List Char
  | [] => []
  | (key, value) :: rest =>
    (if first then [] else [',']) ++ newLine indent ++ stringChars key ++ ':' :: ' ' ::
      prettyChars indent value ++ prettyMembers indent false rest
termination_by structural members => members

end

/-- The text of a value over several lines. -/
def pretty (value : Json) : String :=
  String.ofList (prettyChars 0 value)

end LineCut.Json
