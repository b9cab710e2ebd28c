/-
Tables of character sets, written as text.

A table is a text of words.  A word that ends in a colon opens an entry and gives its names with
slashes between them; each word after it is a range of code points in hexadecimal, or one code
point.  An entry therefore reads

    ASCII_Hex_Digit/AHex: 30-39 41-46 61-66

and a table can be checked against the standard's own files by eye.
-/
import LineCut.Unicode.CharSet

namespace LineCut.Unicode

/-- Named sets of characters. -/
abbrev Table := List (List String × CharSet)

namespace Table

/-- The words of a text, which blanks and line ends separate. -/
def words (text : String) : List (List Char) :=
  let step := fun (state : List Char × List (List Char)) (c : Char) =>
    let (word, found) := state
    if c == ' ' || c == '\n' then
      if word.isEmpty then ([], found) else ([], word.reverse :: found)
    else (c :: word, found)
  let (word, found) := text.foldl step ([], [])
  (if word.isEmpty then found else word.reverse :: found).reverse

/-- What a hexadecimal digit is worth; `none` of any other character. -/
def digit? (c : Char) : Option Nat :=
  let n := c.toNat
  if 48 ≤ n && n ≤ 57 then some (n - 48)
  else if 65 ≤ n && n ≤ 70 then some (n - 55)
  else if 97 ≤ n && n ≤ 102 then some (n - 87)
  else none

/-- The number written in hexadecimal digits. -/
def number (digits : List Char) : Nat :=
  digits.foldl (fun n c => 16 * n + (digit? c).getD 0) 0

/-- A range, written as its two ends with a dash between them, or as one number. -/
def range (word : List Char) : Nat × Nat :=
  let low := word.takeWhile (· != '-')
  match word.drop (low.length + 1) with
  | [] => (number low, number low)
  | high => (number low, number high)

/-- The names before a colon, which slashes separate. -/
def names (word : List Char) : List String :=
  (word.dropLast.splitBy fun a b => a != '/' && b != '/').filterMap fun name =>
    if name == ['/'] then none else some (String.ofList name)

/-- Read a table.  The entries taken so far, and the ranges of the last of them, come last
first. -/
def decode (text : String) : Table :=
  let step := fun (entries : List (List String × List (Nat × Nat))) (word : List Char) =>
    if word.getLast? == some ':' then (names word, []) :: entries
    else
      match entries with
      | [] => []
      | (found, ranges) :: rest => (found, range word :: ranges) :: rest
  ((words text).foldl step []).reverse.map fun (found, ranges) =>
    (found, CharSet.ofRanges ranges)

/-- The set under the first entry that one of whose names satisfies the test. -/
def find? (table : Table) (test : String → Bool) : Option CharSet :=
  (List.find? (fun (found, _) => found.any test) table).map Prod.snd

/-- The set of that exact name, empty if there is none. -/
def get (table : Table) (name : String) : CharSet :=
  (find? table (· == name)).getD .empty

end Table

end LineCut.Unicode
