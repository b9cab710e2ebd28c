/-
What can be wrong with a JSON text.

There are two families.  The text may not be JSON at all, or it may be JSON of another shape than
the one that was asked for.  A fault of the first family is noticed at a byte of the text and
says so at once.  A fault of the second may be noticed by code that holds a value and no longer
knows where it stood; such a fault travels outwards without a place until an array or an object
that is being read gives it one.
-/
import LineCut.Json.Value
import LineCut.Text.Quoted

namespace LineCut.Json

/-- Where reading stands: the characters that are left, and how many bytes came before them. -/
structure Cursor where
  rest : List Char
  offset : Nat
  deriving DecidableEq, Repr

/-- What is wrong. -/
inductive Complaint where
  | endInArray
  | endInObject
  | endInString
  | endInValue
  | noColon
  | noArrayComma
  | noObjectComma
  | badWord
  | noValue
  | badEscape
  | badNumber
  | numberRange
  | controlCharacter
  | keyNotString
  | loneSurrogate
  | endOfEscape
  | trailingComma
  | trailingText
  | tooDeep
  | wrongType (found wanted : String)
  | wrongValue (found wanted : String)
  | wrongLength (length : Nat) (wanted : String)
  | unknownVariant (name : String) (known : List String)
  | unknownField (name : String) (known : List String)
  | missingField (name : String)
  | duplicateField (name : String)
  deriving DecidableEq, Repr

/-- Names of which one was expected. -/
def oneOf (known : List String) : String :=
  let quoted := known.map fun name => "`" ++ name ++ "`"
  match quoted with
  | [] => "nothing"
  | [a] => a
  | [a, b] => a ++ " or " ++ b
  | names => "one of " ++ ", ".intercalate names

/-- What is wrong, in words. -/
def Complaint.message : Complaint → String
  | endInArray => "EOF while parsing a list"
  | endInObject => "EOF while parsing an object"
  | endInString => "EOF while parsing a string"
  | endInValue => "EOF while parsing a value"
  | noColon => "expected `:`"
  | noArrayComma => "expected `,` or `]`"
  | noObjectComma => "expected `,` or `\x7d`"
  | badWord => "expected ident"
  | noValue => "expected value"
  | badEscape => "invalid escape"
  | badNumber => "invalid number"
  | numberRange => "number out of range"
  | controlCharacter => "control character (\\u0000-\\u001F) found while parsing a string"
  | keyNotString => "key must be a string"
  | loneSurrogate => "lone leading surrogate in hex escape"
  | endOfEscape => "unexpected end of hex escape"
  | trailingComma => "trailing comma"
  | trailingText => "trailing characters"
  | tooDeep => "recursion limit exceeded"
  | wrongType found wanted => "invalid type: " ++ found ++ ", expected " ++ wanted
  | wrongValue found wanted => "invalid value: " ++ found ++ ", expected " ++ wanted
  | wrongLength length wanted => "invalid length " ++ toString length ++ ", expected " ++ wanted
  | unknownVariant name known => "unknown variant `" ++ name ++ "`, expected " ++ oneOf known
  | unknownField name known => "unknown field `" ++ name ++ "`, expected " ++ oneOf known
  | missingField name => "missing field `" ++ name ++ "`"
  | duplicateField name => "duplicate field `" ++ name ++ "`"

/-- What a value is called by a message that expected something else. -/
def found : Json → String
  | .null => "null"
  | .bool b => "boolean `" ++ toString b ++ "`"
  | .int n => "integer `" ++ toString n ++ "`"
  | .real shown => "floating point `" ++ shown ++ "`"
  | .str text => "string " ++ Text.quoted text
  | .arr _ => "sequence"
  | .obj _ => "map"

/-- A complaint, the byte it is placed at if it has a place yet, and where reading stood. -/
structure Failure where
  complaint : Complaint
  place : Option Nat
  cursor : Cursor
  deriving DecidableEq, Repr

/-- Give the failure a place unless it has one. -/
def Failure.settle (failure : Failure) (place : Nat) : Failure :=
  { failure with place := some (failure.place.getD place) }

/-- Line and column of a byte of a text, both as people count them: a column is the number of
bytes of its line up to and including the one meant. -/
def lineColumn (text : String) (place : Nat) : Nat × Nat :=
  let before := text.toUTF8.toList.take place
  (before.count 10 + 1, (before.reverse.takeWhile (· != 10)).length)

/-- The failure in words, with its place in the text if it has one. -/
def Failure.message (failure : Failure) (text : String) : String :=
  match failure.place with
  | none => failure.complaint.message
  | some place =>
    let (line, column) := lineColumn text place
    failure.complaint.message ++ " at line " ++ toString line ++ " column " ++ toString column

end LineCut.Json
