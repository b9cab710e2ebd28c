/-
A text as a message quotes it.

Between the quotes stands what can be read: a character that would end the quotation, that would
not be seen, or that would melt into the one before it is written as an escape.  The common ones
have short escapes and all others are given by their code point.
-/
import LineCut.Unicode.Newcomers

namespace LineCut.Text

/-- Characters without a shape of their own: those without a meaning, those that control the
layout, every separator but the space, and those that may be ignored. -/
def shapeless : Unicode.CharSet :=
  ((Unicode.categoryUnion ["Cc", "Cf", "Co", "Cn", "Zl", "Zp", "Zs"]).union
    (Unicode.properties.get "Default_Ignorable_Code_Point")).diff
      ((Unicode.newcomers.get "visible").union (.single ' '))

/-- Characters that attach to the one before.  The two among them that are letters are marks of
half width, which fill a place of their own. -/
def attached : Unicode.CharSet :=
  (Unicode.properties.get "Grapheme_Extend").diff (Unicode.categories.get "Lm")

/-- Characters that cannot be seen on their own. -/
def hidden : Unicode.CharSet :=
  shapeless.union attached

/-- A character inside quotes. -/
def quotedChar (c : Char) : List Char :=
  match c with
  | '"' => ['\\', '"']
  | '\\' => ['\\', '\\']
  | '\n' => ['\\', 'n']
  | '\r' => ['\\', 'r']
  | '\t' => ['\\', 't']
  | '\x00' => ['\\', '0']
  | c =>
    if hidden.contains c then
      ['\\', 'u', '\x7b'] ++ Nat.toDigits 16 c.toNat ++ ['\x7d']
    else [c]

/-- A text in quotes. -/
def quoted (text : String) : String :=
  String.ofList ('"' :: (text.toList.flatMap quotedChar ++ ['"']))

end LineCut.Text
