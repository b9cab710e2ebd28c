/-
Characters that are newer than the tables.

The classes of a pattern go by one version of the standard, the one whose additions close the
table of ages.  Two readings look one version further: which characters the name of a group may
hold, and which ones a quoted text shows as they are.  What that version added to either is
listed here; to a class of a pattern these are unassigned code points.
-/
import LineCut.Unicode.Query

namespace LineCut.Unicode

/-- What the next version added: its letters, its numbers, and all of its characters that can be
seen on their own. -/
def newcomers : Table := Table.decode "
letters: 88F C5C CDC A7CE-A7CF A7D2 A7D4 A7F1 10940-10959 10EC5-10EC7 10EFA-10EFB 11B60-11B67
 11DB0-11DDB 16EA0-16EB8 16EBB-16ED3 16FF2-16FF6 187F8-187FF 18D09-18D1E 18D80-18DF2 1E6C0-1E6DE
 1E6E0-1E6F5 1E6FE-1E6FF 2B73A-2B73F 2CEA2-2CEAD 323B0-33479
numerals: 11DE0-11DE9 16FF4-16FF6
visible: 88F C5C CDC 20C1 2B96 A7CE-A7CF A7D2 A7D4 A7F1 FBC3-FBD2 FD90-FD91 FDC8-FDCE 10940-10959
 10EC5-10EC7 10ED0-10ED8 11B61 11B65 11B67 11DB0-11DDB 11DE0-11DE9 16EA0-16EB8 16EBB-16ED3
 16FF2-16FF6 187F8-187FF 18D09-18D1E 18D80-18DF2 1CCFA-1CCFC 1CEBA-1CED0 1CEE0-1CEF0 1E6C0-1E6DE
 1E6E0-1E6E2 1E6E4-1E6E5 1E6E7-1E6ED 1E6F0-1E6F4 1E6FE-1E6FF 1F6D8 1F777-1F77A 1F8D0-1F8D8
 1FA54-1FA57 1FA8A 1FA8E 1FAC8 1FACD 1FAEA 1FAEF 1FBFA 2B73A-2B73F 2CEA2-2CEAD 323B0-33479
"

/-- Whether a character is a letter, in the next version. -/
def isLetter (c : Char) : Bool :=
  letters.contains c || (newcomers.get "letters").contains c

/-- Whether a character is a number, in the next version. -/
def isNumeral (c : Char) : Bool :=
  numerals.contains c || (newcomers.get "numerals").contains c

end LineCut.Unicode
