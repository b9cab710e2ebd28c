/-
Characters that differ in letter case only.

Simple case folding puts a character into a class with the others that fold to the same one, and
a set is closed under folding when it holds a class whole or not at all.  Nearly all classes are
pairs, and pairs come in runs: `41-5A+20` says that each of the code points from 41 to 5A is in
a class with the one 20 further on, and `100-12E/2+1` says so of every second code point.  The
few larger classes are written out, with equals signs between their members.
-/
import LineCut.Unicode.Table

namespace LineCut.Unicode.Folding

/-- The runs of pairs. -/
def pairs : String := "
41-4A+20 4C-52+20 54-5A+20 C0-C4+20 C6-D6+20 D8-DE+20 DF+1DBF FF+79 100-12E/2+1 132-136/2+1
139-147/2+1 14A-176/2+1 179-17D/2+1 180+C3 181+D2 182-184/2+1 186+CE 187+1 189-18A+CD 18B+1
18E+4F 18F+CA 190+CB 191+1 193+CD 194+CF 195+61 196+D3 197+D1 198+1 19A+A3 19B+A641 19C+D3 19D+D5
19E+82 19F+D6 1A0-1A4/2+1 1A6+DA 1A7+1 1A9+DA 1AC+1 1AE+DA 1AF+1 1B1-1B2+D9 1B3-1B5/2+1 1B7+DB
1B8+1 1BC+1 1BF+38 1CD-1DB/2+1 1DE-1EE/2+1 1F4+1 1F8-21E/2+1 222-232/2+1 23A+2A2B 23B+1 23E+2A28
23F-240+2A3F 241+1 244+45 245+47 246-24E/2+1 250+2A1F 251+2A1C 252+2A1E 25C+A54F 261+A54B
264+A567 265+A528 266+A544 26A+A544 26B+29F7 26C+A541 271+29FD 27D+29E7 282+A543 287+A52A
29D+A515 29E+A512 370-372/2+1 376+1 37B-37D+82 37F+74 386+26 388-38A+25 38C+40 38E-38F+3F
390+1C43 391-393/2+20 394-396/2+20 397+20 39B-39D/2+20 39E-39F+20 3A4-3A5+20 3A7-3A8+20
3AA-3AB+20 3B0+1C33 3CF+8 3D8-3EE/2+1 3F2+7 3F7+1 3FA+1 400-40F+50 410-411+20 413-415/2+20
416-41D+20 41F-420+20 423-429+20 42B-42F+20 460+1 464-480/2+1 48A-4BE/2+1 4C0+F 4C1-4CD/2+1
4D0-52E/2+1 531-556+30 10A0-10C5+1C60 10C7+1C60 10CD+1C60 10D0-10FA+BC0 10FD-10FF+BC0
13A0-13EF+97D0 13F0-13F5+8 1C89+1 1D79+8A04 1D7D+EE6 1D8E+8A38 1E00-1E5E/2+1 1E62-1E94/2+1
1EA0-1EFE/2+1 1F00-1F07+8 1F10-1F15+8 1F20-1F27+8 1F30-1F37+8 1F40-1F45+8 1F51-1F57/2+8
1F60-1F67+8 1F70-1F71+4A 1F72-1F75+56 1F76-1F77+64 1F78-1F79+80 1F7A-1F7B+70 1F7C-1F7D+7E
1F80-1F87+8 1F90-1F97+8 1FA0-1FA7+8 1FB0-1FB1+8 1FB3+9 1FC3+9 1FD0-1FD1+8 1FE0-1FE1+8 1FE5+7
1FF3+9 2132+1C 2160-216F+10 2183+1 24B6-24CF+1A 2C00-2C2F+30 2C60+1 2C67-2C6B/2+1 2C72+1 2C75+1
2C80-2CE2/2+1 2CEB-2CED/2+1 2CF2+1 A640-A648/2+1 A64C-A66C/2+1 A680-A69A/2+1 A722-A72E/2+1
A732-A76E/2+1 A779-A77B/2+1 A77E-A786/2+1 A78B+1 A790-A792/2+1 A794+30 A796-A7A8/2+1 A7B3+3A0
A7B4-A7C2/2+1 A7C7-A7C9/2+1 A7CC+1 A7D0+1 A7D6-A7DA/2+1 A7F5+1 FB05+1 FF21-FF3A+20 10400-10427+28
104B0-104D3+28 10570-1057A+27 1057C-1058A+27 1058C-10592+27 10594-10595+27 10C80-10CB2+40
10D50-10D65+20 118A0-118BF+20 16E40-16E5F+20 1E900-1E921+22
"

/-- The classes with more than two members. -/
def larger : String := "
4B=6B=212A 53=73=17F B5=39C=3BC C5=E5=212B 1C4=1C5=1C6 1C7=1C8=1C9 1CA=1CB=1CC 1F1=1F2=1F3
345=399=3B9=1FBE 392=3B2=3D0 395=3B5=3F5 398=3B8=3D1=3F4 39A=3BA=3F0 3A0=3C0=3D6 3A1=3C1=3F1
3A3=3C2=3C3 3A6=3C6=3D5 3A9=3C9=2126 412=432=1C80 414=434=1C81 41E=43E=1C82 421=441=1C83
422=442=1C84=1C85 42A=44A=1C86 462=463=1C87 1C88=A64A=A64B 1E60=1E61=1E9B
"

/-- The pieces of a word between the places where a separator stands. -/
def pieces (separator : Char) (word : List Char) : List (List Char) :=
  (word.splitBy fun a b => a != separator && b != separator).filter (· != [separator])

/-- The classes that a run stands for. -/
def ofRun (word : List Char) : List (List Nat) :=
  match pieces '+' word with
  | [place, distance] =>
    match pieces '/' place with
    | [range, _] =>
      let (low, high) := Table.range range
      (List.range ((high - low) / 2 + 1)).map fun i =>
        [low + 2 * i, low + 2 * i + Table.number distance]
    | _ =>
      let (low, high) := Table.range place
      (List.range (high - low + 1)).map fun i => [low + i, low + i + Table.number distance]
  | _ => []

/-- All classes with more than one member. -/
def classes : List (List Nat) :=
  (Table.words pairs).flatMap ofRun ++
    (Table.words larger).map fun word => (pieces '=' word).map Table.number

/-- The least closed set around a set. -/
def close (set : CharSet) : CharSet :=
  let met := classes.filter fun members => members.any set.hasCode
  if met.isEmpty then set
  else set.union (CharSet.ofRanges (met.flatten.map fun code => (code, code)))

/-- The same for the case of ASCII letters alone. -/
def closeAscii (set : CharSet) : CharSet :=
  let lower := set.inter (.interval 97 122)
  let upper := set.inter (.interval 65 90)
  (set.union ⟨lower.ranges.map fun (a, b) => (a - 32, b - 32)⟩).union
    ⟨upper.ranges.map fun (a, b) => (a + 32, b + 32)⟩

end LineCut.Unicode.Folding
