/-
Asking for a set of characters by the name of a property.

Names are compared loosely: case, spaces, underscores and hyphens do not count, nor does an `is`
in front.  A name on its own is a property that characters have or lack, or a general category,
or a script, in that order.  A name with a value is one of the properties that have values, and
then an unknown value is told apart from an unknown property.
-/
import LineCut.Unicode.Category
import LineCut.Unicode.Script
import LineCut.Unicode.Property
import LineCut.Unicode.Segmentation
import LineCut.Unicode.Age
import LineCut.Unicode.Folding

namespace LineCut.Unicode

/-! ### The classes that have names of their own in patterns -/

/-- Decimal digits. -/
def digits : CharSet :=
  categories.get "Nd"

/-- White space. -/
def blanks : CharSet :=
  properties.get "White_Space"

/-- Letters. -/
def letters : CharSet :=
  properties.get "Alphabetic"

/-- Numbers of every kind. -/
def numerals : CharSet :=
  categoryUnion ["Nd", "Nl", "No"]

/-- What words are made of. -/
def wordCharacters : CharSet :=
  (letters.union (categoryUnion ["Mn", "Mc", "Me", "Nd", "Pc"])).union
    (properties.get "Join_Control")

/-! ### Loose names -/

/-- A name as far as it counts: in lower case, without separators, without a leading `is`.  The
one name that would lose its meaning with the `is` keeps it. -/
def looseName (name : String) : String :=
  let plain := fun (cs : List Char) =>
    (cs.filter fun c => c.toNat < 0x80 && c != ' ' && c != '_' && c != '-').map Char.toLower
  match name.toList with
  | a :: b :: rest =>
    if a.toLower == 'i' && b.toLower == 's' then
      if plain rest == ['c'] then "isc" else String.ofList (plain rest)
    else String.ofList (plain (a :: b :: rest))
  | short => String.ofList (plain short)

/-- Two names are the same, loosely. -/
def sameName (loose name : String) : Bool :=
  looseName name == loose

/-! ### Looking up -/

/-- Why there is no set: the property is not known, or its value is not. -/
inductive Unknown where
  | property
  | value
  deriving DecidableEq, Repr

/-- Properties with values for which no set is kept.  Asking one of them for any value is asking
for an unknown value. -/
def otherValued : List (List String) :=
  [["Bidi_Class", "bc"], ["Bidi_Mirroring_Glyph", "bmg"], ["Bidi_Paired_Bracket", "bpb"],
   ["Bidi_Paired_Bracket_Type", "bpt"], ["Block", "blk"], ["Canonical_Combining_Class", "ccc"],
   ["Case_Folding", "cf"], ["Changes_When_NFKC_Casefolded", "CWKCF"],
   ["Composition_Exclusion", "CE"], ["Decomposition_Mapping", "dm"],
   ["Decomposition_Type", "dt"], ["East_Asian_Width", "ea"],
   ["Equivalent_Unified_Ideograph", "EqUIdeo"], ["Expands_On_NFC", "XO_NFC"],
   ["Expands_On_NFD", "XO_NFD"], ["Expands_On_NFKC", "XO_NFKC"], ["Expands_On_NFKD", "XO_NFKD"],
   ["FC_NFKC_Closure", "FC_NFKC"], ["Full_Composition_Exclusion", "Comp_Ex"],
   ["Hangul_Syllable_Type", "hst"], ["ISO_Comment", "isc"], ["Indic_Conjunct_Break", "InCB"],
   ["Indic_Positional_Category", "InPC"], ["Indic_Syllabic_Category", "InSC"],
   ["Jamo_Short_Name", "JSN"], ["Joining_Group", "jg"], ["Joining_Type", "jt"],
   ["Line_Break", "lb"], ["Lowercase_Mapping", "lc"], ["NFC_Quick_Check", "NFC_QC"],
   ["NFD_Quick_Check", "NFD_QC"], ["NFKC_Casefold", "NFKC_CF"], ["NFKC_Quick_Check", "NFKC_QC"],
   ["NFKC_Simple_Casefold", "NFKC_SCF"], ["NFKD_Quick_Check", "NFKD_QC"], ["Name", "na"],
   ["Name_Alias"], ["Numeric_Type", "nt"], ["Numeric_Value", "nv"],
   ["Simple_Case_Folding", "scf", "sfc"], ["Simple_Lowercase_Mapping", "slc"],
   ["Simple_Titlecase_Mapping", "stc"], ["Simple_Uppercase_Mapping", "suc"],
   ["Titlecase_Mapping", "tc"], ["Unicode_1_Name", "na1"], ["Unicode_Radical_Stroke", "URS"],
   ["Uppercase_Mapping", "uc"], ["Vertical_Orientation", "vo"], ["kAccountingNumeric",
   "cjkAccountingNumeric"], ["kCompatibilityVariant", "cjkCompatibilityVariant"],
   ["kEH_Cat"], ["kEH_Desc"], ["kEH_HG"], ["kEH_IFAO"], ["kEH_JSesh"], ["kEH_NoMirror"],
   ["kEH_NoRotate"], ["kIICore", "cjkIICore"], ["kIRG_GSource", "cjkIRG_GSource"],
   ["kIRG_HSource", "cjkIRG_HSource"], ["kIRG_JSource", "cjkIRG_JSource"],
   ["kIRG_KPSource", "cjkIRG_KPSource"], ["kIRG_KSource", "cjkIRG_KSource"],
   ["kIRG_MSource", "cjkIRG_MSource"], ["kIRG_SSource", "cjkIRG_SSource"],
   ["kIRG_TSource", "cjkIRG_TSource"], ["kIRG_UKSource", "cjkIRG_UKSource"],
   ["kIRG_USource", "cjkIRG_USource"], ["kIRG_VSource", "cjkIRG_VSource"],
   ["kMandarin"], ["kOtherNumeric", "cjkOtherNumeric"], ["kPrimaryNumeric", "cjkPrimaryNumeric"],
   ["kRSUnicode", "cjkRSUnicode", "Unicode_Radical_Stroke", "URS"], ["kTotalStrokes"],
   ["kUnihanCore2020"]]

/-- Properties with values whose names no property without values may take. -/
def valuedNames : List (List String) :=
  [["General_Category", "gc"], ["Script", "sc"], ["Script_Extensions", "scx"], ["Age"],
   ["Grapheme_Cluster_Break", "GCB"], ["Word_Break", "WB"], ["Sentence_Break", "SB"]]

/-- A general category, a group of them, or one of the three sets that are asked for in the same
way: all characters, the assigned ones, and those of ASCII. -/
def category? (loose : String) : Option CharSet :=
  if loose == "any" then some (.interval 0 lastCode)
  else if loose == "assigned" then some (categories.get "Cn").complement
  else if loose == "ascii" then some (.interval 0 0x7F)
  else
    match categoryGroups.find? fun (names, _) => names.any (sameName loose) with
    | some (_, codes) => some (categoryUnion codes)
    | none => categories.find? (sameName loose)

/-- A script, with its long name. -/
def script? (loose : String) : Option (String × CharSet) :=
  (List.find? (fun (names, _) => names.any (sameName loose)) scripts).map fun (names, set) =>
    (names.headD "", set)

/-- The category and the scripts that have a name and no characters.  Asking for one of them is
asking for an unknown value. -/
def emptyNames : List String :=
  ["Surrogate", "Cs", "Unknown", "Zzzz", "Katakana_Or_Hiragana", "Hrkt"]

/-- The characters that a name on its own stands for.  Three short names are both those of a
category and those of a property with values, and mean the category. -/
def named (name : String) : Except Unknown CharSet :=
  let loose := looseName name
  let category := loose == "cf" || loose == "sc" || loose == "lc"
  match properties.find? (sameName loose) with
  | some set => .ok set
  | none =>
    if !category && (valuedNames ++ otherValued).any (·.any (sameName loose)) then
      .error .property
    else
      match category? loose with
      | some set => .ok set
      | none =>
        match script? loose with
        | some (_, set) => .ok set
        | none => if emptyNames.any (sameName loose) then .error .value else .error .property

/-- The characters for which a property has a value. -/
def valued (property value : String) : Except Unknown CharSet :=
  let loose := looseName value
  let found := fun (set : Option CharSet) => (set.map Except.ok).getD (.error .value)
  match valuedNames.find? (·.any (sameName (looseName property))) with
  | some ("General_Category" :: _) => found (category? loose)
  | some ("Script" :: _) => found ((script? loose).map (·.2))
  | some ("Script_Extensions" :: _) =>
    found ((script? loose).map fun (name, own) => usedWith name own)
  | some ("Age" :: _) => found (existedIn? (sameName loose))
  | some ("Grapheme_Cluster_Break" :: _) => found (clusterBreaks.find? (sameName loose))
  | some ("Word_Break" :: _) => found (wordBreaks.find? (sameName loose))
  | some ("Sentence_Break" :: _) => found (sentenceBreaks.find? (sameName loose))
  | _ =>
    if otherValued.any (·.any (sameName (looseName property))) ||
        (properties.find? (sameName (looseName property))).isSome then .error .value
    else .error .property

end LineCut.Unicode
