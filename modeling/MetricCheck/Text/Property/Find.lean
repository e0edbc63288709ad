-- Sets of characters by a property: by the name of a value alone, or by the names of a
-- property and a value.
import MetricCheck.Text.Property.Age
import MetricCheck.Text.Property.Binary
import MetricCheck.Text.Property.Break
import MetricCheck.Text.Property.Category
import MetricCheck.Text.Property.Script

namespace MetricCheck.Text

/-- The names of the properties that a character does not just have or lack. -/
def otherProperties : List (List String) := [
  ["cjkAccountingNumeric", "kAccountingNumeric"], ["cjkOtherNumeric", "kOtherNumeric"],
  ["cjkPrimaryNumeric", "kPrimaryNumeric"], ["nv", "Numeric_Value"],
  ["bmg", "Bidi_Mirroring_Glyph"], ["bpb", "Bidi_Paired_Bracket"], ["cf", "Case_Folding"],
  ["cjkCompatibilityVariant", "kCompatibilityVariant"], ["dm", "Decomposition_Mapping"],
  ["FC_NFKC", "FC_NFKC_Closure"], ["lc", "Lowercase_Mapping"], ["NFKC_CF", "NFKC_Casefold"],
  ["NFKC_SCF", "NFKC_Simple_Casefold"], ["scf", "Simple_Case_Folding", "sfc"],
  ["slc", "Simple_Lowercase_Mapping"], ["stc", "Simple_Titlecase_Mapping"],
  ["suc", "Simple_Uppercase_Mapping"], ["tc", "Titlecase_Mapping"], ["uc", "Uppercase_Mapping"],
  ["cjkIICore", "kIICore"], ["cjkIRG_GSource", "kIRG_GSource"], ["cjkIRG_HSource", "kIRG_HSource"],
  ["cjkIRG_JSource", "kIRG_JSource"], ["cjkIRG_KPSource", "kIRG_KPSource"],
  ["cjkIRG_KSource", "kIRG_KSource"], ["cjkIRG_MSource", "kIRG_MSource"],
  ["cjkIRG_SSource", "kIRG_SSource"], ["cjkIRG_TSource", "kIRG_TSource"],
  ["cjkIRG_UKSource", "kIRG_UKSource"], ["cjkIRG_USource", "kIRG_USource"],
  ["cjkIRG_VSource", "kIRG_VSource"],
  ["cjkRSUnicode", "kRSUnicode", "Unicode_Radical_Stroke", "URS"],
  ["EqUIdeo", "Equivalent_Unified_Ideograph"], ["isc", "ISO_Comment"], ["JSN", "Jamo_Short_Name"],
  ["kEH_Cat"], ["kEH_Desc"], ["kEH_HG"], ["kEH_IFAO"], ["kEH_JSesh"], ["kEH_NoMirror"],
  ["kEH_NoRotate"], ["na", "Name"], ["na1", "Unicode_1_Name"], ["Name_Alias"],
  ["scx", "Script_Extensions"], ["age", "Age"], ["blk", "Block"], ["sc", "Script"],
  ["bc", "Bidi_Class"], ["bpt", "Bidi_Paired_Bracket_Type"], ["ccc", "Canonical_Combining_Class"],
  ["dt", "Decomposition_Type"], ["ea", "East_Asian_Width"], ["gc", "General_Category"],
  ["GCB", "Grapheme_Cluster_Break"], ["hst", "Hangul_Syllable_Type"],
  ["InCB", "Indic_Conjunct_Break"], ["InPC", "Indic_Positional_Category"],
  ["InSC", "Indic_Syllabic_Category"], ["jg", "Joining_Group"], ["jt", "Joining_Type"],
  ["lb", "Line_Break"], ["NFC_QC", "NFC_Quick_Check"], ["NFD_QC", "NFD_Quick_Check"],
  ["NFKC_QC", "NFKC_Quick_Check"], ["NFKD_QC", "NFKD_Quick_Check"], ["nt", "Numeric_Type"],
  ["SB", "Sentence_Break"], ["vo", "Vertical_Orientation"], ["WB", "Word_Break"],
  ["CE", "Composition_Exclusion"], ["Comp_Ex", "Full_Composition_Exclusion"],
  ["CWKCF", "Changes_When_NFKC_Casefolded"], ["XO_NFC", "Expands_On_NFC"],
  ["XO_NFD", "Expands_On_NFD"], ["XO_NFKC", "Expands_On_NFKC"], ["XO_NFKD", "Expands_On_NFKD"]]

/-- What a set of characters is asked for by. -/
inductive PropertyQuery where
  /-- A property that characters have or lack, a category or a script. -/
  | named (name : String)
  /-- A value of a property. -/
  | valued (property value : String)
deriving DecidableEq

inductive PropertyFault where
  | unknownProperty
  | unknownValue
deriving DecidableEq

/-- The general categories, with some sets that are counted among them. -/
def generalCategory? (name : String) : Option CharSet :=
  if sameName name "Any" then some (CharSet.complement .empty)
  else if sameName name "Assigned" then (category? "Cn").map CharSet.complement
  else if sameName name "ASCII" then some (.range '\x00' '\x7f')
  else category? name

/-- A value that no character has counts as unknown. -/
def valueSet (found : Option CharSet) : Except PropertyFault CharSet :=
  match found with
  | some s => if s.isEmpty then .error .unknownValue else .ok s
  | none => .error .unknownValue

namespace PropertyQuery

/-- The sets of a property by the names of its values. -/
def valueSets? (property : String) : Option (String → Option CharSet) :=
  [("General_Category", generalCategory?), ("gc", generalCategory?),
    ("Script", script?), ("sc", script?),
    ("Script_Extensions", scriptExtension?), ("scx", scriptExtension?), ("Age", age?),
    ("Grapheme_Cluster_Break", setNamed? graphemeBreaks), ("GCB", setNamed? graphemeBreaks),
    ("Word_Break", setNamed? wordBreaks), ("WB", setNamed? wordBreaks),
    ("Sentence_Break", setNamed? sentenceBreaks), ("SB", setNamed? sentenceBreaks)].find?
      (fun p => sameName property p.1) |>.map Prod.snd

/-- The property that characters have or lack of all with a name, if there is one with
the name. Three names are short for a category as well, and mean that. -/
def isProperty (name : String) : Bool :=
  otherProperties.any (fun names => names.any (sameName name)) ||
    binaryProperties.any (PropertyValue.isNamed name)

/-- The characters that are asked for. -/
def find : PropertyQuery → Except PropertyFault CharSet
  | named name =>
    if isProperty name && !(["cf", "sc", "lc"].any (sameName name)) then
      match setNamed? binaryProperties name with
      | some s => .ok s
      | none => .error .unknownProperty
    else
      match generalCategory? name with
      | some s => valueSet (some s)
      | none =>
        match script? name with
        | some s => valueSet (some s)
        | none => .error .unknownProperty
  | valued property value =>
    match valueSets? property with
    | some sets => valueSet (sets value)
    | none => .error (if isProperty property then .unknownValue else .unknownProperty)

end PropertyQuery

/-- The characters that a name asks for, none if it is unknown. -/
def namedSet (name : String) : CharSet := (PropertyQuery.named name).find.toOption.getD .empty

end MetricCheck.Text
