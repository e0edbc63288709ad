-- What can be wrong with a JSON document: it breaks off, it is no JSON, or it is
-- JSON of another shape than the one wanted.
import MetricCheck.Binary64.Text
import MetricCheck.Text.Quoted

namespace MetricCheck.Json

/-- What stands in the document where something else is wanted. -/
inductive Found where
  | null
  | boolean (value : Bool)
  | integer (value : Int)
  | float (value : Binary64)
  | string (value : String)
  | sequence
  | map
deriving DecidableEq

def Found.describe : Found → String
  | .null => "null"
  | .boolean value => "boolean `" ++ toString value ++ "`"
  | .integer value => "integer `" ++ toString value ++ "`"
  | .float value => "floating point `" ++ value.jsonText ++ "`"
  | .string value => "string " ++ Text.quoted value
  | .sequence => "sequence"
  | .map => "map"

inductive Mismatch where
  /-- A value of another type than the wanted one, which is named. -/
  | invalidType (found : Found) (wanted : String)
  /-- Too few elements where a list stands for an object's fields. -/
  | invalidLength (length : Nat) (wanted : String)
  /-- A field that the object has had before. -/
  | duplicateField (name : String)
  /-- A field that the object must have. -/
  | missingField (name : String)
deriving DecidableEq

def Mismatch.message : Mismatch → String
  | .invalidType found wanted => "invalid type: " ++ found.describe ++ ", expected " ++ wanted
  | .invalidLength length wanted =>
    "invalid length " ++ toString length ++ ", expected " ++ wanted
  | .duplicateField name => "duplicate field `" ++ name ++ "`"
  | .missingField name => "missing field `" ++ name ++ "`"

inductive Defect where
  /-- The document ends inside a value. -/
  | truncated
  /-- A character stands where JSON allows it not. -/
  | malformed
  | mismatch (cause : Mismatch)
deriving DecidableEq

/-- The words for the defects of a document, which may tell the place of a defect too. They are
left open: every reader of JSON has its own. -/
abbrev Wording := List UInt8 → Defect → String

end MetricCheck.Json
