-- Properties of characters have values with several names, and each value stands for
-- the set of the characters that have it.
import MetricCheck.Text.CharSet

namespace MetricCheck.Text

/-- What counts in the name of a property or a value: neither the case of letters, nor
blanks, low lines and hyphens, nor `is` in front. `isc` is the short name of a property
and keeps it. -/
def nameKey (name : String) : List Char :=
  let key := fun (cs : List Char) =>
    (cs.filter fun c => c.toNat < 0x80 && c != ' ' && c != '_' && c != '-').map Char.toLower
  match name.toList with
  | i :: s :: rest =>
    if i.toLower = 'i' ∧ s.toLower = 's' then
      if key rest = ['c'] then ['i', 's', 'c'] else key rest
    else key (i :: s :: rest)
  | cs => key cs

/-- Two ways to write the same name. -/
def sameName (name name' : String) : Bool := nameKey name = nameKey name'

/-- A value of a property: its names and the table of its characters. -/
structure PropertyValue where
  names : List String
  table : String

namespace PropertyValue

def set (v : PropertyValue) : CharSet := .ofTable v.table

def isNamed (name : String) (v : PropertyValue) : Bool := v.names.any (sameName name)

end PropertyValue

/-- The characters of the value with a name. -/
def setNamed? (values : List PropertyValue) (name : String) : Option CharSet :=
  (values.find? fun v => v.isNamed name).map PropertyValue.set

example : sameName "White_Space" "is white-space" := by decide +kernel

end MetricCheck.Text
