import DynamicValues.Unicode.CodeSet

/-!
# Named character properties

A property is a table of ranges with the names it goes by. Names are compared loosely: case,
blanks, `_` and `-` do not count, and a leading `is` is dropped, so the tables hold the names in
that reduced form.
-/

set_option autoImplicit false

namespace DynamicValues.Unicode

/-- A property of characters: its names in reduced form and its ranges as a table text. -/
structure Property where
  names : List String
  table : String

/-- The set of characters with the property. -/
def Property.codes (property : Property) : CodeSet := CodeSet.ofTable property.table

/-- The reduced form of a property name. The one name kept whole is `isc`, which is not `c`. -/
def reduceName (name : String) : String :=
  let reduce (cs : List Char) : List Char :=
    (cs.filter fun c => c.val < 0x80 && c != ' ' && c != '_' && c != '-').map Char.toLower
  match name.toList with
  | i :: s :: rest =>
    if i.toLower == 'i' && s.toLower == 's' then
      if reduce rest == ['c'] then "isc" else String.ofList (reduce rest)
    else String.ofList (reduce (i :: s :: rest))
  | cs => String.ofList (reduce cs)

/-- The property with this reduced name. -/
def findProperty (properties : List Property) (name : String) : Option Property :=
  properties.find? fun property => property.names.contains name

end DynamicValues.Unicode
