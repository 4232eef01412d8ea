/-
**The Swift names of a message field.**

A field gets a property, and where its presence is tracked a query and a method to clear it. All of them,
and the slot that backs the property, are spelt from one base name.

* `FieldNames.ofField` — the names of a field of the schema;
* `FieldNames.suffixed` — other names for a field whose property is taken.
-/

import ProtoSwift.Swift.Keyword
import ProtoSwift.Text.Casing

namespace ProtoSwift.Swift

open Text

/-- The Swift names generated for one field. -/
structure FieldNames where
  /-- The property, between backquotes if it is a keyword. -/
  property : String
  /-- The query whether the field is set. -/
  query : String
  /-- The method that unsets the field. -/
  reset : String
  /-- The slot behind the property. -/
  slot : String
  deriving DecidableEq, Repr

namespace FieldNames

/-- The names spelt from a base name. -/
def ofBase (base : String) : FieldNames :=
  let capitalized := String.ofList (capitalizeFirst base.toList)
  { property := escapeKeyword base
    query := "has" ++ capitalized
    reset := "clear" ++ capitalized
    slot := "_" ++ base }

/-- The base name of a field: camel case, with a legal start, and not a member of every message. -/
def baseName (field : String) : String :=
  let camel := String.ofList (legalStart (lowerCamel field.toList))
  if messageMembers.contains camel then camel ++ "_p" else camel

/-- The names of a field of the schema. -/
def ofField (field : String) : FieldNames :=
  ofBase (baseName field)

/-- The names with a suffix on the base name. -/
def suffixed (names : FieldNames) (suffix : String) : FieldNames :=
  ofBase (unescapeKeyword names.property ++ "_" ++ suffix)

end FieldNames

end ProtoSwift.Swift
