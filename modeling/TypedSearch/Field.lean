/-!
# `TypedSearch.Field`: closed sets of field names

An index has a closed set of fields, each with a fixed name on the wire. `WordNames` is for those
sets whose names are made of small letters and underscores, so that they carry no blanks and none
of the marks of a condition.

* `ofName_name`: every field is found again by its name.
* `name_of_ofName`: what is found by a name has that name.
-/

set_option autoImplicit false

namespace TypedSearch

/-- May the character stand in the name of a field? -/
def isFieldChar (c : Char) : Bool := c.isLower || c = '_'

/-- A closed set of fields with their names. -/
class FieldSet (F : Type) [DecidableEq F] where
  /-- All fields, in the order of their declaration. -/
  all : List F
  /-- The name on the wire. -/
  name : F → String
  /-- Every field is declared. -/
  mem_all (f : F) : f ∈ all
  /-- A field is the first that has its name. -/
  find_name (f : F) : all.find? (fun g => name g = name f) = some f

/-- A set of fields whose names are words of small letters and underscores. -/
class WordNames (F : Type) [DecidableEq F] [FieldSet F] : Prop where
  name_chars (f : F) : (FieldSet.name f).toList.all isFieldChar = true

namespace FieldSet

variable {F : Type} [DecidableEq F] [FieldSet F]

/-- The field with a name. -/
def ofName? (s : String) : Option F := all.find? fun f => name f = s

theorem ofName_name (f : F) : ofName? (name f) = some f := find_name f

theorem name_of_ofName {s : String} {f : F} (h : ofName? s = some f) : name f = s := by
  simpa using List.find?_some h

/-- The place of a field among all fields. -/
def position (f : F) : Nat := all.idxOf f

end FieldSet

end TypedSearch
