import TypedSearch.Query.Basic
/-!
# `TypedSearch.Registry`: how fields are asked

A field is registered with the way a value, or a range, becomes a clause. The registry of values
and the registry of ranges are separate; in each, a later registration of a field replaces the
earlier one.
-/

set_option autoImplicit false

namespace TypedSearch

/-- How a value becomes a clause. -/
inductive ValueStrategy where
  /-- The exact value. -/
  | term (role : Role)
  /-- The words of a text. -/
  | fullText (role : Role)
  /-- The words of a text in any of several fields. One of them has to hold the text, whatever the
  name of the field the condition was on. -/
  | fanOut (targets : List String)
  /-- A clause of the caller's own, from the name of the field and the value. -/
  | custom (role : Role) (clause : String → String → Query)

/-- The group that the clause belongs to. -/
def ValueStrategy.role : ValueStrategy → Role
  | term role => role
  | fullText role => role
  | fanOut _ => .must
  | custom role _ => role

/-- The clause for a field of this name and a value. -/
def ValueStrategy.build (s : ValueStrategy) (field value : String) : Query :=
  match s with
  | term _ => .term field value
  | fullText _ => .fullText field value
  | fanOut targets => .bool [] (targets.map fun target => .fullText target value) [] [] (some 1)
  | custom _ clause => clause field value

/-- How the name of a field and bounds become a clause. -/
class RangeForm where
  clause : String → Option String → Option String → Query

/-- Both bounds are included. -/
instance inclusive : RangeForm := ⟨.range⟩

/-- How a range becomes a clause. The bounds are included unless another form is given. -/
structure RangeStrategy where
  role : Role
  [form : RangeForm]

/-- The clause for a field of this name and bounds. -/
def RangeStrategy.build (s : RangeStrategy) (field : String) (gte lte : Option String) : Query :=
  s.form.clause field gte lte

/-- What is registered for each field. No field occurs twice. -/
structure Registry (F σ : Type) where
  entries : List (F × σ)

namespace Registry

variable {F σ : Type}

/-- No field is registered. -/
def empty : Registry F σ := ⟨[]⟩

/-- Registers a field, in place of an earlier registration. -/
def register [DecidableEq F] (r : Registry F σ) (field : F) (s : σ) : Registry F σ :=
  ⟨(field, s) :: r.entries.filter fun e => e.1 ≠ field⟩

/-- Registers fields in order. -/
def ofList [DecidableEq F] (registrations : List (F × σ)) : Registry F σ :=
  registrations.foldl (fun r e => r.register e.1 e.2) empty

/-- What is registered for a field. -/
def get? [DecidableEq F] (r : Registry F σ) (field : F) : Option σ :=
  (r.entries.find? fun e => e.1 = field).map (·.2)

/-- Is the field registered? -/
def contains [DecidableEq F] (r : Registry F σ) (field : F) : Bool := (r.get? field).isSome

/-- The number of registered fields. -/
def size (r : Registry F σ) : Nat := r.entries.length

/-- Is no field registered? -/
def isEmpty (r : Registry F σ) : Bool := r.entries.isEmpty

end Registry

/-- The registries of values and of ranges. -/
structure Registries (F : Type) where
  values : Registry F ValueStrategy
  ranges : Registry F RangeStrategy

/-- Is the field registered neither for values nor for ranges? -/
def Registries.isUnknown {F : Type} [DecidableEq F] (r : Registries F) (field : F) : Bool :=
  !r.values.contains field && !r.ranges.contains field

end TypedSearch
