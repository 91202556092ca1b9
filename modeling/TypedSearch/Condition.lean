import TypedSearch.Error
import TypedSearch.Field
import TypedSearch.Text.Blank
import TypedSearch.Text.Split
import TypedSearch.Calendar.Instant
import TypedSearch.Decimal.Shortest
/-!
# `TypedSearch.Condition`: conditions on fields

A condition asks one field for a value or for a range. Bounds are texts that the engine compares:
numbers in decimal, points in time as milliseconds since 1970.

A condition can be written as text: `field=value`, or `field=low..high` where either side may be
empty. Blanks around the field, the value and the bounds do not count.
-/

set_option autoImplicit false

namespace TypedSearch

open Decimal (Binary64)
open Calendar (Instant LocalTime)

/-- A condition on one field. Nothing is demanded of its parts; one with neither a value nor a
bound asks for nothing. -/
structure Condition (F : Type) where
  field : F
  value : Option String
  gte : Option String
  lte : Option String
  deriving DecidableEq, Repr

/-- A value that a condition compares with. -/
inductive Scalar where
  | text (s : String)
  | flag (b : Bool)
  | whole (n : Int)
  | number (x : Binary64)

/-- The text of a value inside a condition. -/
def Scalar.display : Scalar → String
  | text s => s
  | flag true => "true"
  | flag false => "false"
  | whole n => Decimal.intText n
  | number x => String.ofList (Decimal.Layout.condition.write x)

namespace Condition

variable {F : Type}

/-- The field has this value, or holds this text. -/
def ofValue (field : F) (value : String) : Condition F := ⟨field, some value, none, none⟩

/-- The field has this value. -/
def equals (field : F) (value : Scalar) : Condition F := ofValue field value.display

/-- The field is true, or false. -/
def flag (field : F) (value : Bool) : Condition F := equals field (.flag value)

/-- The field lies between the bounds that are given. -/
def range (field : F) (gte lte : Option String) : Condition F := ⟨field, none, gte, lte⟩

/-- The field is no less than a value. -/
def atLeast (field : F) (low : Scalar) : Condition F := range field (some low.display) none

/-- The field is no more than a value. -/
def atMost (field : F) (high : Scalar) : Condition F := range field none (some high.display)

/-- The field lies between two values, both included. -/
def between (field : F) (low high : Scalar) : Condition F :=
  range field (some low.display) (some high.display)

/-- The text of an instant as a bound. -/
def instantBound (t : Instant) : String := Decimal.intText t.millis

/-- The field lies between two points in time. -/
def timeRange (field : F) (since till : Option Instant) : Condition F :=
  range field (since.map instantBound) (till.map instantBound)

/-- The field lies between two times of a clock that is `offset` seconds ahead of UTC. A time that
has no representable instant is no bound. -/
def localTimeRange (field : F) (since till : Option LocalTime) (offset : Int) : Condition F :=
  timeRange field (since.bind (·.toInstant? offset)) (till.bind (·.toInstant? offset))

/-- Is there a lower or an upper bound? -/
def hasBounds (c : Condition F) : Bool := c.gte.isSome || c.lte.isSome

/-- A bound written as text; one that is all blanks is no bound. -/
def boundOfText (cs : List Char) : Option String :=
  if (Text.trim cs).isEmpty then none else some (String.ofList (Text.trim cs))

/-- What stands behind the equals sign, as a condition on the field. -/
def ofOperand (field : F) (operand : List Char) : Condition F :=
  match Text.splitOnce ['.', '.'] (Text.trim operand) with
  | some (low, high) => range field (boundOfText low) (boundOfText high)
  | none => ofValue field (String.ofList (Text.trim operand))

/-- Reads a condition written as text. -/
def ofText [DecidableEq F] [FieldSet F] (s : String) : Except SearchError (Condition F) :=
  match Text.splitOnce ['='] s.toList with
  | none => .error (.invalidCondition ("expected field=value, got " ++ quoted s))
  | some (name, operand) =>
    match FieldSet.ofName? (String.ofList (Text.trim name)) with
    | none => .error (.unknownField (String.ofList (Text.trim name)))
    | some field => .ok (ofOperand field operand)

end Condition

end TypedSearch
