import TypedSearch.Json.Basic
/-!
# `TypedSearch.Json.Mismatch`: values of another kind than is needed

Where a value is read that was kept as JSON before, a value of another kind is told together with
what was needed instead. A scalar is told with its value, and a container as what it is.
-/

set_option autoImplicit false

namespace TypedSearch.Json

/-- What a value is told as where it is not what is needed. -/
inductive Outline where
  | null
  | bool (b : Bool)
  | int (n : Int)
  | float (x : Decimal.Binary64)
  | str (s : String)
  | arr
  | obj
  deriving DecidableEq, Repr

/-- What can be needed where a value stands. -/
inductive Need where
  | record
  | list
  | text
  /-- A whole number of 32 bits with a sign. -/
  | int32
  /-- A whole number of 64 bits with a sign. -/
  | int64
  | flag
  deriving DecidableEq, Repr

/-- Why a value is refused. -/
structure Mismatch where
  found : Outline
  needed : Need
  deriving DecidableEq, Repr

/-- What a value is told as. -/
def outline : Json → Outline
  | .null => .null
  | .bool b => .bool b
  | .int n => .int n
  | .float x => .float x
  | .str s => .str s
  | .arr _ => .arr
  | .obj _ => .obj

/-- The wording of a mismatch up to what was found. A whole number out of bounds is of the type that
is needed. -/
def Mismatch.message (m : Mismatch) : String :=
  match m.found, m.needed with
  | .int _, .int32 => "invalid value"
  | .int _, .int64 => "invalid value"
  | _, _ => "invalid type"

/-- Reads a value as what is needed. -/
def demand {α : Type} (needed : Need) (read : Json → Option α) (v : Json) : Except Mismatch α :=
  match read v with
  | some a => .ok a
  | none => .error ⟨v.outline, needed⟩

end TypedSearch.Json
