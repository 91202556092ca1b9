import TypedSearch.Keyed
import TypedSearch.Decimal.Binary64
/-!
# `TypedSearch.Json.Basic`: JSON values

Whole numbers that fit 64 bits, signed or unsigned, are kept as such; every other number is a
64-bit binary number. The members of an object are in increasing order of their names.
-/

set_option autoImplicit false

namespace TypedSearch

open Decimal (Binary64)

/-- A JSON value. -/
inductive Json where
  | null
  | bool (b : Bool)
  /-- A whole number between `-2 ^ 63` and `2 ^ 64 - 1`. -/
  | int (n : Int)
  /-- A number with a fraction or an exponent, a whole number of more than 64 bits, or `-0`. -/
  | float (x : Binary64)
  | str (s : String)
  | arr (items : List Json)
  /-- The members, in increasing order of their names. -/
  | obj (members : List (String × Json))
  deriving Inhabited, BEq

namespace Json

/-- The members of an object. -/
def members? : Json → Option (Keyed Json)
  | obj ms => some ms
  | _ => none

/-- The items of an array. -/
def items? : Json → Option (List Json)
  | arr items => some items
  | _ => none

/-- The text of a string. -/
def text? : Json → Option String
  | str s => some s
  | _ => none

/-- The truth value of a boolean. -/
def flag? : Json → Option Bool
  | bool b => some b
  | _ => none

/-- A whole number between two bounds, both included. -/
def wholeIn? (low high : Int) : Json → Option Int
  | int n => if low ≤ n ∧ n ≤ high then some n else none
  | _ => none

/-- A whole number from 0 to `2 ^ 64 - 1`. -/
def count? : Json → Option Nat
  | int n => if 0 ≤ n ∧ n < UInt64.size then some n.toNat else none
  | _ => none

/-- A whole number of 64 bits with a sign. -/
def int64? (v : Json) : Option Int :=
  v.wholeIn? Int64.minValue.toInt Int64.maxValue.toInt

/-- A whole number of 32 bits with a sign. -/
def int32? (v : Json) : Option Int :=
  v.wholeIn? Int32.minValue.toInt Int32.maxValue.toInt

/-- Any number as a 64-bit binary one, a whole number rounded to the nearest. -/
def number? : Json → Option Binary64
  | int n => Binary64.ofInt? n
  | float x => some x
  | _ => none

/-- What stands under a name, if the value is an object that has it. -/
def get? (name : String) (v : Json) : Option Json := v.members?.bind (Keyed.get? name)

/-- Is this the null value? -/
def isNull : Json → Bool
  | null => true
  | _ => false

/-- An object with members given in any order. -/
def ofMembers (entries : List (String × Json)) : Json := obj (Keyed.ofList entries)

/-- The value, or null where there is none. -/
def ofOption {α : Type} (f : α → Json) (v : Option α) : Json := (v.map f).getD null

/-- A natural number. -/
def nat (n : Nat) : Json := int n

theorem text_eq_some_iff {v : Json} {s : String} : v.text? = some s ↔ v = .str s := by
  cases v <;> simp [text?]

theorem flag_eq_some_iff {v : Json} {b : Bool} : v.flag? = some b ↔ v = .bool b := by
  cases v <;> simp [flag?]

theorem count_eq_some_iff {v : Json} {n : Nat} :
    v.count? = some n ↔ v = .nat n ∧ n < UInt64.size := by
  cases v with
  | int m =>
    simp only [count?, nat, Json.int.injEq, Option.ite_none_right_eq_some, Option.some.injEq]
    omega
  | _ => simp [count?, nat]

theorem items_eq_some_iff {v : Json} {vs : List Json} : v.items? = some vs ↔ v = .arr vs := by
  cases v <;> simp [items?]

end Json

end TypedSearch
