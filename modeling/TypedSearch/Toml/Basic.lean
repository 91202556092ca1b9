import TypedSearch.Keyed
import TypedSearch.Decimal.Binary64
/-!
# `TypedSearch.Toml.Basic`: TOML values

A table keeps how it came about, because that decides what a document may still add to it. Dates
and times are kept as they are written.

* `Table.at?`: changes a table somewhere inside another.
* `Table.addPair?`, `Table.addHeader?`, `Table.addElement?`: the three things a document adds.
-/

set_option autoImplicit false

namespace TypedSearch

/-- How a table came about. -/
inductive TableOrigin where
  /-- Under a header of its own. -/
  | header
  /-- By the header of a table inside it. -/
  | implied
  /-- By a dotted key. -/
  | dotted
  /-- As a value between braces. -/
  | inline
  deriving DecidableEq, Repr

/-- A TOML value. -/
inductive Toml where
  | str (s : String)
  /-- A whole number of 64 bits with a sign. -/
  | int (n : Int)
  /-- A float; nothing for one that is not finite. -/
  | float (x : Option Decimal.Binary64)
  | bool (b : Bool)
  /-- A date, a time, or both. -/
  | moment (literal : String)
  | arr (items : List Toml)
  | table (origin : TableOrigin) (entries : List (String × Toml))
  /-- Tables under one repeated header. The last one can still grow. -/
  | tables (last : List (String × Toml)) (earlier : List (List (String × Toml)))
  deriving Inhabited

namespace Toml

/-- The entries of a table. -/
abbrev Table := Keyed Toml

/-- Changes the table at the end of a path of names. Tables that are missing on the way are made;
of tables under a repeated header the last is meant. A dotted key may not enter a table that has a
header, and nothing may enter a value. -/
def Table.at? (dotted : Bool) (change : TableOrigin → Table → Option Table) :
    List String → TableOrigin → Table → Option Table
  | [], origin, t => change origin t
  | name :: path, _, t =>
    match Keyed.get? name t with
    | none =>
      let origin : TableOrigin := if dotted then .dotted else .implied
      (Table.at? dotted change path origin []).map fun inner =>
        Keyed.insert name (.table origin inner) t
    | some (.table origin inner) =>
      if origin = .inline ∨ (dotted ∧ origin = .header) then none
      else (Table.at? dotted change path origin inner).map fun inner =>
        Keyed.insert name (.table origin inner) t
    | some (.tables last earlier) =>
      (Table.at? dotted change path .header last).map fun last =>
        Keyed.insert name (.tables last earlier) t
    | some _ => none

/-- Adds an entry under a new name. -/
def Table.addEntry? (name : String) (v : Toml) (t : Table) : Option Table :=
  if (Keyed.get? name t).isSome then none else some (Keyed.insert name v t)

/-- Adds a pair with a dotted key to a table. The table that the key leads to has to be the table
itself or one that dotted keys made. -/
def Table.addPair? (path : List String) (name : String) (v : Toml) (origin : TableOrigin)
    (t : Table) : Option Table :=
  Table.at? true (fun inner t =>
    if path ≠ [] ∧ inner ≠ .dotted then none else Table.addEntry? name v t) path origin t

/-- Adds the header of a table. A table that only other headers implied may get its own. -/
def Table.addHeader? (path : List String) (name : String) (t : Table) : Option Table :=
  Table.at? false (fun _ t =>
    match Keyed.get? name t with
    | none => some (Keyed.insert name (.table .header []) t)
    | some (.table .implied inner) => some (Keyed.insert name (.table .header inner) t)
    | some _ => none) path .header t

/-- Adds a table under a repeated header. -/
def Table.addElement? (path : List String) (name : String) (t : Table) : Option Table :=
  Table.at? false (fun _ t =>
    match Keyed.get? name t with
    | none => some (Keyed.insert name (.tables [] []) t)
    | some (.tables last earlier) => some (Keyed.insert name (.tables [] (last :: earlier)) t)
    | some _ => none) path .header t

/-- The entries of a table. -/
def entries? : Toml → Option Table
  | table _ entries => some entries
  | _ => none

/-- The items of an array, or the tables under a repeated header. -/
def items? : Toml → Option (List Toml)
  | arr items => some items
  | tables last earlier => some ((last :: earlier).reverse.map (table .header))
  | _ => none

/-- The text of a string. -/
def text? : Toml → Option String
  | str s => some s
  | _ => none

/-- A whole number that is not negative. -/
def count? : Toml → Option Nat
  | int n => if 0 ≤ n then some n.toNat else none
  | _ => none

/-- Is this a date or a time? -/
def isMoment : Toml → Bool
  | moment _ => true
  | _ => false

end Toml

end TypedSearch
