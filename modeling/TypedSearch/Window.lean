import TypedSearch.Condition
/-!
# `TypedSearch.Window`: conditions with a stretch of results

A window asks for the results from `start` up to, not including, `stop`. Both are offsets of 63
bits, so that one result more can always be asked for.
-/

set_option autoImplicit false

namespace TypedSearch

/-- The largest offset. -/
def maxOffset : Int := Int64.maxValue.toInt

/-- Conditions in order, and which of the results are wanted. -/
structure Window (F : Type) where
  conditions : List (Condition F)
  start : Nat
  stop : Nat
  start_le_stop : start ≤ stop
  stop_le : (stop : Int) ≤ maxOffset

namespace Window

variable {F : Type}

/-- The window between two offsets. A negative start counts as 0. -/
def ofOffsets (conditions : List (Condition F)) (start stop : Int) (h : stop ≤ maxOffset) :
    Except SearchError (Window F) :=
  if hle : max start 0 ≤ stop then
    .ok ⟨conditions, (max start 0).toNat, stop.toNat, by omega, by omega⟩
  else .error (.invalidWindow (max start 0) stop)

/-- The window between two offsets of 64 bits. -/
def ofBounds (conditions : List (Condition F)) (start stop : Int64) :
    Except SearchError (Window F) :=
  ofOffsets conditions start.toInt stop.toInt stop.toInt_le

/-- The window with missing offsets filled in: from 0 on, and one page long or up to the largest
offset. -/
def withDefaults (conditions : List (Condition F)) (start stop : Option Int64)
    (pageSize : UInt64) : Except SearchError (Window F) :=
  let first := max ((start.map Int64.toInt).getD 0) 0
  match stop with
  | some stop => ofOffsets conditions first stop.toInt stop.toInt_le
  | none => ofOffsets conditions first (min (first + pageSize.toNat) maxOffset) (by omega)

/-- The number of results asked for. -/
def size (w : Window F) : Nat := w.stop - w.start

/-- The number of results to fetch. One past the page tells whether there is a next page. -/
def fetchSize (w : Window F) : Nat := w.size + 1

/-- Is there a condition on the field? -/
def hasConditionOn [DecidableEq F] (w : Window F) (field : F) : Bool :=
  w.conditions.any fun c => c.field = field

/-- Appends a condition unless there is one on its field. -/
def withDefault [DecidableEq F] (w : Window F) (c : Condition F) : Window F :=
  if w.hasConditionOn c.field then w else { w with conditions := w.conditions ++ [c] }

/-- Appends conditions in order, each unless there is one on its field by then. -/
def withDefaultConditions [DecidableEq F] (w : Window F) (cs : List (Condition F)) : Window F :=
  cs.foldl withDefault w

end Window

end TypedSearch
