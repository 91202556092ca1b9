/-!
# `TypedSearch.Query.Basic`: queries

A query is what a list of conditions compiles to: single comparisons, joined by boolean groups.
It is not tied to a search engine. `Clauses` is the content of a boolean query.
-/

set_option autoImplicit false

namespace TypedSearch

/-- A compiled query. -/
inductive Query where
  /-- Every document. -/
  | matchAll
  /-- The field holds exactly this value. -/
  | term (field value : String)
  /-- The analysed text of the field holds words of this text. -/
  | fullText (field text : String)
  /-- The field lies between two bounds, both included. -/
  | range (field : String) (gte lte : Option String)
  /-- Groups of queries, and how many of `should` have to match. -/
  | bool (must should filter mustNot : List Query) (minimumShouldMatch : Option Nat)
  deriving Inhabited, Repr, BEq

/-- The group of a boolean query that a clause belongs to. -/
inductive Role where
  /-- Has to match, and counts for the score. -/
  | must
  /-- May match, and counts for the score. -/
  | should
  /-- Has to match, without a score. -/
  | filter
  /-- Must not match. -/
  | mustNot
  deriving DecidableEq, Repr

namespace Role

/-- The name of a group on the wire. -/
def name : Role → String
  | must => "must"
  | should => "should"
  | filter => "filter"
  | mustNot => "must_not"

/-- All roles. -/
def all : List Role := [must, should, filter, mustNot]

/-- The role with a name. -/
def ofName? (s : String) : Option Role := all.find? fun r => r.name = s

end Role

/-- The groups of a boolean query. -/
structure Clauses where
  must : List Query
  should : List Query
  filter : List Query
  mustNot : List Query
  minimumShouldMatch : Option Nat
  deriving Inhabited, Repr, BEq

namespace Clauses

/-- No clauses at all. -/
def empty : Clauses := ⟨[], [], [], [], none⟩

/-- The boolean query of these groups. -/
def toQuery (c : Clauses) : Query :=
  .bool c.must c.should c.filter c.mustNot c.minimumShouldMatch

/-- Are all groups empty? -/
def isEmpty (c : Clauses) : Bool :=
  c.must.isEmpty && c.should.isEmpty && c.filter.isEmpty && c.mustNot.isEmpty

/-- The number of clauses over all groups. -/
def count (c : Clauses) : Nat :=
  c.must.length + c.should.length + c.filter.length + c.mustNot.length

/-- The clauses of a role. -/
def group (c : Clauses) : Role → List Query
  | .must => c.must
  | .should => c.should
  | .filter => c.filter
  | .mustNot => c.mustNot

/-- Appends a clause to the group of its role. -/
def add (c : Clauses) (role : Role) (q : Query) : Clauses :=
  match role with
  | .must => { c with must := c.must ++ [q] }
  | .should => { c with should := c.should ++ [q] }
  | .filter => { c with filter := c.filter ++ [q] }
  | .mustNot => { c with mustNot := c.mustNot ++ [q] }

/-- Sorts clauses into the groups of their roles. -/
def ofList (clauses : List (Role × Query)) : Clauses :=
  clauses.foldl (fun c e => c.add e.1 e.2) empty

/-- The query that the groups stand for. Without any clause it matches everything; one clause of
`should` has to match if there is one. -/
def compose (c : Clauses) : Query :=
  if c.isEmpty then .matchAll
  else if c.should.isEmpty then c.toQuery
  else { c with minimumShouldMatch := some 1 }.toQuery

@[simp] theorem group_add (c : Clauses) (role other : Role) (q : Query) :
    (c.add role q).group other = c.group other ++ if role = other then [q] else [] := by
  cases role <;> cases other <;> simp [add, group]

end Clauses

namespace Query

/-- Does the query match everything by its form? -/
def isMatchAll : Query → Bool
  | matchAll => true
  | _ => false

/-- The groups of a boolean query. -/
def clauses? : Query → Option Clauses
  | bool must should filter mustNot minimum => some ⟨must, should, filter, mustNot, minimum⟩
  | _ => none

/-- Adds clauses that only raise the score: the query has to match, the boosts may. -/
def withBoosts (q : Query) (boosts : List Query) : Query :=
  if boosts.isEmpty then q else .bool [q] boosts [] [] none

end Query

end TypedSearch
