import TypedSearch.Json.Mismatch
/-!
# `TypedSearch.Document`: stored documents

A document model names some fields with the kind of value each holds. A document has a value, or
none, for each of these fields; whatever else was stored with it is kept unchanged.
-/

set_option autoImplicit false

namespace TypedSearch

/-- What a field of a document holds. -/
inductive SlotKind where
  | text
  /-- A whole number of 32 bits with a sign. -/
  | int32
  /-- A whole number of 64 bits with a sign. -/
  | int64
  | flag
  /-- Any number of texts; none is an empty list. -/
  | texts
  deriving DecidableEq, Repr

/-- What a document holds in a field. -/
inductive Slot where
  | text (value : Option String)
  | whole (value : Option Int)
  | flag (value : Option Bool)
  | texts (values : List String)
  deriving DecidableEq, Repr

/-- Reads a value that may be null. -/
def orNull {α : Type} (read : Json → Except Json.Mismatch α) (v : Json) :
    Except Json.Mismatch (Option α) :=
  if v.isNull then .ok none else (read v).map some

namespace SlotKind

/-- What is held by a field that was not stored. -/
def absent : SlotKind → Slot
  | text => .text none
  | int32 => .whole none
  | int64 => .whole none
  | flag => .flag none
  | texts => .texts []

/-- Reads what is held by a field that was stored with a value. -/
def read (k : SlotKind) (v : Json) : Except Json.Mismatch Slot :=
  match k with
  | text => (orNull (Json.demand .text Json.text?) v).map .text
  | int32 => (orNull (Json.demand .int32 Json.int32?) v).map .whole
  | int64 => (orNull (Json.demand .int64 Json.int64?) v).map .whole
  | flag => (orNull (Json.demand .flag Json.flag?) v).map .flag
  | texts => do
    let items ← Json.demand .list Json.items? v
    .ok (.texts (← items.mapM (Json.demand .text Json.text?)))

end SlotKind

/-- What a field holds, as JSON. -/
def Slot.toJson : Slot → Json
  | text value => Json.ofOption .str value
  | whole value => Json.ofOption .int value
  | flag value => Json.ofOption .bool value
  | texts values => .arr (values.map .str)

/-- The fields of a document that are modelled. -/
abbrev DocumentModel := List (String × SlotKind)

/-- A document. -/
structure Document where
  /-- What the modelled fields hold. -/
  slots : List (String × Slot)
  /-- All that was stored besides. -/
  extra : Keyed Json

namespace DocumentModel

/-- Is the field modelled? -/
def hasField (m : DocumentModel) (name : String) : Bool := m.any fun e => e.1 = name

/-- Reads a stored member, if its field is modelled. -/
def readMember (m : DocumentModel) (e : String × Json) :
    Except Json.Mismatch (Option (String × Slot)) :=
  match Keyed.get? e.1 m with
  | some k => (k.read e.2).map fun slot => some (e.1, slot)
  | none => .ok none

/-- Reads a stored object as a document. The members are read in their order, up to the first that
holds something else than its field. -/
def decode (m : DocumentModel) (v : Json) : Except Json.Mismatch Document := do
  let stored ← Json.demand .record Json.members? v
  let held ← stored.mapM m.readMember
  let slot (field : String × SlotKind) : Slot :=
    (Keyed.get? field.1 (held.filterMap id)).getD field.2.absent
  .ok ⟨m.map fun field => (field.1, slot field), stored.filter fun e => !m.hasField e.1⟩

/-- A stored object as a document, if it is one. -/
def decode? (m : DocumentModel) (v : Json) : Option Document := (m.decode v).toOption

end DocumentModel

/-- A document as JSON, with every modelled field. -/
def Document.toJson (d : Document) : Json :=
  .ofMembers (d.extra ++ d.slots.map fun e => (e.1, e.2.toJson))

end TypedSearch
