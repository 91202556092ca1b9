import Mathlib.Data.List.Basic
import TypedSearch.Proofs.Keyed
import TypedSearch.Wire.TypedKeys
/-!
# `TypedSearch.Proofs.Wire.Reading`: what is read from the members of an object

The nodes of an answer are read by functions that call each other. Here each of them is given one
equation that speaks of its own object only, so that nothing else has to unfold them.

* `splitKey_eq_some_iff`, `splitKey_text`: the mark of a key is what stands before the first `#`.
* `readNode_obj`, `readGroup_obj`: a node or a group is read from a count, a key or a list of
  groups, and from its children.
* `get_readEntries`: of the members with one name, the last is read.
-/

set_option autoImplicit false

namespace TypedSearch.TypedKeys

/-! ### Keys -/

/-- A key of a node: its mark, which has no `#` in it, and its name, which may have some. -/
structure TypedKey where
  mark : String
  name : String
  mark_free : '#' ∉ mark.toList

/-- The key as it stands in an object. -/
def TypedKey.text (k : TypedKey) : String := k.mark ++ "#" ++ k.name

/-- A key has a mark and a name exactly when it is made up of them and the mark has no `#`. -/
theorem splitKey_eq_some_iff {key mark name : String} :
    splitKey key = some (mark, name) ↔ '#' ∉ mark.toList ∧ key = mark ++ "#" ++ name := by
  have hwhole : key = mark ++ "#" ++ name ↔ key.toList = mark.toList ++ '#' :: name.toList := by
    rw [← String.toList_inj, String.toList_append, String.toList_append, List.append_assoc]
    rfl
  rw [splitKey, Option.map_eq_some_iff, hwhole, ← Text.splitOnce_eq_some_iff]
  constructor
  · rintro ⟨⟨before, after⟩, hparts, heq⟩
    cases heq
    simpa using hparts
  · intro h
    exact ⟨(mark.toList, name.toList), h, by simp⟩

/-- A key has no mark exactly when there is no `#` in it. -/
theorem splitKey_eq_none_iff {key : String} : splitKey key = none ↔ '#' ∉ key.toList := by
  rw [splitKey, Option.map_eq_none_iff, Text.splitOnce_eq_none_iff]

@[simp] theorem splitKey_text (k : TypedKey) : splitKey k.text = some (k.mark, k.name) :=
  splitKey_eq_some_iff.2 ⟨k.mark_free, rfl⟩

/-- The key of a node differs from every key without a mark. -/
theorem TypedKey.text_ne (k : TypedKey) {key : String} (h : '#' ∉ key.toList) : k.text ≠ key := by
  intro heq
  have hsplit := splitKey_text k
  rw [heq, splitKey_eq_none_iff.2 h] at hsplit
  cases hsplit

/-! ### Members -/

/-- The name that a member gives to what is read from it. Without a mark it gives one only at the
root. -/
def memberName (root : Bool) (key : String) : Option String :=
  match splitKey key with
  | some (_, name) => some name
  | none => if root then some key else none

/-- What is read from a member. -/
def readMember (key : String) (v : Json) : Aggregate :=
  match splitKey key with
  | some (mark, _) => readNode mark v
  | none => .unknown ""

@[simp] theorem memberName_text (root : Bool) (k : TypedKey) :
    memberName root k.text = some k.name := by
  rw [memberName, splitKey_text]

@[simp] theorem readMember_text (k : TypedKey) (v : Json) :
    readMember k.text v = readNode k.mark v := by
  rw [readMember, splitKey_text]

/-- A name is given by a key with a mark, or at the root by a key without one, and then it is what
stands behind the first `#`, or the whole key. -/
theorem memberName_eq_some_iff {root : Bool} {key name : String} :
    memberName root key = some name ↔
      (∃ mark : String, '#' ∉ mark.toList ∧ key = mark ++ "#" ++ name) ∨
        root = true ∧ '#' ∉ key.toList ∧ key = name := by
  rw [memberName]
  cases hsplit : splitKey key with
  | some parts =>
    obtain ⟨hfree, hkey⟩ := splitKey_eq_some_iff.1 hsplit
    have hmarked : '#' ∈ key.toList := by simp [hkey]
    constructor
    · intro hname
      exact Or.inl ⟨parts.1, hfree, by rw [← Option.some.inj hname]; exact hkey⟩
    · rintro (⟨mark, hmark, hkey'⟩ | ⟨-, hplain, -⟩)
      · -- The first `#` of a key is at one place only.
        have hsame := hsplit.symm.trans (splitKey_eq_some_iff.2 ⟨hmark, hkey'⟩)
        rw [Option.some.inj hsame]
      · exact absurd hmarked hplain
  | none =>
    have hplain := splitKey_eq_none_iff.1 hsplit
    have hunmarked : ¬ ∃ mark : String, '#' ∉ mark.toList ∧ key = mark ++ "#" ++ name := by
      rintro ⟨mark, -, hkey⟩
      exact hplain (by simp [hkey])
    cases root <;> simp [hplain, hunmarked]

/-- The members of an object are read one by one. -/
theorem readEntries_eq_filterMap (root : Bool) (members : List (String × Json)) :
    readEntries root members = members.filterMap fun e =>
      (memberName root e.1).map fun name => (name, readMember e.1 e.2) := by
  induction members with
  | nil => rfl
  | cons e rest ih =>
    obtain ⟨key, v⟩ := e
    rw [readEntries, List.filterMap_cons, memberName, readMember, ih]
    cases splitKey key with
    | some parts => rfl
    | none => cases root <;> rfl

/-- Of the members with one name, the last is read. -/
theorem get_readEntries (root : Bool) (members : Keyed Json) (name : String) :
    Keyed.get? name (.ofList (readEntries root members))
      = (members.reverse.find? fun e => memberName root e.1 = some name).map
          fun e => readMember e.1 e.2 := by
  rw [Keyed.get_ofList, readEntries_eq_filterMap, ← List.filterMap_reverse, List.find?_filterMap]
  have htest : (fun e : String × Json =>
        ((memberName root e.1).map fun n => (n, readMember e.1 e.2)).any fun x => x.1 = name)
      = fun e => decide (memberName root e.1 = some name) := by
    funext e
    cases memberName root e.1 <;> simp
  rw [htest]
  cases hfound : members.reverse.find? fun e => memberName root e.1 = some name with
  | none => rfl
  | some e =>
    have hname : memberName root e.1 = some name := by simpa using List.find?_some hfound
    simp [hname]

/-! ### Nodes and groups -/

/-- The aggregations inside a node or a group, from its members. -/
def children (members : Keyed Json) : Aggregates := .ofList (readEntries false members)

/-- The groups among the members of a node, if they are a list. -/
def groups? (groupKey : Keyed Json → Option String) (members : Keyed Json) :
    Option (List (Bucket Aggregate)) :=
  ((Keyed.get? "buckets" members).bind Json.items?).map (List.filterMap (readGroup groupKey))

/-- A list of groups is read group by group. -/
theorem readItems_eq_filterMap (groupKey : Keyed Json → Option String) (items : List Json) :
    readItems groupKey items = items.filterMap (readGroup groupKey) := by
  induction items with
  | nil => rfl
  | cons v rest ih =>
    rw [readItems, List.filterMap_cons, ih]
    cases readGroup groupKey v <;> rfl

/-- The groups of a node stand under one name. -/
theorem findGroups_eq (groupKey : Keyed Json → Option String) (members : Keyed Json) :
    findGroups groupKey members = groups? groupKey members := by
  induction members with
  | nil => rfl
  | cons e rest ih =>
    obtain ⟨key, v⟩ := e
    rw [findGroups, groups?, Keyed.get_cons]
    split
    · cases v <;> simp [readGroups, readItems_eq_filterMap, Json.items?]
    · rw [ih, groups?]

/-- What the members of an object are as a node of a form; nothing if they do not have the form. -/
def Form.read? (form : Form) (members : Keyed Json) : Option Aggregate :=
  match form with
  | .filter => (docCount? members).map fun n => .filter n (children members)
  | .global => (docCount? members).map fun n => .global n (children members)
  | .terms => (groups? termsKey members).map .terms
  | .dateHistogram => (groups? dateKey members).map .dateHistogram
  | .metric kind => some (.metric kind (metricValue? members))
  | .other => none

/-- An object is read by the form of its mark, and is unknown if it does not have the form. -/
theorem readNode_obj (mark : String) (members : Keyed Json) :
    readNode mark (.obj members) = ((Form.ofMark mark).read? members).getD (.unknown mark) := by
  rw [readNode]
  cases Form.ofMark mark with
  | filter => cases h : docCount? members <;> simp [Form.read?, h, children]
  | global => cases h : docCount? members <;> simp [Form.read?, h, children]
  | terms => cases h : groups? termsKey members <;> simp [Form.read?, findGroups_eq, h]
  | dateHistogram => cases h : groups? dateKey members <;> simp [Form.read?, findGroups_eq, h]
  | metric kind => rfl
  | other => rfl

/-- A group is read from its key, its count and its children, and needs the first two. -/
theorem readGroup_obj (groupKey : Keyed Json → Option String) (members : Keyed Json) :
    readGroup groupKey (.obj members)
      = (groupKey members).bind fun key =>
          (docCount? members).map fun n => ⟨key, n, children members⟩ := by
  rw [readGroup]
  cases groupKey members with
  | none => rfl
  | some key => cases docCount? members <;> rfl

end TypedSearch.TypedKeys
