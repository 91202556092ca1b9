import TypedSearch.Aggregation.Bucket
import TypedSearch.Proofs.Wire.Reading
/-!
# `TypedSearch.Proofs.Wire.Encoding`: computed aggregations as an engine writes them

`Writes a mark v` says that an engine may answer the node `a` under the mark `mark` by the value
`v`, `WritesAll` that it may write nodes under their names as these members, and `WritesGroups` the
same for groups. The three leave open what an engine is free in: which of four marks it gives to
groups by value, whether it writes a whole number with or without a fraction, what it writes for a
node of a kind that is not known, and all members beside those that are read. The members of an
object are entered in any order.

What is written can be read: `ofTypedKeys_of_writes` says that every way to write computed
aggregations is read as just these aggregations, and that there is such a way. The names under which
they stand are arbitrary.

* `readNode_of_writes`, `readEntries_of_writes`, `readItems_of_writes`: one node, several nodes and
  several groups, by recursion on the way they are written.
* `exists_writes`: there is a way to write a node.
-/

set_option autoImplicit false

namespace TypedSearch

/-! ### Aggregations that can be written -/

namespace TypedKeys

/-- The marks that tell how a node is read. -/
def knownMarks : List String :=
  ["filter", "global", "date_histogram"] ++ termsMarks ++ MetricKind.all.map MetricKind.name

/-- Every other mark tells nothing. -/
theorem ofMark_of_not_mem {mark : String} (h : mark ∉ knownMarks) : Form.ofMark mark = .other := by
  simp only [knownMarks, List.mem_append, not_or] at h
  obtain ⟨⟨hsingle, hterms⟩, hmetric⟩ := h
  simp only [List.mem_cons, not_or] at hsingle
  obtain ⟨hfilter, hglobal, hdate, -⟩ := hsingle
  have hname : MetricKind.ofName? mark = none := by
    rw [MetricKind.ofName?, List.find?_eq_none]
    intro kind hkind
    simp only [decide_eq_true_eq]
    rintro rfl
    exact hmetric (List.mem_map_of_mem hkind)
  simp only [Form.ofMark, hfilter, hglobal, hterms, hdate, hname, if_false]

end TypedKeys

mutual

/-- A node that an engine can answer with: every count fits 64 bits, nodes stand in the order of
their names, and a node is unknown only if its kind is not known. -/
def Aggregate.Regular : Aggregate → Prop
  | .filter n children => n < UInt64.size ∧ Keyed.Sorted children ∧ RegularAll children
  | .global n children => n < UInt64.size ∧ Keyed.Sorted children ∧ RegularAll children
  | .terms groups => RegularGroups groups
  | .dateHistogram groups => RegularGroups groups
  | .metric _ _ => True
  | .unknown kind => kind ∉ TypedKeys.knownMarks ∧ '#' ∉ kind.toList

/-- All of these nodes are regular. -/
def RegularAll : List (String × Aggregate) → Prop
  | [] => True
  | (_, a) :: rest => a.Regular ∧ RegularAll rest

/-- The nodes inside all of these groups are regular, and so are the counts of the groups. -/
def RegularGroups : List (Bucket Aggregate) → Prop
  | [] => True
  | ⟨_, n, children⟩ :: rest =>
    (n < UInt64.size ∧ Keyed.Sorted children ∧ RegularAll children) ∧ RegularGroups rest

end

/-- Computed aggregations that an engine can answer with. -/
def Aggregates.Regular (m : Aggregates) : Prop := Keyed.Sorted m ∧ RegularAll m

namespace TypedKeys

/-! ### The ways to write them -/

/-- Members beside those that are read: they have distinct names, and no name is read or has a
mark. -/
structure Beside (read : List String) (extra : List (String × Json)) : Prop where
  nodup : (extra.map (·.1)).Nodup
  plain : ∀ e ∈ extra, '#' ∉ e.1.toList
  unread : ∀ e ∈ extra, e.1 ∉ read

/-- A number is written with or without a fraction, and a missing one as null. -/
inductive WritesNumber : Option Decimal.Binary64 → Json → Prop
  | missing : WritesNumber none .null
  | float (x : Decimal.Binary64) : WritesNumber (some x) (.float x)
  | whole {n : Int} {x : Decimal.Binary64} (value : Decimal.Binary64.ofInt? n = some x) :
      WritesNumber (some x) (.int n)

/-- The member that holds the key of a group. -/
def keyMember : BucketKind → String
  | .terms => "key"
  | .dateHistogram => "key_as_string"

/-- The members that are read from a group, those of its children apart. A group of times may have
its key in another form as well, which is not read then. -/
def groupMembers : BucketKind → List String
  | .terms => ["key", "doc_count", "key_as_string"]
  | .dateHistogram => ["key_as_string", "doc_count"]

/-- An object with the members that are read, others beside them, and those of nodes, entered in any
order. -/
def object (fields extra typed : List (String × Json)) : Json :=
  .ofMembers (fields ++ extra ++ typed)

mutual

/-- An engine may write a node under a mark as this value. -/
inductive Writes : Aggregate → String → Json → Prop
  | filter {n : Nat} {nodes : Aggregates} {extra typed : List (String × Json)}
      (beside : Beside ["doc_count"] extra) (inside : WritesAll nodes typed) :
      Writes (.filter n nodes) "filter" (object [("doc_count", .nat n)] extra typed)
  | global {n : Nat} {nodes : Aggregates} {extra typed : List (String × Json)}
      (beside : Beside ["doc_count"] extra) (inside : WritesAll nodes typed) :
      Writes (.global n nodes) "global" (object [("doc_count", .nat n)] extra typed)
  | terms {groups : List (Bucket Aggregate)} {mark : String} {extra : List (String × Json)}
      {items : List Json} (marked : mark ∈ termsMarks) (beside : Beside ["buckets"] extra)
      (inside : WritesGroups .terms groups items) :
      Writes (.terms groups) mark (object [("buckets", .arr items)] extra [])
  | dateHistogram {groups : List (Bucket Aggregate)} {extra : List (String × Json)}
      {items : List Json} (beside : Beside ["buckets"] extra)
      (inside : WritesGroups .dateHistogram groups items) :
      Writes (.dateHistogram groups) "date_histogram" (object [("buckets", .arr items)] extra [])
  | metric {kind : MetricKind} {value : Option Decimal.Binary64} {v : Json}
      {extra : List (String × Json)} (beside : Beside ["value"] extra)
      (number : WritesNumber value v) :
      Writes (.metric kind value) kind.name (object [("value", v)] extra [])
  /-- Whatever stands under a mark that is not known is not read. -/
  | unknown {kind : String} {v : Json} : Writes (.unknown kind) kind v

/-- An engine may write nodes under their names as these members. -/
inductive WritesAll : List (String × Aggregate) → List (String × Json) → Prop
  | nil : WritesAll [] []
  | cons {key : TypedKey} {a : Aggregate} {v : Json} {nodes : List (String × Aggregate)}
      {typed : List (String × Json)} (head : Writes a key.mark v) (tail : WritesAll nodes typed) :
      WritesAll ((key.name, a) :: nodes) ((key.text, v) :: typed)

/-- An engine may write groups of a kind as these values. -/
inductive WritesGroups : BucketKind → List (Bucket Aggregate) → List Json → Prop
  | nil {kind : BucketKind} : WritesGroups kind [] []
  | cons {kind : BucketKind} {key : String} {n : Nat} {nodes : List (String × Aggregate)}
      {extra typed : List (String × Json)} {groups : List (Bucket Aggregate)} {items : List Json}
      (beside : Beside (groupMembers kind) extra) (inside : WritesAll nodes typed)
      (tail : WritesGroups kind groups items) :
      WritesGroups kind (⟨key, n, nodes⟩ :: groups)
        (object [(keyMember kind, .str key), ("doc_count", .nat n)] extra typed :: items)

end

/-- An engine may answer with these members. At the root there is nothing but nodes. -/
def WritesAnswer (m : Aggregates) (members : Keyed Json) : Prop :=
  ∃ typed, WritesAll m typed ∧ members = .ofList typed

/-! ### Written nodes -/

/-- The keys of written nodes carry the names of the nodes. -/
theorem WritesAll.memberNames (root : Bool) {nodes : List (String × Aggregate)}
    {typed : List (String × Json)} : WritesAll nodes typed →
    typed.map (fun e => memberName root e.1) = nodes.map fun e => some e.1
  | .nil => rfl
  | .cons _ tail => by
    rw [List.map_cons, List.map_cons, tail.memberNames root, memberName_text]

/-- The keys of written nodes have marks. -/
theorem WritesAll.marked {nodes : List (String × Aggregate)} {typed : List (String × Json)}
    (h : WritesAll nodes typed) : ∀ e ∈ typed, '#' ∈ e.1.toList := by
  intro e he
  have hname : memberName false e.1 ∈ nodes.map fun e => some e.1 := by
    rw [← h.memberNames false]
    exact List.mem_map_of_mem he
  obtain ⟨node, -, hnode⟩ := List.mem_map.1 hname
  rcases memberName_eq_some_iff.1 hnode.symm with ⟨mark, -, hkey⟩ | ⟨hroot, -⟩
  · simp [hkey]
  · cases hroot

/-- Nodes under distinct names have distinct keys. -/
theorem WritesAll.nodup {nodes : Aggregates} {typed : List (String × Json)}
    (h : WritesAll nodes typed) (hsorted : Keyed.Sorted nodes) : (typed.map (·.1)).Nodup := by
  -- A key determines the name that it gives, so it is enough that the names are distinct.
  have hnames : ((typed.map (·.1)).map (memberName false)).Nodup := by
    rw [List.map_map, Function.comp_def, h.memberNames false, ← Function.comp_def some,
      ← List.map_map]
    exact (Keyed.nodup_names hsorted).map fun _ _ => Option.some.inj
  exact hnames.of_map _

/-- Nodes are read in the order of their names, whatever is not read in front of them and in
whatever order the keys are. -/
theorem ofList_readEntries {root : Bool} {plain typed : List (String × Json)} {nodes : Aggregates}
    (hplain : readEntries root plain = []) (hnodup : ((plain ++ typed).map (·.1)).Nodup)
    (hread : readEntries root typed = nodes) (hsorted : Keyed.Sorted nodes) :
    Keyed.ofList (readEntries root (Keyed.ofList (plain ++ typed))) = nodes := by
  -- Entering the members only changes their order, and they are read one by one.
  have hperm : (readEntries root (Keyed.ofList (plain ++ typed))).Perm nodes := by
    have hkeys := (Keyed.perm_ofList hnodup).filterMap fun e =>
      (memberName root e.1).map fun name => (name, readMember e.1 e.2)
    rw [← readEntries_eq_filterMap, List.filterMap_append, ← readEntries_eq_filterMap,
      ← readEntries_eq_filterMap, hplain, hread, List.nil_append] at hkeys
    exact hkeys
  have hdistinct : (nodes.map (·.1)).Nodup := Keyed.nodup_names hsorted
  have hnames : ((readEntries root (Keyed.ofList (plain ++ typed))).map (·.1)).Nodup :=
    (hperm.map (·.1)).nodup_iff.2 hdistinct
  exact Keyed.eq_of_perm (Keyed.sorted_ofList _) hsorted ((Keyed.perm_ofList hnames).trans hperm)

/-! ### The members of a written object -/

/-- The members of a written object. The names that are read are among `read`. -/
structure Members (read : List String) (fields extra typed : List (String × Json))
    (nodes : Aggregates) : Prop where
  fields_nodup : (fields.map (·.1)).Nodup
  fields_read : ∀ e ∈ fields, e.1 ∈ read
  read_plain : ∀ name ∈ read, '#' ∉ name.toList
  beside : Beside read extra
  inside : WritesAll nodes typed
  sorted : Keyed.Sorted nodes

namespace Members

variable {read : List String} {fields extra typed : List (String × Json)} {nodes : Aggregates}

/-- Members that are no nodes have no mark. -/
theorem plain (h : Members read fields extra typed nodes) :
    ∀ e ∈ fields ++ extra, '#' ∉ e.1.toList := by
  intro e he
  rcases List.mem_append.1 he with he | he
  · exact h.read_plain _ (h.fields_read e he)
  · exact h.beside.plain e he

/-- No two members have the same name. -/
theorem nodup (h : Members read fields extra typed nodes) :
    ((fields ++ extra ++ typed).map (·.1)).Nodup := by
  rw [List.map_append, List.nodup_append', List.map_append, List.nodup_append']
  refine ⟨⟨h.fields_nodup, h.beside.nodup, ?_⟩, h.inside.nodup h.sorted, ?_⟩
  · -- What stands beside is not read.
    intro name hfield hextra
    obtain ⟨e, he, rfl⟩ := List.mem_map.1 hextra
    obtain ⟨f, hf, hname⟩ := List.mem_map.1 hfield
    exact h.beside.unread e he (hname ▸ h.fields_read f hf)
  · -- Only the keys of nodes have marks.
    intro name hother htyped
    obtain ⟨e, he, rfl⟩ := List.mem_map.1 htyped
    rw [← List.map_append] at hother
    obtain ⟨f, hf, hname⟩ := List.mem_map.1 hother
    exact h.plain f hf (hname ▸ h.inside.marked e he)

/-- What is read stands under its name. -/
theorem get_field (h : Members read fields extra typed nodes) (name : String) (v : Json)
    (hmem : (name, v) ∈ fields) :
    Keyed.get? name (Keyed.ofList (fields ++ extra ++ typed)) = some v := by
  refine Keyed.get_ofList_of_nodup h.nodup ?_
  exact List.mem_append_left _ (List.mem_append_left _ hmem)

/-- What would be read and is not among the fields is not there. -/
theorem get_missing (h : Members read fields extra typed nodes) (name : String)
    (hread : name ∈ read) (hmissing : name ∉ fields.map (·.1)) :
    Keyed.get? name (Keyed.ofList (fields ++ extra ++ typed)) = none := by
  rw [← Option.not_isSome_iff_eq_none, Keyed.isSome_get_iff, Keyed.mem_names_ofList]
  rw [List.map_append, List.map_append, List.mem_append, List.mem_append]
  -- It is no field, what stands beside is not read, and the keys of nodes have marks.
  rintro ((hmem | hmem) | hmem)
  · exact hmissing hmem
  · obtain ⟨e, he, rfl⟩ := List.mem_map.1 hmem
    exact h.beside.unread e he hread
  · obtain ⟨e, he, rfl⟩ := List.mem_map.1 hmem
    exact h.read_plain _ hread (h.inside.marked e he)

/-- The children are the nodes that were written. -/
theorem children_eq (h : Members read fields extra typed nodes)
    (hread : readEntries false typed = nodes) :
    children (Keyed.ofList (fields ++ extra ++ typed)) = nodes := by
  refine ofList_readEntries ?_ h.nodup hread h.sorted
  rw [readEntries_eq_filterMap, List.filterMap_eq_nil_iff]
  intro e he
  rw [memberName, splitKey_eq_none_iff.2 (h.plain e he)]
  rfl

/-- A count that fits 64 bits is read as it was written. -/
theorem docCount_eq (h : Members read fields extra typed nodes) {n : Nat}
    (hmem : ("doc_count", .nat n) ∈ fields) (hsmall : n < UInt64.size) :
    docCount? (Keyed.ofList (fields ++ extra ++ typed)) = some n := by
  rw [docCount?, h.get_field _ _ hmem, Option.bind_some, Json.count_eq_some_iff]
  exact ⟨rfl, hsmall⟩

end Members

/-- The members of a node with one field and nodes inside. -/
theorem members_node {name : String} (v : Json) {extra typed : List (String × Json)}
    {nodes : Aggregates} (hplain : '#' ∉ name.toList) (hbeside : Beside [name] extra)
    (hinside : WritesAll nodes typed) (hsorted : Keyed.Sorted nodes) :
    Members [name] [(name, v)] extra typed nodes where
  fields_nodup := List.nodup_singleton _
  fields_read e he := by rw [List.mem_singleton.1 he]; exact List.mem_singleton_self _
  read_plain name hname := by rwa [List.mem_singleton.1 hname]
  beside := hbeside
  inside := hinside
  sorted := hsorted

/-- The members of a group. -/
theorem members_group {kind : BucketKind} {key : String} {n : Nat}
    {extra typed : List (String × Json)} {nodes : Aggregates}
    (hbeside : Beside (groupMembers kind) extra) (hinside : WritesAll nodes typed)
    (hsorted : Keyed.Sorted nodes) :
    Members (groupMembers kind) [(keyMember kind, .str key), ("doc_count", .nat n)] extra typed
      nodes where
  fields_nodup := by cases kind <;> simp [keyMember]
  fields_read := by cases kind <;> simp [keyMember, groupMembers]
  read_plain := by cases kind <;> decide
  beside := hbeside
  inside := hinside
  sorted := hsorted

/-- A number is read as it was written. -/
theorem number_of_writesNumber {value : Option Decimal.Binary64} {v : Json}
    (h : WritesNumber value v) : v.number? = value := by
  cases h with
  | missing => rfl
  | float x => rfl
  | whole value => exact value

/-- The mark of a metric tells its kind. -/
theorem ofMark_metric (kind : MetricKind) : Form.ofMark kind.name = .metric kind := by
  cases kind <;> rfl

/-- The marks of groups by value tell that. -/
theorem ofMark_terms {mark : String} (h : mark ∈ termsMarks) : Form.ofMark mark = .terms := by
  simp only [termsMarks, List.mem_cons, List.not_mem_nil, or_false] at h
  rcases h with rfl | rfl | rfl | rfl <;> rfl

/-- How the key of a group of a kind is read. -/
def groupKey : BucketKind → Keyed Json → Option String
  | .terms => termsKey
  | .dateHistogram => dateKey

/-- The key of a group is read as it was written. -/
theorem groupKey_eq {kind : BucketKind} {key : String} {n : Nat}
    {extra typed : List (String × Json)} {nodes : Aggregates}
    (h : Members (groupMembers kind) [(keyMember kind, .str key), ("doc_count", .nat n)] extra typed
      nodes) :
    groupKey kind (Keyed.ofList
      ([(keyMember kind, .str key), ("doc_count", .nat n)] ++ extra ++ typed)) = some key := by
  cases kind with
  | terms =>
    have hkey := h.get_field "key" (.str key) List.mem_cons_self
    have hformatted := h.get_missing "key_as_string" (by decide) (by simp [keyMember])
    rw [groupKey, termsKey, formattedKey, hformatted, hkey]
    rfl
  | dateHistogram =>
    have hkey := h.get_field "key_as_string" (.str key) List.mem_cons_self
    rw [groupKey, dateKey, formattedKey, hkey]
    rfl

/-- The groups of a node are read from the list that was written. -/
theorem groups_eq {read : List String} {items : List Json} {extra typed : List (String × Json)}
    {nodes : Aggregates} (h : Members read [("buckets", .arr items)] extra typed nodes)
    (key : Keyed Json → Option String) :
    groups? key (Keyed.ofList ([("buckets", .arr items)] ++ extra ++ typed))
      = some (items.filterMap (readGroup key)) := by
  rw [groups?, h.get_field "buckets" (.arr items) List.mem_cons_self]
  rfl

/-- Under a mark that is not known nothing is read. -/
theorem readNode_of_not_known {mark : String} (h : mark ∉ knownMarks) (v : Json) :
    readNode mark v = .unknown mark := by
  cases v with
  | obj members =>
    rw [readNode_obj, ofMark_of_not_mem h]
    rfl
  | _ => rfl

/-! ### Reading what was written -/

-- By recursion on the way a node is written. At each object the fields are found by their names,
-- and the children by the theorem for all nodes inside.
mutual

/-- A written node is read as this node. -/
theorem readNode_of_writes {a : Aggregate} {mark : String} {v : Json} (ha : a.Regular) :
    Writes a mark v → readNode mark v = a
  | @Writes.filter n nodes extra typed beside inside => by
    obtain ⟨hsmall, hsorted, hnodes⟩ := ha
    have hmembers := members_node (.nat n) (by decide) beside inside hsorted
    have hform : Form.ofMark "filter" = .filter := rfl
    rw [object, Json.ofMembers, readNode_obj, hform, Form.read?,
      hmembers.docCount_eq List.mem_cons_self hsmall,
      hmembers.children_eq (readEntries_of_writes false hnodes inside)]
    rfl
  | @Writes.global n nodes extra typed beside inside => by
    obtain ⟨hsmall, hsorted, hnodes⟩ := ha
    have hmembers := members_node (.nat n) (by decide) beside inside hsorted
    have hform : Form.ofMark "global" = .global := rfl
    rw [object, Json.ofMembers, readNode_obj, hform, Form.read?,
      hmembers.docCount_eq List.mem_cons_self hsmall,
      hmembers.children_eq (readEntries_of_writes false hnodes inside)]
    rfl
  | @Writes.terms groups mark extra items marked beside inside => by
    have hmembers := members_node (.arr items) (by decide) beside .nil .nil
    have hread : items.filterMap (readGroup termsKey) = groups := readItems_of_writes ha inside
    rw [object, Json.ofMembers, readNode_obj, ofMark_terms marked, Form.read?,
      groups_eq hmembers, hread]
    rfl
  | @Writes.dateHistogram groups extra items beside inside => by
    have hmembers := members_node (.arr items) (by decide) beside .nil .nil
    have hform : Form.ofMark "date_histogram" = .dateHistogram := rfl
    have hread : items.filterMap (readGroup dateKey) = groups := readItems_of_writes ha inside
    rw [object, Json.ofMembers, readNode_obj, hform, Form.read?, groups_eq hmembers, hread]
    rfl
  | @Writes.metric kind value v extra beside number => by
    have hmembers := members_node v (by decide) beside .nil .nil
    rw [object, Json.ofMembers, readNode_obj, ofMark_metric, Form.read?, metricValue?,
      hmembers.get_field _ _ List.mem_cons_self, Option.bind_some, number_of_writesNumber number]
    rfl
  | .unknown => by
    obtain ⟨hkind, -⟩ := ha
    exact readNode_of_not_known hkind _

/-- Written nodes are read as these nodes under their names. -/
theorem readEntries_of_writes (root : Bool) {nodes : List (String × Aggregate)}
    {typed : List (String × Json)} (hnodes : RegularAll nodes) :
    WritesAll nodes typed → readEntries root typed = nodes
  | .nil => rfl
  | .cons head tail => by
    obtain ⟨ha, hrest⟩ := hnodes
    rw [readEntries, splitKey_text]
    show (_, readNode _ _) :: readEntries root _ = _
    rw [readNode_of_writes ha head, readEntries_of_writes root hrest tail]

/-- Written groups are read as these groups. -/
theorem readItems_of_writes {kind : BucketKind} {groups : List (Bucket Aggregate)}
    {items : List Json} (hgroups : RegularGroups groups) :
    WritesGroups kind groups items → items.filterMap (readGroup (groupKey kind)) = groups
  | .nil => rfl
  | @WritesGroups.cons kind key n nodes extra typed groups items beside inside tail => by
    obtain ⟨⟨hsmall, hsorted, hnodes⟩, hrest⟩ := hgroups
    have hmembers : Members (groupMembers kind) [(keyMember kind, .str key), ("doc_count", .nat n)]
        extra typed nodes := members_group beside inside hsorted
    rw [List.filterMap_cons, object, Json.ofMembers, readGroup_obj, groupKey_eq hmembers,
      hmembers.docCount_eq (by simp) hsmall,
      hmembers.children_eq (readEntries_of_writes false hnodes inside),
      readItems_of_writes hrest tail]
    rfl

end

/-! ### There is a way to write it -/

/-- Nothing has to stand beside what is read. -/
theorem beside_nil (read : List String) : Beside read [] :=
  ⟨List.nodup_nil, by simp, by simp⟩

/-- Every number can be written. -/
theorem exists_writesNumber (value : Option Decimal.Binary64) : ∃ v, WritesNumber value v := by
  cases value with
  | none => exact ⟨_, .missing⟩
  | some x => exact ⟨_, .float x⟩

mutual

/-- Every node can be written, under a mark without `#`. -/
theorem exists_writes : (a : Aggregate) → a.Regular →
    ∃ mark v, '#' ∉ mark.toList ∧ Writes a mark v
  | .filter n nodes, ⟨_, _, hnodes⟩ => by
    obtain ⟨typed, hinside⟩ := exists_writesAll nodes hnodes
    exact ⟨_, _, by decide, .filter (beside_nil _) hinside⟩
  | .global n nodes, ⟨_, _, hnodes⟩ => by
    obtain ⟨typed, hinside⟩ := exists_writesAll nodes hnodes
    exact ⟨_, _, by decide, .global (beside_nil _) hinside⟩
  | .terms groups, hgroups => by
    obtain ⟨items, hinside⟩ := exists_writesGroups .terms groups hgroups
    exact ⟨"sterms", _, by decide, .terms (by decide) (beside_nil _) hinside⟩
  | .dateHistogram groups, hgroups => by
    obtain ⟨items, hinside⟩ := exists_writesGroups .dateHistogram groups hgroups
    exact ⟨_, _, by decide, .dateHistogram (beside_nil _) hinside⟩
  | .metric kind value, _ => by
    obtain ⟨v, hnumber⟩ := exists_writesNumber value
    exact ⟨_, _, by cases kind <;> decide, .metric (beside_nil _) hnumber⟩
  | .unknown kind, ⟨_, hfree⟩ => ⟨kind, .null, hfree, .unknown⟩

/-- All nodes can be written under their names. -/
theorem exists_writesAll : (nodes : List (String × Aggregate)) → RegularAll nodes →
    ∃ typed, WritesAll nodes typed
  | [], _ => ⟨[], .nil⟩
  | (name, a) :: rest, ⟨ha, hrest⟩ => by
    obtain ⟨mark, v, hfree, hhead⟩ := exists_writes a ha
    obtain ⟨typed, htail⟩ := exists_writesAll rest hrest
    exact ⟨_, @WritesAll.cons ⟨mark, name, hfree⟩ a v rest typed hhead htail⟩

/-- All groups can be written. -/
theorem exists_writesGroups (kind : BucketKind) : (groups : List (Bucket Aggregate)) →
    RegularGroups groups → ∃ items, WritesGroups kind groups items
  | [], _ => ⟨[], .nil⟩
  | ⟨_, _, nodes⟩ :: rest, ⟨⟨_, _, hnodes⟩, hrest⟩ => by
    obtain ⟨typed, hinside⟩ := exists_writesAll nodes hnodes
    obtain ⟨items, htail⟩ := exists_writesGroups kind rest hrest
    exact ⟨_, .cons (beside_nil _) hinside htail⟩

end

end TypedKeys

open TypedKeys

/-- Computed aggregations can be written, and however they are written, just these aggregations are
read. -/
theorem Aggregates.ofTypedKeys_of_writes (m : Aggregates) (h : m.Regular) :
    (∃ members, WritesAnswer m members) ∧
      ∀ members, WritesAnswer m members → Aggregates.ofTypedKeys members = m := by
  obtain ⟨hsorted, hnodes⟩ := h
  constructor
  · obtain ⟨typed, htyped⟩ := exists_writesAll m hnodes
    exact ⟨_, typed, htyped, rfl⟩
  · rintro members ⟨typed, htyped, rfl⟩
    have hread : readEntries true typed = m := readEntries_of_writes true hnodes htyped
    have hplain : readEntries true [] = [] := rfl
    exact ofList_readEntries hplain (htyped.nodup hsorted) hread hsorted

/-- Three aggregations, one under the empty name and one under `#`. The filter has groups of a
company inside, with a count of zero values. -/
def threeAggregations : Aggregates :=
  [("", .filter 3 [("a#b", .terms [⟨"META", 2, [("n", .metric .valueCount (some .zero))]⟩])]),
   ("#", .unknown "percentiles"),
   ("trend", .dateHistogram [⟨"2025-10-20", 3, []⟩])]

/-- These aggregations as an engine may answer them. -/
def threeAnswers : Keyed Json :=
  [("date_histogram#trend", .obj [("buckets", .arr
      [.obj [("doc_count", .int 3), ("key", .int 1760918400000),
        ("key_as_string", .str "2025-10-20")]])]),
   ("filter#", .obj [("doc_count", .int 3), ("lterms#a#b", .obj
      [("buckets", .arr [.obj [("doc_count", .int 2), ("key", .str "META"),
          ("value_count#n", .obj [("value", .int 0)])]]),
       ("sum_other_doc_count", .int 1)])]),
   ("percentiles##", .null)]

/-- The answer is one way to write `threeAggregations`, and is read as these. -/
theorem ofTypedKeys_of_writes_threeAnswers :
    threeAggregations.Regular ∧ WritesAnswer threeAggregations threeAnswers ∧
      Aggregates.ofTypedKeys threeAnswers = threeAggregations := by
  have hregular : threeAggregations.Regular := by
    simp only [Aggregates.Regular, threeAggregations, RegularAll, Aggregate.Regular, RegularGroups,
      Keyed.Sorted]
    decide
  have hgroup : WritesGroups .terms [⟨"META", 2, [("n", .metric .valueCount (some .zero))]⟩]
      [object [("key", .str "META"), ("doc_count", .nat 2)] []
        [("value_count#n", object [("value", .int 0)] [] [])]] :=
    .cons (beside_nil _)
      (@WritesAll.cons ⟨"value_count", "n", by decide⟩ _ _ _ _
        (.metric (beside_nil _) (.whole (by decide))) .nil)
      .nil
  have hothers : Beside ["buckets"] [("sum_other_doc_count", .int 1)] :=
    ⟨by decide, by decide, by decide⟩
  have hmillis : Beside (groupMembers .dateHistogram) [("key", .int 1760918400000)] :=
    ⟨by decide, by decide, by decide⟩
  have hterms := @Writes.terms _ "lterms" _ _ (by decide) hothers hgroup
  have hdate := Writes.dateHistogram (beside_nil _)
    (@WritesGroups.cons _ "2025-10-20" 3 _ _ _ _ _ hmillis .nil .nil)
  have hwrites : WritesAnswer threeAggregations threeAnswers := by
    refine ⟨_, @WritesAll.cons ⟨"filter", "", by decide⟩ _ _ _ _
      (.filter (beside_nil _) (@WritesAll.cons ⟨"lterms", "a#b", by decide⟩ _ _ _ _ hterms .nil))
      (@WritesAll.cons ⟨"percentiles", "#", by decide⟩ _ .null _ _ .unknown
        (@WritesAll.cons ⟨"date_histogram", "trend", by decide⟩ _ _ _ _ hdate .nil)), rfl⟩
  exact ⟨hregular, hwrites,
    (Aggregates.ofTypedKeys_of_writes threeAggregations hregular).2 threeAnswers hwrites⟩

end TypedSearch
