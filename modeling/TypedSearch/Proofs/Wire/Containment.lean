import TypedSearch.Proofs.Wire.Reading
/-!
# `TypedSearch.Proofs.Wire.Containment`: a change in an answer stays where it is

An engine may answer anything at any place. Here one value of an answer is replaced, and the
aggregations that are read are compared.

* `editAt`: the change in the answer, at the end of a way down through nodes and groups.
* `locate`: the node that stands at the end of the way, and its place among what is read. A node
  has no place if a member behind it gives the same name, or if it is in a group that is left out.
* `readNode_child`, `readNode_inGroup`: what one step down preserves.
* `readNode_editAt`: after a whole way, what is read changes at this place only.
* `ofTypedKeys_editAt_of_none`, `ofTypedKeys_editAt_of_some`: the same for whole answers.
* `decidedByGreatest`: the member that decides what stands under a name.
-/

set_option autoImplicit false

namespace TypedSearch

/-! ### Changes under a name -/

namespace Keyed

variable {α : Type}

/-- Changes what stands under a name, if something does. -/
def modify (name : String) (f : α → α) (m : Keyed α) : Keyed α :=
  m.map fun e => if e.1 = name then (e.1, f e.2) else e

@[simp] theorem modify_nil (name : String) (f : α → α) : modify name f [] = [] := rfl

@[simp] theorem modify_cons (name k : String) (f : α → α) (v : α) (m : Keyed α) :
    modify name f ((k, v) :: m) = (k, if k = name then f v else v) :: modify name f m := by
  rw [modify, List.map_cons, ← modify]
  by_cases hk : k = name <;> simp [hk]

/-- Of what is found, only what stands under the name has changed. -/
theorem get_modify (name other : String) (f : α → α) (m : Keyed α) :
    get? other (modify name f m) = if other = name then (get? other m).map f else get? other m := by
  induction m with
  | nil => simp
  | cons e rest ih =>
    obtain ⟨k, v⟩ := e
    rw [modify_cons, get_cons, get_cons, ih]
    by_cases hk : k = other
    · subst hk
      by_cases hname : k = name <;> simp [hname]
    · simp [hk]

theorem get_modify_of_ne {name other : String} (h : other ≠ name) (f : α → α) (m : Keyed α) :
    get? other (modify name f m) = get? other m := by
  rw [get_modify, if_neg h]

/-- The names stay. -/
@[simp] theorem names_modify (name : String) (f : α → α) (m : Keyed α) :
    names (modify name f m) = names m := by
  induction m with
  | nil => rfl
  | cons e rest ih =>
    obtain ⟨k, v⟩ := e
    rw [modify_cons, names, names, List.map_cons, List.map_cons, ← names, ← names, ih]

@[simp] theorem modify_id (name : String) (m : Keyed α) : modify name (fun v => v) m = m := by
  induction m with
  | nil => rfl
  | cons e rest ih =>
    obtain ⟨k, v⟩ := e
    rw [modify_cons, ih, ite_self]

theorem sorted_modify {name : String} {f : α → α} {m : Keyed α} (h : Sorted m) :
    Sorted (modify name f m) := by
  have hnames : (names (modify name f m)).Pairwise (· < ·) := by
    rw [names_modify, names, List.pairwise_map]
    exact h
  rw [names, List.pairwise_map] at hnames
  exact hnames

end Keyed

/-! ### Ways down -/

/-- One step of a way down: to a child, or to a child of one of the groups. -/
inductive Step (κ : Type) where
  | child (key : κ)
  | inGroup (index : Nat) (key : κ)

/-- Changes the member of an object that has the key. -/
def Json.editMember (key : String) (f : Json → Json) : Json → Json
  | .obj members => .obj (Keyed.modify key f members)
  | v => v

/-- Changes one item of an array. -/
def Json.editItem (i : Nat) (f : Json → Json) : Json → Json
  | .arr items => .arr (items.modify i f)
  | v => v

/-- Changes the children of a filter or of all documents. -/
def Aggregate.editChildren (f : Aggregates → Aggregates) : Aggregate → Aggregate
  | .filter n nodes => .filter n (f nodes)
  | .global n nodes => .global n (f nodes)
  | a => a

@[simp] theorem Aggregate.editChildren_editChildren (f g : Aggregates → Aggregates)
    (a : Aggregate) : (a.editChildren f).editChildren g = a.editChildren (g ∘ f) := by
  cases a <;> rfl

/-- Changes the groups. -/
def Aggregate.editGroups (f : List (Bucket Aggregate) → List (Bucket Aggregate)) :
    Aggregate → Aggregate
  | .terms groups => .terms (f groups)
  | .dateHistogram groups => .dateHistogram (f groups)
  | a => a

@[simp] theorem Aggregate.editChildren_id (a : Aggregate) :
    a.editChildren (fun nodes => nodes) = a := by
  cases a <;> rfl

@[simp] theorem Aggregate.editGroups_id (a : Aggregate) :
    a.editGroups (fun groups => groups) = a := by
  cases a <;> rfl

/-- Changes the aggregation at the end of a way down, and nothing else. -/
def Aggregate.editAt (g : Aggregate → Aggregate) : List (Step String) → Aggregate → Aggregate
  | [], a => g a
  | .child name :: rest, a => a.editChildren (Keyed.modify name (editAt g rest))
  | .inGroup i name :: rest, a =>
    a.editGroups fun groups =>
      groups.modify i fun b => ⟨b.key, b.docCount, Keyed.modify name (editAt g rest) b.children⟩

namespace TypedKeys

/-- Changes the value at the end of a way down, and nothing else. -/
def editAt (f : Json → Json) : List (Step TypedKey) → Json → Json
  | [], v => f v
  | .child key :: rest, v => v.editMember key.text (editAt f rest)
  | .inGroup i key :: rest, v =>
    v.editMember "buckets" (Json.editItem i (Json.editMember key.text (editAt f rest)))

/-- How the key of a group is read in a node of the form. -/
def Form.groupKey : Form → Keyed Json → Option String
  | .terms => termsKey
  | _ => dateKey

/-- What stands under the key, if it is this key that decides what is read under its name. -/
def deciding? (root : Bool) (key : TypedKey) (members : Keyed Json) : Option Json :=
  (members.reverse.find? fun e => memberName root e.1 = some key.name).bind fun e =>
    if e.1 = key.text then some e.2 else none

/-- A node of an answer and its place among the aggregations that are read. -/
structure Spot where
  place : List (Step String)
  mark : String
  body : Json

/-- The same node, with the place seen from one level above. -/
def Spot.below (step : Step String) (s : Spot) : Spot := ⟨step :: s.place, s.mark, s.body⟩

/-- How many groups are read from the items before an item. -/
def groupsBefore (groupKey : Keyed Json → Option String) (items : List Json) (i : Nat) : Nat :=
  ((items.take i).filterMap (readGroup groupKey)).length

/-- The items that may be groups of a node. -/
def groupItems? (v : Json) : Option (List Json) := (v.get? "buckets").bind Json.items?

/-- The node at the end of a way down from a node with the given mark, if it has a place. -/
def locate : List (Step TypedKey) → String → Json → Option Spot
  | [], mark, v => some ⟨[], mark, v⟩
  | .child key :: rest, _, v =>
    (v.members?.bind (deciding? false key)).bind fun body =>
      (locate rest key.mark body).map (Spot.below (.child key.name))
  | .inGroup i key :: rest, mark, v =>
    (groupItems? v).bind fun items =>
      items[i]?.bind fun item =>
        (readGroup (Form.ofMark mark).groupKey item).bind fun _ =>
          (item.members?.bind (deciding? false key)).bind fun body =>
            (locate rest key.mark body).map
              (Spot.below (.inGroup (groupsBefore (Form.ofMark mark).groupKey items i) key.name))

/-! ### Members without a mark -/

section Plain

variable {members changed : Keyed Json}

/-- The members whose key has no mark are the same. -/
def SamePlain (members changed : Keyed Json) : Prop :=
  ∀ key : String, '#' ∉ key.toList → Keyed.get? key changed = Keyed.get? key members

theorem SamePlain.refl (members : Keyed Json) : SamePlain members members := fun _ _ => rfl

/-- A change under the key of a node leaves the members without a mark alone. -/
theorem samePlain_modify (key : TypedKey) (f : Json → Json) (members : Keyed Json) :
    SamePlain members (Keyed.modify key.text f members) := by
  intro other h
  exact Keyed.get_modify_of_ne (key.text_ne h).symm f members

theorem SamePlain.docCount? (h : SamePlain members changed) :
    docCount? changed = docCount? members := by
  rw [TypedKeys.docCount?, TypedKeys.docCount?, h "doc_count" (by decide)]

theorem SamePlain.metricValue? (h : SamePlain members changed) :
    metricValue? changed = metricValue? members := by
  rw [TypedKeys.metricValue?, TypedKeys.metricValue?, h "value" (by decide)]

theorem SamePlain.groups? (h : SamePlain members changed)
    (groupKey : Keyed Json → Option String) :
    groups? groupKey changed = groups? groupKey members := by
  rw [TypedKeys.groups?, TypedKeys.groups?, h "buckets" (by decide)]

theorem SamePlain.groupKey (h : SamePlain members changed) (form : Form) :
    form.groupKey changed = form.groupKey members := by
  have hformatted : formattedKey changed = formattedKey members := by
    rw [formattedKey, formattedKey, h "key_as_string" (by decide)]
  have hterms : termsKey changed = termsKey members := by
    rw [termsKey, termsKey, hformatted, h "key" (by decide)]
  have hdate : dateKey changed = dateKey members := by
    rw [dateKey, dateKey, hformatted, h "key" (by decide)]
  cases form <;> assumption

/-- As a node, an object with the same members without a mark differs in the children only. -/
theorem readNode_of_samePlain (h : SamePlain members changed) (mark : String) :
    readNode mark (.obj changed)
      = (readNode mark (.obj members)).editChildren fun _ => children changed := by
  -- Counts, values and groups stand under names without a mark, whatever the form is.
  rw [readNode_obj, readNode_obj]
  cases Form.ofMark mark with
  | filter =>
    cases hn : docCount? members <;>
      simp [Form.read?, h.docCount?, hn, Aggregate.editChildren]
  | global =>
    cases hn : docCount? members <;>
      simp [Form.read?, h.docCount?, hn, Aggregate.editChildren]
  | terms =>
    cases hg : groups? termsKey members <;> simp [Form.read?, h.groups?, hg, Aggregate.editChildren]
  | dateHistogram =>
    cases hg : groups? dateKey members <;> simp [Form.read?, h.groups?, hg, Aggregate.editChildren]
  | metric kind => simp [Form.read?, h.metricValue?, Aggregate.editChildren]
  | other => rfl

/-- So it does as a group. -/
theorem readGroup_of_samePlain (h : SamePlain members changed) (form : Form) :
    readGroup form.groupKey (.obj changed)
      = (readGroup form.groupKey (.obj members)).map fun b =>
          ⟨b.key, b.docCount, children changed⟩ := by
  rw [readGroup_obj, readGroup_obj, h.groupKey, h.docCount?]
  cases form.groupKey members with
  | none => rfl
  | some key => cases docCount? members <;> rfl

end Plain

/-! ### A changed child -/

/-- After a change under the key of a node, each name is still read from the same member. -/
theorem get_readEntries_modify (root : Bool) (key : TypedKey) (members : Keyed Json)
    (f : Json → Json) (name : String) :
    Keyed.get? name (.ofList (readEntries root (Keyed.modify key.text f members)))
      = (members.reverse.find? fun e => memberName root e.1 = some name).map fun e =>
          readMember e.1 (if e.1 = key.text then f e.2 else e.2) := by
  -- A member keeps its key, so it gives the name after the change exactly when it did before.
  have hkeys : (fun e => decide (memberName root e.1 = some name)) ∘
        (fun e : String × Json => if e.1 = key.text then (e.1, f e.2) else e)
      = fun e => decide (memberName root e.1 = some name) := by
    funext e
    by_cases hkey : e.1 = key.text <;> simp [hkey]
  rw [get_readEntries, Keyed.modify, ← List.map_reverse, List.find?_map, hkeys, Option.map_map]
  congr 1
  funext e
  by_cases hkey : e.1 = key.text <;> simp [hkey]

/-- A change under the key of a node is not seen under another name. -/
theorem get_readEntries_modify_of_ne (root : Bool) {key : TypedKey} {name : String}
    (hname : name ≠ key.name) (members : Keyed Json) (f : Json → Json) :
    Keyed.get? name (.ofList (readEntries root (Keyed.modify key.text f members)))
      = Keyed.get? name (.ofList (readEntries root members)) := by
  rw [get_readEntries_modify, get_readEntries]
  cases hlast : members.reverse.find? fun e => memberName root e.1 = some name with
  | none => rfl
  | some e =>
    have hgives : memberName root e.1 = some name := by simpa using List.find?_some hlast
    -- The changed member gives another name, so it is not the last one of this name.
    have hkey : e.1 ≠ key.text := by
      intro heq
      rw [heq, memberName_text] at hgives
      exact hname (Option.some.inj hgives).symm
    rw [Option.map_some, Option.map_some, if_neg hkey]

/-- Under the name of the node it is seen only if the key is the one that decides it. -/
theorem get_readEntries_modify_self (root : Bool) (key : TypedKey) (members : Keyed Json)
    {f : Json → Json} {g : Aggregate → Aggregate}
    (h : ∀ body, deciding? root key members = some body →
      readNode key.mark (f body) = g (readNode key.mark body)) :
    Keyed.get? key.name (.ofList (readEntries root (Keyed.modify key.text f members)))
      = if (deciding? root key members).isSome then
          (Keyed.get? key.name (.ofList (readEntries root members))).map g
        else Keyed.get? key.name (.ofList (readEntries root members)) := by
  rw [get_readEntries_modify, get_readEntries]
  rw [deciding?] at h ⊢
  cases hlast : members.reverse.find? fun e => memberName root e.1 = some key.name with
  | none => rfl
  | some e =>
    obtain ⟨k, v⟩ := e
    by_cases hkey : k = key.text
    · subst hkey
      have hnode := h v (by simp [hlast])
      simp [hnode]
    · simp [hkey]

/-- A change under the key of a node changes one node at most. -/
theorem ofList_readEntries_modify (root : Bool) (key : TypedKey) (members : Keyed Json)
    {f : Json → Json} {g : Aggregate → Aggregate}
    (h : ∀ body, deciding? root key members = some body →
      readNode key.mark (f body) = g (readNode key.mark body)) :
    (Keyed.ofList (readEntries root (Keyed.modify key.text f members)) : Aggregates)
      = if (deciding? root key members).isSome then
          Keyed.modify key.name g (.ofList (readEntries root members))
        else .ofList (readEntries root members) := by
  have hsorted : Keyed.Sorted (Keyed.ofList (readEntries root members)) := Keyed.sorted_ofList _
  have hself := get_readEntries_modify_self root key members h
  -- Both sides are sorted, so it is enough to compare them name by name.
  cases hdecides : (deciding? root key members).isSome with
  | true =>
    rw [if_pos rfl]
    refine Keyed.eq_of_get_eq (Keyed.sorted_ofList _) (Keyed.sorted_modify hsorted) ?_
    intro name
    rw [Keyed.get_modify]
    by_cases hname : name = key.name
    · rw [if_pos hname, hname, hself, if_pos hdecides]
    · rw [if_neg hname, get_readEntries_modify_of_ne root hname]
  | false =>
    rw [if_neg Bool.false_ne_true]
    refine Keyed.eq_of_get_eq (Keyed.sorted_ofList _) hsorted ?_
    intro name
    by_cases hname : name = key.name
    · rw [hname, hself, hdecides, if_neg Bool.false_ne_true]
    · exact get_readEntries_modify_of_ne root hname members f

/-- A change under the key of a node changes one child at most. -/
theorem readNode_editMember (mark : String) (key : TypedKey) (v : Json)
    {f : Json → Json} {g : Aggregate → Aggregate}
    (h : ∀ body, v.members?.bind (deciding? false key) = some body →
      readNode key.mark (f body) = g (readNode key.mark body)) :
    readNode mark (v.editMember key.text f)
      = if (v.members?.bind (deciding? false key)).isSome then
          (readNode mark v).editChildren (Keyed.modify key.name g)
        else readNode mark v := by
  cases v with
  | obj members =>
    have hnode := readNode_of_samePlain (samePlain_modify key f members) mark
    have hsame := readNode_of_samePlain (SamePlain.refl members) mark
    have hnodes : children (Keyed.modify key.text f members)
        = if (deciding? false key members).isSome then Keyed.modify key.name g (children members)
          else children members := ofList_readEntries_modify false key members h
    rw [Json.editMember, hnode, hnodes]
    show _ = if (deciding? false key members).isSome then _ else _
    split
    · rw [hsame, Aggregate.editChildren_editChildren, Aggregate.editChildren_editChildren]
      rfl
    · exact hsame.symm
  | _ => rfl

/-- The same inside a group. -/
theorem readGroup_editMember (form : Form) (key : TypedKey) (v : Json)
    {f : Json → Json} {g : Aggregate → Aggregate}
    (h : ∀ body, v.members?.bind (deciding? false key) = some body →
      readNode key.mark (f body) = g (readNode key.mark body)) :
    readGroup form.groupKey (v.editMember key.text f)
      = if (v.members?.bind (deciding? false key)).isSome then
          (readGroup form.groupKey v).map fun b =>
            ⟨b.key, b.docCount, Keyed.modify key.name g b.children⟩
        else readGroup form.groupKey v := by
  cases v with
  | obj members =>
    have hgroup := readGroup_of_samePlain (samePlain_modify key f members) form
    have hsame := readGroup_of_samePlain (SamePlain.refl members) form
    have hnodes : children (Keyed.modify key.text f members)
        = if (deciding? false key members).isSome then Keyed.modify key.name g (children members)
          else children members := ofList_readEntries_modify false key members h
    rw [Json.editMember, hgroup, hnodes]
    show _ = if (deciding? false key members).isSome then _ else _
    split
    · rw [hsame, Option.map_map, Option.map_map]
      rfl
    · exact hsame.symm
  | _ => rfl

/-- What is left out as a group stays left out. -/
theorem readGroup_editMember_of_none (form : Form) (key : TypedKey) {v : Json} (f : Json → Json)
    (h : readGroup form.groupKey v = none) :
    readGroup form.groupKey (v.editMember key.text f) = none := by
  cases v with
  | obj members =>
    rw [Json.editMember, readGroup_of_samePlain (samePlain_modify key f members), h]
    rfl
  | _ => exact h

/-! ### Lists with one changed item -/

section OneItem

variable {α β : Type} {r : α → Option β} {h : α → α} {xs : List α} {i : Nat} {x : α}

/-- Puts values in the place of some values of a list. -/
def splice (start removed : Nat) (new : List α) (xs : List α) : List α :=
  xs.take start ++ new ++ xs.drop (start + removed)

theorem filterMap_middle (r : α → Option β) (before behind : List α) (x : α) :
    (before ++ x :: behind).filterMap r
      = before.filterMap r ++ ((r x).toList ++ behind.filterMap r) := by
  rw [List.filterMap_append, List.filterMap_cons]
  cases r x <;> rfl

/-- What is made from an item stands between what is made from the items before and behind it. -/
theorem filterMap_of_getElem (hx : xs[i]? = some x) :
    xs.filterMap r
      = (xs.take i).filterMap r ++ ((r x).toList ++ (xs.drop (i + 1)).filterMap r) := by
  obtain ⟨hi, rfl⟩ := List.getElem?_eq_some_iff.1 hx
  rw [← filterMap_middle, List.getElem_cons_drop, List.take_append_drop]

/-- A changed item changes what is made from this item, and nothing before or behind it. -/
theorem filterMap_modify (hx : xs[i]? = some x) :
    (xs.modify i h).filterMap r
      = splice ((xs.take i).filterMap r).length (r x).toList.length (r (h x)).toList
          (xs.filterMap r) := by
  obtain ⟨hi, hxi⟩ := List.getElem?_eq_some_iff.1 hx
  -- Behind the changed place stands what is made from the items behind it, before and after.
  have hdrop : (xs.filterMap r).drop (((xs.take i).filterMap r).length + (r x).toList.length)
      = (xs.drop (i + 1)).filterMap r := by
    rw [filterMap_of_getElem hx, ← List.append_assoc, ← List.length_append, List.drop_left]
  rw [List.modify_eq_take_cons_drop hi, hxi, filterMap_middle, splice, hdrop,
    filterMap_of_getElem hx, List.take_left, List.append_assoc]

/-- An item from which nothing is made before and after the change does not count. -/
theorem filterMap_modify_of_none (hx : xs[i]? = some x) (hold : r x = none)
    (hnew : r (h x) = none) : (xs.modify i h).filterMap r = xs.filterMap r := by
  rw [filterMap_modify hx, hold, hnew, splice]
  simp

/-- Where something is made from the item before and after, this is what changes. -/
theorem filterMap_modify_of_some {g : β → β} {y : β} (hx : xs[i]? = some x) (hold : r x = some y)
    (hnew : r (h x) = some (g y)) :
    (xs.modify i h).filterMap r = (xs.filterMap r).modify ((xs.take i).filterMap r).length g := by
  obtain ⟨hi, hxi⟩ := List.getElem?_eq_some_iff.1 hx
  rw [List.modify_eq_take_cons_drop hi, hxi, filterMap_middle, hnew, filterMap_of_getElem hx, hold,
    List.modify_eq_take_drop, List.take_left, List.drop_left]
  rfl

end OneItem

/-! ### A changed group -/

/-- The groups are no children. -/
theorem children_modify_buckets (f : Json → Json) (members : Keyed Json) :
    children (Keyed.modify "buckets" f members) = children members := by
  have hplain : memberName false "buckets" = none := by
    rw [memberName, splitKey_eq_none_iff.2 (by decide)]
    rfl
  rw [children, children, readEntries_eq_filterMap, readEntries_eq_filterMap, Keyed.modify,
    List.filterMap_map]
  congr 2
  funext e
  obtain ⟨k, v⟩ := e
  by_cases hk : k = "buckets"
  · subst hk
    simp [hplain]
  · simp [hk]

/-- A change of the groups of a node changes nothing else of it. -/
theorem readNode_editBuckets (mark : String) (v : Json) {f : Json → Json}
    {g : List (Bucket Aggregate) → List (Bucket Aggregate)}
    (h : ∀ members, v = .obj members →
      groups? (Form.ofMark mark).groupKey (Keyed.modify "buckets" f members)
        = (groups? (Form.ofMark mark).groupKey members).map g) :
    readNode mark (v.editMember "buckets" f) = (readNode mark v).editGroups g := by
  cases v with
  | obj members =>
    have hgroups := h members rfl
    -- The count, the value and the children are read from members of other names.
    have hcount : docCount? (Keyed.modify "buckets" f members) = docCount? members := by
      rw [docCount?, docCount?, Keyed.get_modify_of_ne (by decide)]
    have hvalue : metricValue? (Keyed.modify "buckets" f members) = metricValue? members := by
      rw [metricValue?, metricValue?, Keyed.get_modify_of_ne (by decide)]
    have hnodes := children_modify_buckets f members
    rw [Json.editMember, readNode_obj, readNode_obj]
    cases hform : Form.ofMark mark with
    | filter =>
      cases hn : docCount? members <;> simp [Form.read?, hcount, hn, hnodes, Aggregate.editGroups]
    | global =>
      cases hn : docCount? members <;> simp [Form.read?, hcount, hn, hnodes, Aggregate.editGroups]
    | terms =>
      rw [hform, Form.groupKey] at hgroups
      cases hg : groups? termsKey members <;> simp [Form.read?, hgroups, hg, Aggregate.editGroups]
    | dateHistogram =>
      rw [hform, Form.groupKey] at hgroups
      · cases hg : groups? dateKey members <;> simp [Form.read?, hgroups, hg, Aggregate.editGroups]
      · exact Form.noConfusion
    | metric kind => simp [Form.read?, hvalue, Aggregate.editGroups]
    | other => rfl
  | _ => rfl

/-- A changed item among the groups of a node changes what is read from this item. -/
theorem readNode_editItem (mark : String) (v : Json) (i : Nat) {f : Json → Json}
    {g : List (Bucket Aggregate) → List (Bucket Aggregate)}
    (h : ∀ items, groupItems? v = some items →
      (items.modify i f).filterMap (readGroup (Form.ofMark mark).groupKey)
        = g (items.filterMap (readGroup (Form.ofMark mark).groupKey))) :
    readNode mark (v.editMember "buckets" (Json.editItem i f))
      = (readNode mark v).editGroups g := by
  refine readNode_editBuckets mark v ?_
  rintro members rfl
  rw [groups?, groups?, Keyed.get_modify, if_pos rfl]
  change ∀ items, (Keyed.get? "buckets" members).bind Json.items? = some items → _ at h
  cases hbuckets : Keyed.get? "buckets" members with
  | none => rfl
  | some w =>
    rw [hbuckets] at h
    cases w with
    | arr items => exact congrArg some (h items rfl)
    | _ => rfl

/-- If the same groups are read from the items, nothing changes. -/
theorem readNode_editItem_of_same (mark : String) (v : Json) (i : Nat) {f : Json → Json}
    (h : ∀ items, groupItems? v = some items →
      (items.modify i f).filterMap (readGroup (Form.ofMark mark).groupKey)
        = items.filterMap (readGroup (Form.ofMark mark).groupKey)) :
    readNode mark (v.editMember "buckets" (Json.editItem i f)) = readNode mark v := by
  rw [readNode_editItem mark v i (g := fun groups => groups) h, Aggregate.editGroups_id]

/-! ### A change at the end of a way -/

/-- Changes the aggregation that a located node is read into. -/
def changeAt (g : Aggregate → Aggregate) : Option Spot → Aggregate → Aggregate
  | none, a => a
  | some s, a => a.editAt g s.place

/-- Below a child, the change is one of the child. -/
theorem changeAt_child (g : Aggregate → Aggregate) (name : String) (s : Option Spot)
    (a : Aggregate) :
    changeAt g (s.map (Spot.below (.child name))) a
      = a.editChildren (Keyed.modify name (changeAt g s)) := by
  cases s with
  | none =>
    have hid : Keyed.modify name (changeAt g none) = fun nodes => nodes :=
      funext (Keyed.modify_id name)
    rw [hid, Aggregate.editChildren_id]
    rfl
  | some s => rfl

/-- Below a child of a group, the change is one of the group. -/
theorem changeAt_inGroup (g : Aggregate → Aggregate) (i : Nat) (name : String) (s : Option Spot)
    (a : Aggregate) :
    changeAt g (s.map (Spot.below (.inGroup i name))) a
      = a.editGroups fun groups => groups.modify i fun b =>
          ⟨b.key, b.docCount, Keyed.modify name (changeAt g s) b.children⟩ := by
  cases s with
  | none =>
    have hid : (fun b : Bucket Aggregate =>
        (⟨b.key, b.docCount, Keyed.modify name (changeAt g none) b.children⟩ : Bucket Aggregate))
          = id := by
      funext b
      exact congrArg (Bucket.mk b.key b.docCount) (Keyed.modify_id name b.children)
    simp only [hid, List.modify_id]
    exact (Aggregate.editGroups_id a).symm
  | some s => rfl

section Steps

variable {f : Json → Json} {g : Aggregate → Aggregate} {rest : List (Step TypedKey)}

/-- One step to a child: a change of the child at the place of the located node is one of the node
above it. -/
theorem readNode_child (key : TypedKey) (mark : String) (v : Json)
    (h : ∀ body, v.members?.bind (deciding? false key) = some body →
      readNode key.mark (f body)
        = changeAt g (locate rest key.mark body) (readNode key.mark body)) :
    readNode mark (v.editMember key.text f)
      = changeAt g (locate (.child key :: rest) mark v) (readNode mark v) := by
  rw [locate]
  cases hbody : v.members?.bind (deciding? false key) with
  | none =>
    rw [readNode_editMember mark key v (g := id) (by simp [hbody]), hbody]
    rfl
  | some body =>
    rw [readNode_editMember mark key v (g := changeAt g (locate rest key.mark body))
      (by simpa [hbody] using h body hbody), hbody]
    exact (changeAt_child g key.name _ _).symm

/-- One step to a child of a group. The item of the group may be missing or left out, or have
another child of the same name; then the change is not seen. -/
theorem readNode_inGroup (i : Nat) (key : TypedKey) (mark : String) (v : Json)
    (h : ∀ items item b body, groupItems? v = some items → items[i]? = some item →
      readGroup (Form.ofMark mark).groupKey item = some b →
      item.members?.bind (deciding? false key) = some body →
      readNode key.mark (f body)
        = changeAt g (locate rest key.mark body) (readNode key.mark body)) :
    readNode mark (v.editMember "buckets" (Json.editItem i (Json.editMember key.text f)))
      = changeAt g (locate (.inGroup i key :: rest) mark v) (readNode mark v) := by
  rw [locate]
  -- The cases are those of `locate`; in all but the last the same groups are read as before.
  cases hitems : groupItems? v with
  | none => exact readNode_editItem_of_same mark v i (by simp [hitems])
  | some items =>
    rw [Option.bind_some]
    cases hitem : items[i]? with
    | none =>
      have hi : items.length ≤ i := List.getElem?_eq_none_iff.1 hitem
      exact readNode_editItem_of_same mark v i (by simp [hitems, List.modify_eq_self hi])
    | some item =>
      rw [Option.bind_some]
      cases hgroup : readGroup (Form.ofMark mark).groupKey item with
      | none =>
        have hleft := readGroup_editMember_of_none (Form.ofMark mark) key f hgroup
        exact readNode_editItem_of_same mark v i
          (by simpa [hitems] using filterMap_modify_of_none hitem hgroup hleft)
      | some b =>
        rw [Option.bind_some]
        cases hbody : item.members?.bind (deciding? false key) with
        | none =>
          have hsame := readGroup_editMember (Form.ofMark mark) key item (f := f) (g := id)
            (by simp [hbody])
          rw [hbody, hgroup] at hsame
          have hread := filterMap_modify_of_some (g := id) hitem hgroup hsame
          rw [List.modify_id] at hread
          exact readNode_editItem_of_same mark v i (by simpa [hitems] using hread)
        | some body =>
          have hnew := readGroup_editMember (Form.ofMark mark) key item
            (g := changeAt g (locate rest key.mark body))
            (by simpa [hbody] using h items item b body hitems hitem hgroup hbody)
          rw [hbody, hgroup] at hnew
          rw [Option.bind_some, changeAt_inGroup]
          refine readNode_editItem mark v i ?_
          intro items' hitems'
          obtain rfl : items = items' := Option.some.inj (hitems.symm.trans hitems')
          exact filterMap_modify_of_some hitem hgroup hnew

end Steps

/-- An answer that is changed at the end of a way is read as before, with a change at the place of
the node that stands there. -/
theorem readNode_editAt {f : Json → Json} {g : Aggregate → Aggregate}
    (steps : List (Step TypedKey)) (mark : String) (v : Json)
    (h : ∀ s, locate steps mark v = some s →
      readNode s.mark (f s.body) = g (readNode s.mark s.body)) :
    readNode mark (editAt f steps v) = changeAt g (locate steps mark v) (readNode mark v) := by
  -- By induction on the way: the node that is located further down is the same for each step.
  induction steps generalizing mark v with
  | nil => exact h ⟨[], mark, v⟩ rfl
  | cons step rest ih =>
    cases step with
    | child key =>
      rw [editAt]
      refine readNode_child key mark v fun body hbody => ih key.mark body fun s hs => ?_
      exact h (s.below (.child key.name)) (by simp [locate, hbody, hs])
    | inGroup i key =>
      rw [editAt]
      refine readNode_inGroup i key mark v fun items item b body hitems hitem hgroup hbody =>
        ih key.mark body fun s hs => ?_
      exact h (s.below (.inGroup (groupsBefore (Form.ofMark mark).groupKey items i) key.name))
        (by simp [locate, hitems, hitem, hgroup, hbody, hs])

/-- The node at the end of a way down that starts at a member of an answer. -/
def locateIn (members : Keyed Json) (key : TypedKey) (steps : List (Step TypedKey)) : Option Spot :=
  (deciding? true key members).bind (locate steps key.mark)

/-- A change of an answer whose node has no place is not seen. -/
theorem ofTypedKeys_editAt_of_none {members : Keyed Json} {key : TypedKey}
    {steps : List (Step TypedKey)} (hspot : locateIn members key steps = none) (f : Json → Json) :
    Aggregates.ofTypedKeys (Keyed.modify key.text (editAt f steps) members)
      = Aggregates.ofTypedKeys members := by
  -- Where the node has no place, the member is read as before.
  have hsame : ∀ body, deciding? true key members = some body →
      readNode key.mark (editAt f steps body) = id (readNode key.mark body) := by
    intro body hbody
    have hnone : locate steps key.mark body = none := by simpa [locateIn, hbody] using hspot
    rw [readNode_editAt (g := id) steps key.mark body (by simp [hnone]), hnone]
    rfl
  have hread := ofList_readEntries_modify true key members hsame
  have hid (nodes : Aggregates) : Keyed.modify key.name id nodes = nodes := Keyed.modify_id _ _
  rwa [hid, ite_self] at hread

/-- A change of a node that has a place is seen at this place. -/
theorem ofTypedKeys_editAt_of_some {members : Keyed Json} {key : TypedKey}
    {steps : List (Step TypedKey)} {s : Spot} (hspot : locateIn members key steps = some s)
    {f : Json → Json} {g : Aggregate → Aggregate}
    (h : readNode s.mark (f s.body) = g (readNode s.mark s.body)) :
    Aggregates.ofTypedKeys (Keyed.modify key.text (editAt f steps) members)
      = Keyed.modify key.name (Aggregate.editAt g s.place) (Aggregates.ofTypedKeys members) := by
  obtain ⟨body, hbody, hs⟩ := Option.bind_eq_some_iff.1 hspot
  have hchange : ∀ body', deciding? true key members = some body' →
      readNode key.mark (editAt f steps body')
        = Aggregate.editAt g s.place (readNode key.mark body') := by
    intro body' hbody'
    obtain rfl : body = body' := Option.some.inj (hbody.symm.trans hbody')
    have hedit := readNode_editAt steps key.mark body (f := f) (g := g) (by
      intro s' hs'
      obtain rfl : s = s' := Option.some.inj (hs.symm.trans hs')
      exact h)
    rwa [hs] at hedit
  have hread := ofList_readEntries_modify true key members hchange
  rwa [hbody, Option.isSome_some, if_pos rfl] at hread

/-! ### Who decides -/

/-- The key gives the name: behind a mark and the first `#`, or at the root as a whole. -/
def Gives (root : Bool) (key name : String) : Prop :=
  (∃ mark : String, '#' ∉ mark.toList ∧ key = mark ++ "#" ++ name) ∨
    root = true ∧ '#' ∉ key.toList ∧ key = name

/-- Something stands under a name exactly when a member gives the name, and among these members the
one with the greatest key alone decides what it is. -/
structure DecidedByGreatest (root : Bool) (members : Keyed Json) (nodes : Aggregates) : Prop where
  mem_names_iff : ∀ name, name ∈ Keyed.names nodes ↔ ∃ e ∈ members, Gives root e.1 name
  get_of_greatest : ∀ name, ∀ e ∈ members, Gives root e.1 name →
    (∀ e' ∈ members, Gives root e'.1 name → e'.1 ≤ e.1) →
      Keyed.get? name nodes = some (readMember e.1 e.2)

/-- The members of an object are read in this way. -/
theorem decidedByGreatest {root : Bool} {members : Keyed Json} (h : Keyed.Sorted members) :
    DecidedByGreatest root members (.ofList (readEntries root members)) := by
  constructor
  · intro name
    rw [← Keyed.isSome_get_iff, get_readEntries, Option.isSome_map, List.find?_isSome]
    simp only [List.mem_reverse, decide_eq_true_eq, memberName_eq_some_iff, Gives]
  · intro name e he hgives hgreatest
    rw [get_readEntries]
    cases hlast : members.reverse.find? fun e => memberName root e.1 = some name with
    | none =>
      have hnot := List.find?_eq_none.1 hlast e (List.mem_reverse.2 he)
      exact absurd (memberName_eq_some_iff.2 hgives) (by simpa using hnot)
    | some last =>
      obtain ⟨hlastgives, behind, before, hsplit, hbehind⟩ := List.find?_eq_some_iff_append.1 hlast
      have hlastmem : last ∈ members := List.mem_reverse.1 (List.mem_of_find?_eq_some hlast)
      have hle : last.1 ≤ e.1 :=
        hgreatest last hlastmem (memberName_eq_some_iff.1 (by simpa using hlastgives))
      -- The members are in order, so one that stands before `last` has a smaller key.
      have hdesc : (behind ++ last :: before).Pairwise fun a b => b.1 < a.1 := by
        rw [← hsplit]
        exact List.pairwise_reverse.2 h
      have hmem : e ∈ behind ++ last :: before := hsplit ▸ List.mem_reverse.2 he
      have heq : e = last := by
        rcases List.mem_append.1 hmem with hmem | hmem
        · have hnot := hbehind e hmem
          rw [memberName_eq_some_iff.2 hgives] at hnot
          simp at hnot
        · rcases List.mem_cons.1 hmem with heq | hmem
          · exact heq
          · have hlt := (List.pairwise_cons.1 (List.pairwise_append.1 hdesc).2.1).1 e hmem
            exact absurd hlt (String.not_lt.2 hle)
      rw [heq]
      rfl

end TypedKeys

open TypedKeys

/-- Whatever is put in the place of a node or a group, only the place of this node or group changes
in what is read, and at each level the member with the greatest key decides alone. -/
theorem Aggregates.ofTypedKeys_contained (members : Keyed Json) :
    -- What has no place is not seen, whatever becomes of it.
    (∀ key steps f, locateIn members key steps = none →
      ofTypedKeys (Keyed.modify key.text (editAt f steps) members) = ofTypedKeys members) ∧
    -- Another value in the place of a node.
    (∀ key steps s v, locateIn members key steps = some s →
      ofTypedKeys (Keyed.modify key.text (editAt (fun _ => v) steps) members)
        = Keyed.modify key.name (Aggregate.editAt (fun _ => readNode s.mark v) s.place)
            (ofTypedKeys members)) ∧
    -- Another value in the place of an item among the groups of a node.
    (∀ key steps s items i item v, locateIn members key steps = some s →
      groupItems? s.body = some items → items[i]? = some item →
      ofTypedKeys (Keyed.modify key.text
          (editAt (Json.editMember "buckets" (Json.editItem i fun _ => v)) steps) members)
        = Keyed.modify key.name
            (Aggregate.editAt
              (Aggregate.editGroups (splice (groupsBefore (Form.ofMark s.mark).groupKey items i)
                (readGroup (Form.ofMark s.mark).groupKey item).toList.length
                (readGroup (Form.ofMark s.mark).groupKey v).toList))
              s.place)
            (ofTypedKeys members)) ∧
    -- What stands under the names at the root, and inside nodes and groups.
    (Keyed.Sorted members → DecidedByGreatest true members (ofTypedKeys members)) ∧
    ∀ inner, Keyed.Sorted inner →
      (∀ mark n nodes, readNode mark (.obj inner) = .filter n nodes ∨
        readNode mark (.obj inner) = .global n nodes → DecidedByGreatest false inner nodes) ∧
      ∀ form b, readGroup (Form.groupKey form) (.obj inner) = some b →
        DecidedByGreatest false inner b.children := by
  refine ⟨?_, ?_, ?_, fun hsorted => decidedByGreatest hsorted, ?_⟩
  · intro key steps f hspot
    exact ofTypedKeys_editAt_of_none hspot f
  · intro key steps s v hspot
    exact ofTypedKeys_editAt_of_some hspot rfl
  · -- The item is changed inside the node above it, so this is a change of that node.
    intro key steps s items i item v hspot hitems hitem
    refine ofTypedKeys_editAt_of_some hspot (readNode_editItem s.mark s.body i ?_)
    intro items' hitems'
    obtain rfl : items = items' := Option.some.inj (hitems.symm.trans hitems')
    exact filterMap_modify hitem
  · intro inner hsorted
    have hchildren : DecidedByGreatest false inner (children inner) := decidedByGreatest hsorted
    constructor
    · intro mark n nodes hread
      have hnode := readNode_of_samePlain (SamePlain.refl inner) mark
      have hnodes : nodes = children inner := by
        rcases hread with hread | hread <;> simpa [hread, Aggregate.editChildren] using hnode
      rwa [hnodes]
    · intro form b hread
      have hgroup := readGroup_of_samePlain (SamePlain.refl inner) form
      have hnodes : b.children = children inner := by
        rw [hread] at hgroup
        exact congrArg Bucket.children (Option.some.inj hgroup)
      rwa [hnodes]

/-- An answer with groups inside a filter. The first item among the groups has no key, and two
members give the name `trend`. -/
def brokenAnswer : Keyed Json :=
  [("date_histogram#trend", .null),
   ("filter#open", .obj
     [("doc_count", .int 3),
      ("sterms#company", .obj [("buckets", .arr
        [.obj [("doc_count", .int 1)],
         .obj [("avg#years", .obj []), ("doc_count", .int 2), ("key", .str "META")]])])]),
   ("sum#trend", .obj [])]

/-- What is read from this answer. -/
theorem ofTypedKeys_brokenAnswer : Aggregates.ofTypedKeys brokenAnswer
    = [("open", .filter 3 [("company", .terms [⟨"META", 2, [("years", .metric .avg none)]⟩])]),
       ("trend", .metric .sum none)] := by
  have hkeys : splitKey "date_histogram#trend" = some ("date_histogram", "trend") ∧
      splitKey "filter#open" = some ("filter", "open") ∧
      splitKey "sterms#company" = some ("sterms", "company") ∧
      splitKey "avg#years" = some ("avg", "years") ∧ splitKey "sum#trend" = some ("sum", "trend") :=
    ⟨splitKey_text ⟨"date_histogram", "trend", by decide⟩,
      splitKey_text ⟨"filter", "open", by decide⟩, splitKey_text ⟨"sterms", "company", by decide⟩,
      splitKey_text ⟨"avg", "years", by decide⟩, splitKey_text ⟨"sum", "trend", by decide⟩⟩
  have hplain : splitKey "doc_count" = none ∧ splitKey "key" = none :=
    ⟨splitKey_eq_none_iff.2 (by decide), splitKey_eq_none_iff.2 (by decide)⟩
  have hforms : Form.ofMark "date_histogram" = .dateHistogram ∧ Form.ofMark "filter" = .filter ∧
      Form.ofMark "sterms" = .terms ∧ Form.ofMark "avg" = .metric .avg ∧
      Form.ofMark "sum" = .metric .sum := ⟨rfl, rfl, rfl, rfl, rfl⟩
  have hentries : readEntries true brokenAnswer
      = [("trend", .unknown "date_histogram"),
         ("open", .filter 3 [("company", .terms [⟨"META", 2, [("years", .metric .avg none)]⟩])]),
         ("trend", .metric .sum none)] := by
    simp [brokenAnswer, readEntries, readNode, findGroups, readGroups, readItems, readGroup, hkeys,
      hplain, hforms, docCount?, Json.count?, termsKey, formattedKey, metricValue?, Keyed.ofList,
      Keyed.insert]
  rw [Aggregates.ofTypedKeys, hentries]
  rfl

/-- A node inside the second item is read into the first group. Nothing else changes if this node or
the first item is replaced, and the histogram is not seen at all. -/
theorem ofTypedKeys_contained_brokenAnswer :
    (∀ f, Aggregates.ofTypedKeys (Keyed.modify "date_histogram#trend" (editAt f []) brokenAnswer)
      = [("open", .filter 3 [("company", .terms [⟨"META", 2, [("years", .metric .avg none)]⟩])]),
         ("trend", .metric .sum none)]) ∧
    (∀ v, Aggregates.ofTypedKeys (Keyed.modify "filter#open"
          (editAt (fun _ => v) [.child ⟨"sterms", "company", by decide⟩,
            .inGroup 1 ⟨"avg", "years", by decide⟩]) brokenAnswer)
      = [("open", .filter 3 [("company", .terms [⟨"META", 2, [("years", readNode "avg" v)]⟩])]),
         ("trend", .metric .sum none)]) ∧
    (∀ v, Aggregates.ofTypedKeys (Keyed.modify "filter#open"
          (editAt (Json.editMember "buckets" (Json.editItem 0 fun _ => v))
            [.child ⟨"sterms", "company", by decide⟩]) brokenAnswer)
      = [("open", .filter 3 [("company", .terms
          ((readGroup termsKey v).toList ++ [⟨"META", 2, [("years", .metric .avg none)]⟩]))]),
         ("trend", .metric .sum none)]) ∧
    DecidedByGreatest true brokenAnswer (Aggregates.ofTypedKeys brokenAnswer) ∧
    DecidedByGreatest false [("doc_count", .int 1)] [] := by
  obtain ⟨hunseen, hnode, hgroup, hroot, hinner⟩ := Aggregates.ofTypedKeys_contained brokenAnswer
  have hread := ofTypedKeys_brokenAnswer
  refine ⟨?_, ?_, ?_, hroot ?_, ?_⟩
  · intro f
    have hspot : locateIn brokenAnswer ⟨"date_histogram", "trend", by decide⟩ [] = none := by rfl
    exact (hunseen ⟨"date_histogram", "trend", by decide⟩ [] f hspot).trans hread
  · intro v
    have hspot : locateIn brokenAnswer ⟨"filter", "open", by decide⟩
        [.child ⟨"sterms", "company", by decide⟩, .inGroup 1 ⟨"avg", "years", by decide⟩]
        = some ⟨[.child "company", .inGroup 0 "years"], "avg", .obj []⟩ := by rfl
    have hchanged := hnode ⟨"filter", "open", by decide⟩ _ _ v hspot
    rw [hread] at hchanged
    exact hchanged
  · intro v
    have hspot : locateIn brokenAnswer ⟨"filter", "open", by decide⟩
        [.child ⟨"sterms", "company", by decide⟩]
        = some ⟨[.child "company"], "sterms", .obj [("buckets", .arr
          [.obj [("doc_count", .int 1)],
           .obj [("avg#years", .obj []), ("doc_count", .int 2), ("key", .str "META")]])]⟩ := by rfl
    have hchanged := hgroup ⟨"filter", "open", by decide⟩ _ _ _ 0 _ v hspot rfl rfl
    have hform : (Form.ofMark "sterms").groupKey = termsKey := rfl
    have hleft : readGroup termsKey (.obj [("doc_count", .int 1)]) = none := by rfl
    rw [hread, hform, hleft] at hchanged
    exact hchanged
  · simp only [brokenAnswer, Keyed.Sorted]
    decide
  · have hfilter : readNode "filter" (.obj [("doc_count", .int 1)]) = .filter 1 [] := by rfl
    exact (hinner [("doc_count", .int 1)] (by simp [Keyed.Sorted])).1 "filter" 1 [] (Or.inl hfilter)

end TypedSearch
