import TypedSearch.FileTree
/-!
# `TypedSearch.Proofs.FileTree`: what was written is found

Whether a file can be written under a path does not depend on its content. Writing it makes
directories and then puts the file in place of what was no directory, so that the way to the file
leads through the same directories afterwards.

* `walk_put`: a way through directories is not changed by a file.
* `write_of_writable`: the file that was written is found under the path.
-/

set_option autoImplicit false

namespace TypedSearch.FileTree

/-- Can a file be written under a path? -/
def Writable (t : FileTree) (path : String) : Prop := ∃ content, (t.write path content).2 = true

/-- What there is at a place where something was put, and elsewhere. -/
theorem node_put (t : FileTree) {place : Location} (hplace : place ≠ []) (n : FileNode)
    (other : Location) :
    (t.put place n).node? other = if other = place then some n else t.node? other := by
  rw [node?, node?, put]
  by_cases hroot : other = []
  · have hne : other ≠ place := fun h => hplace (h.symm.trans hroot)
    rw [if_pos hroot, if_neg hne, if_pos hroot]
  · rw [if_neg hroot, if_neg hroot]
    by_cases h : other = place
    · subst h
      rw [if_pos rfl, List.find?_cons_of_pos (by simp)]
      rfl
    · -- Only what stood at the place before is dropped.
      rw [if_neg h, List.find?_cons_of_neg (by simpa using Ne.symm h), List.find?_filter]
      congr 2
      funext e
      by_cases he : e.1 = other
      · simp [he, h]
      · simp [he]

/-- A way through directories is not changed by a file that is put where no directory was. -/
theorem walk_put {t : FileTree} {place : Location} (hplace : place ≠ [])
    (hnode : t.node? place ≠ some .directory) (content : String) {names : List String}
    {start stop : Location} (h : t.walk? start names = some stop) :
    (t.put place (.file content)).walk? start names = some stop := by
  induction names generalizing start with
  | nil => exact h
  | cons name names ih =>
    rw [walk?] at h ⊢
    split at h
    · next hstart =>
      -- A step is made from a directory, and the file is not put there.
      have hne : start ≠ place := fun heq => hnode (heq ▸ hstart)
      rw [node_put t hplace, if_neg hne, if_pos hstart]
      exact ih h
    · cases h

/-- A way ends with its last name. -/
theorem walk_append_singleton (t : FileTree) (start : Location) (names : List String)
    (name : String) :
    t.walk? start (names ++ [name]) = (t.walk? start names).bind fun place =>
      if t.node? place = some .directory then some (stepTo place name) else none := by
  induction names generalizing start with
  | nil => rfl
  | cons n names ih =>
    rw [List.cons_append, walk?, walk?]
    split
    · exact ih _
    · rfl

/-- A file is put at a place below a directory, where no directory is. -/
theorem putFile_eq_some_iff {t t' : FileTree} {path content : String} :
    t.putFile? path content = some t' ↔
      ∃ parent name, (pathNames path).getLast? = some name ∧
        t.walk? (t.start path) (pathNames path).dropLast = some parent ∧
        (isPath path = true ∧ isFileName name = true ∧ t.node? parent = some .directory ∧
          t.node? (parent ++ [name]) ≠ some .directory) ∧
        t.put (parent ++ [name]) (.file content) = t' := by
  simp only [putFile?, Option.bind_eq_bind, Option.bind_eq_some_iff, Option.ite_none_right_eq_some,
    Option.some.injEq]
  constructor
  · rintro ⟨name, hname, parent, hparent, hall, hput⟩
    exact ⟨parent, name, hname, hparent, hall, hput⟩
  · rintro ⟨parent, name, hname, hparent, hall, hput⟩
    exact ⟨name, hname, parent, hparent, hall, hput⟩

/-- The file that was put under a path is found there. -/
theorem status_of_putFile {t t' : FileTree} {path content : String}
    (h : t.putFile? path content = some t') : t'.status path = .text content := by
  obtain ⟨parent, name, hlast, hwalk, ⟨hpath, hname, hparent, hnode⟩, rfl⟩ :=
    putFile_eq_some_iff.1 h
  have hplace : parent ++ [name] ≠ [] := by simp
  have hnames : pathNames path = (pathNames path).dropLast ++ [name] := by
    obtain ⟨names, hsplit⟩ := List.getLast?_eq_some_iff.1 hlast
    rw [hsplit, List.dropLast_concat]
  have hstep : stepTo parent name = parent ++ [name] := by
    simp only [isFileName, Bool.and_eq_true, decide_eq_true_eq] at hname
    rw [stepTo, if_neg (by simp [hname]), if_neg hname.1.2]
  have hempty : path ≠ "" := by
    rintro rfl
    obtain rfl : "" = name := Option.some.inj hlast
    cases hname
  have hparent' : (t.put (parent ++ [name]) (.file content)).node? parent = some .directory := by
    have hne : parent ≠ parent ++ [name] := by simp
    rw [node_put t hplace, if_neg hne, hparent]
  -- The way to the parent is what it was, and one more step leads to the file.
  have hlocate : (t.put (parent ++ [name]) (.file content)).locate? path
      = some (parent ++ [name]) := by
    rw [locate?, if_neg (by simp [hempty, hpath]), hnames, walk_append_singleton]
    show ((t.put (parent ++ [name]) (.file content)).walk? (t.start path) _).bind _ = _
    rw [walk_put hplace hnode content hwalk, Option.bind_some, if_pos hparent', hstep]
  rw [status, hlocate, Option.bind_some, node_put t hplace, if_pos rfl]

/-- Under a path where a file can be written every text can be, and it is found there
afterwards. -/
theorem write_of_writable {t : FileTree} {path : String} (h : t.Writable path)
    (content : String) :
    ∃ t', t.write path content = (t', true) ∧ t'.status path = .text content := by
  obtain ⟨other, hother⟩ := h
  -- Directories are made first, and in the same way for every text.
  rw [write] at hother ⊢
  generalize t.makeDirectory (parentPath path) = made at hother ⊢
  obtain ⟨made, _ | _⟩ := made
  · cases hother
  · have hput : ∃ t', made.putFile? path content = some t' := by
      cases hput : made.putFile? path other with
      | none => simp [hput] at hother
      | some t' =>
        obtain ⟨parent, name, hname, hparent, hall, -⟩ := putFile_eq_some_iff.1 hput
        exact ⟨_, putFile_eq_some_iff.2 ⟨parent, name, hname, hparent, hall, rfl⟩⟩
    obtain ⟨t', ht'⟩ := hput
    exact ⟨t', by simp only [ht'], status_of_putFile ht'⟩

end TypedSearch.FileTree
