import TypedSearch.Proofs.Document
import TypedSearch.Proofs.Search.Request
import TypedSearch.Schema.Jobs
/-!
# `TypedSearch.Proofs.Search.Paging`: paging loses and repeats nothing

A search asks for one hit past its window, cuts that hit off again and then drops the hits that are
null. Whether there is a next page is decided on the hits as they came. So a page has the documents
of its stretch of the hits, and pages of one size that follow each other have all documents once.

* `search_of_answers`: one page, over the hits that the engine has for the conditions.
* `walk_of_answers`: the pages from one on to the last, by induction on the number of pages left.
* `search_and_walk`: both, for pages of one size from the first on.
-/

set_option autoImplicit false

namespace TypedSearch

/-! ### Counting pages -/

/-- The number of pages of size `n` for so many hits. There is a first page also without hits. -/
def pageCount (n hits : Nat) : Nat := max 1 ((hits + n - 1) / n)

/-- No more hits than fit on one page have one page. -/
theorem pageCount_eq_one_iff {n hits : Nat} (hn : 0 < n) : pageCount n hits = 1 ↔ hits ≤ n := by
  have hone : (hits + n - 1) / n ≤ 1 ↔ hits ≤ n := by
    rw [← Nat.lt_succ_iff, Nat.div_lt_iff_lt_mul hn]
    omega
  rw [pageCount, ← hone]
  omega

/-- More hits than fit on one page have one page more than those behind it. -/
theorem pageCount_of_lt {n hits : Nat} (hn : 0 < n) (h : n < hits) :
    pageCount n hits = pageCount n (hits - n) + 1 := by
  -- Taking one page off both sides leaves the quotient one smaller, and still positive, so that
  -- the page that there always is makes no difference.
  have hsplit : hits + n - 1 = hits - n + n - 1 + n := by omega
  have hbehind : 1 ≤ (hits - n + n - 1) / n := by
    rw [Nat.le_div_iff_mul_le hn]
    omega
  rw [pageCount, pageCount, hsplit, Nat.add_div_right _ hn]
  omega

/-! ### The windows of pages -/

/-- The window of the page with a number, counted from 0. -/
def Window.page {F : Type} (cs : List (Condition F)) (n k : Nat)
    (h : (((k + 1) * n : Nat) : Int) ≤ maxOffset) : Window F where
  conditions := cs
  start := k * n
  stop := (k + 1) * n
  start_le_stop := Nat.mul_le_mul_right n (Nat.le_succ k)
  stop_le := h

/-- The window of a page asks for as many results as the page has room for. -/
theorem Window.size_page {F : Type} (cs : List (Condition F)) (n k : Nat)
    (h : (((k + 1) * n : Nat) : Int) ≤ maxOffset) : (Window.page cs n k h).size = n := by
  show (k + 1) * n - k * n = n
  rw [Nat.succ_mul, Nat.add_sub_cancel_left]

/-! ### The documents among hits -/

/-- The documents among hits, in order: each hit that is not null. -/
def Schema.documents {F : Type} (s : Schema F) (hits : List Json) : List Document :=
  hits.filterMap fun v => if v.isNull then none else s.model.decode? v

/-- The documents among hits are those among the first hits and then those behind them. -/
theorem Schema.documents_take_append_drop {F : Type} (s : Schema F) (n : Nat) (hits : List Json) :
    s.documents (hits.take n) ++ s.documents (hits.drop n) = s.documents hits := by
  rw [documents, documents, documents, ← List.filterMap_append, List.take_append_drop]

/-- A hit that is null or holds a document. -/
def Schema.Readable {F : Type} (s : Schema F) (v : Json) : Prop :=
  v.isNull = true ∨ ∃ doc, s.model.decode? v = some doc

/-- A page that is cut from readable hits has the documents among the hits that it has room for,
and counts all hits for whether there is a next page. -/
theorem Schema.readPage_of_readable {F : Type} {s : Schema F} {stretch : List Json}
    {size total : Nat} (h : ∀ v ∈ stretch, s.Readable v) :
    s.readPage size ⟨total, stretch⟩
      = .ok ⟨s.documents (stretch.take size), decide (size < stretch.length), total⟩ := by
  have hread : ∀ v ∈ stretch.take size,
      s.readHit v = .ok (if v.isNull then none else s.model.decode? v) := by
    intro v hv
    rw [readHit]
    rcases h v (List.mem_of_mem_take hv) with hnull | ⟨doc, hdoc⟩
    · rw [hnull]
      rfl
    · cases v.isNull with
      | true => rfl
      | false =>
        rw [hdoc, readDocument, DocumentModel.decode_eq_some_iff_ok.1 hdoc]
        rfl
  rw [readPage, Page.ofFetched, Page.filterMapM, mapM_eq_ok_map hread]
  simp only [Except.map, List.filterMap_map]
  rfl

/-- The hit past the stretch of a window is there exactly when the list is longer than its stop. -/
theorem Window.lt_length_stretch_iff {F : Type} {w : Window F} {hits : List Json} :
    w.size < ((hits.drop w.start).take w.fetchSize).length ↔ w.stop < hits.length := by
  have hle := w.start_le_stop
  rw [List.length_take, List.length_drop, fetchSize, size]
  omega

variable {m : Type → Type} [Monad m] {F : Type} [DecidableEq F] [FieldSet F]

namespace DocumentSearch

/-- The engine has these hits for the conditions, and answers a request with the stretch of them
that is asked for. The total that it reports is left open. -/
def Answers (d : DocumentSearch m F) (cs : List (Condition F)) (boosts : List Query)
    (hits : List Json) : Prop :=
  ∀ (w : Window F) (request : SearchRequest), w.conditions = cs →
    d.schema.buildRequest w boosts = .ok request →
    ∃ total, d.engine.search d.index request
      = pure (.ok ⟨total, (hits.drop request.start).take request.size⟩)

/-- The pages from one on until there is no next page. -/
def walk (d : DocumentSearch m F) (cs : List (Condition F)) (boosts : List Query) {n : Nat}
    (hn : 0 < n) (k : Nat) : m (Except SearchError (List (Page Document))) :=
  if h : (((k + 1) * n : Nat) : Int) ≤ maxOffset then do
    match ← d.search (.page cs n k h) boosts with
    | .error e => return .error e
    | .ok page =>
      if page.hasNext then return (← d.walk cs boosts hn (k + 1)).map (page :: ·)
      else return .ok [page]
  else return .ok []
termination_by maxOffset.toNat - k * n
decreasing_by
  rw [Nat.succ_mul] at h ⊢
  omega

variable {d : DocumentSearch m F} {cs : List (Condition F)} {boosts : List Query}
  {hits : List Json}

/-! ### One search -/

/-- A search answers with the documents of its stretch of the hits. There is a next page exactly
when there are hits behind the stretch. -/
theorem search_of_answers [LawfulMonad m] (hanswers : d.Answers cs boosts hits)
    (hreadable : ∀ v ∈ hits, d.schema.Readable v) {w : Window F} (hw : w.conditions = cs)
    (hknown : ∀ c ∈ cs ++ d.schema.defaults, d.schema.registries.isUnknown c.field = false) :
    ∃ total, d.search w boosts
      = pure (.ok ⟨d.schema.documents ((hits.drop w.start).take w.size),
          decide (w.stop < hits.length), total⟩) := by
  rw [← hw] at hknown
  obtain ⟨request, hrequest⟩ : ∃ request, d.schema.buildRequest w boosts = .ok request :=
    Schema.exists_buildRequest_iff.2 hknown
  obtain ⟨total, hengine⟩ := hanswers w request hw hrequest
  obtain ⟨q, -, hshape⟩ := Schema.buildRequest_eq_ok_iff.1 hrequest
  have hstretch : ∀ v ∈ (hits.drop w.start).take w.fetchSize, d.schema.Readable v := by
    intro v hv
    exact hreadable v (List.mem_of_mem_drop (List.mem_of_mem_take hv))
  -- The page is cut from hits that were cut one further on, so only the shorter cut counts.
  have hsize : min w.size w.fetchSize = w.size := Nat.min_eq_left (Nat.le_succ w.size)
  refine ⟨total, ?_⟩
  rw [search, hrequest]
  simp only [hengine, map_pure]
  rw [hshape]
  simp only [Except.bind, Schema.readPage_of_readable hstretch, List.take_take, hsize,
    Window.lt_length_stretch_iff, Except.mapError]

/-- The page with a number has the documents among its hits. There is a next page exactly when
there are hits behind it. -/
theorem search_page [LawfulMonad m] (hanswers : d.Answers cs boosts hits)
    (hreadable : ∀ v ∈ hits, d.schema.Readable v)
    (hknown : ∀ c ∈ cs ++ d.schema.defaults, d.schema.registries.isUnknown c.field = false)
    {n k : Nat} (hpage : (((k + 1) * n : Nat) : Int) ≤ maxOffset) :
    ∃ total, d.search (.page cs n k hpage) boosts
      = pure (.ok ⟨d.schema.documents ((hits.drop (k * n)).take n),
          decide ((k + 1) * n < hits.length), total⟩) := by
  obtain ⟨total, hsearch⟩ :=
    search_of_answers hanswers hreadable (w := Window.page cs n k hpage) rfl hknown
  rw [Window.size_page] at hsearch
  exact ⟨total, hsearch⟩

/-! ### All pages -/

/-- The pages from one on are that page and, if there is a next page, those from the next on. -/
theorem walk_of_search [LawfulMonad m] {n k : Nat} (hn : 0 < n) {page : Page Document}
    (hpage : (((k + 1) * n : Nat) : Int) ≤ maxOffset)
    (h : d.search (.page cs n k hpage) boosts = pure (.ok page)) :
    d.walk cs boosts hn k = if page.hasNext
      then (·.map (page :: ·)) <$> d.walk cs boosts hn (k + 1) else pure (.ok [page]) := by
  rw [walk, dif_pos hpage, h]
  simp only [pure_bind, map_eq_pure_bind]

/-- The pages from one on have the documents of the hits from there on. The induction is on the
number of pages that are left, which is one on the last page and one less on the next page. -/
theorem walk_of_answers [LawfulMonad m] (hanswers : d.Answers cs boosts hits)
    (hreadable : ∀ v ∈ hits, d.schema.Readable v)
    (hknown : ∀ c ∈ cs ++ d.schema.defaults, d.schema.registries.isUnknown c.field = false)
    {n : Nat} (hn : 0 < n) {left k : Nat} (hleft : pageCount n (hits.length - k * n) = left + 1)
    (hbound : (((k + left + 1) * n : Nat) : Int) ≤ maxOffset) :
    ∃ pages, d.walk cs boosts hn k = pure (.ok pages) ∧ pages.length = left + 1 ∧
      pages.flatMap (·.items) = d.schema.documents (hits.drop (k * n)) := by
  induction left generalizing k with
  | zero =>
    obtain ⟨total, hsearch⟩ := search_page hanswers hreadable hknown hbound
    have hfits : hits.length - k * n ≤ n := (pageCount_eq_one_iff hn).1 hleft
    have hnext : ¬ (k + 1) * n < hits.length := by
      rw [Nat.succ_mul]
      omega
    -- All that is left fits on this page, so cutting it changes nothing.
    have hrest : (hits.drop (k * n)).take n = hits.drop (k * n) :=
      List.take_of_length_le (by rw [List.length_drop]; exact hfits)
    rw [hrest, decide_eq_false hnext] at hsearch
    rw [walk_of_search hn hbound hsearch]
    exact ⟨_, rfl, rfl, List.flatMap_singleton _ _⟩
  | succ left ih =>
    have hpage : (((k + 1) * n : Nat) : Int) ≤ maxOffset := by
      have hle : (k + 1) * n ≤ (k + (left + 1) + 1) * n := Nat.mul_le_mul_right n (by omega)
      omega
    obtain ⟨total, hsearch⟩ := search_page hanswers hreadable hknown hpage
    have hmore : n < hits.length - k * n := by
      rw [← Nat.not_le, ← pageCount_eq_one_iff hn]
      omega
    have hnext : (k + 1) * n < hits.length := by
      rw [Nat.succ_mul]
      omega
    have hbehind : hits.length - (k + 1) * n = hits.length - k * n - n := by
      rw [Nat.succ_mul, Nat.sub_add_eq]
    have hleft' : pageCount n (hits.length - (k + 1) * n) = left + 1 := by
      rw [pageCount_of_lt hn hmore, ← hbehind] at hleft
      exact Nat.succ.inj hleft
    have hbound' : (((k + 1 + left + 1) * n : Nat) : Int) ≤ maxOffset := by
      rwa [show k + 1 + left + 1 = k + (left + 1) + 1 by omega]
    -- The hits from the next page on are those from this page on without the ones of this page.
    obtain ⟨pages, hwalk, hlength, hitems⟩ := ih hleft' hbound'
    rw [decide_eq_true hnext] at hsearch
    rw [walk_of_search hn hpage hsearch, hwalk]
    refine ⟨_, map_pure _ _, ?_, ?_⟩
    · rw [List.length_cons, hlength]
    · rw [List.flatMap_cons, hitems, Nat.succ_mul, ← List.drop_drop]
      exact d.schema.documents_take_append_drop n (hits.drop (k * n))

/-- With an unknown field there is no page but an error. -/
theorem search_of_unknown (d : DocumentSearch m F) (boosts : List Query) {w : Window F}
    (h : ∃ c ∈ w.conditions ++ d.schema.defaults, d.schema.registries.isUnknown c.field = true) :
    ∃ field, d.schema.registries.isUnknown field = true ∧
      d.search w boosts = pure (.error (.unknownField (FieldSet.name field))) := by
  obtain ⟨field, hunknown, herror⟩ : ∃ field, d.schema.registries.isUnknown field = true ∧
      d.schema.buildRequest w boosts = .error (.unknownField (FieldSet.name field)) :=
    Schema.exists_unknownField_of_buildRequest h
  refine ⟨field, hunknown, ?_⟩
  rw [search, herror]

/-- Every page of the conditions has the documents among its hits, with a next page exactly when
there are more hits. The pages from the first on are as many as the hits fill, and have all
documents, once and in order. -/
theorem search_and_walk [LawfulMonad m] (d : DocumentSearch m F) (cs : List (Condition F))
    (boosts : List Query) {hits : List Json} (hanswers : d.Answers cs boosts hits)
    (hreadable : ∀ v ∈ hits, d.schema.Readable v) {n : Nat} (hn : 0 < n) :
    ((∃ c ∈ cs ++ d.schema.defaults, d.schema.registries.isUnknown c.field = true) →
      ∀ k h, ∃ field, d.schema.registries.isUnknown field = true ∧
        d.search (.page cs n k h) boosts = pure (.error (.unknownField (FieldSet.name field)))) ∧
    ((∀ c ∈ cs ++ d.schema.defaults, d.schema.registries.isUnknown c.field = false) →
      (∀ k h, ∃ total, d.search (.page cs n k h) boosts
        = pure (.ok ⟨d.schema.documents ((hits.drop (k * n)).take n),
            decide ((k + 1) * n < hits.length), total⟩)) ∧
      (((pageCount n hits.length * n : Nat) : Int) ≤ maxOffset →
        ∃ pages, d.walk cs boosts hn 0 = pure (.ok pages) ∧
          pages.length = pageCount n hits.length ∧
          pages.flatMap (·.items) = d.schema.documents hits)) := by
  constructor
  · intro hunknown k h
    exact search_of_unknown d boosts (w := Window.page cs n k h) hunknown
  · intro hknown
    refine ⟨fun k h => search_page hanswers hreadable hknown h, ?_⟩
    intro hbound
    have hpositive : 1 ≤ pageCount n hits.length := Nat.le_max_left _ _
    obtain ⟨left, hleft⟩ := Nat.exists_eq_add_of_le' hpositive
    rw [hleft] at hbound ⊢
    have hfirst : pageCount n (hits.length - 0 * n) = left + 1 := by
      rw [Nat.zero_mul, Nat.sub_zero, hleft]
    have hstop : (((0 + left + 1) * n : Nat) : Int) ≤ maxOffset := by rwa [Nat.zero_add]
    obtain ⟨pages, hwalk, hlength, hitems⟩ :=
      walk_of_answers hanswers hreadable hknown hn hfirst hstop
    rw [Nat.zero_mul, List.drop_zero] at hitems
    exact ⟨pages, hwalk, hlength, hitems⟩

end DocumentSearch

/-- Five hits of an index of job postings, the third without content. -/
def fiveHits : List Json :=
  [.obj [("company", .str "META")], .obj [("deleted", .bool false)], .null, .obj [], .obj []]

/-- An index of job postings that has these hits for all conditions. -/
def fivePostings : DocumentSearch Id JobField where
  engine :=
    { search := fun _ request => .ok ⟨5, (fiveHits.drop request.start).take request.size⟩
      aggregate := fun _ _ => .ok []
      get := fun _ _ => .ok none }
  schema := jobs
  index := "jobs"

/-- In pages of two, `fivePostings` has three pages with the four documents. -/
theorem search_and_walk_fivePostings :
    fivePostings.Answers [] [] fiveHits ∧ (∀ v ∈ fiveHits, jobs.Readable v) ∧
      ∃ (hn : 0 < 2) (pages : List (Page Document)),
        fivePostings.walk [] [] hn 0 = pure (.ok pages) ∧ pages.length = 3 ∧
          pages.flatMap (·.items) = jobs.documents fiveHits := by
  have hanswers : fivePostings.Answers [] [] fiveHits := fun _ _ _ _ => ⟨5, rfl⟩
  have hreadable : ∀ v ∈ fiveHits, fivePostings.schema.Readable v := by
    simp only [fiveHits, List.forall_mem_cons]
    exact ⟨Or.inr ⟨_, rfl⟩, Or.inr ⟨_, rfl⟩, Or.inl rfl, Or.inr ⟨_, rfl⟩, Or.inr ⟨_, rfl⟩, by simp⟩
  have hknown : ∀ c ∈ [] ++ fivePostings.schema.defaults,
      fivePostings.schema.registries.isUnknown c.field = false := by
    intro c hc
    rw [List.mem_singleton.1 hc]
    rfl
  have hn : 0 < 2 := by decide
  have h := (DocumentSearch.search_and_walk fivePostings [] [] hanswers hreadable hn).2 hknown
  exact ⟨hanswers, hreadable, hn, h.2 (by decide)⟩

end TypedSearch
