import TypedSearch.Proofs.Search.Aggregations
import TypedSearch.Proofs.Search.Request
import TypedSearch.Schema.Jobs
/-!
# `TypedSearch.Proofs.Search.RoundTrips`: one round trip at most

Each operation on an index comes to a `Plan`: an answer right away, or one call and what its reply
is read as. An engine is a parameter, and so are the effects of its calls. Which calls are made is
seen with an engine that notes them, and what later calls do to an answer with one that replies by
what was called before.

* `Operation.run_eq_run_plan`: operations are carried out as planned.
* `Operation.isLocal_of_plan`: an error found before anything is sent is about the arguments.
* `mapM_noting`: steps in a row note what each notes, by induction on the steps.
* `DocumentSearch.round_trips`: all of it, for operations in a row.
-/

set_option autoImplicit false

namespace TypedSearch

/-! ### Calls and replies -/

/-- What an engine replies to a call, where it does not fail. -/
def Call.Content : Call → Type
  | search .. => Hits
  | aggregate .. => Aggregates
  | get .. => Option Json

/-- Makes a call. -/
def Engine.ask {m : Type → Type} (engine : Engine m) : (c : Call) → m (Except Failure c.Content)
  | .search index request => engine.search index request
  | .aggregate index tree => engine.aggregate index tree
  | .get index id => engine.get index id

/-- The failure of an engine at a call, as an error about the index. -/
def Call.failed : Call → Failure → SearchError
  | search index _ => .searchFailed index
  | aggregate index _ => .aggregationFailed index
  | get index _ => .searchFailed index

/-- The replies of an engine to all calls. -/
abbrev Replies := (c : Call) → Except Failure c.Content

/-- The engine that replies to a call by what was called before, and remembers the call. -/
def Engine.remembering (reply : List Call → Replies) : Engine (StateM (List Call)) where
  search index request := fun past =>
    (reply past (.search index request), past ++ [.search index request])
  aggregate index tree := fun past =>
    (reply past (.aggregate index tree), past ++ [.aggregate index tree])
  get index id := fun past => (reply past (.get index id), past ++ [.get index id])

/-! ### Operations -/

/-- What can be asked of a searched index, and of an engine directly. -/
inductive Operation (F : Type) where
  | buildRequest (w : Window F) (boosts : List Query)
  | search (w : Window F) (boosts : List Query)
  | aggregate (b : Batch F)
  | aggregateRequests (rs : List (BucketRequest F))
  | get (id : String)
  /-- A batch on an index and with registries of the caller's own. -/
  | execute (index : String) (r : Registries F) (b : Batch F)

/-- What an operation gives. -/
inductive Outcome where
  | request (r : SearchRequest)
  | page (p : Page Document)
  | results (r : BatchResult)
  | document (d : Document)

/-- An error that is found before anything is sent. -/
def SearchError.IsLocal : SearchError → Prop
  | unknownField _ => True
  | blankQueryName => True
  | duplicateQueryName _ => True
  | emptyBatch => True
  | _ => False

/-- What an operation comes to: an answer right away, or one call whose reply makes the answer. -/
inductive Plan where
  | answer (a : Except SearchError Outcome)
  | call (c : Call) (read : c.Content → Except SearchError Outcome)

namespace Plan

/-- The calls of a plan. -/
def calls : Plan → List Call
  | answer _ => []
  | call c _ => [c]

/-- The answer that a reply to a call makes. -/
def answerTo (c : Call) (read : c.Content → Except SearchError Outcome) :
    Except Failure c.Content → Except SearchError Outcome
  | .ok content => read content
  | .error failure => .error (c.failed failure)

/-- Carries out a plan. -/
def run {m : Type → Type} [Monad m] (engine : Engine m) : Plan → m (Except SearchError Outcome)
  | answer a => pure a
  | call c read => answerTo c read <$> engine.ask c

end Plan

variable {m : Type → Type} [Monad m] {F : Type} [DecidableEq F] [FieldSet F]

namespace Operation

/-- Carries out an operation. -/
def run (d : DocumentSearch m F) : Operation F → m (Except SearchError Outcome)
  | buildRequest w boosts => pure ((d.schema.buildRequest w boosts).map .request)
  | search w boosts => Except.map .page <$> d.search w boosts
  | aggregate b => Except.map .results <$> d.aggregate b
  | aggregateRequests rs => Except.map .results <$> d.aggregateRequests rs
  | get id => Except.map .document <$> d.get id
  | execute index r b => Except.map .results <$> d.engine.execute index r b

/-- A batch is sent as its tree, if it has one. -/
def planBatch (index : String) (r : Registries F) (b : Batch F) : Plan :=
  match b.compile r with
  | .error e => .answer (.error e)
  | .ok tree => .call (.aggregate index tree) fun found =>
    .ok (.results (b.results found))

/-- What an operation comes to on an index with a schema. -/
def plan (s : Schema F) (index : String) : Operation F → Plan
  | buildRequest w boosts => .answer ((s.buildRequest w boosts).map .request)
  | search w boosts =>
    match s.buildRequest w boosts with
    | .error e => .answer (.error e)
    | .ok request => .call (.search index request) fun hits =>
      ((s.readPage w.size hits).mapError (.searchFailed index)).map .page
  | aggregate b => planBatch index s.registries b
  | aggregateRequests rs =>
    match DocumentSearch.batchOf rs with
    | .error e => .answer (.error e)
    | .ok b => planBatch index s.registries b
  | get id => .call (.get index id) fun found =>
    match found with
    | none => .error (.documentNotFound index id)
    | some v => ((s.readDocument v).mapError (.searchFailed index)).map .document
  | execute index r b => planBatch index r b

end Operation

/-- An executed batch is carried out as planned. -/
theorem execute_eq_run [LawfulMonad m] (engine : Engine m) (index : String) (r : Registries F)
    (b : Batch F) :
    Except.map Outcome.results <$> engine.execute index r b
      = (Operation.planBatch index r b).run engine := by
  rw [Engine.execute, Operation.planBatch]
  cases b.compile r with
  | error e => exact map_pure _ _
  | ok tree =>
    -- Both ask once, and what is left to compare is what they make of the reply.
    rw [← comp_map]
    refine map_congr fun reply => ?_
    cases reply <;> rfl

/-- Every operation is carried out as planned. -/
theorem Operation.run_eq_run_plan [LawfulMonad m] (d : DocumentSearch m F) (op : Operation F) :
    op.run d = (op.plan d.schema d.index).run d.engine := by
  cases op with
  | buildRequest w boosts => rfl
  | search w boosts =>
    rw [run, DocumentSearch.search, plan]
    cases d.schema.buildRequest w boosts with
    | error e => exact map_pure _ _
    | ok request =>
      rw [← comp_map]
      refine map_congr fun reply => ?_
      cases reply <;> rfl
  | aggregate b => exact execute_eq_run d.engine d.index d.schema.registries b
  | aggregateRequests rs =>
    rw [run, DocumentSearch.aggregateRequests, plan]
    cases DocumentSearch.batchOf rs with
    | error e => exact map_pure _ _
    | ok b => exact execute_eq_run d.engine d.index d.schema.registries b
  | get id =>
    rw [run, DocumentSearch.get, plan, ← comp_map]
    refine map_congr fun reply => ?_
    -- The engine failed, or has no document, or has one.
    obtain failure | _ | v := reply
    · rfl
    · rfl
    · rfl
  | execute index r b => exact execute_eq_run d.engine index r b

/-- A failure of the engine comes back as an error about the index of the call. -/
theorem Plan.run_eq_of_ask_eq [LawfulMonad m] {engine : Engine m} {p : Plan} {c : Call}
    {failure : Failure} (hc : c ∈ p.calls) (hask : engine.ask c = pure (.error failure)) :
    p.run engine = pure (.error (c.failed failure)) := by
  cases p with
  | answer a => cases hc
  | call c' read =>
    rw [calls, List.mem_singleton] at hc
    subst hc
    rw [run, hask, map_pure]
    rfl

/-! ### What is called -/

/-- What is noted before a step stands behind the notes so far. -/
theorem run_modify_bind [LawfulMonad m] {α ν : Type} (note : ν) (x : m α) (log : List ν) :
    (do modify (· ++ [note]); x : StateT (List ν) m α).run log
      = (fun a => (a, log ++ [note])) <$> x := by
  simp

/-- What is made of the result of a step does not change the notes. -/
theorem run_map_noting [LawfulMonad m] {α β ν : Type} {x' : StateT (List ν) m α} {x : m α}
    {log notes : List ν} (h : x'.run log = (fun a => (a, log ++ notes)) <$> x) (f : α → β) :
    (f <$> x').run log = (fun b => (b, log ++ notes)) <$> f <$> x := by
  rw [StateT.run_map, h, ← comp_map, ← comp_map]
  rfl

/-- A recording engine notes the call and replies as the engine does. -/
theorem Engine.run_ask_recorded [LawfulMonad m] (engine : Engine m) (c : Call) (log : List Call) :
    (engine.recorded.ask c).run log = (fun reply => (reply, log ++ [c])) <$> engine.ask c := by
  cases c with
  | search index request => exact run_modify_bind (Call.search index request) _ log
  | aggregate index tree => exact run_modify_bind (Call.aggregate index tree) _ log
  | get index id => exact run_modify_bind (Call.get index id) _ log

/-- A recording engine notes the calls of a plan, which comes to the same. -/
theorem Plan.run_recorded [LawfulMonad m] (engine : Engine m) (p : Plan) (log : List Call) :
    (p.run engine.recorded).run log = (fun a => (a, log ++ p.calls)) <$> p.run engine := by
  cases p with
  | answer a => rw [run, run, calls, StateT.run_pure, map_pure, List.append_nil]
  | call c read =>
    rw [run, run, calls]
    exact run_map_noting (engine.run_ask_recorded c log) (answerTo c read)

/-- Where every step adds its own notes, all steps in order add all notes in order. -/
theorem mapM_noting [LawfulMonad m] {α β ν : Type} {f : α → StateT (List ν) m β}
    {g : α → m β} {notes : α → List ν}
    (h : ∀ x log, (f x).run log = (fun y => (y, log ++ notes x)) <$> g x) (xs : List α)
    (log : List ν) :
    (xs.mapM f).run log = (fun ys => (ys, log ++ xs.flatMap notes)) <$> xs.mapM g := by
  -- Each step notes behind the steps before it, so that the notes in front are any.
  induction xs generalizing log with
  | nil => simp
  | cons x xs ih =>
    simp only [List.mapM_cons, StateT.run_bind, StateT.run_map, h, ih, List.flatMap_cons,
      List.append_assoc, map_bind, bind_map_left, bind_pure_comp, Functor.map_map]

/-! ### What is answered -/

/-- The answer that a plan comes to with the replies of an engine. -/
def Plan.answerFrom (reply : Replies) : Plan → Except SearchError Outcome
  | answer a => a
  | call c read => answerTo c read (reply c)

/-- An engine that remembers its calls is asked with those made so far in mind. -/
theorem Plan.run_remembering (reply : List Call → Replies) (p : Plan) (past : List Call) :
    (p.run (.remembering reply)).run past = (p.answerFrom (reply past), past ++ p.calls) := by
  cases p with
  | answer a => exact congrArg (Prod.mk a) (List.append_nil past).symm
  | call c read => cases c <;> rfl

/-- The errors of conditions are about unknown fields. -/
theorem isLocal_of_compile {r : Registries F} {cs : List (Condition F)} {e : SearchError}
    (h : r.compile cs = .error e) : e.IsLocal := by
  obtain ⟨_, -, rfl⟩ := Registries.exists_isUnknown_of_compile h
  trivial

/-- The errors of a batch are about unknown fields as well. -/
theorem isLocal_of_batch_compile {r : Registries F} {b : Batch F} {e : SearchError}
    (h : b.compile r = .error e) : e.IsLocal := by
  obtain ⟨_, -, rfl⟩ := Batch.exists_isUnknown_of_compile h
  trivial

omit [DecidableEq F] [FieldSet F] in
/-- The errors of bucket requests are about the names of their queries and how many they are. -/
theorem isLocal_of_batchOf {rs : List (BucketRequest F)} {e : SearchError}
    (h : DocumentSearch.batchOf rs = .error e) : e.IsLocal := by
  obtain rfl | rfl | ⟨name, rfl⟩ := batchOf_eq_error h
  · trivial
  · trivial
  · trivial

/-- What is answered without a call is no error but one that was found before. -/
theorem Operation.isLocal_of_plan {s : Schema F} {index : String} {op : Operation F}
    {e : SearchError} (h : op.plan s index = .answer (.error e)) : e.IsLocal := by
  have hbatch : ∀ {index r} {b : Batch F}, planBatch index r b = .answer (.error e) →
      e.IsLocal := by
    intro index r b hplan
    rw [planBatch] at hplan
    cases htree : b.compile r with
    | ok tree => simp [htree] at hplan
    | error e' =>
      rw [htree] at hplan
      cases hplan
      exact isLocal_of_batch_compile htree
  have hrequest : ∀ {w boosts}, s.buildRequest w boosts = .error e → e.IsLocal :=
    fun hrequest => isLocal_of_compile (Schema.buildRequest_eq_error_iff.1 hrequest)
  cases op with
  | buildRequest w boosts =>
    rw [plan, Plan.answer.injEq] at h
    exact hrequest (map_eq_error_iff.1 h)
  | search w boosts =>
    rw [plan] at h
    cases hbuilt : s.buildRequest w boosts with
    | ok request => simp [hbuilt] at h
    | error e' =>
      rw [hbuilt] at h
      cases h
      exact hrequest hbuilt
  | aggregate b => exact hbatch h
  | aggregateRequests rs =>
    rw [plan] at h
    cases hb : DocumentSearch.batchOf rs with
    | ok b =>
      rw [hb] at h
      exact hbatch h
    | error e' =>
      rw [hb] at h
      cases h
      exact isLocal_of_batchOf hb
  | get id => cases h
  | execute index r b => exact hbatch h

/-! ### Operations in a row -/

namespace DocumentSearch

/-- The index with its schema, in another engine. -/
def withEngine {n : Type → Type} (d : DocumentSearch m F) (engine : Engine n) :
    DocumentSearch n F :=
  ⟨engine, d.schema, d.index⟩

/-- Carries out operations one after the other. -/
def runAll (d : DocumentSearch m F) (ops : List (Operation F)) :
    m (List (Except SearchError Outcome)) :=
  ops.mapM (Operation.run d)

/-- The calls of an operation. -/
def callsOf (d : DocumentSearch m F) (op : Operation F) : List Call :=
  (op.plan d.schema d.index).calls

/-- The answers to operations, each as if it alone were carried out, after the calls that the
operations in front of it make. -/
def answersAlone (d : DocumentSearch (StateM (List Call)) F) :
    List Call → List (Operation F) → List (Except SearchError Outcome)
  | _, [] => []
  | past, op :: ops => ((op.run d).run past).1 :: d.answersAlone (past ++ d.callsOf op) ops

omit [Monad m] in
/-- An operation alone, on an engine that remembers its calls. -/
theorem run_remembering (d : DocumentSearch m F) (reply : List Call → Replies) (op : Operation F)
    (past : List Call) :
    (op.run (d.withEngine (.remembering reply))).run past
      = ((op.plan d.schema d.index).answerFrom (reply past), past ++ d.callsOf op) := by
  rw [Operation.run_eq_run_plan]
  exact Plan.run_remembering reply _ past

omit [Monad m] in
/-- Operations in a row, on an engine that remembers its calls. -/
theorem runAll_remembering (d : DocumentSearch m F) (reply : List Call → Replies)
    (ops : List (Operation F)) (past : List Call) :
    ((d.withEngine (.remembering reply)).runAll ops).run past
      = ((d.withEngine (.remembering reply)).answersAlone past ops,
          past ++ ops.flatMap d.callsOf) := by
  induction ops generalizing past with
  | nil => exact congrArg (Prod.mk []) (List.append_nil past).symm
  | cons op ops ih =>
    -- The first operation leaves its call behind for all the others.
    have hcons : ((d.withEngine (.remembering reply)).runAll (op :: ops)).run past
        = let first := (op.run (d.withEngine (.remembering reply))).run past
          let rest := ((d.withEngine (.remembering reply)).runAll ops).run first.2
          (first.1 :: rest.1, rest.2) := by
      rw [runAll, List.mapM_cons]
      rfl
    rw [hcons, run_remembering]
    simp only [ih, answersAlone, List.flatMap_cons, List.append_assoc, run_remembering]
    rfl

omit [Monad m] in
/-- If the engine does not care what was called before, then every operation is answered as if it
were the only one. -/
theorem answersAlone_remembering (d : DocumentSearch m F) {reply : List Call → Replies}
    (hreply : ∀ past, reply past = reply []) (ops : List (Operation F)) (past : List Call) :
    (d.withEngine (.remembering reply)).answersAlone past ops
      = ops.map fun op => ((op.run (d.withEngine (.remembering reply))).run []).1 := by
  induction ops generalizing past with
  | nil => rfl
  | cons op ops ih =>
    -- An operation alone has the answer of its plan, whatever was called before.
    rw [answersAlone, ih, List.map_cons, run_remembering, run_remembering, hreply past]

/-- Every operation is carried out as planned: with the one call that its arguments come to, or with
none where they come to an error, which is then the answer. A failure of the engine comes back
wrapped once. In a row, operations make the calls of each, in order, and each is answered as it
would be if it alone were carried out. -/
theorem round_trips [LawfulMonad m] (d : DocumentSearch m F) (ops : List (Operation F)) :
    (∀ op ∈ ops,
        op.run d = (op.plan d.schema d.index).run d.engine ∧
        (∀ e, op.plan d.schema d.index = .answer (.error e) → e.IsLocal) ∧
        ∀ c ∈ d.callsOf op, ∀ failure, d.engine.ask c = pure (.error failure) →
          op.run d = pure (.error (c.failed failure))) ∧
      (∀ log, ((d.withEngine d.engine.recorded).runAll ops).run log
        = (fun answers => (answers, log ++ ops.flatMap d.callsOf)) <$> d.runAll ops) ∧
      ∀ reply : List Call → Replies,
        (∀ past, ((d.withEngine (.remembering reply)).runAll ops).run past
          = ((d.withEngine (.remembering reply)).answersAlone past ops,
              past ++ ops.flatMap d.callsOf)) ∧
        ((∀ past, reply past = reply []) →
          ∀ past, (d.withEngine (.remembering reply)).answersAlone past ops
            = ops.map fun op => ((op.run (d.withEngine (.remembering reply))).run []).1) := by
  refine ⟨fun op _ => ⟨op.run_eq_run_plan d, fun e => Operation.isLocal_of_plan, ?_⟩, ?_,
    fun reply => ⟨d.runAll_remembering reply ops,
      fun hreply => d.answersAlone_remembering hreply ops⟩⟩
  · intro c hc failure hask
    rw [op.run_eq_run_plan d]
    exact Plan.run_eq_of_ask_eq hc hask
  · refine mapM_noting (fun op log => ?_) ops
    rw [Operation.run_eq_run_plan, Operation.run_eq_run_plan]
    exact Plan.run_recorded d.engine _ log

/-- Postings on an engine that fails at every call. -/
def unreachablePostings : DocumentSearch Id JobField where
  engine :=
    { search := fun _ _ => .error .exchange
      aggregate := fun _ _ => .error .exchange
      get := fun _ _ => .error .exchange }
  schema := jobs
  index := "jobs"

/-- A lookup of an unreachable posting is one call, and a batch of nothing none. -/
theorem round_trips_unreachablePostings :
    (Operation.get "1").run unreachablePostings = .error (.searchFailed "jobs" .exchange) ∧
      (((unreachablePostings.withEngine unreachablePostings.engine.recorded).runAll
        [.get "1", .aggregateRequests []]).run []).2 = [.get "jobs" "1"] := by
  obtain ⟨halone, hcalls, -⟩ :=
    round_trips unreachablePostings [.get "1", .aggregateRequests []]
  obtain ⟨-, -, hfails⟩ := halone (.get "1") (List.mem_cons_self ..)
  exact ⟨hfails (.get "jobs" "1") (List.mem_singleton_self _) .exchange rfl,
    congrArg Prod.snd (hcalls [])⟩

end DocumentSearch

end TypedSearch
