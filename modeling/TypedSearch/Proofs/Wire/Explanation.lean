import TypedSearch.Wire.Answer
/-!
# `TypedSearch.Proofs.Wire.Explanation`: what is reported of a failed request

The body of a failed request may explain the failure under `error`: by a text, or by an object with
a `reason` or a `type`. `Json.Explains` says what the explanation is, `Failure.Surfaces` that a
failure reports it, and the beginning of the body only where there is none.

The type is looked at only where the object has no `reason` at all. So a reason that is no text,
such as null, hides it, and nothing else does.

* `explanation_eq_some_iff`: what a body is taken to say.
* `surfaces_iff`: the explanation is reported unless a reason that is no text hides a type.
* `not_surfaces_nullReason`: a null reason hides the type.
-/

set_option autoImplicit false

namespace TypedSearch

namespace Json

/-- The body of a failed request explains the failure by this text: it stands under `error`, or an
object stands there and the text is its `reason` or, where that is no text, its `type`. -/
inductive Explains (body : Json) : String → Prop where
  | text {s : String} (error : body.get? "error" = some (.str s)) : Explains body s
  | reason {members : Keyed Json} {s : String} (error : body.get? "error" = some (.obj members))
    (reason : Keyed.get? "reason" members = some (.str s)) : Explains body s
  | type {members : Keyed Json} {s : String} (error : body.get? "error" = some (.obj members))
    (reason : ∀ r, Keyed.get? "reason" members ≠ some (.str r))
    (type : Keyed.get? "type" members = some (.str s)) : Explains body s

/-- An object stands under `error`, and has a `reason` that is no text. -/
def HasOddReason (body : Json) : Prop :=
  ∃ members reason, body.get? "error" = some (.obj members) ∧
    Keyed.get? "reason" members = some reason ∧ ∀ s, reason ≠ .str s

/-- A body is taken to say what explains the failure, but nothing where an object has a reason that
is no text. -/
theorem explanation_eq_some_iff {body : Json} {s : String} :
    explanation? body = some s ↔ body.Explains s ∧ ¬ body.HasOddReason := by
  rw [explanation?]
  constructor
  · intro h
    split at h
    · next herror =>
      cases h
      refine ⟨.text herror, ?_⟩
      rintro ⟨members, reason, hobject, -⟩
      rw [herror] at hobject
      cases hobject
    · next members herror =>
      -- What else stands under `error` is this object.
      have hsame : ∀ {members'}, body.get? "error" = some (.obj members') → members' = members := by
        intro members' h'
        rw [herror] at h'
        cases h'
        rfl
      split at h
      · next v hreason =>
        obtain rfl := Json.text_eq_some_iff.1 h
        refine ⟨.reason herror hreason, ?_⟩
        rintro ⟨members', reason, hobject, hreason', hodd⟩
        rw [hsame hobject, hreason] at hreason'
        exact hodd s (Option.some.inj hreason').symm
      · next hreason =>
        obtain ⟨v, htype, hv⟩ := Option.bind_eq_some_iff.1 h
        obtain rfl := Json.text_eq_some_iff.1 hv
        refine ⟨.type herror (by simp [hreason]) htype, ?_⟩
        rintro ⟨members', reason, hobject, hreason', -⟩
        rw [hsame hobject, hreason] at hreason'
        cases hreason'
    · cases h
  · rintro ⟨h, hodd⟩
    cases h with
    | text herror => rw [herror]
    | reason herror hreason =>
      simp only [herror, hreason]
      rfl
    | @type members s herror hreason htype =>
      have hnone : Keyed.get? "reason" members = none :=
        Option.eq_none_iff_forall_ne_some.2 fun reason hfound =>
          hodd ⟨members, reason, herror, hfound, fun r hr => hreason r (hr ▸ hfound)⟩
      simp only [herror, hnone, htype]
      rfl

/-- A body is taken to say nothing where it does not explain the failure or has a reason that is no
text. -/
theorem explanation_eq_none {body : Json} (h : ∀ s, body.Explains s → body.HasOddReason) :
    explanation? body = none :=
  Option.eq_none_iff_forall_ne_some.2 fun s hs =>
    (explanation_eq_some_iff.1 hs).2 (h s (explanation_eq_some_iff.1 hs).1)

end Json

namespace Failure

/-- What is reported of a body that does not explain the failure: its first characters, up to 200,
or that there is none. -/
def excerpt (body : String) : String :=
  if body = "" then "no response body" else String.ofList (body.toList.take 200)

/-- The failure with this status and body reports the explanation, and where the body is no JSON or
does not explain the failure it reports how the body begins. -/
def Surfaces (code : Nat) (body : String) : Prop :=
  ∃ reason, ofStatus code body = .status code reason ∧
    (∀ v s, Json.read Json.defaultDepth body = .ok v → v.Explains s → reason = s) ∧
    ((∀ v s, Json.read Json.defaultDepth body = .ok v → ¬ v.Explains s) → reason = excerpt body)

/-- Of a body that is no JSON the beginning is reported. -/
theorem ofStatus_of_error {code : Nat} {body : String} {fault : Json.Fault}
    (h : Json.read Json.defaultDepth body = .error fault) :
    ofStatus code body = .status code (excerpt body) := by
  simp only [ofStatus, h, excerpt, String.isEmpty_iff]
  rfl

/-- Of a body that is JSON what it is taken to say is reported, and else its beginning. -/
theorem ofStatus_of_ok {code : Nat} {body : String} {v : Json}
    (h : Json.read Json.defaultDepth body = .ok v) :
    ofStatus code body = .status code ((explanation? v).getD (excerpt body)) := by
  simp only [ofStatus, h, excerpt, String.isEmpty_iff]
  rfl

/-- Of a body with a reason that is no text the beginning is reported. -/
theorem ofStatus_of_hasOddReason {code : Nat} {body : String} {v : Json}
    (h : Json.read Json.defaultDepth body = .ok v) (hodd : v.HasOddReason) :
    ofStatus code body = .status code (excerpt body) := by
  rw [ofStatus_of_ok h, Json.explanation_eq_none fun _ _ => hodd]
  rfl

/-- The explanation is reported, and the beginning of the body only where there is none, unless an
object under `error` has a type that is a text and a reason that is not. Of a body with such a
reason the beginning is reported. -/
theorem surfaces_iff (code : Nat) (body : String) :
    (Surfaces code body ↔ ∀ v s, Json.read Json.defaultDepth body = .ok v → v.Explains s →
      v.HasOddReason → s = excerpt body) ∧
    ∀ v, Json.read Json.defaultDepth body = .ok v → v.HasOddReason →
      ofStatus code body = .status code (excerpt body) := by
  refine ⟨⟨?_, ?_⟩, fun v hread hodd => ofStatus_of_hasOddReason hread hodd⟩
  · rintro ⟨reason, hstatus, hexplained, -⟩ v s hread hs hodd
    rw [ofStatus_of_hasOddReason hread hodd] at hstatus
    cases hstatus
    exact (hexplained v s hread hs).symm
  · intro hhidden
    cases hread : Json.read Json.defaultDepth body with
    | error fault =>
      refine ⟨_, ofStatus_of_error hread, fun v s hok => ?_, fun _ => rfl⟩
      rw [hread] at hok
      cases hok
    | ok v =>
      refine ⟨_, ofStatus_of_ok hread, fun v' s hok hs => ?_, fun hnone => ?_⟩
      · rw [hread] at hok
        cases hok
        by_cases hodd : v.HasOddReason
        · rw [Json.explanation_eq_none fun _ _ => hodd]
          exact (hhidden v s hread hs hodd).symm
        · rw [Json.explanation_eq_some_iff.2 ⟨hs, hodd⟩]
          rfl
      · rw [Json.explanation_eq_none fun s hs => absurd hs (hnone v s hread)]
        rfl

/-- A body whose reason is null and whose type is a text. -/
def nullReason : String := "\x7b\"error\":\x7b\"reason\":null,\"type\":\"t\"\x7d\x7d"

/-- A null reason hides the type: not the type is reported, but the body. -/
theorem not_surfaces_nullReason :
    ofStatus 429 nullReason = .status 429 nullReason ∧ ¬ Surfaces 429 nullReason := by
  have hread : Json.read Json.defaultDepth nullReason
      = .ok (.obj [("error", .obj [("reason", .null), ("type", .str "t")])]) := rfl
  have hstatus : ofStatus 429 nullReason = .status 429 nullReason := by decide +kernel
  refine ⟨hstatus, ?_⟩
  rintro ⟨reason, hreported, hexplained, -⟩
  have htype : reason = "t" :=
    hexplained _ "t" hread (.type rfl (fun r hr => by cases hr) rfl)
  rw [hstatus, htype] at hreported
  exact absurd hreported (by decide +kernel)

end Failure

end TypedSearch
