import LotusIdea.Domain.Control
import LotusIdea.Downstream.SubmissionStateMachine
import LotusIdea.Foundation.ScopedText
import Std.Data.String.ToNat

/-!
# Scoped identities

The identity of a tenant's idempotency key carries the length of the tenant, so
it is injective and apart from the system's.  The identity of a submission joins
tenant and key with NUL and no check keeps NUL out of either, so the identities
of two tenants can meet.
-/

set_option autoImplicit false

namespace LotusIdea

/-! ## Idempotency identities -/

theorem repr_injective : Function.Injective fun n : Nat => (toString n).toList := by
  intro m n same
  exact Nat.repr_injective (String.toList_inj.mp same)

theorem colon_not_digit (n : Nat) : ':' ∉ (toString n).toList := by
  intro member
  have member' : ':' ∈ Nat.toDigits 10 n := by simpa using member
  have digit := Nat.isDigit_of_mem_toDigits (by decide) (by decide) member'
  exact absurd digit (by decide)

/-- A tenant and its key are read back from their identity. -/
theorem tenantStorageKey_injective {tenantId idempotencyKey tenantId' idempotencyKey' : String}
    (same : tenantStorageKey tenantId idempotencyKey = tenantStorageKey tenantId' idempotencyKey') :
    tenantId = tenantId' ∧ idempotencyKey = idempotencyKey' := by
  have lists := congrArg String.toList same
  simp only [tenantStorageKey, String.toList_append, List.append_assoc] at lists
  have framed := List.append_cancel_left lists
  obtain ⟨tenants, keys⟩ := ScopedText.framed_injective repr_injective colon_not_digit framed
  exact ⟨String.toList_inj.mp tenants, String.toList_inj.mp keys⟩

theorem tenantStorageKey_ne_system (tenantId idempotencyKey systemKey : String) :
    tenantStorageKey tenantId idempotencyKey ≠ systemStorageKey systemKey := by
  intro same
  have lists := congrArg String.toList same
  simp [tenantStorageKey, systemStorageKey] at lists

theorem tenantScopedIdempotencyIdentity_eq {tenantId idempotencyKey identity : String}
    (run : tenantScopedIdempotencyIdentity tenantId idempotencyKey = .ok identity) :
    identity = tenantStorageKey tenantId idempotencyKey := by
  simp only [tenantScopedIdempotencyIdentity] at run
  obtain ⟨_, _, run⟩ := Except.seq_returns.mp run
  cases run
  rfl

theorem systemScopedIdempotencyIdentity_eq {idempotencyKey identity : String}
    (run : systemScopedIdempotencyIdentity idempotencyKey = .ok identity) :
    identity = systemStorageKey idempotencyKey := by
  simp only [systemScopedIdempotencyIdentity] at run
  obtain ⟨_, _, run⟩ := Except.seq_returns.mp run
  cases run
  rfl

/-! ## Submission identities -/

/-- One tenant is the other with NUL and more text behind it, and that text and
NUL stand in front of the other's key. -/
def Straddling (tenantId idempotencyKey tenantId' idempotencyKey' : String) : Prop :=
  ScopedText.Straddles '\x00' tenantId.toList idempotencyKey.toList tenantId'.toList
      idempotencyKey'.toList ∨
    ScopedText.Straddles '\x00' tenantId'.toList idempotencyKey'.toList tenantId.toList
      idempotencyKey.toList

section
variable [Sha256]

omit [Sha256] in
theorem Straddling.tenants_differ {tenantId idempotencyKey tenantId' idempotencyKey' : String}
    (straddling : Straddling tenantId idempotencyKey tenantId' idempotencyKey') :
    tenantId ≠ tenantId' := by
  rintro rfl
  rcases straddling with straddles | straddles
  · exact straddles.scopes_differ rfl
  · exact straddles.scopes_differ rfl

omit [Sha256] in
theorem downstreamSubmissionIdentity_eq_iff
    {tenantId idempotencyKey tenantId' idempotencyKey' : String} :
    downstreamSubmissionIdentity tenantId idempotencyKey =
        downstreamSubmissionIdentity tenantId' idempotencyKey' ↔
      (tenantId = tenantId' ∧ idempotencyKey = idempotencyKey') ∨
        Straddling tenantId idempotencyKey tenantId' idempotencyKey' := by
  have joined : ∀ tenant key : String, (downstreamSubmissionIdentity tenant key).toList =
      tenant.toList ++ '\x00' :: key.toList := by
    intro tenant key
    simp [downstreamSubmissionIdentity]
  rw [← String.toList_inj, joined, joined, ScopedText.joined_eq_iff, String.toList_inj,
    String.toList_inj]
  rfl

/-- What a claim returns belongs to the tenant that claims. -/
def AnswersOwnTenant (store : SubmissionStore) (record : DownstreamSubmissionRecord) : Prop :=
  ∀ found, (store.claimDownstreamSubmission record).1.record = some found →
    found.val.tenantId = record.val.tenantId

/-- No stored submission straddles the claimed one. -/
def ClearOfStraddling (store : SubmissionStore) (record : DownstreamSubmissionRecord) : Prop :=
  ∀ key stored, store.get? key = some stored →
    ¬ Straddling stored.val.tenantId stored.val.idempotencyKey record.val.tenantId
      record.val.idempotencyKey

theorem answersOwnTenant_iff {store : SubmissionStore} (keyed : store.Keyed)
    (record : DownstreamSubmissionRecord) :
    AnswersOwnTenant store record ↔ ClearOfStraddling store record := by
  constructor
  · intro answers key stored found straddling
    have here : key = SubmissionStore.storageKey record := by
      rw [keyed key stored found]
      exact downstreamSubmissionIdentity_eq_iff.mpr (Or.inr straddling)
    subst here
    refine straddling.tenants_differ (answers stored ?_)
    simp only [SubmissionStore.claimDownstreamSubmission, found]
  · intro clear found answered
    unfold SubmissionStore.claimDownstreamSubmission at answered
    cases present : store.get? (SubmissionStore.storageKey record) with
    | some existing =>
        simp only [present, Option.some.injEq] at answered
        subst answered
        have same := (keyed _ _ present).symm
        rcases downstreamSubmissionIdentity_eq_iff.mp same with ⟨tenant, _⟩ | straddling
        · exact tenant
        · exact absurd straddling (clear _ _ present)
    | none =>
        cases resource : store.resourceExisting record with
        | some retained =>
            simp only [present, resource, Option.some.injEq] at answered
            subst answered
            have sameResource := List.find?_some resource
            simp only [SubmissionStore.sameResource, Bool.and_eq_true, decide_eq_true_eq]
              at sameResource
            exact sameResource.1.1.1
        | none =>
            simp only [present, resource, Option.some.injEq] at answered
            rw [answered]

/-- Idempotency identities are injective and apart from the system's.  Submission
identities tell two pairs apart exactly when these do not straddle NUL, and a
claim on a reachable store answers from its own tenant exactly when no stored
submission straddles it. -/
theorem scoped_identities :
    (∀ tenantId idempotencyKey tenantId' idempotencyKey' identity,
      tenantScopedIdempotencyIdentity tenantId idempotencyKey = .ok identity →
      tenantScopedIdempotencyIdentity tenantId' idempotencyKey' = .ok identity →
      tenantId = tenantId' ∧ idempotencyKey = idempotencyKey') ∧
    (∀ tenantId idempotencyKey systemKey identity,
      tenantScopedIdempotencyIdentity tenantId idempotencyKey = .ok identity →
      systemScopedIdempotencyIdentity systemKey ≠ .ok identity) ∧
    (∀ tenantId idempotencyKey tenantId' idempotencyKey',
      (downstreamSubmissionIdentity tenantId idempotencyKey =
          downstreamSubmissionIdentity tenantId' idempotencyKey' →
        tenantId = tenantId' ∧ idempotencyKey = idempotencyKey') ↔
      ¬ Straddling tenantId idempotencyKey tenantId' idempotencyKey') ∧
    ∀ (calls : List SubmissionCall) (record : DownstreamSubmissionRecord),
      AnswersOwnTenant (SubmissionStore.run Dict.empty calls) record ↔
        ClearOfStraddling (SubmissionStore.run Dict.empty calls) record := by
  refine ⟨?_, ?_, ?_, ?_⟩
  · intro tenantId key tenantId' key' identity run run'
    have same := (tenantScopedIdempotencyIdentity_eq run).symm.trans
      (tenantScopedIdempotencyIdentity_eq run')
    exact tenantStorageKey_injective same
  · intro tenantId key systemKey identity run system
    rw [tenantScopedIdempotencyIdentity_eq run] at system
    exact tenantStorageKey_ne_system _ _ _ (systemScopedIdempotencyIdentity_eq system)
  · intro tenantId key tenantId' key'
    rw [downstreamSubmissionIdentity_eq_iff]
    constructor
    · intro apart straddling
      exact straddling.tenants_differ (apart (Or.inr straddling)).1
    · rintro clear (equal | straddling)
      · exact equal
      · exact absurd straddling clear
  · intro calls record
    exact answersOwnTenant_iff (sound_run_empty calls).keyed record

end

/-! ## Two tenants that meet -/

def straddlingClaim (tenantId idempotencyKey : String) : ClaimRequest :=
  { sampleClaim with tenantId := tenantId, idempotencyKey := idempotencyKey }

section Sample

local instance straddlingSha256 : Sha256 := Sha256.zeros

/-- Two tenants share an identity, and the second one's claim is answered with the
submission of the first. -/
theorem claim_answers_other_tenant :
    downstreamSubmissionIdentity "a\x00b" "c" = downstreamSubmissionIdentity "a" "b\x00c" ∧
    ((createDownstreamSubmissionClaim (straddlingClaim "a" "b\x00c")).toOption.any fun record =>
      ((SubmissionStore.run Dict.empty [.claim (straddlingClaim "a\x00b" "c")]).claimDownstreamSubmission
        record).1.record.any fun found =>
          found.val.tenantId ≠ record.val.tenantId) = true := by
  refine ⟨by decide, ?_⟩
  decide +kernel

end Sample

end LotusIdea
