import LotusIdea.Domain.CandidateReconciliation

/-!
# The identity of a detected opportunity

`opportunity_identity.py`: the digests of the business scope, of the material
facts and of the evidence, and the identifiers that are cut from them.
-/

set_option autoImplicit false

namespace LotusIdea

/-- `IdentityMaterialValue`. -/
inductive IdentityMaterialValue where
  | absent
  | text (value : String)
  | count (value : Int)
  | flag (value : Bool)
  deriving DecidableEq

def IdentityMaterialValue.payload : IdentityMaterialValue → Json
  | .absent => .null
  | .text value => .str value
  | .count value => .int value
  | .flag value => .bool value

abbrev MaterialFacts := List (String × IdentityMaterialValue)

def observationOnlyMaterialFacts : List String := ["as_of_date"]

structure OpportunityIdentity where
  policyVersion : String
  opportunityKind : String
  businessIdentityId : String
  materialFingerprint : String
  evidenceFingerprint : String
  candidateId : String
  signalId : String
  evidencePacketId : String
  lineageId : String

def OpportunityIdentity.initialCandidateIdentity (identity : OpportunityIdentity) :
    Except PyError CandidateIdentity :=
  Checked.make CandidateIdentityFields.checks
    { businessIdentityId := identity.businessIdentityId
      policyVersion := identity.policyVersion
      materialFingerprint := identity.materialFingerprint
      materialVersion := 1
      evidenceVersion := 1
      changeReason := .initialDetection }

/-- `_business_scope_payload`. -/
def businessScopePayload (accessScope : Option ReviewAccessScope) (asOfDate : Date) : Json :=
  match accessScope with
  | none =>
      .obj [("scope_kind", .str "unscoped_evaluation_date"), ("as_of_date", .str asOfDate.isoformat)]
  | some scope =>
      .obj
        [("scope_kind", .str "review_access_scope"), ("tenant_id", .str scope.val.tenantId),
         ("book_id", .str scope.val.bookId), ("portfolio_id", .str scope.val.portfolioId),
         ("client_id", .str scope.val.clientId)]

def businessIdentityPayload (family : OpportunityFamily) (opportunityKind : String)
    (accessScope : Option ReviewAccessScope) (asOfDate : Date) : Json :=
  .obj
    [("family", .str family.value), ("opportunity_kind", .str opportunityKind),
     ("scope", businessScopePayload accessScope asOfDate)]

/-- `_validate_material_facts`; the type of a fact is its own here. -/
def materialFactChecks (facts : MaterialFacts) : List (Bool × PyError) :=
  [(facts.any fun fact => PyText.isBlank fact.1,
     .valueError "material fact names must be non-blank strings"),
   (facts.any fun fact => observationOnlyMaterialFacts.contains fact.1,
     .valueError "observation-only facts cannot define economic materiality: as_of_date")]

/-- The key of `_sorted_refs`, in lexicographic order. -/
def sourceRefSortKey (r : SourceRef) : String ×ₗ String ×ₗ String ×ₗ String ×ₗ ℤ ×ₗ ℤ ×ₗ String :=
  toLex (r.val.sourceSystem.value, toLex (r.val.productId, toLex (r.val.productVersion,
    toLex (r.val.route, toLex (r.val.asOfDate.days, toLex (r.val.generatedAtUtc.instant,
      r.val.contentHash))))))

/-- `_sorted_refs`. -/
def sortedRefs (sourceRefs : List SourceRef) : List SourceRef :=
  sourceRefs.insertionSort fun a b => sourceRefSortKey a ≤ sourceRefSortKey b

/-- `_source_ref_identity_payload`. -/
def sourceRefIdentityPayload (r : SourceRef) : Json :=
  .obj
    [("source_system", .str r.val.sourceSystem.value), ("product_id", .str r.val.productId),
     ("product_version", .str r.val.productVersion), ("route", .str r.val.route),
     ("as_of_date", .str r.val.asOfDate.isoformat),
     ("generated_at_utc", .str r.val.generatedAtUtc.isoformat),
     ("content_hash", .str r.val.contentHash),
     ("data_quality_status", .str r.val.dataQualityStatus),
     ("freshness", .str r.val.freshness.value),
     ("revision_claims", sourceRevisionClaimsPayload r.val.revisionClaims)]

/-- `kind.replace("-", "_")`. -/
def identifierKind (kind : String) : String :=
  String.ofList (kind.toList.map fun c => if c = '-' then '_' else c)

section Identity

variable [Sha256]

/-- `_canonical_digest(payload)[:digits]`. -/
def canonicalDigest (digits : Nat) (payload : Json) : String :=
  Sha256.hexdigest digits payload.dumps

def materialIdentityPayload (businessDigest : String) (facts : MaterialFacts) : Json :=
  .obj
    [("business_identity_digest", .str businessDigest),
     ("identity_policy_version", .str opportunityIdentityPolicyVersion),
     ("material_facts", .obj (facts.map fun fact => (fact.1, fact.2.payload)))]

def evidenceIdentityPayload (businessDigest materialDigest : String)
    (sourceRefs : List SourceRef) : Json :=
  .obj
    [("business_identity_digest", .str businessDigest),
     ("material_identity_digest", .str materialDigest),
     ("source_refs", .arr ((sortedRefs sourceRefs).map sourceRefIdentityPayload))]

def buildOpportunityIdentity (family : OpportunityFamily) (opportunityKind : String)
    (asOfDate : Date) (accessScope : Option ReviewAccessScope) (materialFacts : MaterialFacts)
    (sourceRefs : List SourceRef) : Except PyError OpportunityIdentity := do
  let kind := PyText.strip opportunityKind
  validate
    ([(materialFacts.isEmpty, .valueError "material_facts is required"),
      (sourceRefs.isEmpty, .valueError "source_refs is required")] ++
      materialFactChecks materialFacts ++
      [(kind == "", .valueError "opportunity_kind is required")])
  let business := businessIdentityPayload family kind accessScope asOfDate
  let material := materialIdentityPayload (canonicalDigest 64 business) materialFacts
  let evidence := evidenceIdentityPayload (canonicalDigest 64 business)
    (canonicalDigest 64 material) sourceRefs
  let tokens := canonicalDigest 16 business ++ "_" ++ canonicalDigest 16 material ++ "_" ++
    canonicalDigest 16 evidence
  return {
    policyVersion := opportunityIdentityPolicyVersion
    opportunityKind := kind
    businessIdentityId :=
      "opportunity_" ++ identifierKind kind ++ "_" ++ canonicalDigest 24 business
    materialFingerprint := sha256DigestStart ++ canonicalDigest 64 material
    evidenceFingerprint := sha256DigestStart ++ canonicalDigest 64 evidence
    candidateId := "idea_" ++ identifierKind kind ++ "_" ++ canonicalDigest 16 business
    signalId := "signal_" ++ identifierKind kind ++ "_" ++ tokens
    evidencePacketId := "iep_" ++ identifierKind kind ++ "_" ++ tokens
    lineageId := "lineage:lotus-idea:" ++ kind ++ ":" ++ canonicalDigest 16 business ++ ":" ++
      canonicalDigest 16 material ++ ":" ++ canonicalDigest 16 evidence }

end Identity

end LotusIdea
