import LotusIdea.Domain.Vocabulary
import LotusIdea.Foundation.BinaryFloat
import LotusIdea.Foundation.CanonicalJson
import LotusIdea.Foundation.Digest

/-!
# Source references and their revisions

`source_revision.py`, `evidence_digest.py`, `evidence_hashing.py` and the source
reference of `ideas.py`: the revision claims that a source owner makes, the
digest of a revision vector, the evidence hash, and how coherent a cut through
several sources is.
-/

set_option autoImplicit false

namespace LotusIdea

/-! ## Digest texts -/

def sha256DigestStart : String := "sha256:"

/-- `^sha256:[0-9a-f]{64}$`. -/
def isSha256Digest (value : String) : Bool :=
  let body := value.toList.drop sha256DigestStart.toList.length
  PyText.startsWith value sha256DigestStart && decide (body.length = 64) &&
    body.all Sha256.isHexDigit

/-- `require_sha256_digest`. -/
def requireSha256Digest (value fieldName : String) : Bool × PyError :=
  (!isSha256Digest value, .invalidSha256Digest fieldName value)

/-! ## Revision claims -/

inductive SourceReconciliationPosture where
  | complete
  | partialReconciliation
  | failed
  | notApplicable
  | unknown
  deriving DecidableEq, Repr

def SourceReconciliationPosture.value : SourceReconciliationPosture → String
  | .complete => "complete"
  | .partialReconciliation => "partial"
  | .failed => "failed"
  | .notApplicable => "not_applicable"
  | .unknown => "unknown"

inductive SourceCutPosture where
  | coherent
  | coherentWithDeclaredTolerance
  | mixed
  | partialCut
  | unknown
  deriving DecidableEq, Repr

def SourceCutPosture.value : SourceCutPosture → String
  | .coherent => "coherent"
  | .coherentWithDeclaredTolerance => "coherent_with_declared_tolerance"
  | .mixed => "mixed"
  | .partialCut => "partial"
  | .unknown => "unknown"

def sourceCutAuthorityPolicyVersion : String := "idea-source-cut-authority-v1"

def sourceCutIsAuthoritative (posture : SourceCutPosture) : Bool :=
  posture = .coherent || posture = .coherentWithDeclaredTolerance

/-- `_require_normalized_text`. -/
def requireNormalizedText (value fieldName : String) : List (Bool × PyError) :=
  [requireText value fieldName,
   (value != PyText.strip value,
     .valueError (fieldName ++ " must not contain surrounding whitespace"))]

/-- `_validate_optional_text`. -/
def optionalNormalizedText (value : Option String) (fieldName : String) : List (Bool × PyError) :=
  value.elim [] fun text => requireNormalizedText text fieldName

structure CausalInputRevisionFields where
  productId : String
  sourceRevision : String
  restatementVersion : Option String := none
  deriving DecidableEq

def CausalInputRevisionFields.checks (r : CausalInputRevisionFields) : List (Bool × PyError) :=
  requireNormalizedText r.productId "product_id" ++
  requireNormalizedText r.sourceRevision "source_revision" ++
  optionalNormalizedText r.restatementVersion "restatement_version"

abbrev CausalInputRevision := Checked CausalInputRevisionFields.checks

structure SourceRevisionClaimsFields where
  snapshotId : Option String := none
  sourceRevision : Option String := none
  restatementVersion : Option String := none
  sourceBatchId : Option String := none
  sourceCutId : Option String := none
  calculationRunId : Option String := none
  methodologyVersion : Option String := none
  policyVersion : Option String := none
  causalInputRevisions : List CausalInputRevision := []
  reconciliationPosture : SourceReconciliationPosture := .unknown
  deriving DecidableEq

namespace SourceRevisionClaimsFields

/-- The truth value of an optional text. -/
def stated (value : Option String) : Bool := value.any (· != "")

def hasRevisionIdentity (c : SourceRevisionClaimsFields) : Bool :=
  stated c.snapshotId || stated c.sourceRevision || stated c.restatementVersion ||
    stated c.sourceBatchId || stated c.sourceCutId || stated c.calculationRunId ||
    stated c.methodologyVersion || stated c.policyVersion || !c.causalInputRevisions.isEmpty

def hasPrimaryRevisionIdentity (c : SourceRevisionClaimsFields) : Bool :=
  stated c.snapshotId || stated c.sourceRevision || stated c.sourceBatchId ||
    stated c.sourceCutId || stated c.calculationRunId

def checks (c : SourceRevisionClaimsFields) : List (Bool × PyError) :=
  optionalNormalizedText c.snapshotId "snapshot_id" ++
  optionalNormalizedText c.sourceRevision "source_revision" ++
  optionalNormalizedText c.restatementVersion "restatement_version" ++
  optionalNormalizedText c.sourceBatchId "source_batch_id" ++
  optionalNormalizedText c.sourceCutId "source_cut_id" ++
  optionalNormalizedText c.calculationRunId "calculation_run_id" ++
  optionalNormalizedText c.methodologyVersion "methodology_version" ++
  optionalNormalizedText c.policyVersion "policy_version" ++
  [(!decide (c.causalInputRevisions.map fun item => item.val.productId).Nodup,
     .valueError "causal_input_revisions must have unique product_id values"),
   (!c.hasRevisionIdentity,
     .valueError "source revision claims require an owner-issued revision identity")]

end SourceRevisionClaimsFields

abbrev SourceRevisionClaims := Checked SourceRevisionClaimsFields.checks

structure SourceCutToleranceFields where
  policyVersion : String
  maximumGeneratedTimeSkewSeconds : Int
  deriving DecidableEq

def SourceCutToleranceFields.checks (t : SourceCutToleranceFields) : List (Bool × PyError) :=
  requireNormalizedText t.policyVersion "policy_version" ++
  [(decide (t.maximumGeneratedTimeSkewSeconds < 0),
     .valueError "maximum_generated_time_skew_seconds must be non-negative")]

abbrev SourceCutTolerance := Checked SourceCutToleranceFields.checks

/-! ## Source references -/

structure SourceRefFields where
  productId : String
  sourceSystem : SourceSystem
  productVersion : String
  route : String
  asOfDate : Date
  generatedAtUtc : DateTime
  contentHash : String
  dataQualityStatus : String
  freshness : EvidenceFreshness
  revisionClaims : Option SourceRevisionClaims := none
  deriving DecidableEq

def SourceRefFields.checks (r : SourceRefFields) : List (Bool × PyError) :=
  [requireText r.productId "product_id", requireText r.productVersion "product_version",
   requireText r.route "route", requireSha256Digest r.contentHash "content_hash",
   requireText r.dataQualityStatus "data_quality_status",
   requireAware r.generatedAtUtc "generated_at_utc"]

abbrev SourceRef := Checked SourceRefFields.checks

namespace SourceRef

/-- The reference with its time told in UTC: what `==` compares. -/
def inUtc (r : SourceRef) : SourceRef where
  val := { r.val with generatedAtUtc := r.val.generatedAtUtc.inUtc }
  valid := by
    have passed := r.valid
    simpa [SourceRefFields.checks, requireAware] using passed

def identity (r : SourceRef) : SourceSystem × String × String :=
  (r.val.sourceSystem, r.val.productId, r.val.productVersion)

end SourceRef

/-- `_require_unique_sources`. -/
def uniqueSourceChecks (sourceRefs : List SourceRef) : List (Bool × PyError) :=
  [(sourceRefs.isEmpty, .valueError "source_refs is required"),
   (!decide (sourceRefs.map SourceRef.identity).Nodup,
     .valueError "source revision vector contains duplicate source product identity")]

/-! ## Digests of a revision vector -/

def optionalText (value : Option String) : Json := value.elim .null .str

def sourceRevisionClaimsPayload : Option SourceRevisionClaims → Json
  | none => .obj [("claim_posture", .str SourceCutPosture.unknown.value)]
  | some claims =>
      let causal := claims.val.causalInputRevisions.insertionSort fun a b =>
        a.val.productId ≤ b.val.productId
      .obj
        [("claim_posture", .str "owner_claimed"),
         ("calculation_run_id", optionalText claims.val.calculationRunId),
         ("causal_input_revisions", .arr (causal.map fun item => .obj
           [("product_id", .str item.val.productId),
            ("restatement_version", optionalText item.val.restatementVersion),
            ("source_revision", .str item.val.sourceRevision)])),
         ("methodology_version", optionalText claims.val.methodologyVersion),
         ("policy_version", optionalText claims.val.policyVersion),
         ("reconciliation_posture", .str claims.val.reconciliationPosture.value),
         ("restatement_version", optionalText claims.val.restatementVersion),
         ("snapshot_id", optionalText claims.val.snapshotId),
         ("source_batch_id", optionalText claims.val.sourceBatchId),
         ("source_cut_id", optionalText claims.val.sourceCutId),
         ("source_revision", optionalText claims.val.sourceRevision)]

def sourceRevisionVectorEntry (r : SourceRef) : Json :=
  .obj
    [("as_of_date", .str r.val.asOfDate.isoformat),
     ("claims", sourceRevisionClaimsPayload r.val.revisionClaims),
     ("content_hash", .str r.val.contentHash),
     ("product_id", .str r.val.productId),
     ("product_version", .str r.val.productVersion),
     ("source_system", .str r.val.sourceSystem.value)]

/-- The order of sources in a payload: system, product, version. -/
def sourceBefore (a b : SourceRef) : Bool :=
  let system (r : SourceRef) := r.val.sourceSystem.value
  system a < system b ||
    (system a = system b &&
      (a.val.productId < b.val.productId ||
        (a.val.productId = b.val.productId && a.val.productVersion ≤ b.val.productVersion)))

def sortedSources (sourceRefs : List SourceRef) : List SourceRef :=
  sourceRefs.insertionSort fun a b => sourceBefore a b

section Digests
variable [Sha256]

def digestText (payload : Json) : String :=
  sha256DigestStart ++ Sha256.hexdigest 64 payload.dumps

/-- `source_revision_vector_digest` of references that pass `uniqueSourceChecks`. -/
def sourceRevisionVectorDigest (sourceRefs : List SourceRef) : String :=
  digestText (.arr ((sortedSources sourceRefs).map sourceRevisionVectorEntry))

/-- `evidence_hash_for_source_refs`. -/
def evidenceHashForSourceRefs (sourceRefs : List SourceRef) : String :=
  digestText (.obj
    [("source_posture", .arr ((sortedSources sourceRefs).map fun r => .obj
       [("data_quality_status", .str r.val.dataQualityStatus),
        ("freshness", .str r.val.freshness.value),
        ("product_id", .str r.val.productId),
        ("product_version", .str r.val.productVersion),
        ("source_system", .str r.val.sourceSystem.value)])),
     ("source_revision_vector_digest", .str (sourceRevisionVectorDigest sourceRefs))])

end Digests

/-! ## Coherence of a cut -/

/-- How a causal claim compares with the source it names. -/
inductive CausalComparison where
  | agrees
  | unavailable
  | differs
  deriving DecidableEq

def compareCausalClaim (sourceRefs : List SourceRef) (claim : CausalInputRevision) :
    CausalComparison :=
  match sourceRefs.filter fun r => r.val.productId = claim.val.productId with
  | [source] =>
      match source.val.revisionClaims with
      | none => .unavailable
      | some claims =>
          match claims.val.sourceRevision with
          | none => .unavailable
          | some revision =>
              if revision ≠ claim.val.sourceRevision then .differs
              else if claims.val.restatementVersion = claim.val.restatementVersion then .agrees
              else if claims.val.restatementVersion.isNone ||
                  claim.val.restatementVersion.isNone then .unavailable
              else .differs
  | _ => .unavailable

/-- `_causal_input_posture`: the loop leaves at the first difference. -/
def causalInputPosture (sourceRefs : List SourceRef) : Option SourceCutPosture :=
  let causalClaims := sourceRefs.flatMap fun r =>
    r.val.revisionClaims.elim [] fun claims => claims.val.causalInputRevisions
  let compared := causalClaims.map (compareCausalClaim sourceRefs)
  if compared.contains .differs then some .mixed
  else if compared.contains .unavailable then some .partialCut
  else none

/-- `max(times) - min(times)` in microseconds. -/
def generatedTimeSkew (sourceRefs : List SourceRef) : Int :=
  let instants := sourceRefs.map fun r => r.val.generatedAtUtc.instant
  instants.foldl max (instants.headD 0) - instants.foldl min (instants.headD 0)

/-- `timedelta.total_seconds`: a float of 53 bits. -/
def totalSeconds (microseconds : Int) : ℚ := BinaryFloat.round 53 (microseconds / 1000000)

def sourceCutPosture (sourceRefs : List SourceRef) (tolerance : Option SourceCutTolerance) :
    SourceCutPosture :=
  let present := sourceRefs.filterMap fun r => r.val.revisionClaims
  let cutIds := present.map fun item => item.val.sourceCutId
  if present.isEmpty then .unknown
  else if present.length ≠ sourceRefs.length then .partialCut
  else if present.any fun item => item.val.reconciliationPosture = .partialReconciliation then
    .partialCut
  else if present.any fun item => item.val.reconciliationPosture = .failed then .mixed
  else if present.any fun item => !item.val.hasPrimaryRevisionIdentity then .partialCut
  else if present.any fun item => item.val.reconciliationPosture = .unknown then .partialCut
  else
    match causalInputPosture sourceRefs with
    | some posture => posture
    | none =>
        if sourceRefs.length = 1 then .coherent
        else if (sourceRefs.map fun r => r.val.asOfDate).dedup.length ≠ 1 then .mixed
        else if cutIds.all SourceRevisionClaimsFields.stated then
          if cutIds.dedup.length = 1 then .coherent else .mixed
        else if cutIds.any SourceRevisionClaimsFields.stated then .partialCut
        else
          match tolerance with
          | none => .unknown
          | some declared =>
              if declared.val.maximumGeneratedTimeSkewSeconds <
                  totalSeconds (generatedTimeSkew sourceRefs) then .mixed
              else .coherentWithDeclaredTolerance

/-! ## References that compare equal are read alike -/

section Alike
variable (sourceRefs : List SourceRef)

theorem insertionSort_map {α : Type*} (f : α → α) (before : α → α → Bool)
    (kept : ∀ a b, before (f a) (f b) = before a b) (l : List α) :
    (l.map f).insertionSort (fun a b => before a b) =
      (l.insertionSort fun a b => before a b).map f :=
  (List.map_insertionSort (fun a b => before a b) (fun a b => before a b) f l
    fun a _ b _ => by rw [kept a b]).symm

theorem sortedSources_inUtc :
    sortedSources (sourceRefs.map SourceRef.inUtc) =
      (sortedSources sourceRefs).map SourceRef.inUtc :=
  insertionSort_map SourceRef.inUtc sourceBefore (fun _ _ => rfl) sourceRefs

theorem sourceRevisionVectorDigest_inUtc [Sha256] :
    sourceRevisionVectorDigest (sourceRefs.map SourceRef.inUtc) =
      sourceRevisionVectorDigest sourceRefs := by
  simp only [sourceRevisionVectorDigest, sortedSources_inUtc, List.map_map]
  rfl

theorem compareCausalClaim_inUtc (claim : CausalInputRevision) :
    compareCausalClaim (sourceRefs.map SourceRef.inUtc) claim =
      compareCausalClaim sourceRefs claim := by
  have named : (sourceRefs.map SourceRef.inUtc).filter
        (fun r => r.val.productId = claim.val.productId) =
      (sourceRefs.filter fun r => r.val.productId = claim.val.productId).map SourceRef.inUtc := by
    rw [List.filter_map]
    rfl
  simp only [compareCausalClaim, named]
  cases sourceRefs.filter fun r => decide (r.val.productId = claim.val.productId) with
  | nil => rfl
  | cons source rest => cases rest <;> rfl

theorem causalInputPosture_inUtc :
    causalInputPosture (sourceRefs.map SourceRef.inUtc) = causalInputPosture sourceRefs := by
  have compared : compareCausalClaim (sourceRefs.map SourceRef.inUtc) =
      compareCausalClaim sourceRefs := funext (compareCausalClaim_inUtc sourceRefs)
  simp only [causalInputPosture, compared, List.flatMap_map]
  rfl

theorem sourceCutPosture_inUtc (tolerance : Option SourceCutTolerance) :
    sourceCutPosture (sourceRefs.map SourceRef.inUtc) tolerance =
      sourceCutPosture sourceRefs tolerance := by
  simp only [sourceCutPosture, causalInputPosture_inUtc, generatedTimeSkew, List.filterMap_map,
    List.map_map, List.length_map]
  rfl

end Alike

end LotusIdea
