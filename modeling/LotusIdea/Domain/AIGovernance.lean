import LotusIdea.Domain.AIActionPolicy
import LotusIdea.Domain.LineageIntegrity

/-!
# Governance of AI workflow output

`ai_governance.py` from the request to the result, with the narrative of
`ai_explanation/grounding.py` and the digest of `ai_output_integrity.py`.  What an
advisor reads is built from the claims and the types of the proposed actions.  The
text and the labels of the provider only decide whether it is shown.
-/

set_option autoImplicit false

/-- What is asked of `unicodedata`. -/
class UnicodeData where
  nfc : String → String

namespace Json

/-! ## Canonical text that keeps other scripts -/

/-- With `ensure_ascii=False` only control characters are written as code points. -/
def escapeControl (c : Char) : List Char :=
  match shortEscape c with
  | some e => ['\\', e]
  | none => if c.toNat < 32 then unitEscape c.toNat else [c]

def quoteUnicode (s : String) : List Char := '"' :: s.toList.flatMap escapeControl ++ ['"']

mutual

/-- `json.dumps(value, ensure_ascii=False, sort_keys=True, separators=(",", ":"))`. -/
def dumpUnicode : Json → List Char
  | .null => "null".toList
  | .bool true => "true".toList
  | .bool false => "false".toList
  | .int n => (toString n).toList
  | .str s => quoteUnicode s
  | .arr items => '[' :: joined (dumpUnicodeItems items) ++ [']']
  | .obj fields =>
      '{' :: joined ((sortFields (dumpUnicodeFields fields)).map fun field =>
        quoteUnicode field.1 ++ ':' :: field.2) ++ ['}']

def dumpUnicodeItems : List Json → List (List Char)
  | [] => []
  | item :: rest => dumpUnicode item :: dumpUnicodeItems rest

def dumpUnicodeFields : List (String × Json) → List (String × List Char)
  | [] => []
  | (key, value) :: rest => (key, dumpUnicode value) :: dumpUnicodeFields rest

end

end Json

namespace LotusIdea.AIGovernance

/-! ## Requests -/

structure AIWorkflowPackRef extends LotusIdea.AIWorkflowPackRef where
  evaluationRef : String

/-- The fields of redacted evidence that an evaluation or a lineage record reads. -/
structure RedactedIdeaEvidence extends LotusIdea.RedactedIdeaEvidence where
  /-- The `product_id` of each source reference. -/
  sourceProductIds : List String

structure AIExplanationRequestFields where
  requestId : String
  actorSubject : String
  workflowPack : AIWorkflowPackRef
  redactedEvidence : RedactedIdeaEvidence
  requestedAtUtc : DateTime

def AIExplanationRequestFields.checks (r : AIExplanationRequestFields) : List (Bool × PyError) :=
  [requireText r.requestId "request_id", requireText r.actorSubject "actor_subject",
   requireAware r.requestedAtUtc "requested_at_utc"]

abbrev AIExplanationRequest := Checked AIExplanationRequestFields.checks

/-! ## Outputs -/

structure AIOutputClaimFields where
  claimId : String
  claimText : String
  sourceProductIds : List String

def AIOutputClaimFields.checks (c : AIOutputClaimFields) : List (Bool × PyError) :=
  [requireText c.claimId "claim_id", requireText c.claimText "claim_text",
   (c.sourceProductIds.isEmpty, .valueError "source_product_ids is required"),
   (c.sourceProductIds.any PyText.isBlank,
     .valueError "source_product_ids cannot contain blank values"),
   (decide (¬ c.sourceProductIds.Nodup), .valueError "source_product_ids must be unique")]

abbrev AIOutputClaim := Checked AIOutputClaimFields.checks

structure AIProposedActionFields where
  actionType : AIProposedActionType
  actionLabel : String

def AIProposedActionFields.checks (a : AIProposedActionFields) : List (Bool × PyError) :=
  [requireText a.actionLabel "action_label"]

abbrev AIProposedAction := Checked AIProposedActionFields.checks

structure AIWorkflowOutputFields where
  outputId : String
  requestId : String
  workflowPackId : String
  workflowPackVersion : String
  explanationText : String
  claims : List AIOutputClaim
  proposedActions : List AIProposedAction
  verifierRanAtUtc : DateTime

def AIWorkflowOutputFields.checks (o : AIWorkflowOutputFields) : List (Bool × PyError) :=
  [requireText o.outputId "output_id", requireText o.requestId "request_id",
   requireText o.workflowPackId "workflow_pack_id",
   requireText o.workflowPackVersion "workflow_pack_version",
   requireText o.explanationText "explanation_text",
   requireAware o.verifierRanAtUtc "verifier_ran_at_utc",
   (o.claims.isEmpty, .valueError "claims is required"),
   (decide (¬ (o.claims.map fun claim => claim.val.claimId).Nodup),
     .valueError "claim_ids must be unique"),
   (o.proposedActions.isEmpty, .valueError "proposed_actions is required")]

abbrev AIWorkflowOutput := Checked AIWorkflowOutputFields.checks

/-! ## Results -/

structure AIExplanationResultFields where
  request : AIExplanationRequest
  posture : AIExplanationPosture
  verifierOutcome : AIVerifierOutcome
  explanationText : String
  reasonCodes : List ReasonCode
  auditEvent : AuditEvent
  outputIntegrity : AIOutputIntegrity
  executionProvenancePosture : AIExecutionProvenancePosture
  output : Option AIWorkflowOutput := none
  fallbackReason : Option AIFallbackReason := none

def AIExplanationResultFields.checks (r : AIExplanationResultFields) : List (Bool × PyError) :=
  [requireText r.explanationText "explanation_text",
   (r.reasonCodes.isEmpty, .valueError "reason_codes is required"),
   (decide (r.posture = .fallbackUsed) && r.fallbackReason.isNone,
     .valueError "fallback_reason is required for fallback posture"),
   (decide (r.posture ≠ .fallbackUsed) && r.fallbackReason.isSome,
     .valueError "fallback_reason requires fallback posture"),
   (decide (r.posture = .fallbackUsed) &&
       decide (r.executionProvenancePosture ≠ .notApplicableFallback),
     .valueError "fallback result requires not-applicable execution provenance"),
   (decide (r.posture ≠ .fallbackUsed) &&
       decide (r.executionProvenancePosture = .notApplicableFallback),
     .valueError "evaluated workflow output requires execution provenance posture")]

abbrev AIExplanationResult := Checked AIExplanationResultFields.checks

/-! ## Grounded narrative -/

/-- `_sentence`. -/
def sentence (value : String) : Except PyError String :=
  let text := PyText.strip value
  if text.toList = [] then .error (.valueError "claim_text is required")
  else if text.toList.getLast?.any fun c => c = '.' || c = '?' || c = '!' then .ok text
  else .ok (text ++ ".")

/-- `" ".join(parts)`. -/
def joinBlank (parts : List String) : String :=
  String.ofList (List.intercalate [' '] (parts.map String.toList))

/-- `render_grounded_claim_narrative`. -/
def renderGroundedClaimNarrative (claims : List AIOutputClaim) : Except PyError String := do
  validate
    [(claims.isEmpty, .valueError "grounded claims are required"),
     (decide (¬ (claims.map fun claim => claim.val.claimId).Nodup),
       .valueError "claim_ids must be unique")]
  let sentences ← claims.mapM fun claim => sentence claim.val.claimText
  return joinBlank sentences

/-! ## Output integrity -/

def aiClaimGroundingPolicyVersion : String := "lotus-idea.ai-claim-grounding-policy.v1"

/-- `value.replace("\r\n", "\n").replace("\r", "\n")`. -/
def plainNewlines : List Char → List Char
  | [] => []
  | '\r' :: '\n' :: rest => '\n' :: plainNewlines rest
  | '\r' :: rest => '\n' :: plainNewlines rest
  | c :: rest => c :: plainNewlines rest

section Evaluation

variable [Sha256] [UnicodeData]

/-- `_canonical_text`. -/
def canonicalText (value : String) : Json :=
  .str (UnicodeData.nfc (String.ofList (plainNewlines value.toList)))

/-- `build_ai_output_integrity` of claims, actions and metadata in canonical form. -/
def buildAiOutputIntegrity (explanationText : String) (claims proposedActions : List Json)
    (workflowPackId workflowPackVersion evaluationRef actionPolicyVersion outputKind : String)
    (policyMetadata : List (String × Json)) : Except PyError AIOutputIntegrity :=
  let payload : Json := .obj
    [("action_policy_version", .str actionPolicyVersion), ("claims", .arr claims),
     ("evaluation_ref", canonicalText evaluationRef),
     ("explanation_text", canonicalText explanationText),
     ("integrity_version", .str aiOutputIntegrityVersion),
     ("output_kind", canonicalText outputKind), ("policy_metadata", .obj policyMetadata),
     ("proposed_actions", .arr proposedActions),
     ("workflow_pack_id", canonicalText workflowPackId),
     ("workflow_pack_version", canonicalText workflowPackVersion)]
  Checked.make AIOutputIntegrityFields.checks
    { version := aiOutputIntegrityVersion
      digest := sha256DigestStart ++
        Sha256.hexdigest 64 (String.ofList (Json.dumpUnicode payload)) }

/-- `_workflow_output_integrity`. -/
def workflowOutputIntegrity (request : AIExplanationRequest) (output : AIWorkflowOutput)
    (providerOutputDigest : Option String) : Except PyError AIOutputIntegrity :=
  buildAiOutputIntegrity output.val.explanationText
    (output.val.claims.map fun claim => .obj
      [("claim_id", canonicalText claim.val.claimId),
       ("claim_text", canonicalText claim.val.claimText),
       ("source_product_ids", .arr (claim.val.sourceProductIds.map canonicalText))])
    (output.val.proposedActions.map fun action => .obj
      [("action_type", canonicalText action.val.actionType.value),
       ("submitted_action_label", canonicalText action.val.actionLabel)])
    output.val.workflowPackId output.val.workflowPackVersion
    request.val.workflowPack.evaluationRef aiActionPolicyVersion "workflow_output"
    ([("claim_grounding_policy", canonicalText aiClaimGroundingPolicyVersion),
      ("verifier_policy", canonicalText "deterministic_source_and_action_verifier.v1")] ++
      (providerOutputDigest.elim [] fun digest =>
        [("provider_output_digest", canonicalText digest)]))

/-! ## Evaluation -/

/-- `_ensure_output_matches_request`. -/
def ensureOutputMatchesRequest (request : AIExplanationRequest) (output : AIWorkflowOutput) :
    Except PyError Unit :=
  validate
    [(output.val.requestId != request.val.requestId,
       .valueError "output request_id does not match request"),
     (output.val.workflowPackId != request.val.workflowPack.workflowPackId,
       .valueError "output workflow_pack_id does not match request"),
     (output.val.workflowPackVersion != request.val.workflowPack.workflowPackVersion,
       .valueError "output workflow_pack_version does not match request")]

/-- `_ai_audit_event` of an output that was evaluated. -/
def aiAuditEvent (request : AIExplanationRequest) (posture : AIExplanationPosture)
    (verifierOutcome : AIVerifierOutcome) (outcome : String) (occurredAtUtc : DateTime)
    (actionPolicyReason : Option AIActionPolicyReason) (outputIntegrity : AIOutputIntegrity) :
    Except PyError AuditEvent :=
  let evidence := request.val.redactedEvidence
  AuditEvent.create
    { eventType := "idea.ai_explanation.evaluated"
      actorSubject := request.val.actorSubject
      outcome, occurredAtUtc
      attributes :=
        [("evidence_packet_id", evidence.evidencePacketId),
         ("source_revision_vector_digest", evidence.sourceRevisionVectorDigest),
         ("source_cut_posture", evidence.sourceCutPosture.value),
         ("fallback_used", if posture = .fallbackUsed then "true" else "false"),
         ("posture", posture.value), ("purpose", request.val.workflowPack.purpose.value),
         ("verifier_outcome", verifierOutcome.value),
         ("workflow_pack_id", request.val.workflowPack.workflowPackId),
         ("workflow_pack_version", request.val.workflowPack.workflowPackVersion),
         ("action_policy_version", aiActionPolicyVersion),
         ("action_policy_reason", actionPolicyReason.elim "not_run" AIActionPolicyReason.value),
         ("output_integrity_version", outputIntegrity.val.version),
         ("output_content_digest", outputIntegrity.val.digest),
         ("execution_provenance_posture",
           if posture = .fallbackUsed then
             AIExecutionProvenancePosture.notApplicableFallback.value
           else AIExecutionProvenancePosture.unattestedLocalTestFixture.value)] }

/-- `_blocked_ai_explanation`. -/
def blockedAiExplanation : ReasonCode → Except PyError String
  | .aiUnsupportedClaimBlocked =>
      .ok ("AI explanation was blocked because one or more claims lacked approved " ++
        "evidence bindings.")
  | .aiForbiddenActionBlocked =>
      .ok ("AI explanation was blocked because it proposed an action outside the " ++
        "Idea authority boundary.")
  | .aiActionContentBlocked =>
      .ok ("AI explanation was blocked because proposed action content violated " ++
        "the governed action policy.")
  | _ => .error (.valueError "unsupported blocked AI reason code")

/-- `replace(output, explanation_text=text)`. -/
def replaceExplanation (output : AIWorkflowOutput) (text : String) :
    Except PyError AIWorkflowOutput :=
  Checked.make AIWorkflowOutputFields.checks { output.val with explanationText := text }

/-- `_blocked_ai_result`. -/
def blockedAiResult (request : AIExplanationRequest) (output : AIWorkflowOutput)
    (posture : AIExplanationPosture) (verifierOutcome : AIVerifierOutcome)
    (reasonCode : ReasonCode) (actionPolicyReason : AIActionPolicyReason)
    (outputIntegrity : AIOutputIntegrity) : Except PyError AIExplanationResult := do
  let blockedExplanation ← blockedAiExplanation reasonCode
  let sanitizedOutput ← replaceExplanation output blockedExplanation
  let auditEvent ← aiAuditEvent request posture verifierOutcome "blocked"
    output.val.verifierRanAtUtc (some actionPolicyReason) outputIntegrity
  Checked.make AIExplanationResultFields.checks
    { request, posture, verifierOutcome
      explanationText := blockedExplanation
      reasonCodes := [reasonCode]
      auditEvent, outputIntegrity
      executionProvenancePosture := .unattestedLocalTestFixture
      output := some sanitizedOutput }

structure AIWorkflowActionPolicyEvaluation where
  sanitizedOutput : AIWorkflowOutput
  decisions : List AIActionPolicyDecision

/-- The decision on a proposed action. -/
def actionDecision (action : AIProposedAction) : AIActionPolicyDecision :=
  LotusIdea.evaluateAiActionPolicy action.val.actionType action.val.actionLabel

/-- `_evaluate_ai_workflow_action_policy`. -/
def evaluateAiWorkflowActionPolicy (output : AIWorkflowOutput) :
    Except PyError AIWorkflowActionPolicyEvaluation := do
  let decisions := output.val.proposedActions.map actionDecision
  let proposedActions ← (output.val.proposedActions.zip decisions).mapM fun (action, decision) =>
    Checked.make AIProposedActionFields.checks ⟨action.val.actionType, decision.canonicalLabel⟩
  let sanitizedOutput ←
    Checked.make AIWorkflowOutputFields.checks { output.val with proposedActions }
  return ⟨sanitizedOutput, decisions⟩

/-- `_action_policy_blocker_result`. -/
def actionPolicyBlockerResult (request : AIExplanationRequest)
    (actionPolicy : AIWorkflowActionPolicyEvaluation) (outputIntegrity : AIOutputIntegrity) :
    Except PyError (Option AIExplanationResult) :=
  if actionPolicy.decisions.any fun decision => decision.reason = .forbiddenActionType then
    (blockedAiResult request actionPolicy.sanitizedOutput .blockedForbiddenAction
      .failedForbiddenAction .aiForbiddenActionBlocked .forbiddenActionType
      outputIntegrity).map some
  else
    match actionPolicy.decisions.find? fun decision => !decision.allowed with
    | some rejectedContent =>
        (blockedAiResult request actionPolicy.sanitizedOutput .blockedForbiddenAction
          .failedActionContent .aiActionContentBlocked rejectedContent.reason
          outputIntegrity).map some
    | none => .ok none

/-- `_unsupported_claims`. -/
def unsupportedClaims (request : AIExplanationRequest) (output : AIWorkflowOutput) :
    List AIOutputClaim :=
  output.val.claims.filter fun claim =>
    !claim.val.sourceProductIds.all fun sourceProductId =>
      decide (sourceProductId ∈ request.val.redactedEvidence.sourceProductIds)

/-- `_accepted_ai_workflow_result`. -/
def acceptedAiWorkflowResult (request : AIExplanationRequest) (sanitizedOutput : AIWorkflowOutput)
    (providerOutputIntegrity : AIOutputIntegrity) : Except PyError AIExplanationResult := do
  let narrative ← renderGroundedClaimNarrative sanitizedOutput.val.claims
  let groundedOutput ← replaceExplanation sanitizedOutput narrative
  let outputIntegrity ← workflowOutputIntegrity request groundedOutput
    (some providerOutputIntegrity.val.digest)
  let auditEvent ← aiAuditEvent request .readyForAdvisorReview .passed "accepted"
    groundedOutput.val.verifierRanAtUtc (some .allowed) outputIntegrity
  Checked.make AIExplanationResultFields.checks
    { request
      posture := .readyForAdvisorReview
      verifierOutcome := .passed
      explanationText := groundedOutput.val.explanationText
      reasonCodes := [.aiVerifierPassed]
      auditEvent, outputIntegrity
      executionProvenancePosture := .unattestedLocalTestFixture
      output := some groundedOutput }

/-- `evaluate_ai_workflow_output`. -/
def evaluateAiWorkflowOutput (request : AIExplanationRequest) (output : AIWorkflowOutput) :
    Except PyError AIExplanationResult := do
  ensureOutputMatchesRequest request output
  let outputIntegrity ← workflowOutputIntegrity request output none
  let actionPolicy ← evaluateAiWorkflowActionPolicy output
  match ← actionPolicyBlockerResult request actionPolicy outputIntegrity with
  | some actionBlocker => return actionBlocker
  | none =>
      if unsupportedClaims request actionPolicy.sanitizedOutput ≠ [] then
        blockedAiResult request actionPolicy.sanitizedOutput .blockedUnsupportedClaim
          .failedUnsupportedClaim .aiUnsupportedClaimBlocked .allowed outputIntegrity
      else
        acceptedAiWorkflowResult request actionPolicy.sanitizedOutput outputIntegrity

end Evaluation

/-! ## Every constructor on the way passes -/

theorem auditEvent_made (request : AIExplanationRequest) (posture : AIExplanationPosture)
    (verifierOutcome : AIVerifierOutcome) {outcome : String} {occurredAtUtc : DateTime}
    (reason : Option AIActionPolicyReason) (integrity : AIOutputIntegrity)
    (shown : PyText.isBlank outcome = false) (aware : occurredAtUtc.isNaive = false) :
    ∃ event, aiAuditEvent request posture verifierOutcome outcome occurredAtUtc reason integrity =
      .ok event := by
  have actor : PyText.isBlank request.val.actorSubject = false := by
    have valid := request.valid
    simp only [AIExplanationRequestFields.checks, firstFailure_eq_none, List.forall_mem_cons,
      requireText] at valid
    exact valid.2.1
  refine ⟨_, Checked.make_of_valid ?_⟩
  have named : PyText.isBlank "idea.ai_explanation.evaluated" = false := by decide
  simp [AuditEventFields.checks, AuditEventFields.leakedKeys, requireText, requireAware, actor,
    shown, aware, named, forbiddenAttributeKeys]

theorem output_valid (output : AIWorkflowOutput) :
    output.val.verifierRanAtUtc.isNaive = false ∧ output.val.claims ≠ [] ∧
      (output.val.claims.map fun claim => claim.val.claimId).Nodup ∧
      output.val.proposedActions ≠ [] := by
  have valid := output.valid
  simp only [AIWorkflowOutputFields.checks, firstFailure_eq_none, List.forall_mem_cons,
    requireAware, List.isEmpty_eq_false_iff, decide_eq_false_iff_not, not_not] at valid
  exact ⟨valid.2.2.2.2.2.1, valid.2.2.2.2.2.2.1, valid.2.2.2.2.2.2.2.1, valid.2.2.2.2.2.2.2.2.1⟩

/-- Another visible text and other actions leave an output valid. -/
theorem output_replaced (output : AIWorkflowOutput) {text : String}
    {actions : List AIProposedAction} (shown : PyText.isBlank text = false)
    (filled : actions ≠ []) :
    firstFailure
      { output.val with explanationText := text, proposedActions := actions }.checks = none := by
  have valid := output.valid
  rw [firstFailure_eq_none] at valid ⊢
  simp only [AIWorkflowOutputFields.checks, List.forall_mem_cons, requireText, shown,
    List.isEmpty_eq_false_iff] at valid ⊢
  tauto

theorem replaceExplanation_made (output : AIWorkflowOutput) {text : String}
    (shown : PyText.isBlank text = false) :
    ∃ replaced, replaceExplanation output text = .ok replaced ∧
      replaced.val = { output.val with explanationText := text } := by
  have valid := output_replaced output shown (output_valid output).2.2.2
  exact ⟨_, Checked.make_of_valid valid, rfl⟩

/-- A proposed action under the label of its type. -/
def canonicalAction (action : AIProposedAction) : AIProposedAction where
  val := ⟨action.val.actionType, (actionDecision action).canonicalLabel⟩
  valid := by
    have shown := canonicalLabel_visible action.val.actionType action.val.actionLabel
    simp [AIProposedActionFields.checks, requireText, actionDecision, shown]

theorem canonicalActions_made (actions : List AIProposedAction) :
    ((actions.zip (actions.map actionDecision)).mapM fun (action, decision) =>
      (Checked.make AIProposedActionFields.checks
        ⟨action.val.actionType, decision.canonicalLabel⟩ : Except PyError AIProposedAction)) =
      .ok (actions.map canonicalAction) := by
  have zipped : actions.zip (actions.map actionDecision) =
      actions.map fun action => (action, actionDecision action) := by
    have pairs : (actions.map id).zip (actions.map actionDecision) =
        actions.map fun action => (id action, actionDecision action) := List.zip_map'
    simpa using pairs
  rw [zipped, List.mapM_map]
  exact Except.mapM_ok fun action _ => Checked.make_of_valid (canonicalAction action).valid

theorem actionPolicy_made (output : AIWorkflowOutput) :
    ∃ evaluation, evaluateAiWorkflowActionPolicy output = .ok evaluation ∧
      evaluation.decisions = output.val.proposedActions.map actionDecision ∧
      evaluation.sanitizedOutput.val =
        { output.val with proposedActions := output.val.proposedActions.map canonicalAction } := by
  have text : PyText.isBlank output.val.explanationText = false := by
    have valid := output.valid
    simp only [AIWorkflowOutputFields.checks, firstFailure_eq_none, List.forall_mem_cons,
      requireText] at valid
    exact valid.2.2.2.2.1
  have filled : output.val.proposedActions.map canonicalAction ≠ [] := by
    simpa using (output_valid output).2.2.2
  have valid := output_replaced output text filled
  refine ⟨⟨⟨_, valid⟩, output.val.proposedActions.map actionDecision⟩, ?_, rfl, rfl⟩
  unfold evaluateAiWorkflowActionPolicy
  dsimp only
  rw [canonicalActions_made]
  simp only [Json.ok_bind]
  rw [show Checked.make AIWorkflowOutputFields.checks _ = .ok _ from Checked.make_of_valid valid]
  rfl

/-- A stripped text shows something where the text did. -/
theorem strip_visible {value : String} (shown : PyText.isBlank value = false) :
    PyText.isBlank (PyText.strip value) = false := by
  obtain ⟨c, member, visible⟩ : ∃ c ∈ value.toList, PyText.isSpace c = false := by
    simpa [PyText.isBlank] using shown
  have trimmed : c ∈ value.toList.dropWhile PyText.isSpace := by
    have whole := List.takeWhile_append_dropWhile (p := PyText.isSpace) (l := value.toList)
    rw [← whole, List.mem_append] at member
    rcases member with front | kept
    · have blank := List.mem_takeWhile_imp front
      rw [visible] at blank
      cases blank
    · exact kept
  have kept : c ∈ (PyText.strip value).toList := by
    rw [PyText.strip, String.toList_ofList, List.mem_reverse]
    have whole := List.takeWhile_append_dropWhile (p := PyText.isSpace)
      (l := (value.toList.dropWhile PyText.isSpace).reverse)
    rw [← List.mem_reverse, ← whole, List.mem_append] at trimmed
    rcases trimmed with front | back
    · have blank := List.mem_takeWhile_imp front
      rw [visible] at blank
      cases blank
    · exact back
  simp only [PyText.isBlank, List.all_eq_false]
  exact ⟨c, kept, by simp [visible]⟩

theorem sentence_made {value : String} (shown : PyText.isBlank value = false) :
    ∃ text, sentence value = .ok text ∧ PyText.isBlank text = false := by
  have visible := strip_visible shown
  have filled : (PyText.strip value).toList ≠ [] := by
    intro none
    rw [PyText.isBlank, none] at visible
    cases visible
  unfold sentence
  dsimp only
  rw [if_neg filled]
  split
  · exact ⟨_, rfl, visible⟩
  · exact ⟨_, rfl, PyText.isBlank_append_of_left _ visible⟩

theorem claim_shown (claim : AIOutputClaim) : PyText.isBlank claim.val.claimText = false := by
  have valid := claim.valid
  simp only [AIOutputClaimFields.checks, firstFailure_eq_none, List.forall_mem_cons,
    requireText] at valid
  exact valid.2.1

/-- The sentences of a list of claims. -/
theorem sentences_made (claims : List AIOutputClaim) :
    ∃ sentences, (claims.mapM fun claim => sentence claim.val.claimText) = .ok sentences ∧
      sentences.length = claims.length ∧ ∀ text ∈ sentences, PyText.isBlank text = false := by
  induction claims with
  | nil => exact ⟨[], rfl, rfl, fun _ member => nomatch member⟩
  | cons claim rest ih =>
      obtain ⟨sentences, run, length, visible⟩ := ih
      obtain ⟨text, made, shown⟩ := sentence_made (claim_shown claim)
      refine ⟨text :: sentences, ?_, ?_, ?_⟩
      · rw [List.mapM_cons, made, run]
        rfl
      · rw [List.length_cons, List.length_cons, length]
      · intro other member
        rcases List.mem_cons.mp member with rfl | later
        · exact shown
        · exact visible other later

theorem joinBlank_visible {first : String} (rest : List String)
    (shown : PyText.isBlank first = false) : PyText.isBlank (joinBlank (first :: rest)) = false := by
  obtain ⟨c, member, visible⟩ : ∃ c ∈ first.toList, PyText.isSpace c = false := by
    simpa [PyText.isBlank] using shown
  have kept : c ∈ List.intercalate [' '] ((first :: rest).map String.toList) := by
    cases rest with
    | nil => simpa [List.intercalate] using member
    | cons next further => simp [List.intercalate, member]
  simp only [PyText.isBlank, joinBlank, String.toList_ofList, List.all_eq_false]
  exact ⟨c, kept, by simp [visible]⟩

theorem narrative_made (output : AIWorkflowOutput) :
    ∃ narrative, renderGroundedClaimNarrative output.val.claims = .ok narrative ∧
      PyText.isBlank narrative = false := by
  obtain ⟨_, filled, distinct, _⟩ := output_valid output
  obtain ⟨sentences, run, length, visible⟩ := sentences_made output.val.claims
  have passed : validate
      [(output.val.claims.isEmpty, .valueError "grounded claims are required"),
       (decide (¬ (output.val.claims.map fun claim => claim.val.claimId).Nodup),
         .valueError "claim_ids must be unique")] = .ok () := by
    rw [validate_eq_ok, firstFailure_eq_none]
    simp [filled, distinct]
  refine ⟨joinBlank sentences, ?_, ?_⟩
  · unfold renderGroundedClaimNarrative
    rw [passed, Json.ok_bind, run]
    rfl
  · cases sentences with
    | nil =>
        rw [List.length_nil] at length
        exact absurd (List.length_eq_zero_iff.mp length.symm) filled
    | cons first rest => exact joinBlank_visible rest (visible first List.mem_cons_self)

/-! ## What a result shows -/

/-- The outcome of the checks, in their order. -/
def verdict (request : AIExplanationRequest) (output : AIWorkflowOutput) : AIVerifierOutcome :=
  if output.val.proposedActions.any fun action =>
      (actionDecision action).reason = .forbiddenActionType then .failedForbiddenAction
  else if output.val.proposedActions.any fun action => !(actionDecision action).allowed then
    .failedActionContent
  else if unsupportedClaims request output ≠ [] then .failedUnsupportedClaim
  else .passed

def outcomePosture : AIVerifierOutcome → AIExplanationPosture
  | .passed => .readyForAdvisorReview
  | .failedUnsupportedClaim => .blockedUnsupportedClaim
  | _ => .blockedForbiddenAction

/-- The text that an outcome shows. -/
def outcomeText (claims : List AIOutputClaim) : AIVerifierOutcome → Except PyError String
  | .passed => renderGroundedClaimNarrative claims
  | .failedUnsupportedClaim => blockedAiExplanation .aiUnsupportedClaimBlocked
  | .failedForbiddenAction => blockedAiExplanation .aiForbiddenActionBlocked
  | .failedActionContent => blockedAiExplanation .aiActionContentBlocked
  | .notRun => blockedAiExplanation .aiFallbackUsed

/-- The result shows what the outcome, the claims and the types of the actions say. -/
structure Shows (output : AIWorkflowOutput) (outcome : AIVerifierOutcome)
    (result : AIExplanationResult) : Prop where
  answered : result.val.verifierOutcome = outcome
  posture : result.val.posture = outcomePosture outcome
  text : outcomeText output.val.claims outcome = .ok result.val.explanationText
  shown : ∃ shown, result.val.output = some shown ∧
    shown.val =
      { output.val with
        explanationText := result.val.explanationText
        proposedActions := output.val.proposedActions.map canonicalAction }

/-- The requests and outputs that belong together. -/
structure Matches (request : AIExplanationRequest) (output : AIWorkflowOutput) : Prop where
  requestId : output.val.requestId = request.val.requestId
  workflowPackId : output.val.workflowPackId = request.val.workflowPack.workflowPackId
  workflowPackVersion :
    output.val.workflowPackVersion = request.val.workflowPack.workflowPackVersion

theorem ensureOutputMatchesRequest_iff {request : AIExplanationRequest}
    {output : AIWorkflowOutput} :
    ensureOutputMatchesRequest request output = .ok () ↔ Matches request output := by
  rw [ensureOutputMatchesRequest, validate_eq_ok, firstFailure_eq_none]
  simp only [List.forall_mem_cons, bne_eq_false_iff_eq, List.not_mem_nil, false_implies,
    implies_true, and_true]
  exact ⟨fun ⟨request, pack, version⟩ => ⟨request, pack, version⟩,
    fun matching => ⟨matching.requestId, matching.workflowPackId, matching.workflowPackVersion⟩⟩

theorem unsupportedClaims_sanitized (request : AIExplanationRequest)
    {output sanitized : AIWorkflowOutput} (claims : sanitized.val.claims = output.val.claims) :
    unsupportedClaims request sanitized = unsupportedClaims request output := by
  rw [unsupportedClaims, unsupportedClaims, claims]

theorem outcomePosture_ne (outcome : AIVerifierOutcome) :
    outcomePosture outcome ≠ .fallbackUsed := by
  cases outcome <;> decide

theorem blockedAiExplanation_shown {reasonCode : ReasonCode} {text : String}
    (blocked : blockedAiExplanation reasonCode = .ok text) : PyText.isBlank text = false := by
  unfold blockedAiExplanation at blocked
  split at blocked
  · cases blocked
    decide
  · cases blocked
    decide
  · cases blocked
    decide
  · cases blocked

/-- A blocked result is built whatever was blocked. -/
theorem blockedAiResult_made (request : AIExplanationRequest) (outcome : AIVerifierOutcome)
    (reasonCode : ReasonCode) (reason : AIActionPolicyReason) (integrity : AIOutputIntegrity)
    {output sanitized : AIWorkflowOutput}
    (sanitizedOutput : sanitized.val =
      { output.val with proposedActions := output.val.proposedActions.map canonicalAction })
    {text : String}
    (blocked : blockedAiExplanation reasonCode = .ok text)
    (said : outcomeText output.val.claims outcome = blockedAiExplanation reasonCode) :
    ∃ result, blockedAiResult request sanitized (outcomePosture outcome) outcome reasonCode reason
        integrity = .ok result ∧
      Shows output outcome result := by
  have shown := blockedAiExplanation_shown blocked
  have apart := outcomePosture_ne outcome
  obtain ⟨replaced, replacing, fields⟩ := replaceExplanation_made sanitized shown
  have aware := (output_valid sanitized).1
  have named : PyText.isBlank "blocked" = false := by decide
  obtain ⟨event, auditing⟩ := auditEvent_made request (outcomePosture outcome) outcome
    (some reason) integrity named aware
  have valid : firstFailure (AIExplanationResultFields.checks
      { request, posture := outcomePosture outcome, verifierOutcome := outcome
        explanationText := text, reasonCodes := [reasonCode], auditEvent := event
        outputIntegrity := integrity
        executionProvenancePosture := .unattestedLocalTestFixture
        output := some replaced }) = none := by
    rw [firstFailure_eq_none]
    simp [AIExplanationResultFields.checks, requireText, shown, apart]
  refine ⟨⟨_, valid⟩, ?_, ⟨rfl, rfl, said.trans blocked, replaced, rfl, ?_⟩⟩
  · unfold blockedAiResult
    rw [blocked, Json.ok_bind, replacing, Json.ok_bind, auditing, Json.ok_bind]
    exact Checked.make_of_valid valid
  · rw [fields, sanitizedOutput]

section Evaluated

variable [Sha256] [UnicodeData]

theorem integrity_made (sized : Sha256.Sized) (request : AIExplanationRequest)
    (output : AIWorkflowOutput) (providerOutputDigest : Option String) :
    ∃ integrity, workflowOutputIntegrity request output providerOutputDigest = .ok integrity := by
  have start : ∀ text, PyText.startsWith (sha256DigestStart ++ text) sha256DigestStart = true :=
    PyText.startsWith_append sha256DigestStart
  have length : ∀ text, (sha256DigestStart ++ Sha256.hexdigest 64 text).toList.length = 71 := by
    intro text
    rw [String.toList_append, List.length_append, sized 64 text (Nat.le_refl 64)]
    rfl
  have version : PyText.isBlank LotusIdea.aiOutputIntegrityVersion = false := by decide
  refine ⟨_, Checked.make_of_valid ?_⟩
  rw [firstFailure_eq_none]
  simp only [AIOutputIntegrityFields.checks, List.forall_mem_cons, start, length, version]
  simp

end Evaluated

/-- The actions block exactly where the verdict says so, and otherwise leave the rest
of the checks to run. -/
theorem actionPolicyBlocker_made (request : AIExplanationRequest)
    (integrity : AIOutputIntegrity) {output : AIWorkflowOutput}
    {evaluation : AIWorkflowActionPolicyEvaluation}
    (decisions : evaluation.decisions = output.val.proposedActions.map actionDecision)
    (sanitized : evaluation.sanitizedOutput.val =
      { output.val with proposedActions := output.val.proposedActions.map canonicalAction }) :
    (∃ blocked, actionPolicyBlockerResult request evaluation integrity = .ok (some blocked) ∧
      Shows output (verdict request output) blocked) ∨
    (actionPolicyBlockerResult request evaluation integrity = .ok none ∧
      verdict request output =
        if unsupportedClaims request output ≠ [] then .failedUnsupportedClaim else .passed) := by
  unfold actionPolicyBlockerResult verdict
  rw [decisions, List.any_map]
  by_cases forbidden : (output.val.proposedActions.any fun action =>
      (actionDecision action).reason = .forbiddenActionType) = true
  · obtain ⟨result, run, shows⟩ := blockedAiResult_made request .failedForbiddenAction
      .aiForbiddenActionBlocked .forbiddenActionType integrity sanitized rfl rfl
    refine Or.inl ⟨result, ?_, ?_⟩
    · have blocked : blockedAiResult request evaluation.sanitizedOutput .blockedForbiddenAction
          .failedForbiddenAction .aiForbiddenActionBlocked .forbiddenActionType integrity =
            .ok result := run
      rw [if_pos (by exact forbidden), blocked]
      rfl
    · rw [if_pos forbidden]
      exact shows
  · rw [if_neg (by exact forbidden), if_neg forbidden]
    by_cases rejected : (output.val.proposedActions.any fun action =>
        !(actionDecision action).allowed) = true
    · rw [if_pos rejected]
      cases found : (output.val.proposedActions.map actionDecision).find? fun decision =>
          !decision.allowed with
      | none =>
          rw [List.find?_eq_none] at found
          obtain ⟨action, member, refused⟩ := List.any_eq_true.mp rejected
          exact absurd refused (found _ (List.mem_map_of_mem member))
      | some decision =>
          obtain ⟨result, run, shows⟩ := blockedAiResult_made request .failedActionContent
            .aiActionContentBlocked decision.reason integrity sanitized rfl rfl
          have blocked : blockedAiResult request evaluation.sanitizedOutput
              .blockedForbiddenAction .failedActionContent .aiActionContentBlocked
              decision.reason integrity = .ok result := run
          refine Or.inl ⟨result, ?_, shows⟩
          dsimp only
          rw [blocked]
          rfl
    · rw [if_neg rejected]
      cases found : (output.val.proposedActions.map actionDecision).find? fun decision =>
          !decision.allowed with
      | none => exact Or.inr ⟨rfl, rfl⟩
      | some decision =>
          have refused := List.find?_some found
          obtain ⟨action, member, rfl⟩ := List.mem_map.mp (List.mem_of_find?_eq_some found)
          exact absurd (List.any_eq_true.mpr ⟨action, member, refused⟩) rejected

section Evaluated

variable [Sha256] [UnicodeData]

/-- An accepted result is built from the claims. -/
theorem acceptedAiWorkflowResult_made (sized : Sha256.Sized) {request : AIExplanationRequest}
    {output sanitized : AIWorkflowOutput}
    (sanitizedOutput : sanitized.val =
      { output.val with proposedActions := output.val.proposedActions.map canonicalAction })
    (providerOutputIntegrity : AIOutputIntegrity) :
    ∃ result, acceptedAiWorkflowResult request sanitized providerOutputIntegrity = .ok result ∧
      Shows output .passed result := by
  obtain ⟨narrative, rendering, shown⟩ := narrative_made sanitized
  obtain ⟨grounded, replacing, fields⟩ := replaceExplanation_made sanitized shown
  obtain ⟨integrity, sealing⟩ :=
    integrity_made sized request grounded (some providerOutputIntegrity.val.digest)
  have aware := (output_valid grounded).1
  have named : PyText.isBlank "accepted" = false := by decide
  obtain ⟨event, auditing⟩ := auditEvent_made request .readyForAdvisorReview .passed
    (some .allowed) integrity named aware
  have text : grounded.val.explanationText = narrative := by rw [fields]
  have valid : firstFailure (AIExplanationResultFields.checks
      { request, posture := .readyForAdvisorReview, verifierOutcome := .passed
        explanationText := grounded.val.explanationText, reasonCodes := [.aiVerifierPassed]
        auditEvent := event, outputIntegrity := integrity
        executionProvenancePosture := .unattestedLocalTestFixture
        output := some grounded }) = none := by
    rw [firstFailure_eq_none]
    simp [AIExplanationResultFields.checks, requireText, shown, text]
  have claims : sanitized.val.claims = output.val.claims := by rw [sanitizedOutput]
  have said : outcomeText output.val.claims .passed = .ok grounded.val.explanationText := by
    rw [outcomeText, ← claims, rendering, text]
  have showing : grounded.val =
      { output.val with
        explanationText := grounded.val.explanationText
        proposedActions := output.val.proposedActions.map canonicalAction } := by
    rw [fields, sanitizedOutput]
  refine ⟨⟨_, valid⟩, ?_, ⟨rfl, rfl, said, grounded, rfl, showing⟩⟩
  unfold acceptedAiWorkflowResult
  rw [rendering, Json.ok_bind, replacing, Json.ok_bind, sealing, Json.ok_bind, auditing,
    Json.ok_bind]
  exact Checked.make_of_valid valid

/-- Every matching output is evaluated, and shows what its verdict says. -/
theorem evaluation_shows (sized : Sha256.Sized) {request : AIExplanationRequest}
    {output : AIWorkflowOutput} (matching : Matches request output) :
    ∃ result, evaluateAiWorkflowOutput request output = .ok result ∧
      Shows output (verdict request output) result := by
  obtain ⟨integrity, sealing⟩ := integrity_made sized request output none
  obtain ⟨evaluation, deciding, decisions, sanitized⟩ := actionPolicy_made output
  have claims : evaluation.sanitizedOutput.val.claims = output.val.claims := by rw [sanitized]
  unfold evaluateAiWorkflowOutput
  rw [ensureOutputMatchesRequest_iff.mpr matching, Json.ok_bind, sealing, Json.ok_bind, deciding,
    Json.ok_bind]
  rcases actionPolicyBlocker_made request integrity decisions sanitized with
    ⟨blocked, run, shows⟩ | ⟨run, outcome⟩
  · rw [run, Json.ok_bind]
    exact ⟨blocked, rfl, shows⟩
  · rw [run, Json.ok_bind, outcome, unsupportedClaims_sanitized request claims]
    by_cases unsupported : unsupportedClaims request output ≠ []
    · rw [if_pos unsupported, if_pos unsupported]
      exact blockedAiResult_made request .failedUnsupportedClaim .aiUnsupportedClaimBlocked
        .allowed integrity sanitized rfl rfl
    · rw [if_neg unsupported, if_neg unsupported]
      exact acceptedAiWorkflowResult_made sized sanitized integrity

end Evaluated

/-! ## What the verdict depends on -/

/-- Every action is allowed and every claim rests on the evidence of the request. -/
def Acceptable (request : AIExplanationRequest) (output : AIWorkflowOutput) : Prop :=
  (∀ action ∈ output.val.proposedActions,
    (LotusIdea.evaluateAiActionPolicy action.val.actionType action.val.actionLabel).allowed =
      true) ∧
  ∀ claim ∈ output.val.claims, ∀ sourceProductId ∈ claim.val.sourceProductIds,
    sourceProductId ∈ request.val.redactedEvidence.sourceProductIds

theorem unsupportedClaims_eq_nil {request : AIExplanationRequest} {output : AIWorkflowOutput} :
    unsupportedClaims request output = [] ↔
      ∀ claim ∈ output.val.claims, ∀ sourceProductId ∈ claim.val.sourceProductIds,
        sourceProductId ∈ request.val.redactedEvidence.sourceProductIds := by
  simp [unsupportedClaims, List.filter_eq_nil_iff]

theorem verdict_passed_iff {request : AIExplanationRequest} {output : AIWorkflowOutput} :
    verdict request output = .passed ↔ Acceptable request output := by
  unfold verdict Acceptable
  split_ifs with forbidden rejected unsupported
  · refine iff_of_false (fun passed => nomatch passed) ?_
    intro acceptable
    obtain ⟨action, member, reason⟩ := List.any_eq_true.mp forbidden
    have allowed := (allowed_iff _ _).mp (acceptable.1 action member)
    have named : (actionDecision action).reason = .forbiddenActionType := of_decide_eq_true reason
    rw [actionDecision, allowed] at named
    cases named
  · refine iff_of_false (fun passed => nomatch passed) ?_
    intro acceptable
    obtain ⟨action, member, refused⟩ := List.any_eq_true.mp rejected
    rw [actionDecision, acceptable.1 action member] at refused
    cases refused
  · refine iff_of_false (fun passed => nomatch passed) ?_
    intro acceptable
    exact unsupported (unsupportedClaims_eq_nil.mpr acceptable.2)
  · refine iff_of_true rfl ⟨?_, unsupportedClaims_eq_nil.mp (not_not.mp unsupported)⟩
    intro action member
    by_contra refused
    apply rejected
    exact List.any_eq_true.mpr ⟨action, member, by simpa [actionDecision] using refused⟩

theorem verdict_ne_notRun (request : AIExplanationRequest) (output : AIWorkflowOutput) :
    verdict request output ≠ .notRun := by
  unfold verdict
  split_ifs <;> decide

theorem ready_iff {outcome : AIVerifierOutcome} :
    outcomePosture outcome = .readyForAdvisorReview ↔ outcome = .passed := by
  cases outcome <;> decide

/-- The labels that a result shows. -/
def shownLabels (result : AIExplanationResult) : List String :=
  result.val.output.elim [] fun output =>
    output.val.proposedActions.map fun action => action.val.actionLabel

def actionTypes (output : AIWorkflowOutput) : List AIProposedActionType :=
  output.val.proposedActions.map fun action => action.val.actionType

/-- The labels shown are those of the types. -/
theorem shownLabels_of_shows {output : AIWorkflowOutput} {outcome : AIVerifierOutcome}
    {result : AIExplanationResult} (shows : Shows output outcome result) :
    shownLabels result =
      (actionTypes output).map fun actionType => (canonicalLabels actionType).getD blockedLabel := by
  obtain ⟨shown, found, fields⟩ := shows.shown
  rw [shownLabels, found, actionTypes, List.map_map, Option.elim_some, fields]
  simp only [List.map_map]
  apply List.map_congr_left
  intro action _
  exact canonicalLabel_eq action.val.actionType action.val.actionLabel

/-- The texts of two blocked results are the same where the outcomes are. -/
theorem blockedText_iff {claims others : List AIOutputClaim} {outcome other : AIVerifierOutcome}
    {text otherText : String} (blocked : outcome ≠ .passed) (otherBlocked : other ≠ .passed)
    (said : outcomeText claims outcome = .ok text)
    (otherSaid : outcomeText others other = .ok otherText) :
    text = otherText ↔ outcome = other := by
  cases outcome with
  | passed => exact absurd rfl blocked
  | notRun => cases said
  | failedUnsupportedClaim =>
      cases other with
      | passed => exact absurd rfl otherBlocked
      | notRun => cases otherSaid
      | failedUnsupportedClaim | failedForbiddenAction | failedActionContent =>
          cases said
          cases otherSaid
          decide +kernel
  | failedForbiddenAction =>
      cases other with
      | passed => exact absurd rfl otherBlocked
      | notRun => cases otherSaid
      | failedUnsupportedClaim | failedForbiddenAction | failedActionContent =>
          cases said
          cases otherSaid
          decide +kernel
  | failedActionContent =>
      cases other with
      | passed => exact absurd rfl otherBlocked
      | notRun => cases otherSaid
      | failedUnsupportedClaim | failedForbiddenAction | failedActionContent =>
          cases said
          cases otherSaid
          decide +kernel

def sampleExplanationRequest : AIExplanationRequest where
  val :=
    { requestId := "explanation-1", actorSubject := "advisor-1"
      workflowPack :=
        { workflowPackId := "lotus-ai:idea-explanation:v1", workflowPackVersion := "v1"
          purpose := .advisorRationaleDraft, evaluationRef := "lotus-ai:governed-verifier:v1" }
      redactedEvidence :=
        { candidateId := "idea-1", evidencePacketId := "packet-1"
          evidenceContentHash := "sha256:evidence"
          sourceRevisionVectorDigest := "sha256:sources", sourceCutPosture := .coherent
          sourceProductIds := ["holdings"] }
      requestedAtUtc := .utc 20 }
  valid := by decide +kernel

/-- A claim on this source. -/
def sampleClaim (supported : Bool) : AIOutputClaim where
  val := ⟨"claim-1", "Cash is above target", [if supported then "holdings" else "rumours"]⟩
  valid := by cases supported <;> decide +kernel

/-- An action that asks for a review, or for an order under the same type. -/
def sampleAction (harmless : Bool) : AIProposedAction where
  val := ⟨.advisorReview, if harmless then "Review the evidence" else "Place the order"⟩
  valid := by cases harmless <;> decide +kernel

def sampleOutput (supported harmless : Bool) : AIWorkflowOutput where
  val :=
    { outputId := "output-1", requestId := "explanation-1"
      workflowPackId := "lotus-ai:idea-explanation:v1", workflowPackVersion := "v1"
      explanationText := "Provider text", claims := [sampleClaim supported]
      proposedActions := [sampleAction harmless], verifierRanAtUtc := .utc 30 }
  valid := by cases supported <;> cases harmless <;> decide +kernel

theorem sampleOutput_matches (supported harmless : Bool) :
    Matches sampleExplanationRequest (sampleOutput supported harmless) :=
  ⟨rfl, rfl, rfl⟩

theorem sampleOutput_verdict :
    verdict sampleExplanationRequest (sampleOutput true true) = .passed ∧
      verdict sampleExplanationRequest (sampleOutput false true) = .failedUnsupportedClaim ∧
      verdict sampleExplanationRequest (sampleOutput false false) = .failedActionContent := by
  decide +kernel

end LotusIdea.AIGovernance
