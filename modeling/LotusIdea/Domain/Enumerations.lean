import LotusIdea.Domain.DownstreamSubmission
import LotusIdea.Domain.ReportEvidence
import LotusIdea.Foundation.JsonPayload

/-!
# Enumerations by their texts

The enumerations that stored payloads name by text: the members of each in the
order of their declaration, and that no two members share a text.
-/

set_option autoImplicit false

namespace LotusIdea

def AcceptanceTimeSource.value : AcceptanceTimeSource → String
  | .serverAccepted => "server_accepted"
  | .legacyObservedTimeAssumed => "legacy_observed_time_assumed"

def QueuePriorityBucket.value : QueuePriorityBucket → String
  | .critical => "critical"
  | .high => "high"
  | .standard => "standard"
  | .watchlist => "watchlist"

instance : PyEnum IdeaLifecycleStatus where
  value := IdeaLifecycleStatus.value
  members := (List.range 16).map IdeaLifecycleStatus.ofNat
  complete a := by cases a <;> decide
  distinct := by decide +kernel

instance : PyEnum ReviewPosture where
  value := ReviewPosture.value
  members := (List.range 9).map ReviewPosture.ofNat
  complete a := by cases a <;> decide
  distinct := by decide +kernel

instance : PyEnum OpportunityFamily where
  value := OpportunityFamily.value
  members := (List.range 11).map OpportunityFamily.ofNat
  complete a := by cases a <;> decide
  distinct := by decide +kernel

instance : PyEnum SourceSystem where
  value := SourceSystem.value
  members := (List.range 9).map SourceSystem.ofNat
  complete a := by cases a <;> decide
  distinct := by decide +kernel

instance : PyEnum EvidenceFreshness where
  value := EvidenceFreshness.value
  members := (List.range 4).map EvidenceFreshness.ofNat
  complete a := by cases a <;> decide
  distinct := by decide +kernel

instance : PyEnum EvidenceSupportability where
  value := EvidenceSupportability.value
  members := (List.range 3).map EvidenceSupportability.ofNat
  complete a := by cases a <;> decide
  distinct := by decide +kernel

instance : PyEnum UnsupportedEvidenceReason where
  value := UnsupportedEvidenceReason.value
  members := (List.range 11).map UnsupportedEvidenceReason.ofNat
  complete a := by cases a <;> decide
  distinct := by decide +kernel

instance : PyEnum ReasonCode where
  value := ReasonCode.value
  members := (List.range 44).map ReasonCode.ofNat
  complete a := by cases a <;> decide
  distinct := by decide +kernel

instance : PyEnum ScoreComponent where
  value := ScoreComponent.value
  members := (List.range 8).map ScoreComponent.ofNat
  complete a := by cases a <;> decide
  distinct := by decide +kernel

instance : PyEnum SuppressionReason where
  value := SuppressionReason.value
  members := (List.range 5).map SuppressionReason.ofNat
  complete a := by cases a <;> decide
  distinct := by decide +kernel

instance : PyEnum CandidateChangeReason where
  value := CandidateChangeReason.value
  members := (List.range 5).map CandidateChangeReason.ofNat
  complete a := by cases a <;> decide
  distinct := by decide +kernel

instance : PyEnum ConversionTarget where
  value := ConversionTarget.value
  members := (List.range 3).map ConversionTarget.ofNat
  complete a := by cases a <;> decide
  distinct := by decide +kernel

instance : PyEnum ConversionOutcomeStatus where
  value := ConversionOutcomeStatus.value
  members := (List.range 5).map ConversionOutcomeStatus.ofNat
  complete a := by cases a <;> decide
  distinct := by decide +kernel

instance : PyEnum FeedbackOutcome where
  value := FeedbackOutcome.value
  members := (List.range 2).map FeedbackOutcome.ofNat
  complete a := by cases a <;> decide
  distinct := by decide +kernel

instance : PyEnum FeedbackReason where
  value := FeedbackReason.value
  members := (List.range 8).map FeedbackReason.ofNat
  complete a := by cases a <;> decide
  distinct := by decide +kernel

instance : PyEnum ReviewAction where
  value := ReviewAction.value
  members := (List.range 7).map ReviewAction.ofNat
  complete a := by cases a <;> decide
  distinct := by decide +kernel

instance : PyEnum SourceReconciliationPosture where
  value := SourceReconciliationPosture.value
  members := (List.range 5).map SourceReconciliationPosture.ofNat
  complete a := by cases a <;> decide
  distinct := by decide +kernel

instance : PyEnum SourceCutPosture where
  value := SourceCutPosture.value
  members := (List.range 5).map SourceCutPosture.ofNat
  complete a := by cases a <;> decide
  distinct := by decide +kernel

instance : PyEnum AcceptanceTimeSource where
  value := AcceptanceTimeSource.value
  members := (List.range 2).map AcceptanceTimeSource.ofNat
  complete a := by cases a <;> decide
  distinct := by decide +kernel

instance : PyEnum ReviewActorRole where
  value := ReviewActorRole.value
  members := (List.range 4).map ReviewActorRole.ofNat
  complete a := by cases a <;> decide
  distinct := by decide +kernel

instance : PyEnum ReviewChannel where
  value := ReviewChannel.value
  members := (List.range 3).map ReviewChannel.ofNat
  complete a := by cases a <;> decide
  distinct := by decide +kernel

instance : PyEnum ReviewAuthorityStatus where
  value := ReviewAuthorityStatus.value
  members := (List.range 4).map ReviewAuthorityStatus.ofNat
  complete a := by cases a <;> decide
  distinct := by decide +kernel

instance : PyEnum QueuePriorityBucket where
  value := QueuePriorityBucket.value
  members := (List.range 4).map QueuePriorityBucket.ofNat
  complete a := by cases a <;> decide
  distinct := by decide +kernel

instance : PyEnum ConversionBoundary where
  value := ConversionBoundary.value
  members := (List.range 2).map ConversionBoundary.ofNat
  complete a := by cases a <;> decide
  distinct := by decide +kernel

instance : PyEnum ReportEvidencePackBoundary where
  value := ReportEvidencePackBoundary.value
  members := (List.range 2).map ReportEvidencePackBoundary.ofNat
  complete a := by cases a <;> decide
  distinct := by decide +kernel

instance : PyEnum ReportEvidencePackPurpose where
  value := ReportEvidencePackPurpose.value
  members := (List.range 3).map ReportEvidencePackPurpose.ofNat
  complete a := by cases a <;> decide
  distinct := by decide +kernel

instance : PyEnum DownstreamSubmissionResourceType where
  value := DownstreamSubmissionResourceType.value
  members := (List.range 2).map DownstreamSubmissionResourceType.ofNat
  complete a := by cases a <;> decide
  distinct := by decide +kernel

instance : PyEnum DownstreamSubmissionPosture where
  value := DownstreamSubmissionPosture.value
  members := (List.range 6).map DownstreamSubmissionPosture.ofNat
  complete a := by cases a <;> decide
  distinct := by decide +kernel

end LotusIdea
