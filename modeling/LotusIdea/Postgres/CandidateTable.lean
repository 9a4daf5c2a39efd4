import LotusIdea.Domain.ReviewQueue
import LotusIdea.Foundation.SqlQuery
import LotusIdea.Postgres.CandidateJson

/-!
# The candidate table

The rows of `idea_candidate_record`, how a candidate is written into one, and the
candidates that the review queue of an audience starts from.  Of the columns only
those that a modelled query reads are kept.
-/

set_option autoImplicit false

namespace LotusIdea

open Json Sql

structure CandidateRow where
  candidateId : String
  lifecycleStatus : String
  reviewPosture : String
  evidenceHash : String
  candidateJson : Json
  materialVersion : Int
  generatedAtUtc : DateTime
  persistedAtUtc : DateTime

/-- What is written of a persistence record into its row. -/
structure CandidateWrite where
  candidate : IdeaCandidate
  evidenceHash : String
  persistedAtUtc : DateTime

section
variable [Sha256]

/-- The row of `_insert_candidate_record`. -/
def CandidateWrite.row (record : CandidateWrite) : CandidateRow where
  candidateId := record.candidate.val.candidateId
  lifecycleStatus := record.candidate.val.lifecycleStatus.value
  reviewPosture := record.candidate.val.reviewPosture.value
  evidenceHash := record.evidenceHash
  candidateJson := candidateToJson record.candidate
  materialVersion := record.candidate.val.identity.val.materialVersion
  generatedAtUtc := record.candidate.val.createdAtUtc
  persistedAtUtc := record.persistedAtUtc

/-- The row after `update_postgres_candidate_record`: the times of generation and
persistence are not among the columns it sets. -/
def CandidateWrite.updated (record : CandidateWrite) (row : CandidateRow) : CandidateRow :=
  { record.row with
    generatedAtUtc := row.generatedAtUtc
    persistedAtUtc := row.persistedAtUtc }

end

namespace CandidateRow

/-- `candidate_json ->> key`. -/
def text (row : CandidateRow) (key : String) : Option String :=
  arrowText (some row.candidateJson) key

/-- `(candidate_json->>'created_at_utc')::timestamptz`. -/
def createdAtUtc (row : CandidateRow) : Option DateTime := timestamptz (row.text "created_at_utc")

/-- The condition of `base` in the queries of the review queue. -/
def queueBase (row : CandidateRow) (evaluatedAtUtc : DateTime) (audience : ReviewQueueAudience) :
    Truth :=
  conj
    [notAfter row.createdAtUtc (some evaluatedAtUtc),
     disj
      [equal (some row.reviewPosture) (some audience.requiredPosture.value),
       isNotNull (row.text "suppression_reason")]]

end CandidateRow

end LotusIdea
