import LotusIdea.Postgres.LifecycleRuns

/-!
# Archive receipts and linked packs

A command carries one archive receipt, and a candidate may be linked to several
report evidence packs.  An erasure or a purge that is applied has a receipt for one
of the packs, so that it covers all of them exactly when there is no other.
-/

set_option autoImplicit false

namespace LotusIdea

/-- The receipt is about the pack, shows no legal hold on it and, for a purge,
confirms its disposal. -/
structure ArchiveCovers (command : DataLifecycleCommand)
    (receipt : VerifiedArchiveLifecycleReceipt) (packId : String) : Prop where
  pack : receipt.val.evidencePackId = packId
  unheld : receipt.val.legalHoldStatus ≠ .active
  disposed : command.val.action = .purge → receipt.val.lifecycleAction = .disposalExecuted

section
variable (command : DataLifecycleCommand) (context : DataLifecycleCandidateContext)
  (evaluatedAtUtc : DateTime)

/-- An erasure or a purge is applied only when every linked pack is covered. -/
def LinkedPacksCovered : Prop :=
  ∀ e, evaluateDataLifecycle command context evaluatedAtUtc = .ok e → e.decision = .applied →
    command.val.action = .erase ∨ command.val.action = .purge →
    ∀ packId ∈ context.val.linkedReportEvidencePackIds,
      ∃ receipt, command.val.archiveLifecycleReceipt = some receipt ∧
        ArchiveCovers command receipt packId

/-- The command destroys data of the candidate: nothing blocks it, it is no dry run,
no delivery is active and the control is in the state that the action needs. -/
def Destroys : Prop :=
  ∃ control, LifecycleAdmitted command context evaluatedAtUtc control ∧
    command.val.dryRun = false ∧ hasActiveDelivery context = false ∧
    (command.val.action = .erase ∧ control.val.state = .active ∨
      command.val.action = .purge ∧ control.val.state = .erased ∧
        ¬ evaluatedAtUtc < control.val.retentionExpiresAtUtc)

end

section
variable {command : DataLifecycleCommand} {context : DataLifecycleCandidateContext}
  {evaluatedAtUtc : DateTime}

theorem linkedPacks_nodup (context : DataLifecycleCandidateContext) :
    context.val.linkedReportEvidencePackIds.Nodup := by
  have valid := context.valid
  simp only [DataLifecycleCandidateContextFields.checks, firstFailure_append,
    firstFailure_cons] at valid
  simpa using valid.2.1

/-- Of distinct packs all are one pack only when there is no second. -/
theorem forall_eq_iff_length_le_one {α : Type} {packs : List α} (distinct : packs.Nodup) {a : α}
    (listed : a ∈ packs) : (∀ b ∈ packs, a = b) ↔ packs.length ≤ 1 := by
  constructor
  · intro all
    cases packs with
    | nil => exact Nat.zero_le 1
    | cons first rest =>
        cases rest with
        | nil => exact Nat.le_refl 1
        | cons second later =>
            have one : a = first := all first List.mem_cons_self
            have other : a = second := all second (List.mem_cons_of_mem _ List.mem_cons_self)
            rw [List.nodup_cons, ← one, ← other] at distinct
            exact absurd List.mem_cons_self distinct.1
  · intro short b member
    obtain ⟨only, rfl⟩ : ∃ only, packs = [only] := by
      cases packs with
      | nil => cases listed
      | cons first rest =>
          have alone : rest = [] := List.length_eq_zero_iff.mp (by simpa using short)
          exact ⟨first, by rw [alone]⟩
    rw [List.mem_singleton.mp listed, List.mem_singleton.mp member]

/-- A destruction that nothing blocks has a receipt for one of the linked packs. -/
theorem archiveReceipt_of_unblocked
    (unblocked : archivePostureBlockers command context evaluatedAtUtc = [])
    (destructive : command.val.action = .erase ∨ command.val.action = .purge)
    {packId : String} (linked : packId ∈ context.val.linkedReportEvidencePackIds) :
    ∃ receipt, command.val.archiveLifecycleReceipt = some receipt ∧
      receipt.val.evidencePackId ∈ context.val.linkedReportEvidencePackIds ∧
      ArchiveCovers command receipt receipt.val.evidencePackId := by
  have some_linked : context.val.linkedReportEvidencePackIds.isEmpty = false := by
    rw [List.isEmpty_eq_false_iff]
    exact List.ne_nil_of_mem linked
  have nonHold : command.val.action ≠ .applyHold := by
    rcases destructive with erase | purge
    · rw [erase]; nofun
    · rw [purge]; nofun
  cases given : command.val.archiveLifecycleReceipt with
  | none => simp [archivePostureBlockers, given, some_linked] at unblocked
  | some receipt =>
      simp only [archivePostureBlockers, given, some_linked, Bool.false_eq_true, if_false,
        nonHold] at unblocked
      split at unblocked
      · cases unblocked
      · rename_i fits
        split at unblocked
        · cases unblocked
        · rename_i unheld
          split at unblocked
          · cases unblocked
          · rename_i disposed
            refine ⟨receipt, rfl, ?_, rfl, unheld, ?_⟩
            · simp only [Bool.not_eq_true', Bool.not_eq_false, Bool.and_eq_true] at fits
              simpa using fits.1.1.2
            · intro purge
              by_contra kept
              exact disposed (by simp [purge, kept])

/-- A command is applied as an erasure or a purge exactly when it destroys. -/
theorem destroys_iff : Destroys command context evaluatedAtUtc ↔
    (∃ e, evaluateDataLifecycle command context evaluatedAtUtc = .ok e ∧ e.decision = .applied) ∧
      (command.val.action = .erase ∨ command.val.action = .purge) := by
  rw [evaluateDataLifecycle_applied_iff]
  constructor
  · rintro ⟨control, admitted, wet, idle, ⟨erase, living⟩ | ⟨purge, erased, expired⟩⟩
    · exact ⟨⟨control, admitted, wet, _, _, .erase erase living idle⟩, .inl erase⟩
    · exact ⟨⟨control, admitted, wet, _, _, .purge purge erased expired idle⟩, .inr purge⟩
  · rintro ⟨⟨control, admitted, wet, projected, redact, effect⟩, destructive⟩
    refine ⟨control, admitted, wet, ?_⟩
    cases effect with
    | hold asked => simp [asked] at destructive
    | release asked => simp [asked] at destructive
    | erase asked living idle => exact ⟨idle, .inl ⟨asked, living⟩⟩
    | purge asked erased expired idle => exact ⟨idle, .inr ⟨asked, erased, expired⟩⟩

/-- A command covers every linked pack exactly when it destroys nothing or there is at
most one linked pack. -/
theorem linkedPacksCovered_iff (command : DataLifecycleCommand)
    (context : DataLifecycleCandidateContext) (evaluatedAtUtc : DateTime) :
    LinkedPacksCovered command context evaluatedAtUtc ↔
      (Destroys command context evaluatedAtUtc →
        context.val.linkedReportEvidencePackIds.length ≤ 1) := by
  constructor
  · intro covered destroys
    obtain ⟨⟨e, run, applied⟩, destructive⟩ := destroys_iff.mp destroys
    cases linked : context.val.linkedReportEvidencePackIds with
    | nil => exact Nat.zero_le 1
    | cons packId rest =>
        have member : packId ∈ context.val.linkedReportEvidencePackIds := by
          rw [linked]
          exact List.mem_cons_self
        obtain ⟨receipt, given, covers⟩ := covered e run applied destructive packId member
        rw [← linked, ← forall_eq_iff_length_le_one (linkedPacks_nodup context) member]
        intro other listed
        obtain ⟨receipt', given', covers'⟩ := covered e run applied destructive other listed
        rw [given] at given'
        cases given'
        rw [← covers.pack, ← covers'.pack]
  · intro single e run applied destructive packId linked
    have destroys := destroys_iff.mpr ⟨⟨e, run, applied⟩, destructive⟩
    have short := single destroys
    obtain ⟨control, admitted, _⟩ := destroys
    have unblocked := admitted.unblocked
    simp only [commonBlockers, List.append_eq_nil_iff] at unblocked
    obtain ⟨receipt, given, listed, covers⟩ :=
      archiveReceipt_of_unblocked unblocked.1.2 destructive linked
    have same := (forall_eq_iff_length_le_one (linkedPacks_nodup context) listed).mpr short
      packId linked
    rw [← same]
    exact ⟨receipt, given, covers⟩

end

/-! ## Two packs and one receipt -/

def sampleArchiveReceipt : VerifiedArchiveLifecycleReceipt where
  val :=
    { decisionId := "archive-decision-1", documentId := "document-1", evidencePackId := "pack-1"
      candidateId := "idea-1", tenantId := "tenant-a", retentionPolicyId := "retention-1"
      legalHoldStatus := .clear, lifecycleAction := .retain
      payloadDigest := "sha256:" ++ String.ofList (List.replicate 64 'a')
      keyId := "key-1", issuedAtUtc := .utc 15, expiresAtUtc := .utc 90
      verifiedAtUtc := .utc 20 }
  valid := by decide +kernel

/-- The erasure with a receipt for the first of the packs. -/
def sampleReceiptedErase : DataLifecycleCommand where
  val := { LifecycleStore.sampleEraseCommand.val with
    archiveLifecycleReceipt := some sampleArchiveReceipt }
  valid := by decide +kernel

def sampleTwoPacks : DataLifecycleCandidateContext where
  val :=
    { candidateExists := true, candidateTenantId := some "tenant-a"
      control := some sampleControl, activeOutboxCount := 0, activeDownstreamCount := 0
      linkedReportEvidencePackIds := ["pack-1", "pack-2"] }
  valid := by decide +kernel

theorem sampleTwoPacks_erased :
    ((evaluateDataLifecycle sampleReceiptedErase sampleTwoPacks (.utc 20)).toOption.any
      fun e => decide (e.decision = .applied)) = true := by
  decide +kernel

/-- The erasure is applied, and no receipt is for the second pack. -/
theorem sampleTwoPacks_uncovered :
    ¬ LinkedPacksCovered sampleReceiptedErase sampleTwoPacks (.utc 20) := by
  intro covered
  have erased := sampleTwoPacks_erased
  cases run : evaluateDataLifecycle sampleReceiptedErase sampleTwoPacks (.utc 20) with
  | error error =>
      rw [run] at erased
      cases erased
  | ok e =>
      rw [run] at erased
      have applied : e.decision = .applied := by
        simpa [Except.toOption] using erased
      have listed : "pack-2" ∈ sampleTwoPacks.val.linkedReportEvidencePackIds := by
        simp [sampleTwoPacks]
      obtain ⟨receipt, given, covers⟩ := covered e run applied (.inl rfl) "pack-2" listed
      cases given
      have other := covers.pack
      simp [sampleArchiveReceipt] at other

end LotusIdea
