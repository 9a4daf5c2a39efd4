import LotusIdea.Foundation.Raising
import LotusIdea.Foundation.Runs
import LotusIdea.Foundation.ScopedText
import LotusIdea.Migrations.Deployments

/-!
# Runs of deployments

Any images, any commands, any failures: the events account for the history, and the schema
is the one that the image's own scripts make from the schema at the start.
-/

set_option autoImplicit false

namespace LotusIdea

open UndoStack (Undoes runAll)

/-! ## The order of the steps -/

theorem lt_of_take_lt {first later : List Char} {n : ℕ} (below : first.take n < later.take n) :
    first < later := by
  induction n generalizing first later with
  | zero => simp at below
  | succ n ih =>
      cases later with
      | nil => simp at below
      | cons b later =>
          cases first with
          | nil => exact List.nil_lt_cons b later
          | cons a first =>
              rw [List.take_succ_cons, List.take_succ_cons, List.cons_lt_cons_iff] at below
              rw [List.cons_lt_cons_iff]
              rcases below with smaller | ⟨rfl, below⟩
              · exact Or.inl smaller
              · exact Or.inr ⟨rfl, ih below⟩

theorem take_le_take {first later : List Char} (n : ℕ) (below : first ≤ later) :
    first.take n ≤ later.take n := by
  refine le_of_not_gt ?_
  intro above
  exact not_lt_of_ge below (lt_of_take_lt above)

/-- A file of a migration: its version, and the rest of its stem. -/
theorem isMigrationFile_shape {fileName : String} (migration : isMigrationFile fileName = true) :
    ∃ a b c rest, fileStem fileName = a :: b :: c :: '_' :: rest ∧
      fileName.toList.take 3 = [a, b, c] ∧ a.isDigit = true ∧ b.isDigit = true ∧
        c.isDigit = true := by
  unfold isMigrationFile at migration
  split at migration
  · rename_i a b c rest shape
    simp only [Bool.and_eq_true, List.isSuffixOf_iff_suffix] at migration
    obtain ⟨⟨⟨first, second⟩, third⟩, name, rfl⟩ := migration
    have whole : fileName.toList =
        ((((a :: b :: c :: '_' :: name) ++ ['.']) ++ ['s']) ++ ['q']) ++ ['l'] := by
      rw [shape]
      simp
    refine ⟨a, b, c, name, ?_, ?_, first, second, third⟩
    · rw [fileStem, whole]
      simp only [List.dropLast_concat]
    · rw [shape]
      rfl
  · cases migration

theorem ne_underscore_of_isDigit {c : Char} (digit : c.isDigit = true) :
    decide (c ≠ '_') = true := by
  rw [decide_eq_true_eq]
  rintro rfl
  revert digit
  decide

theorem migrationStep_version {directory : MigrationsDirectory} {files : Dict String String}
    {file : String × String} {step : MigrationStep} (migration : isMigrationFile file.1 = true)
    (made : migrationStep directory files file = .ok step) :
    step.version.toList = file.1.toList.take 3 := by
  obtain ⟨a, b, c, rest, stem, start, first, second, third⟩ := isMigrationFile_shape migration
  simp only [migrationStep] at made
  obtain ⟨⟨version, name⟩, parsed, made⟩ := Except.seq_returns.mp made
  simp only [parseMigrationIdentity, stem] at parsed
  split at parsed
  · cases parsed
  have own : (a :: b :: c :: '_' :: rest).takeWhile (fun c => decide (c ≠ '_')) = [a, b, c] := by
    simp only [List.takeWhile_cons_of_pos, ne_underscore_of_isDigit first,
      ne_underscore_of_isDigit second, ne_underscore_of_isDigit third]
    rfl
  cases parsed
  split at made
  · cases made
  · cases made
    rw [String.toList_ofList, start]
    exact own

/-- The steps of an image stand in the order of their versions. -/
theorem discoverMigrations_ordered {directory : MigrationsDirectory} {steps : List MigrationStep}
    (found : discoverMigrations directory = .ok steps) :
    steps.Pairwise fun a b => a.version.toList ≤ b.version.toList := by
  unfold discoverMigrations at found
  split at found
  · cases found
  · rename_i files listed
    have sorted := (Sql.orderBy_sorted (fun file => file.1.toList) files.entries).filter
      fun file => isMigrationFile file.1 && !isRollbackFile file.1
    have versions : steps.map (fun step => step.version.toList) =
        ((Sql.orderBy (fun file => file.1.toList) files.entries).filter fun file =>
          isMigrationFile file.1 && !isRollbackFile file.1).map fun file =>
            file.1.toList.take 3 := by
      refine Except.map_of_mapM found ?_
      intro file member step made
      have kept := List.of_mem_filter member
      rw [Bool.and_eq_true] at kept
      exact migrationStep_version kept.1 made
    have ordered : (steps.map fun step => step.version.toList).Pairwise fun a b => a ≤ b := by
      rw [versions, List.pairwise_map]
      exact sorted.imp fun below => take_le_take 3 below
    exact List.pairwise_map.mp ordered

/-! ## What is recorded -/

/-- An event, as an entry of a journal. -/
def MigrationEventRow.entry (e : MigrationEventRow) : UndoStack.Entry MigrationIdentity :=
  match e.operation with
  | .apply | .adopt => .applied e.identity
  | .rollback => .undone e.identity

namespace MigrationTables
variable {σ : Type}

def applied (t : MigrationTables σ) : List MigrationIdentity :=
  t.history.map MigrationHistoryRow.identity

def journal (t : MigrationTables σ) : List (UndoStack.Entry MigrationIdentity) :=
  t.events.map MigrationEventRow.entry

end MigrationTables

/-- No version is recorded twice. -/
def Distinct (applied : List MigrationIdentity) : Prop :=
  (applied.map MigrationIdentity.version).Nodup

section Loops
variable [Sha256] {σ : Type} {engine : SqlEngine σ} {command : DeploymentMigrationCommand}
  {bundleSha256 : String} {t next : MigrationTables σ} {step : MigrationStep}
  {steps : List MigrationStep}

/-- The steps were recorded behind what was. -/
structure Extended (t next : MigrationTables σ) (steps : List MigrationStep) : Prop where
  applied : next.applied = t.applied ++ steps.map MigrationStep.identity
  journal : next.journal = t.journal ++ (steps.map MigrationStep.identity).map .applied
  distinct : Distinct t.applied → Distinct next.applied

theorem extended_nil (t : MigrationTables σ) : Extended t t [] where
  applied := by simp
  journal := by simp
  distinct := id

theorem Extended.trans {middle : MigrationTables σ} {first later : List MigrationStep}
    (before : Extended t middle first) (after : Extended middle next later) :
    Extended t next (first ++ later) where
  applied := by rw [after.applied, before.applied, List.map_append, List.append_assoc]
  journal := by
    rw [after.journal, before.journal, List.map_append, List.map_append, List.append_assoc]
  distinct := fun distinct => after.distinct (before.distinct distinct)

/-- A row of the history and its event. -/
theorem recorded_extends (operation : command.val.operation ≠ .rollback) {adopted : Bool}
    (ran : insertMigrationHistory command bundleSha256 adopted t step = .ok next) :
    next.schema = t.schema ∧
      Extended t (insertMigrationEvent command bundleSha256 next step) [step] := by
  unfold insertMigrationHistory at ran
  split at ran
  · cases ran
  rename_i free
  split at ran
  · cases ran
  cases ran
  refine ⟨rfl, ?_, ?_, ?_⟩
  · simp [MigrationTables.applied, insertMigrationEvent]
  · have entry : MigrationEventRow.entry
        ⟨command.val.operation, step.identity, command.val.release, bundleSha256⟩ =
          .applied step.identity := by
      cases kind : command.val.operation with
      | apply => rfl
      | adopt => rfl
      | rollback => exact absurd kind operation
    simp [MigrationTables.journal, insertMigrationEvent, entry]
  · intro distinct
    simp only [Distinct, MigrationTables.applied, insertMigrationEvent, List.map_append,
      List.map_cons, List.map_nil] at distinct ⊢
    refine List.Nodup.append distinct (List.nodup_singleton _) ?_
    intro version stored own
    rw [List.mem_singleton] at own
    subst own
    simp only [List.map_map, List.mem_map] at stored
    obtain ⟨row, member, same⟩ := stored
    exact free (List.any_eq_true.mpr ⟨row, member, decide_eq_true same⟩)

theorem applySteps_extend (operation : command.val.operation ≠ .rollback)
    (ran : steps.foldlM (applyStep engine command bundleSha256) t = .ok next) :
    Extended t next steps ∧
      runAll (runScript engine .apply) steps t.schema = .ok next.schema := by
  induction steps generalizing t with
  | nil =>
      cases ran
      exact ⟨extended_nil _, rfl⟩
  | cons step rest ih =>
      rw [List.foldlM_cons] at ran
      obtain ⟨middle, first, ran⟩ := Except.seq_returns.mp ran
      obtain ⟨later, built⟩ := ih ran
      simp only [applyStep] at first
      obtain ⟨schema, script, first⟩ := Except.seq_returns.mp first
      obtain ⟨recorded, inserted, first⟩ := Except.seq_returns.mp first
      cases first
      obtain ⟨sameSchema, own⟩ := recorded_extends operation inserted
      have own : Extended t _ [step] := ⟨own.applied, own.journal, own.distinct⟩
      have madeSchema : (insertMigrationEvent command bundleSha256 recorded step).schema =
          schema := sameSchema
      refine ⟨own.trans later, ?_⟩
      rw [UndoStack.runAll_cons, script]
      rw [madeSchema] at built
      exact built

theorem adoptSteps_extend (operation : command.val.operation ≠ .rollback)
    (ran : steps.foldlM (adoptStep command bundleSha256) t = .ok next) :
    Extended t next steps ∧ next.schema = t.schema := by
  induction steps generalizing t with
  | nil =>
      cases ran
      exact ⟨extended_nil _, rfl⟩
  | cons step rest ih =>
      rw [List.foldlM_cons] at ran
      obtain ⟨middle, first, ran⟩ := Except.seq_returns.mp ran
      obtain ⟨later, kept⟩ := ih ran
      simp only [adoptStep] at first
      obtain ⟨recorded, inserted, first⟩ := Except.seq_returns.mp first
      cases first
      obtain ⟨sameSchema, own⟩ := recorded_extends operation inserted
      exact ⟨own.trans later, kept.trans sameSchema⟩

/-- The last step is undone. -/
theorem rollbackStep_returns {kept : List MigrationStep}
    (operation : command.val.operation = .rollback)
    (applied : t.applied = (kept ++ [step]).map MigrationStep.identity)
    (distinct : Distinct t.applied)
    (ran : rollbackStep engine command bundleSha256 t step = .ok next) :
    next.applied = kept.map MigrationStep.identity ∧
      next.journal = t.journal ++ [.undone step.identity] ∧
      runScript engine .rollback step t.schema = .ok next.schema := by
  simp only [rollbackStep] at ran
  obtain ⟨schema, script, ran⟩ := Except.seq_returns.mp ran
  cases ran
  refine ⟨?_, ?_, script⟩
  · rw [Distinct, applied, List.map_append, List.map_append, List.nodup_append] at distinct
    have others : ∀ other ∈ kept.map MigrationStep.identity,
        decide (other.version ≠ step.version) = true := by
      intro other member
      rw [decide_eq_true_eq]
      exact distinct.2.2 other.version (List.mem_map_of_mem member) step.version (by
        exact List.mem_singleton_self _)
    have filtered : (t.history.filter fun row => row.identity.version ≠ step.version).map
        MigrationHistoryRow.identity =
          t.applied.filter fun other => decide (other.version ≠ step.version) := by
      rw [MigrationTables.applied, List.filter_map]
      rfl
    change (t.history.filter fun row => row.identity.version ≠ step.version).map
      MigrationHistoryRow.identity = _
    rw [filtered, applied, List.map_append, List.filter_append, List.filter_eq_self.mpr others]
    simp [MigrationStep.identity]
  · simp [MigrationTables.journal, insertMigrationEvent, MigrationEventRow.entry, operation]

/-- The last steps are undone, the latest first. -/
theorem rollbackSteps_return {kept undone : List MigrationStep}
    (operation : command.val.operation = .rollback)
    (applied : t.applied = (kept ++ undone).map MigrationStep.identity)
    (distinct : Distinct t.applied)
    (ran : undone.reverse.foldlM (rollbackStep engine command bundleSha256) t = .ok next) :
    next.applied = kept.map MigrationStep.identity ∧
      next.journal = t.journal ++ (undone.map MigrationStep.identity).reverse.map .undone ∧
      runAll (runScript engine .rollback) undone.reverse t.schema = .ok next.schema := by
  induction undone using List.reverseRecOn generalizing t with
  | nil =>
      cases ran
      rw [List.append_nil] at applied
      exact ⟨applied, by simp, rfl⟩
  | append_singleton others last ih =>
      rw [List.reverse_append, List.reverse_singleton, List.singleton_append,
        List.foldlM_cons] at ran
      obtain ⟨middle, first, ran⟩ := Except.seq_returns.mp ran
      rw [← List.append_assoc] at applied
      obtain ⟨left, journal, script⟩ := rollbackStep_returns operation applied distinct first
      have stillDistinct : Distinct middle.applied := by
        rw [Distinct, left]
        rw [Distinct, applied, List.map_append, List.map_append] at distinct
        exact (List.nodup_append.mp distinct).1
      obtain ⟨rest, further, scripts⟩ := ih left stillDistinct ran
      refine ⟨rest, ?_, ?_⟩
      · rw [further, journal, List.map_append, List.reverse_append, List.map_append,
          List.append_assoc]
        rfl
      · rw [List.reverse_append, List.reverse_singleton, List.singleton_append,
          UndoStack.runAll_cons, script]
        exact scripts

end Loops

/-! ## What a deployment does -/

namespace MigrationDatabase
variable {σ : Type}

def tables (db : MigrationDatabase σ) : MigrationTables σ :=
  ⟨db.schema, db.history.getD [], db.events⟩

/-- The migrations that the history names, and what the events say about them. -/
def applied (db : MigrationDatabase σ) : List MigrationIdentity := db.tables.applied

def journal (db : MigrationDatabase σ) : List (UndoStack.Entry MigrationIdentity) :=
  db.tables.journal

/-- The history stands in the order of its versions, and the events account for it. -/
structure Kept (db : MigrationDatabase σ) : Prop where
  ascending : db.applied.Pairwise fun a b => a.version.toList < b.version.toList
  journaled : UndoStack.replay db.journal = some db.applied

end MigrationDatabase

section Effects
variable [Sha256] {σ : Type} (engine : SqlEngine σ)

/-- A deployment of an image whose first steps the history names. -/
inductive Deployed (command : DeploymentMigrationCommand) (first later : List MigrationStep)
    (db : MigrationDatabase σ) (result : DeploymentMigrationResult) (next : MigrationDatabase σ) :
    Prop
  | applied (operation : command.val.operation = .apply)
      (history : next.applied = (first ++ later).map MigrationStep.identity)
      (versions : result.appliedVersions = later.map MigrationStep.version)
      (journal : next.journal =
        db.journal ++ (later.map MigrationStep.identity).map .applied)
      (schema : runAll (runScript engine .apply) later db.schema = .ok next.schema)
  | rolledBack (operation : command.val.operation = .rollback)
      (kept undone : List MigrationStep) (split : first = kept ++ undone)
      (counted : (undone.length : Int) = command.val.rollbackCount)
      (history : next.applied = kept.map MigrationStep.identity)
      (versions : result.rolledBackVersions = undone.reverse.map MigrationStep.version)
      (journal : next.journal =
        db.journal ++ (undone.map MigrationStep.identity).reverse.map .undone)
      (schema : runAll (runScript engine .rollback) undone.reverse db.schema = .ok next.schema)
  | adopted (operation : command.val.operation = .adopt) (empty : first = [])
      (unrecorded : db.history = none)
      (approved : some (engine.fingerprint db.schema) = command.val.expectedSchemaFingerprint)
      (history : next.applied = later.map MigrationStep.identity)
      (versions : result.adoptedVersions = later.map MigrationStep.version)
      (journal : next.journal =
        db.journal ++ (later.map MigrationStep.identity).map .applied)
      (schema : next.schema = db.schema)

variable {engine}

omit [Sha256] in
theorem requireDeployment_ok {holds : Bool} {code detail : String} :
    requireDeployment holds code detail = .ok () ↔ holds = true := by
  cases holds <;> simp [requireDeployment]

/-- A history that is validated names the first steps of the image. -/
theorem validated_history {history : List MigrationIdentity} {steps : List MigrationStep}
    (valid : validateMigrationHistory history steps = .ok ()) :
    history.length ≤ steps.length ∧
      history = (steps.take history.length).map MigrationStep.identity := by
  simp only [validateMigrationHistory] at valid
  obtain ⟨_, measured, each⟩ := Except.seq_returns.mp valid
  have short := of_decide_eq_true (requireDeployment_ok.mp measured)
  refine ⟨short, ?_⟩
  clear valid measured
  induction history generalizing steps with
  | nil => rfl
  | cons actual rest ih =>
      cases steps with
      | nil => simp at short
      | cons expected steps =>
          simp only [List.zip_cons_cons, List.forM_eq_forM, List.forM_cons] at each
          obtain ⟨_, own, each⟩ := Except.seq_returns.mp each
          obtain ⟨_, _, same⟩ := Except.seq_returns.mp own
          have same := of_decide_eq_true (requireDeployment_ok.mp same)
          rw [List.length_cons, List.take_succ_cons, List.map_cons, ← same]
          exact congrArg (actual :: ·) (ih each (by simpa using short))

omit [Sha256] in
theorem loadMigrationHistory_ascending {rows : List MigrationHistoryRow}
    (ascending : (rows.map MigrationHistoryRow.identity).Pairwise fun a b =>
      a.version.toList < b.version.toList) :
    loadMigrationHistory rows = rows.map MigrationHistoryRow.identity := by
  rw [loadMigrationHistory, Sql.orderBy_eq_self]
  exact (List.pairwise_map.mp ascending).imp fun below => le_of_lt below

omit [Sha256] in
theorem distinct_of_ascending {applied : List MigrationIdentity}
    (ascending : applied.Pairwise fun a b => a.version.toList < b.version.toList) :
    Distinct applied := by
  rw [Distinct, List.Nodup, List.pairwise_map]
  refine ascending.imp ?_
  rintro a b below same
  rw [same] at below
  exact lt_irrefl _ below

omit [Sha256] in
/-- The count of a rollback is positive. -/
theorem rollbackCount_positive {command : DeploymentMigrationCommand}
    (operation : command.val.operation = .rollback) : 1 ≤ command.val.rollbackCount := by
  have valid := command.valid
  simp only [DeploymentMigrationCommandFields.checks, firstFailure_cons, operation, beq_self_eq_true,
    Bool.true_and, decide_eq_false_iff_not, not_or] at valid
  omega

section Transaction
variable {command : DeploymentMigrationCommand} {bundleSha256 : String}
  {steps : List MigrationStep} {db : MigrationDatabase σ} {result : DeploymentMigrationResult}
  {t : MigrationTables σ}

theorem transaction_returns (kept : db.Kept)
    (ran : deploymentTransaction engine command bundleSha256 steps db = .ok (result, t)) :
    ∃ first later, steps = first ++ later ∧ db.applied = first.map MigrationStep.identity ∧
      Deployed engine command first later db result ⟨t.schema, some t.history, t.events⟩ ∧
      Distinct t.applied := by
  simp only [deploymentTransaction] at ran
  obtain ⟨_, _, ran⟩ := Except.seq_returns.mp ran
  obtain ⟨_, valid, ran⟩ := Except.seq_returns.mp ran
  obtain ⟨_, posture, ran⟩ := Except.seq_returns.mp ran
  obtain ⟨work, worked, ran⟩ := Except.seq_returns.mp ran
  cases ran
  have loaded : loadMigrationHistory (db.history.getD []) = db.applied :=
    loadMigrationHistory_ascending kept.ascending
  rw [loaded] at valid posture worked
  obtain ⟨short, named⟩ := validated_history valid
  have distinct := distinct_of_ascending kept.ascending
  refine ⟨_, _, (List.take_append_drop db.applied.length steps).symm, named, ?_⟩
  cases operation : command.val.operation with
  | apply =>
      simp only [deploymentWork, operation] at worked
      obtain ⟨⟨versions, after⟩, pending, made⟩ := Except.seq_returns.mp worked
      cases made
      simp only [applyPending] at pending
      obtain ⟨last, looped, made⟩ := Except.seq_returns.mp pending
      cases made
      obtain ⟨extended, built⟩ := applySteps_extend (by simp [operation]) looped
      refine ⟨.applied operation ?_ rfl extended.journal built, extended.distinct distinct⟩
      rw [List.map_append, ← named]
      exact extended.applied
  | rollback =>
      simp only [deploymentWork, operation] at worked
      obtain ⟨⟨versions, after⟩, latest, made⟩ := Except.seq_returns.mp worked
      cases made
      simp only [rollbackLatest] at latest
      obtain ⟨_, counted, latest⟩ := Except.seq_returns.mp latest
      obtain ⟨last, looped, made⟩ := Except.seq_returns.mp latest
      cases made
      have counted := of_decide_eq_true (requireDeployment_ok.mp counted)
      have positive := rollbackCount_positive operation
      have length : (steps.take db.applied.length).length = db.applied.length :=
        List.length_take_of_le short
      rw [List.take_reverse] at looped ⊢
      obtain ⟨left, journal, undone⟩ := rollbackSteps_return operation
        (named.trans (congrArg (List.map MigrationStep.identity)
          (List.take_append_drop _ (steps.take db.applied.length)).symm)) distinct looped
      refine ⟨.rolledBack operation _ _ (List.take_append_drop _ _).symm ?_ left rfl journal undone, ?_⟩
      · rw [List.length_drop, length]
        omega
      · rw [left]
        rw [named, ← List.take_append_drop ((steps.take db.applied.length).length -
          command.val.rollbackCount.toNat) (steps.take db.applied.length), List.map_append] at distinct
        rw [Distinct, List.map_append] at distinct
        exact (List.nodup_append.mp distinct).1
  | adopt =>
      have empty : db.applied = [] := by
        rw [operation] at posture
        unfold requireAdoptionPosture at posture
        split at posture
        · rename_i unrecorded
          exact List.isEmpty_iff.mp (Bool.and_eq_true_iff.mp unrecorded).1
        · exact absurd (of_decide_eq_true (requireDeployment_ok.mp posture)) (by simp)
      simp only [deploymentWork, operation] at worked
      obtain ⟨⟨versions, after⟩, adopted, made⟩ := Except.seq_returns.mp worked
      cases made
      simp only [adoptExistingSchema] at adopted
      obtain ⟨_, unrecorded, adopted⟩ := Except.seq_returns.mp adopted
      obtain ⟨_, approved, adopted⟩ := Except.seq_returns.mp adopted
      obtain ⟨last, looped, made⟩ := Except.seq_returns.mp adopted
      cases made
      obtain ⟨extended, sameSchema⟩ := adoptSteps_extend (by simp [operation]) looped
      have absent : db.history = none := by
        simpa using requireDeployment_ok.mp unrecorded
      have history := extended.applied
      change _ = db.applied ++ _ at history
      rw [empty, List.nil_append] at history
      rw [empty, List.length_nil, List.take_zero, List.drop_zero]
      exact ⟨.adopted operation rfl absent (of_decide_eq_true (requireDeployment_ok.mp approved))
        history rfl extended.journal sameSchema, extended.distinct distinct⟩

end Transaction

/-! ## Runs -/

structure Deployment where
  directory : MigrationsDirectory
  command : DeploymentMigrationCommand
  failure : Option MigrationError

variable (engine) in
def Deployment.execute (d : Deployment) (db : MigrationDatabase σ) :
    Except MigrationError DeploymentMigrationResult × MigrationDatabase σ :=
  executeDeployment engine d.directory d.command d.failure db

variable (engine) in
/-- The database after a deployment. -/
def deploy (db : MigrationDatabase σ) (d : Deployment) : MigrationDatabase σ :=
  (d.execute engine db).2

variable {d : Deployment} {db next : MigrationDatabase σ} {result : DeploymentMigrationResult}

theorem execute_raises {raised : MigrationError} (ran : d.execute engine db = (.error raised, next)) :
    next = db := by
  unfold Deployment.execute executeDeployment at ran
  split at ran
  · cases ran
    rfl
  split at ran
  · cases ran
    rfl
  split at ran
  · cases ran
    rfl
  · cases ran
    rfl
  · cases ran

theorem Deployed.kept {first later : List MigrationStep} (kept : db.Kept)
    (ordered : (first ++ later).Pairwise fun a b => a.version.toList ≤ b.version.toList)
    (named : db.applied = first.map MigrationStep.identity) (distinct : Distinct next.applied)
    (deployed : Deployed engine d.command first later db result next) : next.Kept := by
  -- The history is that of steps which stand in the order of the image.
  have history : ∃ steps : List MigrationStep, steps.Sublist (first ++ later) ∧
      next.applied = steps.map MigrationStep.identity := by
    cases deployed with
    | applied _ history => exact ⟨_, List.Sublist.refl _, history⟩
    | rolledBack _ left undone split _ history =>
        refine ⟨left, ?_, history⟩
        rw [split, List.append_assoc]
        exact List.sublist_append_left left _
    | adopted _ empty _ _ history => exact ⟨later, List.sublist_append_right first later, history⟩
  have journaled : UndoStack.replay next.journal = some next.applied := by
    cases deployed with
    | applied _ history _ journal =>
        rw [journal, UndoStack.replay_applied kept.journaled, history, named, List.map_append]
    | rolledBack _ left undone split _ history _ journal =>
        have replayed := kept.journaled
        rw [named, split, List.map_append] at replayed
        rw [journal, UndoStack.replay_undone replayed, history]
    | adopted _ empty _ _ history _ journal =>
        rw [journal, UndoStack.replay_applied kept.journaled, history, named, empty]
        rfl
  refine ⟨?_, journaled⟩
  obtain ⟨steps, sublist, named⟩ := history
  have below : next.applied.Pairwise fun a b => a.version.toList ≤ b.version.toList := by
    rw [named, List.pairwise_map]
    exact ordered.sublist sublist
  rw [Distinct, List.Nodup, List.pairwise_map] at distinct
  refine (below.and distinct).imp ?_
  rintro a b ⟨notAfter, different⟩
  refine lt_of_le_of_ne notAfter ?_
  intro same
  exact different (String.toList_inj.mp same)

/-- A deployment that returns: its image starts with what the history names, and only what
it says is done to the database. -/
theorem execute_returns (kept : db.Kept) (ran : d.execute engine db = (.ok result, next)) :
    next.Kept ∧ ∃ first later, discoverMigrations d.directory = .ok (first ++ later) ∧
      db.applied = first.map MigrationStep.identity ∧
      Deployed engine d.command first later db result next := by
  unfold Deployment.execute executeDeployment at ran
  split at ran
  · cases ran
  rename_i steps found
  split at ran
  · cases ran
  split at ran
  · cases ran
  · cases ran
  · rename_i committed _
    cases ran
    obtain ⟨first, later, rfl, named, deployed, distinct⟩ := transaction_returns kept committed
    exact ⟨deployed.kept kept (discoverMigrations_ordered found) named distinct,
      first, later, found, named, deployed⟩

theorem deploy_kept (kept : db.Kept) (d : Deployment) : (deploy engine db d).Kept := by
  cases ran : d.execute engine db with
  | mk answer next =>
      rw [deploy, ran]
      cases answer with
      | error raised =>
          rw [execute_raises ran]
          exact kept
      | ok result => exact (execute_returns kept ran).1

omit [Sha256] in
theorem unrecorded_kept (unrecorded : db.history = none) (unjournaled : db.events = []) :
    db.Kept := by
  have none : db.applied = [] := by
    simp [MigrationDatabase.applied, MigrationDatabase.tables, MigrationTables.applied, unrecorded]
  refine ⟨by rw [none]; exact .nil, ?_⟩
  rw [none, MigrationDatabase.journal, MigrationDatabase.tables, MigrationTables.journal, unjournaled]
  rfl

theorem run_kept (kept : db.Kept) (deployments : List Deployment) :
    (Runs.run (deploy engine) db deployments).Kept :=
  Runs.invariant (deploy engine) (fun _ => True) MigrationDatabase.Kept
    (fun _ d _ kept => deploy_kept kept d) kept fun _ _ => trivial

/-- After any deployments, of any images: the history stands in the order of its versions,
the events replay to it, and a deployment that returns did nothing but apply the rest of its
image, roll back the last steps, or adopt the image. -/
theorem deployments_keep_history (unrecorded : db.history = none) (unjournaled : db.events = [])
    (deployments : List Deployment) :
    (Runs.run (deploy engine) db deployments).Kept ∧
      ∀ (d : Deployment) result next,
        d.execute engine (Runs.run (deploy engine) db deployments) = (.ok result, next) →
          ∃ first later, discoverMigrations d.directory = .ok (first ++ later) ∧
            (Runs.run (deploy engine) db deployments).applied =
              first.map MigrationStep.identity ∧
            Deployed engine d.command first later (Runs.run (deploy engine) db deployments)
              result next := by
  have kept : (Runs.run (deploy engine) db deployments).Kept :=
    run_kept (unrecorded_kept unrecorded unjournaled) deployments
  exact ⟨kept, fun d result next ran => (execute_returns kept ran).2⟩

/-! ## The schema -/

variable (engine) in
/-- A script that a digest can tell apart, and that is undone by the other. -/
structure CarefulStep (step : MigrationStep) : Prop where
  unbroken : '\x00' ∉ step.forward.toList
  undone : Undoes (runScript engine .apply) (runScript engine .rollback) step

variable (engine) in
/-- A deployment of careful steps that are run. -/
structure Careful (d : Deployment) : Prop where
  builds : d.command.val.operation ≠ .adopt
  steps : ∀ steps, discoverMigrations d.directory = .ok steps →
    ∀ step ∈ steps, CarefulStep engine step

/-- Version, name and digest tell steps apart. -/
theorem identity_injective (collisionFree : Sha256.CollisionFree 64) {a b : MigrationStep}
    (aUnbroken : '\x00' ∉ a.forward.toList) (bUnbroken : '\x00' ∉ b.forward.toList)
    (same : a.identity = b.identity) : a = b := by
  obtain ⟨version, name, forward, rollback⟩ := a
  obtain ⟨version', name', forward', rollback'⟩ := b
  simp only [MigrationStep.identity, MigrationIdentity.mk.injEq, MigrationStep.contentSha256] at same
  obtain ⟨rfl, rfl, digests⟩ := same
  have texts := collisionFree (String.append_right_inj _ |>.mp digests)
  have scripts : forward.toList ++ '\x00' :: rollback.toList =
      forward'.toList ++ '\x00' :: rollback'.toList := by
    have whole := congrArg String.toList texts
    simpa [String.toList_append] using whole
  obtain ⟨forwards, rollbacks⟩ := ScopedText.joined_injective aUnbroken bUnbroken scripts
  have sameForward : forward = forward' := String.toList_inj.mp forwards
  rw [sameForward, String.toList_inj.mp rollbacks]

theorem identities_injective (collisionFree : Sha256.CollisionFree 64)
    {first second : List MigrationStep} (careful : ∀ step ∈ first, CarefulStep engine step)
    (careful' : ∀ step ∈ second, CarefulStep engine step)
    (same : first.map MigrationStep.identity = second.map MigrationStep.identity) :
    first = second := by
  induction first generalizing second with
  | nil => exact (List.map_eq_nil_iff.mp same.symm).symm
  | cons step rest ih =>
      cases second with
      | nil => cases same
      | cons other others =>
          obtain ⟨head, tail⟩ := List.cons.inj same
          obtain ⟨own, further⟩ := List.forall_mem_cons.mp careful
          obtain ⟨own', further'⟩ := List.forall_mem_cons.mp careful'
          rw [identity_injective collisionFree own.unbroken own'.unbroken head,
            ih further further' tail]

variable (engine) in
/-- The schema that the steps of the history make from the one at the start. -/
def SchemaBuilt (start : σ) (db : MigrationDatabase σ) : Prop :=
  ∃ steps, (∀ step ∈ steps, CarefulStep engine step) ∧
    db.applied = steps.map MigrationStep.identity ∧
    runAll (runScript engine .apply) steps start = .ok db.schema

theorem Deployed.built {start : σ} (collisionFree : Sha256.CollisionFree 64)
    {first later : List MigrationStep} (operation : d.command.val.operation ≠ .adopt)
    (careful : ∀ step ∈ first ++ later, CarefulStep engine step)
    (named : db.applied = first.map MigrationStep.identity) (built : SchemaBuilt engine start db)
    (deployed : Deployed engine d.command first later db result next) :
    ∃ steps, steps <+: first ++ later ∧ next.applied = steps.map MigrationStep.identity ∧
      runAll (runScript engine .apply) steps start = .ok next.schema ∧
      (d.command.val.operation = .apply → steps = first ++ later) := by
  obtain ⟨own, ownCareful, ownNamed, made⟩ := built
  -- What was built before is the part of the image that the history names.
  have same : own = first :=
    identities_injective collisionFree ownCareful
      (fun step member => careful step (List.mem_append_left _ member)) (ownNamed.symm.trans named)
  subst same
  cases deployed with
  | applied _ history _ _ schema =>
      refine ⟨_, List.prefix_rfl, history, ?_, fun _ => rfl⟩
      rw [UndoStack.runAll_append, made]
      exact schema
  | rolledBack rollsBack left undone split _ history _ _ schema =>
      subst split
      refine ⟨left, ?_, history, ?_, ?_⟩
      · rw [List.append_assoc]
        exact List.prefix_append left _
      · refine UndoStack.runAll_undone ?_ made schema
        intro step member
        exact (careful step (by simp [member])).undone
      · intro applies
        rw [rollsBack] at applies
        cases applies
  | adopted adopts => exact absurd adopts operation

theorem deploy_built {start : σ} (collisionFree : Sha256.CollisionFree 64) (kept : db.Kept)
    (built : SchemaBuilt engine start db) (careful : Careful engine d) :
    SchemaBuilt engine start (deploy engine db d) := by
  cases ran : d.execute engine db with
  | mk answer next =>
      rw [deploy, ran]
      cases answer with
      | error raised =>
          rw [execute_raises ran]
          exact built
      | ok result =>
          obtain ⟨-, first, later, found, named, deployed⟩ := execute_returns kept ran
          have each := careful.steps _ found
          obtain ⟨steps, start, history, made, -⟩ :=
            deployed.built collisionFree careful.builds each named built
          exact ⟨steps, fun step member => each step (start.subset member), history, made⟩

theorem run_built {start : σ} (collisionFree : Sha256.CollisionFree 64) (kept : db.Kept)
    (built : SchemaBuilt engine start db) {deployments : List Deployment}
    (careful : ∀ d ∈ deployments, Careful engine d) :
    (Runs.run (deploy engine) db deployments).Kept ∧
      SchemaBuilt engine start (Runs.run (deploy engine) db deployments) :=
  Runs.invariant (deploy engine) (Careful engine)
    (fun db => db.Kept ∧ SchemaBuilt engine start db)
    (fun _ d careful held =>
      ⟨deploy_kept held.1 d, deploy_built collisionFree held.1 held.2 careful⟩)
    ⟨kept, built⟩ careful

/-- Whatever was deployed before: the schema after a deployment is the one that the image's
own scripts make, one after the other, from the schema at the start. -/
theorem deployments_path_independent (collisionFree : Sha256.CollisionFree 64)
    (unrecorded : db.history = none) (unjournaled : db.events = []) {deployments : List Deployment}
    (careful : ∀ d ∈ deployments, Careful engine d) (own : Careful engine d)
    (ran : d.execute engine (Runs.run (deploy engine) db deployments) = (.ok result, next)) :
    ∃ steps made, discoverMigrations d.directory = .ok steps ∧ made <+: steps ∧
      next.applied = made.map MigrationStep.identity ∧
      runAll (runScript engine .apply) made db.schema = .ok next.schema ∧
      (d.command.val.operation = .apply → made = steps) := by
  have empty : SchemaBuilt engine db.schema db := by
    refine ⟨[], List.forall_mem_nil _, ?_, rfl⟩
    simp [MigrationDatabase.applied, MigrationDatabase.tables, MigrationTables.applied, unrecorded]
  obtain ⟨kept, built⟩ :=
    run_built collisionFree (unrecorded_kept unrecorded unjournaled) empty careful
  obtain ⟨-, first, later, found, named, deployed⟩ := execute_returns kept ran
  obtain ⟨made, start, history, schema, whole⟩ :=
    deployed.built collisionFree own.builds (own.steps _ found) named built
  exact ⟨_, made, found, start, history, schema, whole⟩

end Effects

/-! ## An image with one step -/

section Sample

def sampleStep : MigrationStep := ⟨"001", "a", "CREATE TABLE a", "DROP TABLE a"⟩

def sampleHex (digit : Char) : String := String.ofList (List.replicate 64 digit)

/-- The digests of the step and of the bundle. -/
def sampleDigests : List (String × String) :=
  [("001\x00a\x00CREATE TABLE a\x00DROP TABLE a", sampleHex 'a'),
   ("sha256:" ++ sampleHex 'a' ++ "\n", sampleHex 'b')]

local instance deploymentsSha256 : Sha256 := Sha256.extended sampleDigests

/-- A database that lists what was executed. -/
def sampleEngine : SqlEngine (List String) where
  serverMajor := 18
  execute := fun statement schema =>
    .ok (if statement = "DROP TABLE a;" then schema.dropLast else schema ++ [statement])
  hasCandidateTable := fun _ => false
  fingerprint := fun _ => ""

def sampleDirectory : MigrationsDirectory where
  path := "migrations"
  files := some ⟨[("001_a.rollback.sql", "DROP TABLE a"), ("001_a.sql", "CREATE TABLE a")],
    by decide⟩

def sampleReleaseFields : MigrationReleaseIdentityFields where
  repository := "sgajbi/lotus-idea"
  gitCommitSha := String.ofList (List.replicate 40 'c')
  gitRef := "refs/heads/main"
  ciRunId := "17"
  imageDigestReference := "ghcr.io/sgajbi/lotus-idea@sha256:" ++ sampleHex 'd'
  environmentClass := .staging
  changeReference := "CHG-001"
  deploymentActor := "deployer"

theorem sampleReleaseFields_valid : firstFailure sampleReleaseFields.checks = none := by
  decide +kernel

def sampleCommandFields : DeploymentMigrationCommandFields where
  operation := .apply
  release := ⟨sampleReleaseFields, sampleReleaseFields_valid⟩
  expectedMigrationBundleSha256 := "sha256:" ++ sampleHex 'b'

theorem sampleCommandFields_valid : firstFailure sampleCommandFields.checks = none := by
  decide +kernel

def sampleDeployment : Deployment where
  directory := sampleDirectory
  command := ⟨sampleCommandFields, sampleCommandFields_valid⟩
  failure := none

def sampleDatabase : MigrationDatabase (List String) := ⟨[], none, []⟩

theorem sampleDeployment_found : discoverMigrations sampleDirectory = .ok [sampleStep] := by
  decide +kernel

theorem sampleStep_careful : CarefulStep sampleEngine sampleStep where
  unbroken := by decide
  undone := by
    have applies : migrationStatements sampleStep .apply = .ok ["CREATE TABLE a;"] := by
      decide +kernel
    have drops : migrationStatements sampleStep .rollback = .ok ["DROP TABLE a;"] := by
      decide +kernel
    intro before made after up down
    simp only [runScript, applies] at up
    simp only [runScript, drops] at down
    cases up
    cases down
    exact List.dropLast_concat

theorem sampleDeployment_careful : Careful sampleEngine sampleDeployment where
  builds := by decide
  steps := by
    intro steps found step member
    cases sampleDeployment_found.symm.trans found
    rw [List.mem_singleton] at member
    rw [member]
    exact sampleStep_careful

theorem deployments_keep_history_sample :
    (Runs.run (deploy sampleEngine) sampleDatabase [sampleDeployment, sampleDeployment]).Kept :=
  (deployments_keep_history rfl rfl [sampleDeployment, sampleDeployment]).1

theorem sampleDigests_collisionFree : Sha256.CollisionFree 64 :=
  Sha256.extended_collisionFree le_rfl (by decide +kernel)

theorem deployments_path_independent_sample : ∃ result next,
    sampleDeployment.execute sampleEngine
        (Runs.run (deploy sampleEngine) sampleDatabase [sampleDeployment]) = (.ok result, next) ∧
      ∃ steps made, discoverMigrations sampleDirectory = .ok steps ∧ made <+: steps ∧
        next.applied = made.map MigrationStep.identity ∧
        runAll (runScript sampleEngine .apply) made [] = .ok next.schema := by
  cases ran : sampleDeployment.execute sampleEngine
      (Runs.run (deploy sampleEngine) sampleDatabase [sampleDeployment]) with
  | mk answer next =>
      cases answer with
      | error raised =>
          have returned : (sampleDeployment.execute sampleEngine
              (Runs.run (deploy sampleEngine) sampleDatabase
                [sampleDeployment])).1.toOption.isSome = true := by
            decide +kernel
          rw [ran] at returned
          cases returned
      | ok result =>
          have careful : ∀ d ∈ [sampleDeployment], Careful sampleEngine d := by
            intro d member
            rw [List.mem_singleton] at member
            rw [member]
            exact sampleDeployment_careful
          obtain ⟨steps, made, found, start, history, schema, -⟩ :=
            deployments_path_independent sampleDigests_collisionFree rfl rfl careful
              sampleDeployment_careful ran
          exact ⟨result, next, rfl, steps, made, found, start, history, schema⟩

end Sample

end LotusIdea
