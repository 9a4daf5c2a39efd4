import LotusIdea.Domain.SourceRevision
import LotusIdea.Foundation.OrderedDict
import LotusIdea.Foundation.OrderedRows
import LotusIdea.Foundation.UndoStacks
import LotusIdea.Migrations.SqlStatements

/-!
# Deployments of migrations

`migrations.py`, `domain/deployment_migrations.py` and the executor of
`postgres_deployment_migrations.py`.  A deployment runs in one transaction under one lock,
so deployments come one after the other, and one that raises leaves everything as it was.
The database is a parameter, but for the history and the events that the executor keeps.
-/

set_option autoImplicit false

namespace LotusIdea

inductive MigrationError where
  | fileNotFound (message : String)
  | value (raised : PyError)
  | deployment (code detail : String)
  | database (message : String)
  deriving DecidableEq, Repr

/-! ## Steps -/

inductive MigrationDirection where
  | apply
  | rollback
  deriving DecidableEq, Repr

/-- A step with what its two files hold. -/
structure MigrationStep where
  version : String
  name : String
  forward : String
  rollback : String
  deriving DecidableEq, Repr

/-- The directory of an image, with the texts of its files. -/
structure MigrationsDirectory where
  path : String
  files : Option (Dict String String)

/-- `[0-9][0-9][0-9]_*.sql`. -/
def isMigrationFile (fileName : String) : Bool :=
  match fileName.toList with
  | a :: b :: c :: '_' :: rest =>
      a.isDigit && b.isDigit && c.isDigit && ".sql".toList.isSuffixOf rest
  | _ => false

def isRollbackFile (fileName : String) : Bool := ".rollback.sql".toList.isSuffixOf fileName.toList

/-- `path.stem` of a name that ends in `.sql`. -/
def fileStem (fileName : String) : List Char := fileName.toList.dropLast.dropLast.dropLast.dropLast

/-- `_parse_migration_identity`. -/
def parseMigrationIdentity (fileName : String) : Except MigrationError (String × String) :=
  let stem := fileStem fileName
  let version := stem.takeWhile (· ≠ '_')
  let name := (stem.dropWhile (· ≠ '_')).drop 1
  if version = [] ∨ name = [] then
    .error (.value (.valueError ("Invalid migration filename: " ++ fileName)))
  else .ok (String.ofList version, String.ofList name)

def migrationStep (directory : MigrationsDirectory) (files : Dict String String)
    (file : String × String) : Except MigrationError MigrationStep := do
  let (version, name) ← parseMigrationIdentity file.1
  let rollbackName := String.ofList (fileStem file.1 ++ ".rollback.sql".toList)
  match files.get? rollbackName with
  | none => .error (.fileNotFound
      ("Missing rollback migration: " ++ directory.path ++ "/" ++ rollbackName))
  | some rollback => .ok { version, name, forward := file.2, rollback }

/-- `discover_migrations`. -/
def discoverMigrations (directory : MigrationsDirectory) :
    Except MigrationError (List MigrationStep) :=
  match directory.files with
  | none => .error (.fileNotFound ("Missing migrations directory: " ++ directory.path))
  | some files =>
      ((Sql.orderBy (fun file => file.1.toList) files.entries).filter fun file =>
        isMigrationFile file.1 && !isRollbackFile file.1).mapM (migrationStep directory files)

/-- `open(newline=None)`: every line break is read as one. -/
def universalNewlines : List Char → List Char
  | '\r' :: '\n' :: rest => '\n' :: universalNewlines rest
  | '\r' :: rest => '\n' :: universalNewlines rest
  | c :: rest => c :: universalNewlines rest
  | [] => []

/-- `migration_statements`. -/
def migrationStatements (step : MigrationStep) (direction : MigrationDirection) :
    Except MigrationError (List String) :=
  let script := match direction with
    | .apply => step.forward
    | .rollback => step.rollback
  (sqlStatements (String.ofList (universalNewlines script.toList))).mapError .value

/-! ## Commands -/

inductive DeploymentMigrationOperation where
  | apply
  | rollback
  | adopt
  deriving DecidableEq, Repr

def DeploymentMigrationOperation.value : DeploymentMigrationOperation → String
  | .apply => "apply"
  | .rollback => "rollback"
  | .adopt => "adopt"

inductive DeploymentEnvironmentClass where
  | staging
  | production
  deriving DecidableEq, Repr

structure MigrationReleaseIdentityFields where
  repository : String
  gitCommitSha : String
  gitRef : String
  ciRunId : String
  imageDigestReference : String
  environmentClass : DeploymentEnvironmentClass
  changeReference : String
  deploymentActor : String
  deriving DecidableEq, Repr

def isUpperOrDigit (c : Char) : Bool := ('A' ≤ c && c ≤ 'Z') || ('0' ≤ c && c ≤ '9')

def isAsciiAlphanumeric (c : Char) : Bool := isUpperOrDigit c || ('a' ≤ c && c ≤ 'z')

/-- `^[0-9a-f]{40}$`. -/
def isCommitSha (value : String) : Bool :=
  decide (value.toList.length = 40) && value.toList.all Sha256.isHexDigit

/-- `^[1-9][0-9]*$`. -/
def isRunId (value : String) : Bool :=
  match value.toList with
  | first :: rest => '1' ≤ first && first ≤ '9' && rest.all fun c => '0' ≤ c && c ≤ '9'
  | [] => false

def imageReferenceStart : String := "ghcr.io/sgajbi/lotus-idea@"

/-- The reference is a digest of the repository's image. -/
def isDigestReference (value : String) : Bool :=
  PyText.startsWith value imageReferenceStart &&
    isSha256Digest (String.ofList (value.toList.drop imageReferenceStart.toList.length))

/-- `^[A-Z0-9][/A-Z0-9._-]{5,63}$`. -/
def isChangeReference (value : String) : Bool :=
  match value.toList with
  | first :: rest =>
      isUpperOrDigit first && decide (5 ≤ rest.length) && decide (rest.length ≤ 63) &&
        rest.all fun c => isUpperOrDigit c || ['.', '_', '/', '-'].contains c
  | [] => false

/-- `^[A-Za-z0-9](?:[A-Za-z0-9-]{0,38})$`. -/
def isDeploymentActor (value : String) : Bool :=
  match value.toList with
  | first :: rest =>
      isAsciiAlphanumeric first && decide (rest.length ≤ 38) &&
        rest.all fun c => isAsciiAlphanumeric c || c == '-'
  | [] => false

def MigrationReleaseIdentityFields.checks (r : MigrationReleaseIdentityFields) :
    List (Bool × PyError) :=
  [(r.repository != "sgajbi/lotus-idea",
      .valueError "repository must identify sgajbi/lotus-idea"),
   (!isCommitSha r.gitCommitSha,
      .valueError "git_commit_sha must be a lowercase 40-character SHA"),
   (r.gitRef != "refs/heads/main", .valueError "git_ref must be refs/heads/main"),
   (!isRunId r.ciRunId, .valueError "ci_run_id must be a positive numeric GitHub run id"),
   (!isDigestReference r.imageDigestReference,
      .valueError "image_digest_reference must be the immutable Lotus Idea GHCR digest"),
   (!isChangeReference r.changeReference,
      .valueError "change_reference must be a bounded uppercase change identifier"),
   (!isDeploymentActor r.deploymentActor,
      .valueError "deployment_actor must be a valid bounded GitHub actor")]

abbrev MigrationReleaseIdentity := Checked MigrationReleaseIdentityFields.checks

structure DeploymentMigrationCommandFields where
  operation : DeploymentMigrationOperation
  release : MigrationReleaseIdentity
  expectedMigrationBundleSha256 : String
  rollbackCount : Int := 0
  expectedSchemaFingerprint : Option String := none

def DeploymentMigrationCommandFields.checks (c : DeploymentMigrationCommandFields) :
    List (Bool × PyError) :=
  [(!isSha256Digest c.expectedMigrationBundleSha256,
      .valueError "expected_migration_bundle_sha256 must be a SHA-256 digest"),
   (c.operation == .rollback && decide (c.rollbackCount < 1 ∨ 15 < c.rollbackCount),
      .valueError "rollback_count must be between 1 and 15"),
   (c.operation != .rollback && decide (c.rollbackCount ≠ 0),
      .valueError "rollback_count is valid only for rollback"),
   (c.operation == .adopt && decide (c.expectedSchemaFingerprint.getD "" = ""),
      .valueError "expected_schema_fingerprint is required for adoption"),
   (c.operation != .adopt && c.expectedSchemaFingerprint.isSome,
      .valueError "expected_schema_fingerprint is valid only for adoption")]

abbrev DeploymentMigrationCommand := Checked DeploymentMigrationCommandFields.checks

/-! ## The database -/

/-- What the executor asks of the database around its two tables. -/
structure SqlEngine (σ : Type) where
  serverMajor : ℕ
  execute : String → σ → Except String σ
  /-- `public.idea_candidate_record` is there. -/
  hasCandidateTable : σ → Bool
  fingerprint : σ → String

/-- The columns that say which migration a row is about. -/
structure MigrationIdentity where
  version : String
  name : String
  contentSha256 : String
  deriving DecidableEq, Repr

structure MigrationHistoryRow where
  identity : MigrationIdentity
  release : MigrationReleaseIdentity
  migrationBundleSha256 : String
  adopted : Bool

structure MigrationEventRow where
  operation : DeploymentMigrationOperation
  identity : MigrationIdentity
  release : MigrationReleaseIdentity
  migrationBundleSha256 : String

/-- What a deployment works on. -/
structure MigrationTables (σ : Type) where
  schema : σ
  history : List MigrationHistoryRow
  events : List MigrationEventRow

/-- `history` is there once a deployment was committed. -/
structure MigrationDatabase (σ : Type) where
  schema : σ
  history : Option (List MigrationHistoryRow)
  events : List MigrationEventRow

structure DeploymentMigrationResult where
  operation : DeploymentMigrationOperation
  release : MigrationReleaseIdentity
  migrationBundleSha256 : String
  previousVersion : Option String
  currentVersion : Option String
  appliedVersions : List String
  rolledBackVersions : List String
  adoptedVersions : List String

section
variable [Sha256]

def MigrationStep.contentSha256 (step : MigrationStep) : String :=
  "sha256:" ++ Sha256.hexdigest 64 (step.version ++ "\x00" ++ step.name ++ "\x00" ++
    step.forward ++ "\x00" ++ step.rollback)

def MigrationStep.identity (step : MigrationStep) : MigrationIdentity :=
  ⟨step.version, step.name, step.contentSha256⟩

/-- `migration_bundle_sha256`. -/
def migrationBundleSha256 (steps : List MigrationStep) : String :=
  "sha256:" ++ Sha256.hexdigest 64
    (String.join (steps.map fun step => step.contentSha256 ++ "\n"))

/-! ## The executor -/

variable {σ : Type} (engine : SqlEngine σ)

/-- The statements of a script, in their order. -/
def runScript (direction : MigrationDirection) (step : MigrationStep) (schema : σ) :
    Except MigrationError σ := do
  let statements ← migrationStatements step direction
  statements.foldlM (fun state statement => (engine.execute statement state).mapError .database)
    schema

/-- `_load_history`. -/
def loadMigrationHistory (rows : List MigrationHistoryRow) : List MigrationIdentity :=
  (Sql.orderBy (fun row => row.identity.version.toList) rows).map MigrationHistoryRow.identity

def requireDeployment (holds : Bool) (code detail : String) : Except MigrationError Unit :=
  if holds then .ok () else .error (.deployment code detail)

/-- `_validate_history`. -/
def validateMigrationHistory (history : List MigrationIdentity) (steps : List MigrationStep) :
    Except MigrationError Unit := do
  requireDeployment (history.length ≤ steps.length) "migration_history_ahead_of_image"
    "database migration history is ahead of the deployment image"
  (history.zip steps).forM fun (actual, expected) => do
    requireDeployment (actual.version = expected.version) "migration_history_not_contiguous"
      "database migration history is not a strict image prefix"
    requireDeployment (actual = expected.identity) "migration_content_drift"
      ("applied migration " ++ actual.version ++ " does not match the immutable image bundle")

/-- `^[0-9]{3}$`. -/
def isMigrationVersion (version : String) : Bool :=
  decide (version.toList.length = 3) && version.toList.all Char.isDigit

section Writes
variable (command : DeploymentMigrationCommand) (bundleSha256 : String)

/-- `_insert_history`, with the constraints of the table. -/
def insertMigrationHistory (adopted : Bool) (t : MigrationTables σ) (step : MigrationStep) :
    Except MigrationError (MigrationTables σ) :=
  if t.history.any fun row => row.identity.version = step.version then
    .error (.database "lotus_idea_schema_migration_pkey")
  else if !isMigrationVersion step.version || !isSha256Digest step.contentSha256 then
    .error (.database "ck_lotus_idea_schema_migration")
  else
    .ok { t with
      history := t.history ++ [⟨step.identity, command.val.release, bundleSha256, adopted⟩] }

/-- `_insert_event`. -/
def insertMigrationEvent (t : MigrationTables σ) (step : MigrationStep) : MigrationTables σ :=
  { t with
    events := t.events ++
      [⟨command.val.operation, step.identity, command.val.release, bundleSha256⟩] }

/-- A round of `_apply_pending`. -/
def applyStep (t : MigrationTables σ) (step : MigrationStep) :
    Except MigrationError (MigrationTables σ) := do
  let schema ← runScript engine .apply step t.schema
  let t ← insertMigrationHistory command bundleSha256 false { t with schema } step
  return insertMigrationEvent command bundleSha256 t step

/-- A round of `_rollback_latest`. -/
def rollbackStep (t : MigrationTables σ) (step : MigrationStep) :
    Except MigrationError (MigrationTables σ) := do
  let schema ← runScript engine .rollback step t.schema
  let t := insertMigrationEvent command bundleSha256 { t with schema } step
  return { t with history := t.history.filter fun row => row.identity.version ≠ step.version }

/-- A round of `_adopt_existing_schema`. -/
def adoptStep (t : MigrationTables σ) (step : MigrationStep) :
    Except MigrationError (MigrationTables σ) := do
  let t ← insertMigrationHistory command bundleSha256 true t step
  return insertMigrationEvent command bundleSha256 t step

/-- `_apply_pending`. -/
def applyPending (steps : List MigrationStep) (appliedCount : ℕ) (t : MigrationTables σ) :
    Except MigrationError (List String × MigrationTables σ) := do
  let pendingSteps := steps.drop appliedCount
  let t ← pendingSteps.foldlM (applyStep engine command bundleSha256) t
  return (pendingSteps.map MigrationStep.version, t)

/-- `_rollback_latest`. -/
def rollbackLatest (steps : List MigrationStep) (appliedCount : ℕ) (t : MigrationTables σ) :
    Except MigrationError (List String × MigrationTables σ) := do
  requireDeployment (command.val.rollbackCount ≤ appliedCount) "migration_rollback_exceeds_history"
    "rollback_count exceeds applied migration history"
  let rollbackSteps := (steps.take appliedCount).reverse.take command.val.rollbackCount.toNat
  let t ← rollbackSteps.foldlM (rollbackStep engine command bundleSha256) t
  return (rollbackSteps.map MigrationStep.version, t)

/-- `_adopt_existing_schema`. -/
def adoptExistingSchema (steps : List MigrationStep) (historyExisted : Bool)
    (t : MigrationTables σ) : Except MigrationError (List String × MigrationTables σ) := do
  requireDeployment (!historyExisted) "migration_adoption_history_already_exists"
    "schema adoption cannot replace existing migration history"
  requireDeployment (some (engine.fingerprint t.schema) = command.val.expectedSchemaFingerprint)
    "migration_adoption_schema_mismatch"
    "existing Idea schema does not match the approved adoption fingerprint"
  let t ← steps.foldlM (adoptStep command bundleSha256) t
  return (steps.map MigrationStep.version, t)

/-- A schema without history is for adoption, and only that is. -/
def requireAdoptionPosture (operation : DeploymentMigrationOperation) (unrecorded : Bool) :
    Except MigrationError Unit :=
  if unrecorded then
    requireDeployment (operation = .adopt) "migration_history_missing_for_existing_schema"
      "existing Idea schema requires explicit validated adoption"
  else
    requireDeployment (operation ≠ .adopt) "migration_adoption_not_required"
      "schema adoption is valid only when Idea tables exist without history"

/-- The versions that were applied, rolled back and adopted, and what that left. -/
structure DeploymentWork (σ : Type) where
  appliedVersions : List String := []
  rolledBackVersions : List String := []
  adoptedVersions : List String := []
  tables : MigrationTables σ

def deploymentWork (steps : List MigrationStep) (historyExisted : Bool) (appliedCount : ℕ)
    (t : MigrationTables σ) : Except MigrationError (DeploymentWork σ) :=
  match command.val.operation with
  | .apply => do
      let (versions, t) ← applyPending engine command bundleSha256 steps appliedCount t
      return { appliedVersions := versions, tables := t }
  | .rollback => do
      let (versions, t) ← rollbackLatest engine command bundleSha256 steps appliedCount t
      return { rolledBackVersions := versions, tables := t }
  | .adopt => do
      let (versions, t) ← adoptExistingSchema engine command bundleSha256 steps historyExisted t
      return { adoptedVersions := versions, tables := t }

/-- The transaction of `execute`. -/
def deploymentTransaction (steps : List MigrationStep) (db : MigrationDatabase σ) :
    Except MigrationError (DeploymentMigrationResult × MigrationTables σ) := do
  requireDeployment (engine.serverMajor = 18) "deployment_postgres_version_unsupported"
    "deployment migrations require PostgreSQL 18"
  let t : MigrationTables σ := ⟨db.schema, db.history.getD [], db.events⟩
  let history := loadMigrationHistory t.history
  validateMigrationHistory history steps
  requireAdoptionPosture command.val.operation
    (history.isEmpty && engine.hasCandidateTable db.schema)
  let work ← deploymentWork engine command bundleSha256 steps db.history.isSome history.length t
  let result : DeploymentMigrationResult :=
    { operation := command.val.operation
      release := command.val.release
      migrationBundleSha256 := bundleSha256
      previousVersion := history.getLast?.map MigrationIdentity.version
      currentVersion :=
        (loadMigrationHistory work.tables.history).getLast?.map MigrationIdentity.version
      appliedVersions := work.appliedVersions
      rolledBackVersions := work.rolledBackVersions
      adoptedVersions := work.adoptedVersions }
  return (result, work.tables)

end Writes

/-- `PostgresDeploymentMigrationExecutor.execute`; `failure` is what a lost connection or a
commit raises. -/
def executeDeployment (directory : MigrationsDirectory) (command : DeploymentMigrationCommand)
    (failure : Option MigrationError) (db : MigrationDatabase σ) :
    Except MigrationError DeploymentMigrationResult × MigrationDatabase σ :=
  match discoverMigrations directory with
  | .error raised => (.error raised, db)
  | .ok steps =>
      if migrationBundleSha256 steps ≠ command.val.expectedMigrationBundleSha256 then
        (.error (.deployment "migration_bundle_contract_mismatch"
          "immutable image migration bundle does not match the governed contract"), db)
      else
        match deploymentTransaction engine command (migrationBundleSha256 steps) steps db,
            failure with
        | .error raised, _ => (.error raised, db)
        | .ok _, some raised => (.error raised, db)
        | .ok (result, t), none => (.ok result, ⟨t.schema, some t.history, t.events⟩)

end

end LotusIdea
