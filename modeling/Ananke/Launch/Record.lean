import Ananke.Text.Pattern
import Ananke.Validation.Check

/-! What is admitted to launch: the sealed specification, the claim on it with its fence,
and the facts that follow a claim. None of them starts a process. -/
namespace Ananke.Launch

open Text Validation

structure LaunchRevisionIdentity where
  proposalID : String
  revision : Int
  revisionHash : String
deriving DecidableEq

structure LaunchModelSpec where
  (provider model : String)
deriving DecidableEq

structure LaunchReadOnlyScope where
  (access retrieval scopeFingerprint writes : String)
deriving DecidableEq

structure LaunchSealedContract where
  (materializationHash nonce : String)
deriving DecidableEq

structure LaunchHostSpec where
  capabilities : List String
  (executableRouteFingerprint hostSpecFingerprint requiredFilesFingerprint
    transcriptSourceFingerprint worktreeLayoutFingerprint : String)
deriving DecidableEq

structure LaunchTranscriptSpec where
  (dialect dialectFingerprint parse : String)
deriving DecidableEq

structure LaunchVerificationSpec where
  (kind verificationCommandFingerprint : String)
deriving DecidableEq

structure LaunchSpec where
  schemaVersion : String
  revision : LaunchRevisionIdentity
  model : LaunchModelSpec
  deadline : String
  attemptCap : Int
  readOnlyScope : LaunchReadOnlyScope
  sealedContract : LaunchSealedContract
  hostSpec : LaunchHostSpec
  transcript : LaunchTranscriptSpec
  verification : LaunchVerificationSpec
deriving DecidableEq

/-- The state of an approval and of the lifecycle of its revision. -/
inductive ReviewState
  | pending
  | approved
  | rejected
  | superseded
  | withdrawn
deriving DecidableEq

inductive ProposalState
  | opened
  | approved
  | withdrawn
deriving DecidableEq

structure LaunchApprovalEligibility where
  (approvalID proposalID : String)
  revision : Int
  revisionHash : String
  approvedAt : Int
  approvedBy : String
  state : ReviewState

structure StoredLaunchSpec where
  spec : LaunchSpec
  launchSpecHash : String
  approval : LaunchApprovalEligibility
  createdAt : Int

/-- The whole authority of a claim. Part of it authorises nothing. -/
structure LaunchFence where
  (claimID claimTokenHash : String)
  fenceGeneration : Int
deriving DecidableEq

/-- The active claim of a specification. -/
structure TaskClaim where
  fence : LaunchFence
  (launchSpecHash ownerID : String)
  (attempt createdAt : Int)

structure LaunchMaterialization where
  fence : LaunchFence
  (launchSpecHash materializationID materializationHash nonce : String)
  createdAt : Int

/-- The first and only fact about a run that is intended: it was created. -/
structure LaunchStateFact where
  sequence : Int
  tokenHash : String
  writtenAt : Int

structure LaunchRunIntent where
  fence : LaunchFence
  (launchSpecHash materializationID runID : String)
  attempt : Int
  stateFact : LaunchStateFact
  createdAt : Int

/-- A terminal intent or an evidence intent. -/
structure LaunchIntent where
  fence : LaunchFence
  (runID intentID : String)
  createdAt : Int

inductive LaunchOutboxState
  | pendingMaterialization
  | pendingRunAdmission
  | pendingProcessAdmission
  | other (text : String)
deriving DecidableEq

structure LaunchOutbox where
  fence : LaunchFence
  (launchSpecHash outboxID : String)
  sequence : Int
  state : LaunchOutboxState
  createdAt : Int

inductive LaunchRecoveryAction
  | retryMaterialization
  | retryRunAdmission
  | retryProcessAdmission
deriving DecidableEq

/-- The facts of the active generation. Nothing there means an absent fact. -/
structure LaunchRecoveryBoundary where
  launchSpecHash : String
  claim : TaskClaim
  outbox : LaunchOutbox
  materialization : Option LaunchMaterialization
  runIntent : Option LaunchRunIntent
  (terminalIntent evidenceIntent : Option LaunchIntent)
  action : LaunchRecoveryAction

structure LaunchAdmissionRequest where
  spec : LaunchSpec
  (launchSpecHash approvalID : String)

structure LaunchClaimRequest where
  (launchSpecHash claimID claimTokenHash ownerID : String)
  attempt : Int

structure LaunchClaimReclaimRequest where
  expectedFence : LaunchFence
  claim : LaunchClaimRequest

structure LaunchMaterializationRequest where
  fence : LaunchFence
  (materializationID materializationHash nonce : String)

structure LaunchRunIntentRequest where
  fence : LaunchFence
  (materializationID runID : String)
  attempt : Int

structure LaunchIntentRequest where
  fence : LaunchFence
  (runID intentID : String)

inductive Err
  | launchSpecInvalid (detail : String)
  | launchSpecHashMismatch
  | launchSpecNotFound
  | launchSpecConflict
  | launchApprovalIneligible (detail : String)
  | launchClaimNotFound
  | launchClaimAlreadyActive
  | launchStaleFence
  | launchMaterializationMismatch
  | launchMaterializationNotReady
  | launchMaterializationConflict
  | launchRunIntentNotFound
  | launchRunIntentConflict
  | launchTerminalIntentConflict
  | launchEvidenceIntentConflict
  | launchRecordCorrupt (detail : String)
  /-- The database refused the statement. -/
  | sql (action : String)
  | other (text : String)
deriving DecidableEq

/-- What the launch authority takes from elsewhere. -/
structure Primitives (β : Type) where
  /-- `canonicalJSONHash(launchSpecCanonicalValue(spec))` -/
  launchSpecDigest : LaunchSpec → String
  /-- `canonicalJSONHash(launchHostSpecCanonicalValue(spec, false))` -/
  hostSpecDigest : LaunchHostSpec → String
  -- `canonicalJSON` and the strict decoder
  encodeSpec : LaunchSpec → β
  decodeSpec : β → Option LaunchSpec
  /-- `time.Parse(time.RFC3339Nano, …)`: the time since the zero time, and whether its
  location is UTC. -/
  parseTime : String → Option (Int × Bool)
  /-- `Format(time.RFC3339Nano)` in UTC. -/
  formatTime : Int → String

variable {β : Type} (p : Primitives β)

/-- `parseStamp` -/
def Primitives.timeOf (text : String) : Option Int := (p.parseTime text).map Prod.fst

def launchHashPattern : String → Bool := protocolHashPattern

/-- `^[a-z][a-z0-9_]{2,63}$` -/
def identifierPattern : String → Bool := namePattern 63

def validateIdentifier (v name : String) : Except String Unit :=
  require (name ++ " must be a P1a identifier") (identifierPattern v = true)

def launchSpecSchemaVersion : String := "ananke.launch-spec.v1"

def localGUIOperator : String := "local_gui_operator"

def wantCapabilities : List String :=
  ["bounded_cancellation", "read_only_retrieval", "reconnect_recovery", "shape_only_transcript",
    "verification"]

/-- The fingerprints of a host specification, by name. -/
def LaunchHostSpec.fingerprints (spec : LaunchHostSpec) : List (String × String) :=
  [("executable_route_fingerprint", spec.executableRouteFingerprint),
    ("required_files_fingerprint", spec.requiredFilesFingerprint),
    ("transcript_source_fingerprint", spec.transcriptSourceFingerprint),
    ("worktree_layout_fingerprint", spec.worktreeLayoutFingerprint)]

def validateLaunchSpec (spec : LaunchSpec) : Except Err Unit := do
  require (.launchSpecInvalid "schema_version must be \"ananke.launch-spec.v1\"")
    (spec.schemaVersion = launchSpecSchemaVersion)
  (validateIdentifier spec.revision.proposalID "proposal id").mapError .launchSpecInvalid
  require (.launchSpecInvalid "revision must be positive") (1 ≤ spec.revision.revision)
  require (.launchSpecInvalid "revision_hash must be a SHA-256 hash")
    (launchHashPattern spec.revision.revisionHash = true)
  (validateIdentifier spec.model.provider "model provider").mapError .launchSpecInvalid
  (validateIdentifier spec.model.model "model").mapError .launchSpecInvalid
  require (.launchSpecInvalid "deadline must be a semantic UTC RFC 3339 timestamp")
    (launchTimestampPattern spec.deadline = true)
  require (.launchSpecInvalid "deadline must be a semantic UTC RFC 3339 timestamp")
    ((p.timeOf spec.deadline).isSome = true)
  require (.launchSpecInvalid "attempt_cap must be 1 through 100")
    (1 ≤ spec.attemptCap ∧ spec.attemptCap ≤ 100)
  require (.launchSpecInvalid "read_only_scope must be sealed read-only authority")
    (spec.readOnlyScope.access = "read_only" ∧
      spec.readOnlyScope.retrieval = "sealed_contract_only" ∧
      spec.readOnlyScope.writes = "forbidden" ∧
      launchHashPattern spec.readOnlyScope.scopeFingerprint = true)
  require (.launchSpecInvalid
      "sealed_contract must contain a SHA-256 materialization hash and nonce")
    (launchHashPattern spec.sealedContract.materializationHash = true ∧
      launchNoncePattern spec.sealedContract.nonce = true)
  require (.launchSpecInvalid "host_spec capabilities are not the frozen inventory")
    (spec.hostSpec.capabilities = wantCapabilities)
  each (fun (name, v) =>
    require (.launchSpecInvalid ("host_spec " ++ name ++ " must be a SHA-256 hash"))
      (launchHashPattern v = true)) spec.hostSpec.fingerprints
  require (.launchSpecInvalid "host_spec_fingerprint does not bind the closed HostSpec")
    (launchHashPattern spec.hostSpec.hostSpecFingerprint = true ∧
      spec.hostSpec.hostSpecFingerprint = p.hostSpecDigest spec.hostSpec)
  require (.launchSpecInvalid "transcript must be frozen shape-only omp_shape_v1")
    (spec.transcript.dialect = "omp_shape_v1" ∧ spec.transcript.parse = "shape_only" ∧
      launchHashPattern spec.transcript.dialectFingerprint = true)
  require (.launchSpecInvalid "verification must be a read-only fingerprint")
    (spec.verification.kind = "read_only" ∧
      launchHashPattern spec.verification.verificationCommandFingerprint = true)

def hashLaunchSpec (spec : LaunchSpec) : Except Err String := do
  validateLaunchSpec p spec
  pure (p.launchSpecDigest spec)

def validateLaunchClaimRequest (req : LaunchClaimRequest) : Except Err Unit := do
  require (.launchSpecInvalid "invalid claim hash or attempt")
    (launchHashPattern req.launchSpecHash = true ∧
      launchHashPattern req.claimTokenHash = true ∧ 1 ≤ req.attempt)
  (validateIdentifier req.claimID "claim id").mapError .launchSpecInvalid
  (validateIdentifier req.ownerID "claim owner id").mapError .launchSpecInvalid

/-- The fence of a request is complete. -/
def LaunchFence.Complete (fence : LaunchFence) : Prop :=
  fence.claimID ≠ "" ∧ launchHashPattern fence.claimTokenHash = true ∧ 1 ≤ fence.fenceGeneration

instance (fence : LaunchFence) : Decidable fence.Complete := inferInstanceAs (Decidable (_ ∧ _))

def validateLaunchMaterializationRequest (req : LaunchMaterializationRequest) :
    Except Err Unit := do
  require (.launchSpecInvalid "invalid materialization fence") req.fence.Complete
  (validateIdentifier req.materializationID "materialization id").mapError .launchSpecInvalid
  require (.launchSpecInvalid "invalid materialization identity")
    (launchHashPattern req.materializationHash = true ∧ launchNoncePattern req.nonce = true)

def validateLaunchRunIntentRequest (req : LaunchRunIntentRequest) : Except Err Unit := do
  require (.launchSpecInvalid "invalid run intent fence or attempt")
    (req.fence.Complete ∧ 1 ≤ req.attempt)
  (validateIdentifier req.runID "run intent id").mapError .launchSpecInvalid
  (validateIdentifier req.materializationID "materialization id").mapError .launchSpecInvalid

def validateLaunchIntentRequest (req : LaunchIntentRequest) : Except Err Unit := do
  require (.launchSpecInvalid "invalid intent fence") req.fence.Complete
  (validateIdentifier req.runID "run intent id").mapError .launchSpecInvalid
  (validateIdentifier req.intentID "intent id").mapError .launchSpecInvalid

end Ananke.Launch
