import Ananke.Text.Pattern

/-! What the trusted supervisor writes down about an audit: the intent to execute it, the
events of its execution, and the intent to cancel it. Byte strings are only compared,
measured, hashed and decoded, so their type `β` is a parameter. -/
namespace Ananke.TrustedSupervisor

inductive AuditState
  | prepared
  | running
  | finalizing
  | completed
  | failed
  | timedOut
  | cancelled
  | waitingForHuman
  /-- Any other text. -/
  | other (text : String)
deriving DecidableEq

@[ext] structure AuditExecutionIntent where
  schemaVersion : String := ""
  intentID : String := ""
  intentHash : String := ""
  envelopeHash : String := ""
  launchSpecHash : String := ""
  handoffID : String := ""
  receiptHash : String := ""
  taskID : String := ""
  attemptCap : Int := 0
  policyHash : String := ""
  routeMappingHash : String := ""
  repositoryIdentityHash : String := ""
  gitCommit : String := ""
  gitTree : String := ""
  sourceArchiveSHA256 : String := ""
  wrapperSHA256 : String := ""
  runID : String := ""
  createdAt : String := ""
deriving DecidableEq

/-- What the supervisor observed of an attempt that ran out of time. -/
structure AuditTimeoutEvidence where
  schemaVersion : String := ""
  observationHash : String := ""
  timeoutSource : String := ""
  deadlineObservation : String := ""
  internalDeadlineSeconds : Int := 0
  supervisorHardDeadlineSeconds : Int := 0
  runID : String := ""
  sessionRunID : String := ""
  commandDescriptorHash : String := ""
  promptSHA256 : String := ""
  sandboxProfileSHA256 : String := ""
  resumeSessionUUID : String := ""
  sessionRoot : String := ""
  sessionUUID : String := ""
  sessionPath : String := ""
  synthesizeOnly : Bool := false
  pid : Int := 0
  pgid : Int := 0
  processStartIdentity : String := ""
  processStartedAt : String := ""
  processFinishedAt : String := ""
  exitCode : Int := 0
  stdoutSHA256 : String := ""
  stderrSHA256 : String := ""
  processGroupExitConfirmed : Bool := false
deriving DecidableEq

structure AuditExecutionEventAuthentication where
  schemaVersion : String := ""
  algorithm : String := ""
  eventHash : String := ""
  intentHash : String := ""
  sequence : Int := 0
  signerKeySPKISHA256 : String := ""
  signerRootID : String := ""
  signature : String := ""
deriving DecidableEq

@[ext] structure AuditExecutionEvent where
  schemaVersion : String := ""
  eventID : String := ""
  eventHash : String := ""
  intentHash : String := ""
  sequence : Int := 0
  state : AuditState := .other ""
  attempt : Int := 0
  commandDescriptorHash : String := ""
  promptSHA256 : String := ""
  sessionRunID : String := ""
  resumeSessionUUID : String := ""
  synthesizeOnly : Bool := false
  occurredAt : String := ""
  pid : Int := 0
  pgid : Int := 0
  processStartIdentity : String := ""
  processStartedAt : String := ""
  processFinishedAt : String := ""
  exitCode : Int := 0
  outputSHA256 : String := ""
  outputSize : Int := 0
  stdoutSHA256 : String := ""
  stderrSHA256 : String := ""
  sessionUUID : String := ""
  timeoutObservation : AuditTimeoutEvidence := {}
  evidenceJSON : String := ""
  evidenceHash : String := ""
  finalizingEventHash : String := ""
  failureClass : String := ""
  workPath : String := ""
  outputPath : String := ""
  sessionPath : String := ""
  promptPath : String := ""
  temporaryPath : String := ""
  authentication : AuditExecutionEventAuthentication := {}
deriving DecidableEq

inductive AuditCancellationState
  | requested
  | completed
  | failed
  | other (text : String)
deriving DecidableEq

inductive CancelOutcome
  | completed
  | failed
deriving DecidableEq

@[ext] structure AuditCancellationIntent (β : Type) where
  (schemaVersion intentID intentHash requestHash : String)
  requestBytes : β
  (requestBytesHash operationKey requestNonceHash responseNonceHash exclusivityNonceHash
    envelopeHash handoffID receiptHash cancellationHash : String)
  (attempt expectedPID expectedPGID : Int)
  expectedStartIdentity : String
  state : AuditCancellationState
  requestedAt : String
deriving DecidableEq

structure AuditCancellationRecord (β : Type) where
  intent : AuditCancellationIntent β
  state : AuditCancellationState
  outcome : Option CancelOutcome
  responseBytes : Option β

/-- The entry of the execution policy, as far as audits are bound to it. -/
structure ExecutionPolicyEntry where
  (launchSpecHash taskID repositoryIdentityHash gitCommit gitTree sourceArchiveSHA256
    routeMappingHash wrapperSHA256 : String)
  attemptCap : Int
  (promptRoot outputRoot sessionRoot workRoot temporaryRoot policyHash : String)

structure AuditResume where
  sessionUUID : String := ""
  synthesizeOnly : Bool := false

inductive Err
  | protocol
  | replay
  | limit
  | deadline
  | authentication (detail : String)
  | other (text : String)
deriving DecidableEq

end Ananke.TrustedSupervisor
