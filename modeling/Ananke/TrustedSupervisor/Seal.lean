import Ananke.TrustedSupervisor.Primitive

/-! Sealing: a record is checked by itself and given the hash of its content. -/
namespace Ananke.TrustedSupervisor

open Text

variable {β : Type} (p : Primitives β)

def auditExecutionIntentSchemaVersion : String :=
  "ananke.local-trusted-supervisor-audit-intent.v1"

def auditExecutionEventSchemaVersion : String :=
  "ananke.local-trusted-supervisor-audit-event.v4"

def auditExecutionEventAuthenticationSchemaVersion : String :=
  "ananke.local-trusted-supervisor-audit-event-authentication.v1"

def auditTimeoutObservationSchemaVersion : String :=
  "ananke.local-trusted-supervisor-timeout-observation.v1"

def auditCancellationIntentSchemaVersion : String :=
  "ananke.local-trusted-supervisor-cancellation-intent.v1"

def auditTimeoutSourceOMPInternalDeadline : String := "omp_internal_deadline"

def auditTimeoutSourceSupervisorHardDeadline : String := "supervisor_hard_deadline"

def maxFrameBytes : Nat := 64 * 1024

/-- The texts of an intent have their form. -/
def IntentValid (intent : AuditExecutionIntent) : Prop :=
  intent.schemaVersion = auditExecutionIntentSchemaVersion ∧
  executionTaskIDPattern intent.intentID = true ∧
  executionTaskIDPattern intent.handoffID = true ∧
  executionTaskIDPattern intent.taskID = true ∧
  executionTaskIDPattern intent.runID = true ∧
  1 ≤ intent.attemptCap ∧ intent.attemptCap ≤ 10 ∧
  gitObjectIDPattern intent.gitCommit = true ∧ gitObjectIDPattern intent.gitTree = true ∧
  validServerJournalTimestamp p intent.createdAt = true ∧
  ∀ hash ∈ [intent.envelopeHash, intent.launchSpecHash, intent.receiptHash, intent.policyHash,
      intent.routeMappingHash, intent.repositoryIdentityHash, intent.sourceArchiveSHA256,
      intent.wrapperSHA256], protocolHashPattern hash = true

instance (intent : AuditExecutionIntent) : Decidable (IntentValid p intent) :=
  inferInstanceAs (Decidable (_ ∧ _))

def sealAuditExecutionIntent (intent : AuditExecutionIntent) : Except Err AuditExecutionIntent :=
  let bare := { intent with intentHash := "" }
  if IntentValid p bare then
    .ok { bare with intentHash := p.hashJournalBytes (p.encodeIntent bare) }
  else .error .protocol

variable {p} in
theorem intent_eq_ok {intent : AuditExecutionIntent} :
    sealAuditExecutionIntent p intent = .ok intent ↔ IntentValid p intent ∧
      p.hashJournalBytes (p.encodeIntent { intent with intentHash := "" }) =
        intent.intentHash := by
  have hbare : IntentValid p { intent with intentHash := "" } ↔ IntentValid p intent := Iff.rfl
  unfold sealAuditExecutionIntent
  simp only [hbare]
  split
  next hv =>
    rw [Except.ok.injEq, AuditExecutionIntent.ext_iff]
    simp [hv]
  next hv => simp [hv]

/-- The timeout observation by itself is in order. -/
def TimeoutValid (o : AuditTimeoutEvidence) : Prop :=
  o.schemaVersion = auditTimeoutObservationSchemaVersion ∧
  (o.timeoutSource = auditTimeoutSourceOMPInternalDeadline ∨
    o.timeoutSource = auditTimeoutSourceSupervisorHardDeadline) ∧
  1 ≤ o.internalDeadlineSeconds ∧ o.internalDeadlineSeconds < o.supervisorHardDeadlineSeconds ∧
  executionTaskIDPattern o.runID = true ∧ executionTaskIDPattern o.sessionRunID = true ∧
  protocolHashPattern o.commandDescriptorHash = true ∧ protocolHashPattern o.promptSHA256 = true ∧
  protocolHashPattern o.sandboxProfileSHA256 = true ∧
  auditSessionUUIDPattern o.sessionUUID = true ∧
  o.sessionRoot ≠ "" ∧ o.sessionRoot.toList.head? = some '/' ∧
  p.clean o.sessionRoot = o.sessionRoot ∧
  (o.resumeSessionUUID = "" ∨ o.resumeSessionUUID = o.sessionUUID) ∧ o.synthesizeOnly = true ∧
  0 < o.pid ∧ o.pgid = o.pid ∧ o.processStartIdentity ≠ "" ∧
  validServerJournalTimestamp p o.processStartedAt = true ∧
  validServerJournalTimestamp p o.processFinishedAt = true ∧
  protocolHashPattern o.stdoutSHA256 = true ∧ protocolHashPattern o.stderrSHA256 = true ∧
  o.processGroupExitConfirmed = true ∧
  (o.timeoutSource = auditTimeoutSourceOMPInternalDeadline →
    o.deadlineObservation = "standalone_deadline_exceeded_line") ∧
  (o.timeoutSource = auditTimeoutSourceSupervisorHardDeadline →
    o.deadlineObservation = "supervisor_hard_deadline_timer_fired")

instance (o : AuditTimeoutEvidence) : Decidable (TimeoutValid p o) :=
  inferInstanceAs (Decidable (_ ∧ _))

/-- A resumed attempt names no session path, a fresh one names one of the right shape. -/
def TimeoutSessionValid (o : AuditTimeoutEvidence) : Prop :=
  if o.resumeSessionUUID ≠ "" then o.sessionPath = ""
  else p.validFreshAuditTimeoutSessionPathStructure o.sessionPath o.sessionRoot = true

instance (o : AuditTimeoutEvidence) : Decidable (TimeoutSessionValid p o) := by
  unfold TimeoutSessionValid
  infer_instance

def sealAuditTimeoutEvidence (obs : AuditTimeoutEvidence) :
    Except Err AuditTimeoutEvidence :=
  let bare := { obs with observationHash := "" }
  if ¬ TimeoutValid p bare then
    .error (.authentication "closed supervisor timeout observation")
  else if ¬ TimeoutSessionValid p bare then
    .error (.authentication "supervisor timeout session observation")
  else .ok { bare with observationHash := p.hashJournalBytes (p.encodeTimeout bare) }

def validAuditTimeoutEvidence (obs : AuditTimeoutEvidence) : Bool :=
  sealAuditTimeoutEvidence p obs = .ok obs && protocolHashPattern obs.observationHash

/-- What holds of an event in every state. -/
def EventValid (ev : AuditExecutionEvent) : Prop :=
  ev.schemaVersion = auditExecutionEventSchemaVersion ∧
  executionTaskIDPattern ev.eventID = true ∧ protocolHashPattern ev.intentHash = true ∧
  1 ≤ ev.sequence ∧ 1 ≤ ev.attempt ∧ ev.attempt ≤ 10 ∧
  protocolHashPattern ev.commandDescriptorHash = true ∧
  protocolHashPattern ev.promptSHA256 = true ∧
  executionTaskIDPattern ev.sessionRunID = true ∧
  (ev.resumeSessionUUID = "" ∨ auditSessionUUIDPattern ev.resumeSessionUUID = true) ∧
  (ev.synthesizeOnly = true → ev.resumeSessionUUID ≠ "") ∧
  validServerJournalTimestamp p ev.occurredAt = true ∧
  validAuditPrivatePath p ev.workPath = true ∧ validAuditPrivatePath p ev.outputPath = true ∧
  validAuditPrivatePath p ev.sessionPath = true ∧
  validAuditPrivatePath p ev.promptPath = true ∧
  validAuditPrivatePath p ev.temporaryPath = true ∧
  (ev.state ≠ .timedOut → ev.timeoutObservation = {})

instance (ev : AuditExecutionEvent) : Decidable (EventValid p ev) :=
  inferInstanceAs (Decidable (_ ∧ _))

variable (ev : AuditExecutionEvent)

/-- No process was identified. -/
def IdentityUnknown : Prop :=
  ev.pid = 0 ∧ ev.pgid = 0 ∧ ev.processStartIdentity = "" ∧
    ev.processStartedAt = "" ∧ ev.processFinishedAt = ""

/-- The process leads its own group and is known by its start. -/
def ProcessKnown : Prop :=
  0 < ev.pid ∧ ev.pgid = ev.pid ∧ ev.processStartIdentity ≠ "" ∧
    validServerJournalTimestamp p ev.processStartedAt = true

/-- The observation tells of the same attempt as the event. -/
def ObservationBinds : Prop :=
  let o := ev.timeoutObservation
  validAuditTimeoutEvidence p o = true ∧ o.runID = p.parentName ev.promptPath ∧
  o.sessionRunID = ev.sessionRunID ∧ o.commandDescriptorHash = ev.commandDescriptorHash ∧
  o.promptSHA256 = ev.promptSHA256 ∧ o.resumeSessionUUID = ev.resumeSessionUUID ∧
  o.sessionUUID = ev.sessionUUID ∧ o.sessionRoot = ev.sessionPath ∧ o.pid = ev.pid ∧
  o.pgid = ev.pgid ∧ o.processStartIdentity = ev.processStartIdentity ∧
  o.processStartedAt = ev.processStartedAt ∧ o.processFinishedAt = ev.processFinishedAt ∧
  o.exitCode = ev.exitCode ∧ o.stdoutSHA256 = ev.stdoutSHA256 ∧
  o.stderrSHA256 = ev.stderrSHA256

instance (ev : AuditExecutionEvent) : Decidable (IdentityUnknown ev) :=
  inferInstanceAs (Decidable (_ ∧ _))

instance (ev : AuditExecutionEvent) : Decidable (ProcessKnown p ev) :=
  inferInstanceAs (Decidable (_ ∧ _))

instance (ev : AuditExecutionEvent) : Decidable (ObservationBinds p ev) :=
  inferInstanceAs (Decidable (_ ∧ _))

/-- What holds of an event in its state. -/
def StateValid (ev : AuditExecutionEvent) : Prop :=
  match ev.state with
  | .prepared =>
    IdentityUnknown ev ∧ ev.evidenceJSON = "" ∧ ev.evidenceHash = "" ∧
      ev.finalizingEventHash = "" ∧ ev.sessionUUID = ""
  | .running =>
    ProcessKnown p ev ∧ ev.processFinishedAt = "" ∧ ev.evidenceJSON = "" ∧
      ev.evidenceHash = "" ∧ ev.finalizingEventHash = ""
  | .finalizing | .completed =>
    ev.exitCode = 0 ∧ ProcessKnown p ev ∧ ev.failureClass = "" ∧
      validServerJournalTimestamp p ev.processFinishedAt = true ∧
      protocolHashPattern ev.outputSHA256 = true ∧ 0 ≤ ev.outputSize ∧
      (ev.sessionUUID = "" ∨ auditSessionUUIDPattern ev.sessionUUID = true) ∧
      p.validCanonicalAuditEvidence ev.evidenceJSON ev.evidenceHash = true ∧
      (ev.state = .finalizing → ev.finalizingEventHash = "") ∧
      (ev.state = .completed → protocolHashPattern ev.finalizingEventHash = true)
  | .timedOut =>
    ProcessKnown p ev ∧ validServerJournalTimestamp p ev.processFinishedAt = true ∧
      auditSessionUUIDPattern ev.sessionUUID = true ∧ ev.finalizingEventHash = "" ∧
      ObservationBinds p ev
  | .failed =>
    (IdentityUnknown ev ∨ ProcessKnown p ev ∧
        validServerJournalTimestamp p ev.processFinishedAt = true) ∧
      ev.failureClass ≠ "" ∧ ev.finalizingEventHash = ""
  | .cancelled =>
    (IdentityUnknown ev ∨ ProcessKnown p ev ∧ (ev.processFinishedAt = "" ∨
        validServerJournalTimestamp p ev.processFinishedAt = true)) ∧
      ev.failureClass ≠ "" ∧ ev.finalizingEventHash = ""
  | .waitingForHuman => ev.failureClass ≠ "" ∧ ev.finalizingEventHash = ""
  | .other _ => False

instance (ev : AuditExecutionEvent) : Decidable (StateValid p ev) := by
  unfold StateValid
  split <;> infer_instance

/-- Every hash that is there has the form of one. -/
def HashesValid (ev : AuditExecutionEvent) : Prop :=
  ∀ hash ∈ [ev.outputSHA256, ev.stdoutSHA256, ev.stderrSHA256, ev.evidenceHash,
    ev.finalizingEventHash], hash = "" ∨ protocolHashPattern hash = true

instance (ev : AuditExecutionEvent) : Decidable (HashesValid ev) :=
  inferInstanceAs (Decidable (∀ _ ∈ _, _))

def sealAuditExecutionEvent (ev : AuditExecutionEvent) : Except Err AuditExecutionEvent :=
  let bare := { ev with eventHash := "", authentication := {} }
  if EventValid p bare ∧ StateValid p bare ∧ HashesValid bare then
    .ok { bare with
      eventHash := p.hashJournalBytes (p.encodeEvent bare)
      authentication := ev.authentication }
  else .error .protocol

variable {ev : AuditExecutionEvent}

variable {p} in
theorem event_eq_ok : sealAuditExecutionEvent p ev = .ok ev ↔
      (EventValid p ev ∧ StateValid p ev ∧ HashesValid ev) ∧
      p.hashJournalBytes (p.encodeEvent { ev with eventHash := "", authentication := {} }) =
        ev.eventHash := by
  have hbare : (EventValid p { ev with eventHash := "", authentication := {} } ∧
      StateValid p { ev with eventHash := "", authentication := {} } ∧
      HashesValid { ev with eventHash := "", authentication := {} }) ↔
      EventValid p ev ∧ StateValid p ev ∧ HashesValid ev := Iff.rfl
  unfold sealAuditExecutionEvent
  simp only [hbare]
  split
  next hv =>
    rw [Except.ok.injEq, AuditExecutionEvent.ext_iff]
    simp [hv]
  next hv => simp [hv]

variable {p} in
/-- The seal does not depend on the signature. -/
theorem sealEvent_authentication
    (a : AuditExecutionEventAuthentication) (h : sealAuditExecutionEvent p ev = .ok ev) :
    sealAuditExecutionEvent p { ev with authentication := a } =
      .ok { ev with authentication := a } := by
  have hseal := event_eq_ok.mp h
  exact event_eq_ok.mpr hseal

/-- The cancellation intent is in order. -/
def CancellationValid (intent : AuditCancellationIntent β) : Prop :=
  intent.schemaVersion = auditCancellationIntentSchemaVersion ∧
  executionTaskIDPattern intent.intentID = true ∧ executionTaskIDPattern intent.handoffID = true ∧
  intent.operationKey = "cancel:" ++ intent.receiptHash ∧
  1 ≤ intent.attempt ∧ intent.attempt ≤ 10 ∧ intent.state = .requested ∧
  validServerJournalTimestamp p intent.requestedAt = true ∧
  0 < p.size intent.requestBytes ∧ p.size intent.requestBytes ≤ maxFrameBytes ∧
  (intent.expectedPID = 0 ∧ intent.expectedPGID = 0 ∧ intent.expectedStartIdentity = "" ∨
    0 < intent.expectedPID ∧ intent.expectedPGID = intent.expectedPID ∧
      intent.expectedStartIdentity ≠ "") ∧
  (∀ hash ∈ [intent.requestHash, intent.requestBytesHash, intent.requestNonceHash,
      intent.responseNonceHash, intent.exclusivityNonceHash, intent.envelopeHash,
      intent.receiptHash, intent.cancellationHash], protocolHashPattern hash = true) ∧
  intent.requestNonceHash ≠ intent.responseNonceHash ∧
  intent.requestNonceHash ≠ intent.exclusivityNonceHash ∧
  intent.responseNonceHash ≠ intent.exclusivityNonceHash

instance (intent : AuditCancellationIntent β) : Decidable (CancellationValid p intent) :=
  inferInstanceAs (Decidable (_ ∧ _))

def sealAuditCancellationIntent (intent : AuditCancellationIntent β) :
    Except Err (AuditCancellationIntent β) :=
  let bare := { intent with
    intentHash := "", requestBytesHash := p.hashJournalBytes intent.requestBytes }
  if CancellationValid p bare then
    .ok { bare with intentHash := p.hashJournalBytes (p.encodeCancel bare) }
  else .error .protocol

variable {p} in
theorem sealing_eq_ok {intent : AuditCancellationIntent β} :
    sealAuditCancellationIntent p intent = .ok intent ↔ CancellationValid p intent ∧
      p.hashJournalBytes intent.requestBytes = intent.requestBytesHash ∧
      p.hashJournalBytes (p.encodeCancel { intent with intentHash := "" }) =
        intent.intentHash := by
  unfold sealAuditCancellationIntent
  dsimp only
  by_cases hr : p.hashJournalBytes intent.requestBytes = intent.requestBytesHash
  · have hbare : CancellationValid p { intent with intentHash := "" } ↔
      CancellationValid p intent := Iff.rfl
    simp only [hr, hbare]
    split
    next hv =>
      rw [Except.ok.injEq, AuditCancellationIntent.ext_iff]
      simp [hv]
    next hv => simp [hv]
  · split
    · rw [Except.ok.injEq, AuditCancellationIntent.ext_iff]
      simp [hr]
    · simp [hr]

end Ananke.TrustedSupervisor
