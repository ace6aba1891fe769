import Ananke.TrustedSupervisor.Operation

/-! The events an executor writes: how they are made, and how it ends an execution whose
cancellation was requested. -/
namespace Ananke.TrustedSupervisor

open Text Validation Relational

/-- What events take from the result of an invocation. -/
structure AuditInvocationResult where
  pid : Int := 0
  pgid : Int := 0
  processStartIdentity : String := ""
  startedAt : String := ""
  finishedAt : String := ""
  exitCode : Int := 0
  stdoutSHA256 : String := ""
  stderrSHA256 : String := ""
  processGroupGone : Bool := false

/-- What events take from an invocation. -/
structure AuditInvocation where
  (commandDescriptorHash promptSHA256 sessionRunID : String)
  resume : AuditResume

/-- An error, by what `errors.As` and `errors.Is` find in it. -/
structure EffectError where
  /-- The failure class of an `auditTerminationError`. -/
  termination : Option String := none
  replay : Bool := false
  authentication : Bool := false
  deadline : Bool := false
  cancellationRequested : Bool := false

def cancellationFailureClass (err : EffectError) : String :=
  match err.termination.filter protocolIdentifierPattern with
  | some failureClass => failureClass
  | none =>
    if err.replay || err.authentication then "cancellation_conflict"
    else if err.deadline then "cancellation_deadline"
    else "cancellation_internal_failure"

variable {β : Type} (p : Primitives β) (auth : AuditJournalAuthority)

variable (intent : AuditExecutionIntent)

variable (evs : List AuditExecutionEvent)

def newEvent (state : AuditState) (attempt : Int) (now : Nat) : AuditExecutionEvent :=
  let seq := evs.length + 1
  { schemaVersion := auditExecutionEventSchemaVersion
    eventID := auditExecutionEventID intent seq
    intentHash := intent.intentHash
    sequence := seq
    state := state
    attempt := attempt
    occurredAt := p.formatTime now }

variable (ev : AuditExecutionEvent)

def bindAuditEventInvocation (inv : AuditInvocation) : AuditExecutionEvent :=
  { ev with
    commandDescriptorHash := inv.commandDescriptorHash
    promptSHA256 := inv.promptSHA256
    sessionRunID := inv.sessionRunID
    resumeSessionUUID := inv.resume.sessionUUID
    synthesizeOnly := inv.resume.synthesizeOnly }

def newInvocationEvent (state : AuditState) (attempt : Int) (inv : AuditInvocation) (now : Nat) :
    AuditExecutionEvent :=
  bindAuditEventInvocation (newEvent p intent evs state attempt now) inv

def AuditExecutionEvent.withPaths (paths : AuditAttemptPaths) : AuditExecutionEvent :=
  { ev with
    workPath := paths.workPath
    outputPath := paths.outputPath
    sessionPath := paths.sessionPath
    promptPath := paths.promptPath
    temporaryPath := paths.temporaryPath }

variable (entry : ExecutionPolicyEntry)

/-- The descriptor of an invocation that would resume the session. -/
def auditDescriptor (intent : AuditExecutionIntent)
    (resume : AuditResume) : Except Err AuditInvocation := do
  let promptSHA256 := auditPromptSHA256 p resume.synthesizeOnly
  let descriptorHash ← p.auditCommandDescriptorHash entry promptSHA256 intent.runID resume
  pure ⟨descriptorHash, promptSHA256, intent.runID, resume⟩

def bindAuditEventDescriptor (intent : AuditExecutionIntent) (resume : AuditResume) :
    Except Err AuditExecutionEvent := do
  let descriptor ← auditDescriptor p entry intent resume
  pure (bindAuditEventInvocation ev descriptor)

/-- The descriptor of an event, to be repeated by another of its attempt. -/
def AuditExecutionEvent.invocation : AuditInvocation :=
  ⟨ev.commandDescriptorHash, ev.promptSHA256, ev.sessionRunID,
    ⟨ev.resumeSessionUUID, ev.synthesizeOnly⟩⟩

def lastAttempt : Int :=
  (evs.getLast?.map AuditExecutionEvent.attempt).getD 1

/-- The paths of the attempts in the history. -/
def deriveRecoveredAuditInvocations : Except Err (List AuditAttemptPaths) := do
  require (.authentication "audit recovery execution policy paths")
    (∀ ev ∈ evs, validAuditExecutionEventPaths p intent entry ev)
  pure ((List.range (lastAttempt evs).toNat).map fun (i : Nat) =>
    auditAttemptPaths p intent entry ((i : Int) + 1))

/-- A call of `finalizeRequestedCancellation`: its arguments, and what it meets. -/
structure Finish where
  invocation : Option AuditInvocation
  result : AuditInvocationResult
  effectErr : Option EffectError
  /-- What `terminateOwnedAuditProcess` reports, and the clock after it. -/
  termination : Except EffectError Unit
  terminatedAt : Nat
  /-- Whether the cleanup succeeds, if there is one. -/
  cleanup : Option Bool
  now : Nat

/-- The failure the call brings along. -/
def effectFailureClass : Option EffectError → String
  | none => ""
  | some err => if err.cancellationRequested then "" else cancellationFailureClass err

/-- The process is gone, or it is not known to be; with the time it finished. -/
def endProcess (c : AuditCancellationIntent β) (x : Finish) : String × String :=
  let failureClass := effectFailureClass x.effectErr
  if failureClass = "" ∧ 0 < c.expectedPID then
    if 0 < x.result.pid ∧ ¬ (x.result.pid = c.expectedPID ∧ x.result.pgid = c.expectedPGID ∧
        x.result.processStartIdentity = c.expectedStartIdentity) then
      ("process_identity_mismatch", x.result.finishedAt)
    else if x.result.processGroupGone then ("", x.result.finishedAt)
    else
      match x.termination with
      | .error err => (cancellationFailureClass err, x.result.finishedAt)
      | .ok () =>
        ("", if x.result.finishedAt = "" then p.formatTime x.terminatedAt else x.result.finishedAt)
  else (failureClass, x.result.finishedAt)

/-- The artifacts are removed, where nothing has failed before. -/
def cleanUp (failureClass : String) (cleanup : Option Bool) : String :=
  if failureClass ≠ "" then failureClass
  else if cleanup = some true then "" else "artifact_cleanup_failed"

def bindClosingEvent (ev : AuditExecutionEvent) (last : Option AuditExecutionEvent)
    (inv : Option AuditInvocation) (entry : ExecutionPolicyEntry)
    (intent : AuditExecutionIntent) : Except Err AuditExecutionEvent :=
  match last, inv with
  | some last, _ => .ok (bindAuditEventInvocation ev last.invocation)
  | none, some inv => .ok (bindAuditEventInvocation ev inv)
  | none, none => bindAuditEventDescriptor p ev entry intent {}

/-- The process, the paths and the reason of a closing event. -/
def closingEvent (c : AuditCancellationIntent β) (x : Finish) (last : Option AuditExecutionEvent)
    (failureClass finishedAt : String) (paths : AuditAttemptPaths) (ev : AuditExecutionEvent) :
    AuditExecutionEvent :=
  { ev.withPaths paths with
    pid := c.expectedPID
    pgid := c.expectedPGID
    processStartIdentity := c.expectedStartIdentity
    processStartedAt := (last.map AuditExecutionEvent.processStartedAt).getD x.result.startedAt
    processFinishedAt := finishedAt
    exitCode := x.result.exitCode
    stdoutSHA256 := x.result.stdoutSHA256
    stderrSHA256 := x.result.stderrSHA256
    sessionUUID := (last.map AuditExecutionEvent.sessionUUID).getD ""
    failureClass :=
      if failureClass ≠ "" then failureClass
      else if c.expectedPID = 0 then "operator_cancelled_before_start"
      else "operator_cancelled_owned_process" }

def outcomeOf (failureClass : String) : CancelOutcome :=
  if failureClass = "" then .completed else .failed

/-- The event by which a requested cancellation ends the execution. -/
def buildClosingEvent (evs : List AuditExecutionEvent) (c : AuditCancellationIntent β)
    (x : Finish) : Except Err (AuditExecutionEvent × String) := do
  let derived ← deriveRecoveredAuditInvocations p intent evs entry
  let last := evs.getLast?
  let (failureClass, finishedAt) := endProcess p c x
  let failureClass := cleanUp failureClass x.cleanup
  let attempt := lastAttempt evs
  let paths ← expect (.authentication "audit cancellation recovery attempt")
    (if attempt < 1 then none else derived[(attempt - 1).toNat]?)
  let ev := newEvent p intent evs (outcomeOf failureClass).auditState attempt x.now
  let ev ← bindClosingEvent p ev last x.invocation entry intent
  pure (closingEvent c x last failureClass finishedAt paths ev, failureClass)

variable [DecidableEq β]

/-- Ends the execution if its cancellation is requested; the answer is whether it was. -/
def finalizeRequestedCancellation (j : Journal β) (intent : AuditExecutionIntent)
    (entry : ExecutionPolicyEntry) (x : Finish)
    (resp : CancelOutcome → String → Except Err β) :
    Except Err (Journal β × Bool) := do
  require .protocol (protocolHashPattern intent.envelopeHash = true)
  validateServerJournalContent p auth j
  match ← loadAuditCancellationTx p auth j "" intent.envelopeHash with
  | none => pure (j, false)
  | some record =>
    if record.state ≠ .requested then pure (j, false)
    else do
      let (_, evs) ← loadAuditExecutionTx p auth j intent.envelopeHash ""
      let (ev, failureClass) ← buildClosingEvent p intent entry evs record.intent x
      let sealed ← sealAuditExecutionEvent p ev
      let outcome := outcomeOf failureClass
      let (j, _) ← completeAuditCancellation p auth j record.intent sealed outcome
        (resp outcome failureClass)
      pure (j, true)

end Ananke.TrustedSupervisor
