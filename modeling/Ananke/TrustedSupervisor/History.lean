import Ananke.TrustedSupervisor.Seal
import Ananke.Validation.Check

/-! The history of an audit execution: which events may follow each other. -/
namespace Ananke.TrustedSupervisor

open Text Validation

variable {β : Type} (p : Primitives β) (auth : AuditJournalAuthority)

/-- The time a text stands for; the zero time where it stands for none. -/
def timeOf (v : String) : Int :=
  match p.parseTime v with
  | some (t, _) => t
  | none => 0

/-- What a signature is made of. -/
def authenticationPayload (a : AuditExecutionEventAuthentication) :
    AuditExecutionEventAuthentication :=
  { a with algorithm := "", signature := "" }

variable (ev : AuditExecutionEvent)

def AuditJournalAuthority.verifyEvent : Except Err Unit := do
  let a := ev.authentication
  require (.authentication "audit event authentication binding")
    (a.schemaVersion = auditExecutionEventAuthenticationSchemaVersion ∧ a.algorithm = "ed25519" ∧
      a.eventHash = ev.eventHash ∧ a.intentHash = ev.intentHash ∧
      a.sequence = ev.sequence ∧ a.signerKeySPKISHA256 = auth.signerSPKI ∧
      a.signerRootID = auth.signerRootID)
  require (.authentication "audit event authentication signature")
    (auth.signatureForm a.signature = true)
  require (.authentication "audit event signing authority")
    (auth.verify (authenticationPayload a) a.signature = true)

/-- The authentication before it is signed. -/
def AuditJournalAuthority.unsigned : AuditExecutionEventAuthentication where
  schemaVersion := auditExecutionEventAuthenticationSchemaVersion
  algorithm := "ed25519"
  eventHash := ev.eventHash
  intentHash := ev.intentHash
  sequence := ev.sequence
  signerKeySPKISHA256 := auth.signerSPKI
  signerRootID := auth.signerRootID

/-- Signs an event, or verifies the signature it has. -/
def AuditJournalAuthority.authenticateEvent : Except Err AuditExecutionEvent := do
  require (.authentication "audit event canonical hash before authentication")
    (sealAuditExecutionEvent p ev = .ok ev)
  if ev.authentication ≠ {} then do
    auth.verifyEvent ev
    pure ev
  else
    let a := auth.unsigned ev
    pure { ev with
      authentication := { a with signature := auth.sign (authenticationPayload a) } }

def isAuditProcessExitState : AuditState → Bool
  | .finalizing | .failed | .timedOut | .cancelled | .waitingForHuman => true
  | _ => false

def validExactAuditTransition (prev next : AuditExecutionEvent) : Bool :=
  match prev.state with
  | .prepared =>
    next.attempt = prev.attempt && (next.state = .running || next.state = .cancelled ||
      next.state = .waitingForHuman)
  | .running => next.attempt = prev.attempt && isAuditProcessExitState next.state
  | .finalizing => next.attempt = prev.attempt && next.state = .completed
  | .timedOut =>
    (next.attempt = prev.attempt + 1 && next.state = .prepared) || (next.attempt = prev.attempt &&
        (next.state = .cancelled || next.state = .waitingForHuman))
  | _ => false

/-- The event repeats the descriptor of the one before. -/
def SameDescriptor (prev ev : AuditExecutionEvent) : Prop :=
  ev.commandDescriptorHash = prev.commandDescriptorHash ∧
  ev.promptSHA256 = prev.promptSHA256 ∧ ev.sessionRunID = prev.sessionRunID ∧
  ev.resumeSessionUUID = prev.resumeSessionUUID ∧
  ev.synthesizeOnly = prev.synthesizeOnly ∧ ev.workPath = prev.workPath ∧
  ev.outputPath = prev.outputPath ∧ ev.sessionPath = prev.sessionPath ∧
  ev.promptPath = prev.promptPath ∧ ev.temporaryPath = prev.temporaryPath

/-- The event is about the process of the one before. -/
def SameProcess (prev ev : AuditExecutionEvent) : Prop :=
  ev.pid = prev.pid ∧ ev.pgid = prev.pgid ∧
  ev.processStartIdentity = prev.processStartIdentity ∧
  ev.processStartedAt = prev.processStartedAt

/-- Completion repeats what was finalized. -/
def validAuditFinalizingCompletion (finalizing completed : AuditExecutionEvent) : Prop :=
  completed.state = .completed ∧ completed.finalizingEventHash = finalizing.eventHash ∧
  completed.intentHash = finalizing.intentHash ∧ completed.attempt = finalizing.attempt ∧
  SameDescriptor finalizing completed ∧ SameProcess finalizing completed ∧
  completed.processFinishedAt = finalizing.processFinishedAt ∧
  completed.exitCode = finalizing.exitCode ∧ completed.outputSHA256 = finalizing.outputSHA256 ∧
  completed.outputSize = finalizing.outputSize ∧
  completed.stdoutSHA256 = finalizing.stdoutSHA256 ∧
  completed.stderrSHA256 = finalizing.stderrSHA256 ∧
  completed.sessionUUID = finalizing.sessionUUID ∧
  completed.evidenceJSON = finalizing.evidenceJSON ∧
  completed.evidenceHash = finalizing.evidenceHash ∧
  completed.failureClass = finalizing.failureClass

instance (prev ev : AuditExecutionEvent) : Decidable (SameDescriptor prev ev) :=
  inferInstanceAs (Decidable (_ ∧ _))

instance (prev ev : AuditExecutionEvent) : Decidable (SameProcess prev ev) :=
  inferInstanceAs (Decidable (_ ∧ _))

instance (finalizing completed : AuditExecutionEvent) :
    Decidable (validAuditFinalizingCompletion finalizing completed) :=
  inferInstanceAs (Decidable (_ ∧ _))

def validAuditExecutionEventPaths (intent : AuditExecutionIntent) (entry : ExecutionPolicyEntry)
    (ev : AuditExecutionEvent) : Prop :=
  ⟨ev.workPath, ev.outputPath, ev.sessionPath, ev.promptPath,
    ev.temporaryPath⟩ = auditAttemptPaths p intent entry ev.attempt

instance (intent : AuditExecutionIntent) (entry : ExecutionPolicyEntry)
    (ev : AuditExecutionEvent) : Decidable (validAuditExecutionEventPaths p intent entry ev) :=
  inferInstanceAs (Decidable (_ = _))

/-- The event at `index` is sealed and bound to its intent and to the policy. -/
def PolicyBound (intent : AuditExecutionIntent) (entry : ExecutionPolicyEntry) (index : Nat)
    (ev : AuditExecutionEvent) : Prop :=
  sealAuditExecutionEvent p ev = .ok ev ∧ ev.intentHash = intent.intentHash ∧
  ev.sequence = index + 1 ∧ ev.eventID = auditExecutionEventID intent ev.sequence.toNat ∧
  1 ≤ ev.attempt ∧ ev.attempt ≤ intent.attemptCap ∧
  (p.parseTime ev.occurredAt).isSome = true ∧
  timeOf p intent.createdAt ≤ timeOf p ev.occurredAt ∧ ev.sessionRunID = intent.runID ∧
  ev.promptSHA256 = auditPromptSHA256 p ev.synthesizeOnly ∧
  p.auditCommandDescriptorHash entry ev.promptSHA256 ev.sessionRunID
    ⟨ev.resumeSessionUUID, ev.synthesizeOnly⟩ = .ok ev.commandDescriptorHash ∧
  validAuditExecutionEventPaths p intent entry ev

/-- An event with which a history may begin. -/
def Initial (ev : AuditExecutionEvent) : Prop :=
  ev.attempt = 1 ∧ ev.resumeSessionUUID = "" ∧ ev.synthesizeOnly = false ∧
    (ev.state = .prepared ∨ ev.state = .cancelled ∨ ev.state = .waitingForHuman)

instance (intent : AuditExecutionIntent) (entry : ExecutionPolicyEntry) (index : Nat)
    (ev : AuditExecutionEvent) : Decidable (PolicyBound p intent entry index ev) :=
  inferInstanceAs (Decidable (_ ∧ _))

instance (ev : AuditExecutionEvent) : Decidable (Initial ev) :=
  inferInstanceAs (Decidable (_ ∧ _))

/-- An attempt keeps its descriptor, and a new one resumes the session of the last. -/
def checkDescriptor (prev ev : AuditExecutionEvent) : Except Err Unit :=
  if ev.attempt = prev.attempt then
    require (.authentication "audit attempt descriptor continuity") (SameDescriptor prev ev)
  else
    require (.authentication "audit retry resume binding") (ev.resumeSessionUUID = prev.sessionUUID)

/-- An event after another. -/
def checkSuccessor (prev ev : AuditExecutionEvent) : Except Err Unit := do
  require (.authentication "audit execution transition")
    (timeOf p prev.occurredAt ≤ timeOf p ev.occurredAt ∧ validExactAuditTransition prev ev = true)
  checkDescriptor prev ev
  require (.authentication "audit process identity continuity")
    (prev.state = .running ∧ isAuditProcessExitState ev.state = true ∨
      prev.state = .timedOut ∧ ev.attempt = prev.attempt → SameProcess prev ev)
  require (.authentication "audit finalizing completion continuity")
    (prev.state = .finalizing → validAuditFinalizingCompletion prev ev)

def checkPlace (prev : Option AuditExecutionEvent) (ev : AuditExecutionEvent) :
    Except Err Unit :=
  match prev with
  | none => require (.authentication "audit execution initial transition") (Initial ev)
  | some prev => checkSuccessor p prev ev

/-- The process started before the event, and finished between the two. -/
def checkProcessTimes (ev : AuditExecutionEvent) : Except Err Unit := do
  require (.authentication "audit process start timestamp")
    (ev.processStartedAt = "" ∨ (p.parseTime ev.processStartedAt).isSome = true ∧
      timeOf p ev.processStartedAt ≤ timeOf p ev.occurredAt)
  let startedAt := if ev.processStartedAt = "" then 0 else timeOf p ev.processStartedAt
  require (.authentication "audit process finish timestamp")
    (ev.processFinishedAt = "" ∨ (p.parseTime ev.processFinishedAt).isSome = true ∧
      timeOf p ev.processFinishedAt ≤ timeOf p ev.occurredAt ∧
      (startedAt = 0 ∨ startedAt ≤ timeOf p ev.processFinishedAt))

/-- Only finalizing and completed events carry evidence. -/
def checkEvidence (intent : AuditExecutionIntent) (entry : ExecutionPolicyEntry)
    (ev : AuditExecutionEvent) : Except Err Unit :=
  if ev.state = .finalizing ∨ ev.state = .completed then p.auditEvidence intent entry ev
  else
    require (.authentication "non-finalizing audit evidence")
      (ev.evidenceJSON = "" ∧ ev.evidenceHash = "" ∧ ev.outputSHA256 = "" ∧
        ev.outputSize = 0 ∧ ev.finalizingEventHash = "")

/-- One round of the loop over the events. -/
def checkEvent (intent : AuditExecutionIntent) (entry : ExecutionPolicyEntry)
    (prev : Option AuditExecutionEvent) (index : Nat) (ev : AuditExecutionEvent) :
    Except Err Unit := do
  auth.verifyEvent ev
  require (.authentication "audit execution event policy binding")
    (PolicyBound p intent entry index ev)
  checkPlace p prev ev
  checkProcessTimes p ev
  checkEvidence p intent entry ev

def checkEvents (intent : AuditExecutionIntent) (entry : ExecutionPolicyEntry) :
    Option AuditExecutionEvent → Nat → List AuditExecutionEvent → Except Err Unit
  | _, _, [] => .ok ()
  | prev, index, ev :: evs => do
    checkEvent p auth intent entry prev index ev
    checkEvents intent entry (some ev) (index + 1) evs

def validateAuditExecutionHistory (intent : AuditExecutionIntent)
    (evs : List AuditExecutionEvent) : Except Err Unit := do
  require (.authentication "audit execution intent binding")
    (sealAuditExecutionIntent p intent = .ok intent)
  let entry ← auth.resolveIntent intent
  checkEvents p auth intent entry none 0 evs

end Ananke.TrustedSupervisor
