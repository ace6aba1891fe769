import Ananke.TrustedSupervisor.Record

/-! What the journal takes from elsewhere: hashing, canonical JSON, clock texts, paths,
signatures, and the content of the evidence. -/
namespace Ananke.TrustedSupervisor

open Text

structure Primitives (β : Type) where
  size : β → Nat
  textBytes : String → β
  /-- The SHA-256 of the bytes, as `sha256:` and hex digits. -/
  hashJournalBytes : β → String
  -- `marshalCanonical` and `decodeCanonical` of each record
  encodeIntent : AuditExecutionIntent → β
  decodeIntent : β → Option AuditExecutionIntent
  encodeEvent : AuditExecutionEvent → β
  decodeEvent : β → Option AuditExecutionEvent
  encodeCancel : AuditCancellationIntent β → β
  decodeCancel : β → Option (AuditCancellationIntent β)
  encodeTimeout : AuditTimeoutEvidence → β
  /-- `time.Parse(time.RFC3339Nano, …)`: the time since the zero time, and whether its
  location is UTC. -/
  parseTime : String → Option (Int × Bool)
  /-- `Format(time.RFC3339Nano)` of a clock reading in UTC. -/
  formatTime : Nat → String
  clean : String → String
  join : List String → String
  /-- `filepath.Base(filepath.Dir(path))` -/
  parentName : String → String
  validFreshAuditTimeoutSessionPathStructure : String → String → Bool
  /-- The prompt, with or without the suffix of a synthesizing attempt. -/
  auditPrompt : Bool → String
  auditCommandDescriptorHash : ExecutionPolicyEntry → String → String → AuditResume →
    Except Err String
  validCanonicalAuditEvidence : String → String → Bool
  /-- `decodeAuditEvidenceReport` and `validateAuditEvidencePolicy` of an event. -/
  auditEvidence : AuditExecutionIntent → ExecutionPolicyEntry → AuditExecutionEvent →
    Except Err Unit

/-- The server's peer key and its pinned execution policy. -/
structure AuditJournalAuthority where
  entries : String → Option ExecutionPolicyEntry
  (signerSPKI signerRootID : String)
  current : protocolHashPattern signerSPKI = true ∧ protocolIdentifierPattern signerRootID = true
  /-- The Ed25519 signature of a payload, as `ed25519:` and hex digits. -/
  sign : AuditExecutionEventAuthentication → String
  /-- The text is `ed25519:` and the hex digits of a signature. -/
  signatureForm : String → Bool
  verify : AuditExecutionEventAuthentication → String → Bool

/-- The integers that canonical JSON, whose numbers are 64-bit floats, carries unchanged. -/
def ExactInt (n : Int) : Prop := -2 ^ 53 ≤ n ∧ n ≤ 2 ^ 53

instance (n : Int) : Decidable (ExactInt n) := inferInstanceAs (Decidable (_ ∧ _))

def AuditExecutionIntent.Exact (intent : AuditExecutionIntent) : Prop := ExactInt intent.attemptCap

def AuditTimeoutEvidence.Exact (o : AuditTimeoutEvidence) : Prop :=
  ExactInt o.internalDeadlineSeconds ∧ ExactInt o.supervisorHardDeadlineSeconds ∧
    ExactInt o.pid ∧ ExactInt o.pgid ∧ ExactInt o.exitCode

def AuditExecutionEvent.Exact (ev : AuditExecutionEvent) : Prop :=
  ExactInt ev.sequence ∧ ExactInt ev.attempt ∧ ExactInt ev.pid ∧ ExactInt ev.pgid ∧
    ExactInt ev.exitCode ∧ ExactInt ev.outputSize ∧ ev.timeoutObservation.Exact ∧
    ExactInt ev.authentication.sequence

def AuditCancellationIntent.Exact {β : Type} (intent : AuditCancellationIntent β) : Prop :=
  ExactInt intent.attempt ∧ ExactInt intent.expectedPID ∧ ExactInt intent.expectedPGID

instance (intent : AuditExecutionIntent) : Decidable intent.Exact :=
  inferInstanceAs (Decidable (ExactInt _))

instance (o : AuditTimeoutEvidence) : Decidable o.Exact := inferInstanceAs (Decidable (_ ∧ _))

instance (ev : AuditExecutionEvent) : Decidable ev.Exact :=
  inferInstanceAs (Decidable (_ ∧ _))

instance {β : Type} (intent : AuditCancellationIntent β) : Decidable intent.Exact :=
  inferInstanceAs (Decidable (_ ∧ _))

/-- What is assumed of hashing, the codec and the clock. -/
structure Primitives.Lawful {β : Type} (p : Primitives β) : Prop where
  hash (bytes : β) : protocolHashPattern (p.hashJournalBytes bytes) = true
  intent {i : AuditExecutionIntent} : i.Exact → p.decodeIntent (p.encodeIntent i) = some i
  event {e : AuditExecutionEvent} : e.Exact → p.decodeEvent (p.encodeEvent e) = some e
  cancellation {c : AuditCancellationIntent β} :
    c.Exact → p.decodeCancel (p.encodeCancel c) = some c
  time (now : Nat) : p.parseTime (p.formatTime now) = some ((now : Int), true)

variable {β : Type} (p : Primitives β)

def validServerJournalTimestamp (v : String) : Bool :=
  match p.parseTime v with
  | some (_, utc) => utc
  | none => false

/-- An absolute, clean path without a NUL. -/
def validAuditPrivatePath (v : String) : Bool :=
  v ≠ "" && v.toList.head? = some '/' && p.clean v = v && !v.toList.contains '\x00'

def auditPromptSHA256 (synthesizeOnly : Bool) : String :=
  p.hashJournalBytes (p.textBytes (p.auditPrompt synthesizeOnly))

/-- The first 16 digits of a hash. -/
def hashIDFragment (hash : String) : String :=
  match hash.toList with
  | 's' :: 'h' :: 'a' :: '2' :: '5' :: '6' :: ':' :: digits =>
    if 16 ≤ digits.length then String.ofList (digits.take 16) else "invalid"
  | _ => "invalid"

/-- `%03d` -/
def threeDigits (n : Nat) : String :=
  String.ofList (List.replicate (3 - (toString n).length) '0') ++ toString n

variable (intent : AuditExecutionIntent)

def auditExecutionEventID (seq : Nat) : String :=
  "audit_event_" ++ hashIDFragment intent.intentHash ++ "_" ++ threeDigits seq

/-- The paths of an attempt: work, output, session, prompt and temporary. -/
structure AuditAttemptPaths where
  (workPath outputPath sessionPath promptPath temporaryPath : String)
deriving DecidableEq

def auditAttemptRunID (attempt : Int) : String :=
  intent.runID ++ "_attempt_" ++ toString attempt

def auditAttemptPaths (entry : ExecutionPolicyEntry) (attempt : Int) : AuditAttemptPaths where
  workPath := p.join [entry.workRoot, intent.runID, "source"]
  outputPath := p.join [entry.outputRoot, auditAttemptRunID intent attempt, "audit-output.json"]
  sessionPath := p.join [entry.sessionRoot, intent.runID]
  promptPath := p.join [entry.promptRoot, auditAttemptRunID intent attempt, "audit-prompt.txt"]
  temporaryPath := p.join [entry.temporaryRoot, auditAttemptRunID intent attempt]

def AuditJournalAuthority.resolveIntent (auth : AuditJournalAuthority)
    (intent : AuditExecutionIntent) : Except Err ExecutionPolicyEntry :=
  match auth.entries intent.launchSpecHash with
  | none => .error (.authentication "audit intent execution policy authority")
  | some entry =>
    if entry.policyHash ≠ intent.policyHash ∨ entry.taskID ≠ intent.taskID ∨
        entry.routeMappingHash ≠ intent.routeMappingHash ∨
        entry.repositoryIdentityHash ≠ intent.repositoryIdentityHash ∨
        entry.gitCommit ≠ intent.gitCommit ∨ entry.gitTree ≠ intent.gitTree ∨
        entry.sourceArchiveSHA256 ≠ intent.sourceArchiveSHA256 ∨
        entry.wrapperSHA256 ≠ intent.wrapperSHA256 ∨ entry.attemptCap ≠ intent.attemptCap then
      .error (.authentication "audit intent execution policy authority")
    else .ok entry

end Ananke.TrustedSupervisor
