import Mathlib.Data.List.Sort
import Ananke.Relational.Table
import Ananke.TrustedSupervisor.History

/-! The server journal: its tables, and how executions and cancellations are read from
them. Rows are only ever inserted. -/
namespace Ananke.TrustedSupervisor

open Text Validation Relational

inductive Operation
  | deliver
  | reconcile
  | cancel
  | other (text : String)
deriving DecidableEq

def Operation.text : Operation → String
  | .deliver => "deliver"
  | .reconcile => "reconcile"
  | .cancel => "cancel"
  | .other text => text

inductive NonceRole
  | request
  | response
  | message
deriving DecidableEq

structure ServerJournalRequest (β : Type) where
  requestHash : String
  operation : Operation
  (operationKey requestNonceHash responseNonceHash : String)
  /-- Empty where there is none. -/
  additionalNonceHash : String
  requestBytes : β
deriving DecidableEq

structure RequestRow (β : Type) where
  request : ServerJournalRequest β
  requestBytesHash : String
  responseBytes : β
  (responseBytesHash createdAt : String)

/-- The primary key of the requests. -/
def RequestRow.requestHash {β : Type} (row : RequestRow β) : String := row.request.requestHash

structure NonceRow where
  (nonceHash requestHash : String)
  nonceRole : NonceRole
deriving DecidableEq

structure ReplayRow where
  replayID : Nat
  (requestHash requestBytesHash responseBytesHash observedAt : String)

structure AuditIntentRow (β : Type) where
  (intentHash envelopeHash : String)
  intentBytes : β
  (intentBytesHash createdAt : String)

structure AuditEventRow (β : Type) where
  intentHash : String
  sequence : Int
  state : AuditState
  eventBytes : β
  (eventBytesHash createdAt : String)

structure CancelIntentRow (β : Type) where
  (intentHash requestHash operationKey requestNonceHash responseNonceHash exclusivityNonceHash
    envelopeHash receiptHash cancellationHash : String)
  intentBytes : β
  (intentBytesHash requestedAt : String)

structure OutcomeRow (β : Type) where
  intentHash : String
  outcome : CancelOutcome
  auditEventHash : String
  responseBytes : β
  (responseBytesHash completedAt : String)

structure Journal (β : Type) where
  requests : List (RequestRow β) := []
  nonces : List NonceRow := []
  replays : List ReplayRow := []
  auditIntents : List (AuditIntentRow β) := []
  auditEvents : List (AuditEventRow β) := []
  cancellationIntents : List (CancelIntentRow β) := []
  cancellationOutcomes : List (OutcomeRow β) := []

variable {β : Type} [DecidableEq β] (p : Primitives β) (auth : AuditJournalAuthority)

variable (j : Journal β)

/-- The event rows of an execution, `ORDER BY sequence`. -/
def Journal.eventRows (intentHash : String) : List (AuditEventRow β) :=
  (rowsOf AuditEventRow.intentHash intentHash j.auditEvents).insertionSort
    fun a b => a.sequence ≤ b.sequence

def readIntent (row : AuditIntentRow β) : Except Err AuditExecutionIntent := do
  require (.authentication "audit intent fingerprint")
    (row.intentBytesHash = p.hashJournalBytes row.intentBytes)
  let intent ← expect (.authentication "audit intent fingerprint") (p.decodeIntent row.intentBytes)
  require (.authentication "audit intent binding") (sealAuditExecutionIntent p intent = .ok intent)
  pure intent

def readEvent (row : AuditEventRow β) : Except Err AuditExecutionEvent := do
  require (.authentication "audit event fingerprint")
    (row.eventBytesHash = p.hashJournalBytes row.eventBytes)
  let ev ← expect (.authentication "audit event canonical schema") (p.decodeEvent row.eventBytes)
  require (.authentication "audit event binding") (sealAuditExecutionEvent p ev = .ok ev)
  pure ev

def Journal.intentRow (envelopeHash intentHash : String) : Option (AuditIntentRow β) :=
  if intentHash ≠ "" then select AuditIntentRow.intentHash intentHash j.auditIntents
  else select AuditIntentRow.envelopeHash envelopeHash j.auditIntents

def loadAuditExecutionTx (envelopeHash intentHash : String) :
    Except Err (AuditExecutionIntent × List AuditExecutionEvent) := do
  let row ← expect .replay (j.intentRow envelopeHash intentHash)
  let intent ← readIntent p row
  let evs ← collect (readEvent p) (j.eventRows intent.intentHash)
  validateAuditExecutionHistory p auth intent evs
  pure (intent, evs)

def validateAuditJournalContent : Except Err Unit := do
  let envelopeHashes := j.auditIntents.map AuditIntentRow.envelopeHash
  each (fun envelopeHash => require (.authentication "read audit journal")
    (protocolHashPattern envelopeHash = true)) envelopeHashes
  each (fun envelopeHash => do
    let _ ← loadAuditExecutionTx p auth j envelopeHash "") envelopeHashes

def equalAuditCancellationIntent (left right : AuditCancellationIntent β) : Prop :=
  p.encodeCancel left = p.encodeCancel right

instance (left right : AuditCancellationIntent β) :
    Decidable (equalAuditCancellationIntent p left right) :=
  inferInstanceAs (Decidable (_ = _))

/-- The cancellation intent is the one its own sealing gives. -/
def CancelSealed (intent : AuditCancellationIntent β) : Prop :=
  match sealAuditCancellationIntent p intent with
  | .ok sealed => equalAuditCancellationIntent p sealed intent
  | .error _ => False

instance (intent : AuditCancellationIntent β) : Decidable (CancelSealed p intent) := by
  unfold CancelSealed
  split <;> infer_instance

def readCancellation (row : CancelIntentRow β) : Except Err (AuditCancellationIntent β) := do
  require (.authentication "cancellation intent fingerprint")
    (row.intentBytesHash = p.hashJournalBytes row.intentBytes)
  let intent ← expect (.authentication "cancellation intent fingerprint")
    (p.decodeCancel row.intentBytes)
  require (.authentication "cancellation intent fingerprint") (CancelSealed p intent)
  pure intent

/-- The row of the cancellation, by its envelope if that is given. -/
def Journal.cancelRow (requestHash envelopeHash : String) : Option (CancelIntentRow β) :=
  if envelopeHash ≠ "" then
    select CancelIntentRow.envelopeHash envelopeHash j.cancellationIntents
  else select CancelIntentRow.requestHash requestHash j.cancellationIntents

/-- The state of an execution that a cancellation ended in this way. -/
def CancelOutcome.auditState : CancelOutcome → AuditState
  | .completed => .cancelled
  | .failed => .waitingForHuman

def CancelOutcome.state : CancelOutcome → AuditCancellationState
  | .completed => .completed
  | .failed => .failed

/-- The outcome of a cancellation is the last event of its execution. -/
def checkOutcome (intent : AuditCancellationIntent β) (row : OutcomeRow β) : Except Err Unit := do
  require (.authentication "cancellation outcome fingerprint")
    (protocolHashPattern row.auditEventHash = true ∧
      row.responseBytesHash = p.hashJournalBytes row.responseBytes ∧
      0 < p.size row.responseBytes ∧ p.size row.responseBytes ≤ maxFrameBytes ∧
      validServerJournalTimestamp p row.completedAt = true)
  let (auditIntent, evs) ← (loadAuditExecutionTx p auth j intent.envelopeHash "").mapError
    fun _ => .authentication "cancellation outcome audit history"
  require (.authentication "cancellation outcome audit history")
    (auditIntent.envelopeHash = intent.envelopeHash)
  let term ← expect (.authentication "cancellation outcome audit history") evs.getLast?
  require (.authentication "cancellation outcome terminal binding")
    (term.state = row.outcome.auditState ∧ term.eventHash = row.auditEventHash ∧
      term.occurredAt = row.completedAt ∧ term.attempt = intent.attempt)

/-- The record of a cancellation that was read. -/
def recordOf (intent : AuditCancellationIntent β) : Except Err (AuditCancellationRecord β) :=
  match select OutcomeRow.intentHash intent.intentHash j.cancellationOutcomes with
  | none => .ok ⟨intent, .requested, none, none⟩
  | some row => do
    checkOutcome p auth j intent row
    pure ⟨intent, row.outcome.state, some row.outcome, some row.responseBytes⟩

def loadAuditCancellationTx (requestHash envelopeHash : String) :
    Except Err (Option (AuditCancellationRecord β)) :=
  match j.cancelRow requestHash envelopeHash with
  | none => .ok none
  | some row => do
    let intent ← readCancellation p row
    let record ← recordOf p auth j intent
    pure (some record)

/-- The columns of a cancellation row repeat its intent. -/
def ColumnsMatch (row : CancelIntentRow β) (intent : AuditCancellationIntent β) : Prop :=
  row.intentHash = intent.intentHash ∧ row.operationKey = intent.operationKey ∧
  row.requestNonceHash = intent.requestNonceHash ∧
  row.responseNonceHash = intent.responseNonceHash ∧
  row.exclusivityNonceHash = intent.exclusivityNonceHash ∧
  row.envelopeHash = intent.envelopeHash ∧ row.receiptHash = intent.receiptHash ∧
  row.cancellationHash = intent.cancellationHash

instance (row : CancelIntentRow β) (intent : AuditCancellationIntent β) :
    Decidable (ColumnsMatch row intent) :=
  inferInstanceAs (Decidable (_ ∧ _))

/-- An ended cancellation has its request among the committed ones. -/
def RequestBinds (requestHash : String) (record : AuditCancellationRecord β) : Prop :=
  ∃ row ∈ select RequestRow.requestHash requestHash j.requests,
    row.request.operation = .cancel ∧ row.request.requestBytes = record.intent.requestBytes ∧
    some row.responseBytes = record.responseBytes

instance (j : Journal β) (requestHash : String) (record : AuditCancellationRecord β) :
    Decidable (RequestBinds j requestHash record) :=
  match h : select RequestRow.requestHash requestHash j.requests with
  | none => .isFalse (by simp [RequestBinds, h])
  | some row => decidable_of_iff (row.request.operation = .cancel ∧
      row.request.requestBytes = record.intent.requestBytes ∧
      some row.responseBytes = record.responseBytes) (by simp [RequestBinds, h])

def checkCancellation (j : Journal β) (requestHash : String) : Except Err Unit := do
  let found ← (loadAuditCancellationTx p auth j requestHash "").mapError
    fun _ => .authentication "cancellation journal binding"
  let record ← expect (.authentication "cancellation journal binding") found
  let row ← expect (.authentication "cancellation intent columns")
    (select CancelIntentRow.requestHash requestHash j.cancellationIntents)
  require (.authentication "cancellation intent columns") (ColumnsMatch row record.intent)
  require (.authentication "completed cancellation request binding")
    (record.state ≠ .requested → RequestBinds j requestHash record)

def validateAuditCancellationContent (j : Journal β) : Except Err Unit := do
  let requestHashes := j.cancellationIntents.map CancelIntentRow.requestHash
  each (fun requestHash => require (.authentication "read cancellation journal")
    (protocolHashPattern requestHash = true)) requestHashes
  each (checkCancellation p auth j) requestHashes

def hasPrefix (s start : String) : Bool := start.toList.isPrefixOf s.toList

def validServerJournalRequest (req : ServerJournalRequest β) : Prop :=
  protocolHashPattern req.requestHash = true ∧
  protocolHashPattern req.requestNonceHash = true ∧
  protocolHashPattern req.responseNonceHash = true ∧
  (req.additionalNonceHash = "" ∨ protocolHashPattern req.additionalNonceHash = true) ∧
  req.requestNonceHash ≠ req.responseNonceHash ∧
  req.requestNonceHash ≠ req.additionalNonceHash ∧
  (req.additionalNonceHash = "" ∨ req.responseNonceHash ≠ req.additionalNonceHash) ∧
  (req.operation = .deliver ∨ req.operation = .reconcile ∨ req.operation = .cancel) ∧
  hasPrefix req.operationKey (req.operation.text ++ ":sha256:") = true ∧
  0 < p.size req.requestBytes ∧ p.size req.requestBytes ≤ maxFrameBytes

instance (req : ServerJournalRequest β) : Decidable (validServerJournalRequest p req) :=
  inferInstanceAs (Decidable (_ ∧ _))

/-- A committed request is well formed and matches its fingerprints. -/
def RowValid (row : RequestRow β) : Prop :=
  validServerJournalRequest p row.request ∧ 0 < p.size row.responseBytes ∧
  p.size row.responseBytes ≤ maxFrameBytes ∧
  row.requestBytesHash = p.hashJournalBytes row.request.requestBytes ∧
  row.responseBytesHash = p.hashJournalBytes row.responseBytes ∧
  validServerJournalTimestamp p row.createdAt = true

instance (row : RequestRow β) : Decidable (RowValid p row) :=
  inferInstanceAs (Decidable (_ ∧ _))

/-- The nonces a request uses up. -/
def nonceRows (req : ServerJournalRequest β) : List NonceRow :=
  [⟨req.requestNonceHash, req.requestHash, .request⟩,
    ⟨req.responseNonceHash, req.requestHash, .response⟩] ++
  if req.additionalNonceHash = "" then []
  else [⟨req.additionalNonceHash, req.requestHash, .message⟩]

/-- A replay repeats a committed request. -/
def ReplayValid (j : Journal β) (row : ReplayRow) : Prop :=
  1 ≤ row.replayID ∧ validServerJournalTimestamp p row.observedAt = true ∧
    ∃ req ∈ select RequestRow.requestHash row.requestHash j.requests,
      row.requestBytesHash = req.requestBytesHash ∧
      row.responseBytesHash = req.responseBytesHash

instance (j : Journal β) (row : ReplayRow) : Decidable (ReplayValid p j row) :=
  match h : select RequestRow.requestHash row.requestHash j.requests with
  | none => .isFalse (by simp [ReplayValid, h])
  | some req => decidable_of_iff (1 ≤ row.replayID ∧
      validServerJournalTimestamp p row.observedAt = true ∧
      row.requestBytesHash = req.requestBytesHash ∧
      row.responseBytesHash = req.responseBytesHash) (by simp [ReplayValid, h])

/-- Assignment to a map from nonces. -/
def putNonce (m : List NonceRow) (row : NonceRow) : List NonceRow :=
  m.filter (fun r => r.nonceHash ≠ row.nonceHash) ++ [row]

def expectedNonces (j : Journal β) : List NonceRow :=
  (j.requests.flatMap fun row => nonceRows row.request).foldl putNonce []

/-- The table of nonces holds what the requests use up, no more and no less. -/
def checkNonces (j : Journal β) : Except Err Unit := do
  each (fun row => require (.authentication "durable server nonce fingerprints")
    (row ∈ expectedNonces j)) j.nonces
  require (.authentication "durable server nonce inventory")
    (∀ row ∈ expectedNonces j, row.nonceHash ∈ j.nonces.map NonceRow.nonceHash)

def validateServerJournalContent (j : Journal β) : Except Err Unit := do
  each (fun row => require (.authentication "durable server request fingerprints")
    (RowValid p row)) j.requests
  checkNonces j
  each (fun row => require (.authentication "durable server replay fingerprints")
    (ReplayValid p j row)) j.replays
  validateAuditJournalContent p auth j
  validateAuditCancellationContent p auth j

end Ananke.TrustedSupervisor
