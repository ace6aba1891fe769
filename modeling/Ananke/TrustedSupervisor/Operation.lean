import Ananke.TrustedSupervisor.Journal

/-! The operations of the server journal. Each is one transaction: it validates the whole
journal first, and a failure leaves the journal as it was. -/
namespace Ananke.TrustedSupervisor

open Text Validation Relational

variable {β : Type} [DecidableEq β] (p : Primitives β) (auth : AuditJournalAuthority)

section

variable (j : Journal β) (ev : AuditExecutionEvent)

/-- `INSERT INTO trusted_supervisor_requests`, with its unique columns. -/
def insertRequest (row : RequestRow β) : Except Err (Journal β) := do
  require .replay (∀ r ∈ j.requests, r.requestHash ≠ row.requestHash ∧
    r.request.operationKey ≠ row.request.operationKey ∧
    r.request.requestNonceHash ≠ row.request.requestNonceHash ∧
    r.request.responseNonceHash ≠ row.request.responseNonceHash)
  pure { j with requests := j.requests ++ [row] }

/-- `INSERT INTO trusted_supervisor_nonces`, one row after the other. -/
def insertNonces (rows : List NonceRow) : Except Err (Journal β) := do
  require .replay ((rows.map NonceRow.nonceHash).Nodup ∧
    ∀ row ∈ rows, row.nonceHash ∉ j.nonces.map NonceRow.nonceHash)
  pure { j with nonces := j.nonces ++ rows }

def intentRowOf (intent : AuditExecutionIntent) : AuditIntentRow β where
  intentHash := intent.intentHash
  envelopeHash := intent.envelopeHash
  intentBytes := p.encodeIntent intent
  intentBytesHash := p.hashJournalBytes (p.encodeIntent intent)
  createdAt := intent.createdAt

def insertAuditIntentTx (intent : AuditExecutionIntent) : Except Err (Journal β) := do
  require .protocol (sealAuditExecutionIntent p intent = .ok intent)
  match select AuditIntentRow.envelopeHash intent.envelopeHash j.auditIntents with
  | some row => do
    require .replay (row.intentBytesHash = p.hashJournalBytes row.intentBytes ∧
      row.intentBytes = p.encodeIntent intent)
    pure j
  | none => do
    require .replay (intent.intentHash ∉ j.auditIntents.map AuditIntentRow.intentHash)
    pure { j with auditIntents := j.auditIntents ++ [intentRowOf p intent] }

def eventRowOf : AuditEventRow β where
  intentHash := ev.intentHash
  sequence := ev.sequence
  state := ev.state
  eventBytes := p.encodeEvent ev
  eventBytesHash := p.hashJournalBytes (p.encodeEvent ev)
  createdAt := ev.occurredAt

/-- `INSERT INTO trusted_supervisor_audit_events`: each intent that is there has one event
for a sequence number. -/
def insertEvent : Except Err (Journal β) := do
  require .replay ((∃ row ∈ j.auditIntents, row.intentHash = ev.intentHash) ∧
    ∀ row ∈ j.auditEvents, ¬ (row.intentHash = ev.intentHash ∧ row.sequence = ev.sequence))
  pure { j with auditEvents := j.auditEvents ++ [eventRowOf p ev] }

/-- Records that a committed request was seen again. -/
def replayRequest (req : ServerJournalRequest β) (now : Nat) (row : RequestRow β) :
    Except Err (Journal β × β × Bool) := do
  require .replay (row.request = req)
  pure ({ j with replays := j.replays ++ [⟨j.replays.length + 1, req.requestHash,
    p.hashJournalBytes req.requestBytes, p.hashJournalBytes row.responseBytes,
    p.formatTime now⟩] }, row.responseBytes, true)

/-- The audit intent that goes with the request, if there is to be one. -/
def buildIntent (buildAuditIntent : Option (β → Except Err AuditExecutionIntent)) (bytes : β) :
    Except Err (Option AuditExecutionIntent) :=
  match buildAuditIntent with
  | none => pure none
  | some build => (build bytes).map some

def insertBuiltIntent (built : Option AuditExecutionIntent) : Except Err (Journal β) :=
  match built with
  | none => pure j
  | some intent => insertAuditIntentTx p j intent

/-- Commits a request that is new, with its response. -/
def acceptRequest (req : ServerJournalRequest β)
    (buildAuditIntent : Option (β → Except Err AuditExecutionIntent)) (resp : Except Err β)
    (now : Nat) : Except Err (Journal β × β × Bool) := do
  require .replay (∀ row ∈ j.requests, row.request.operationKey ≠ req.operationKey)
  require .replay (∀ row ∈ j.nonces, row.nonceHash ∉ [req.requestNonceHash,
    req.responseNonceHash, req.additionalNonceHash])
  let bytes ← resp
  require .limit (0 < p.size bytes ∧ p.size bytes ≤ maxFrameBytes)
  let built ← buildIntent buildAuditIntent bytes
  let j ← insertRequest j ⟨req, p.hashJournalBytes req.requestBytes, bytes,
    p.hashJournalBytes bytes, p.formatTime now⟩
  let j ← insertNonces j (nonceRows req)
  let j ← insertBuiltIntent p j built
  pure (j, bytes, false)

/-- The journaled answer to a request, and whether it had been given before. -/
def transact (req : ServerJournalRequest β)
    (buildAuditIntent : Option (β → Except Err AuditExecutionIntent)) (resp : Except Err β)
    (now : Nat) : Except Err (Journal β × β × Bool) := do
  require .protocol (validServerJournalRequest p req ∧
    (buildAuditIntent.isSome = true → req.operation = .deliver))
  validateServerJournalContent p auth j
  match select RequestRow.requestHash req.requestHash j.requests with
  | some row => replayRequest p j req now row
  | none => acceptRequest p j req buildAuditIntent resp now

def storeAuditIntent (intent : AuditExecutionIntent) : Except Err (Journal β) := do
  let _ ← auth.resolveIntent intent
  validateServerJournalContent p auth j
  insertAuditIntentTx p j intent

/-- A requested cancellation of the execution has no outcome yet. -/
def Fenced (envelopeHash : String) : Prop :=
  ∃ row ∈ j.cancellationIntents, row.envelopeHash = envelopeHash ∧
    row.intentHash ∉ j.cancellationOutcomes.map OutcomeRow.intentHash

end

instance (j : Journal β) (envelopeHash : String) : Decidable (Fenced j envelopeHash) :=
  inferInstanceAs (Decidable (∃ _ ∈ _, _))

/-- Appends the event to the loaded history; an event that is there already stays. -/
def extendHistory (j : Journal β) (ev : AuditExecutionEvent) (intent : AuditExecutionIntent)
    (evs : List AuditExecutionEvent) : Except Err (Journal β) :=
  if ev.sequence ≤ evs.length then do
    require .replay (evs[(ev.sequence - 1).toNat]? = some ev)
    pure j
  else do
    require .protocol (ev.sequence = evs.length + 1)
    validateAuditExecutionHistory p auth intent (evs ++ [ev])
    insertEvent p j ev

def appendAuditEvent (j : Journal β) (ev : AuditExecutionEvent) : Except Err (Journal β) := do
  require .protocol (sealAuditExecutionEvent p ev = .ok ev)
  let ev ← auth.authenticateEvent p ev
  validateServerJournalContent p auth j
  let (intent, evs) ← (loadAuditExecutionTx p auth j "" ev.intentHash).mapError
    fun _ => .protocol
  require .protocol (intent.intentHash = ev.intentHash)
  require .replay (¬ Fenced j intent.envelopeHash)
  require .limit (evs.length < 256)
  extendHistory p auth j ev intent evs

def sameAuditCancellationRequest (left right : AuditCancellationIntent β) : Prop :=
  left.requestHash = right.requestHash ∧ left.requestBytes = right.requestBytes ∧
  left.operationKey = right.operationKey ∧ left.requestNonceHash = right.requestNonceHash ∧
  left.responseNonceHash = right.responseNonceHash ∧
  left.exclusivityNonceHash = right.exclusivityNonceHash ∧
  left.envelopeHash = right.envelopeHash ∧ left.handoffID = right.handoffID ∧
  left.receiptHash = right.receiptHash ∧ left.cancellationHash = right.cancellationHash ∧
  left.attempt = right.attempt

instance (left right : AuditCancellationIntent β) :
    Decidable (sameAuditCancellationRequest left right) :=
  inferInstanceAs (Decidable (_ ∧ _))

def nonceHashes (intent : AuditCancellationIntent β) : List String :=
  [intent.requestNonceHash, intent.responseNonceHash, intent.exclusivityNonceHash]

/-- Another request or cancellation already holds one of the intent's unique values. -/
def CancellationConflict (j : Journal β) (intent : AuditCancellationIntent β) : Prop :=
  (∃ row ∈ j.requests, row.requestHash = intent.requestHash ∨
    row.request.operationKey = intent.operationKey) ∨
  (∃ row ∈ j.nonces, row.nonceHash ∈ nonceHashes intent) ∨
  ∃ row ∈ j.cancellationIntents, row.operationKey = intent.operationKey ∨
    row.requestNonceHash ∈ nonceHashes intent ∨ row.responseNonceHash ∈ nonceHashes intent ∨
    row.exclusivityNonceHash ∈ nonceHashes intent ∨ row.envelopeHash = intent.envelopeHash ∨
    row.receiptHash = intent.receiptHash ∨ row.cancellationHash = intent.cancellationHash

instance (j : Journal β) (intent : AuditCancellationIntent β) :
    Decidable (CancellationConflict j intent) :=
  inferInstanceAs (Decidable (_ ∨ _))

/-- The execution may still be cancelled, and the intent names the process it runs. -/
def Cancellable (evs : List AuditExecutionEvent) (intent : AuditCancellationIntent β) : Prop :=
  let absent := intent.expectedPID = 0 ∧ intent.expectedPGID = 0 ∧ intent.expectedStartIdentity = ""
  match evs.getLast? with
  | none => absent
  | some last =>
    match last.state with
    | .finalizing | .completed | .failed | .cancelled | .waitingForHuman => False
    | .running => intent.expectedPID = last.pid ∧ intent.expectedPGID = last.pgid ∧
        intent.expectedStartIdentity = last.processStartIdentity
    | _ => absent

instance (evs : List AuditExecutionEvent) (intent : AuditCancellationIntent β) :
    Decidable (Cancellable evs intent) := by
  unfold Cancellable
  exact match evs.getLast? with
  | none => inferInstanceAs (Decidable (_ ∧ _))
  | some last => by
    dsimp only
    exact match last.state with
    | .finalizing | .completed | .failed | .cancelled | .waitingForHuman => instDecidableFalse
    | .prepared | .running | .timedOut | .other _ => inferInstanceAs (Decidable (_ ∧ _))

section

variable (j : Journal β)

variable (intent : AuditCancellationIntent β)

def cancelRowOf : CancelIntentRow β where
  intentHash := intent.intentHash
  requestHash := intent.requestHash
  operationKey := intent.operationKey
  requestNonceHash := intent.requestNonceHash
  responseNonceHash := intent.responseNonceHash
  exclusivityNonceHash := intent.exclusivityNonceHash
  envelopeHash := intent.envelopeHash
  receiptHash := intent.receiptHash
  cancellationHash := intent.cancellationHash
  intentBytes := p.encodeCancel intent
  intentBytesHash := p.hashJournalBytes (p.encodeCancel intent)
  requestedAt := intent.requestedAt

/-- `INSERT INTO trusted_supervisor_cancellation_intents`, with its unique columns. -/
def insertCancellation : Except Err (Journal β) := do
  require .replay (∀ row ∈ j.cancellationIntents, row.intentHash ≠ intent.intentHash ∧
    row.requestHash ≠ intent.requestHash ∧ row.operationKey ≠ intent.operationKey ∧
    row.requestNonceHash ≠ intent.requestNonceHash ∧
    row.responseNonceHash ≠ intent.responseNonceHash ∧
    row.exclusivityNonceHash ≠ intent.exclusivityNonceHash ∧
    row.envelopeHash ≠ intent.envelopeHash ∧ row.receiptHash ≠ intent.receiptHash ∧
    row.cancellationHash ≠ intent.cancellationHash)
  pure { j with cancellationIntents := j.cancellationIntents ++ [cancelRowOf p intent] }

/-- Journals a cancellation that is new. -/
def acceptCancellation : Except Err (Journal β × AuditCancellationRecord β) := do
  require .replay (¬ CancellationConflict j intent)
  let (auditIntent, evs) ← (loadAuditExecutionTx p auth j intent.envelopeHash "").mapError
    fun _ => .replay
  require .replay (auditIntent.handoffID = intent.handoffID ∧
    auditIntent.receiptHash = intent.receiptHash ∧ intent.attempt ≤ auditIntent.attemptCap)
  require .replay (Cancellable evs intent)
  let j ← insertCancellation p j intent
  pure (j, ⟨intent, .requested, none, none⟩)

def requestAuditCancellation : Except Err (Journal β × AuditCancellationRecord β) := do
  require .protocol (CancelSealed p intent)
  validateServerJournalContent p auth j
  match ← loadAuditCancellationTx p auth j intent.requestHash "" with
  | some old => do
    require .replay (sameAuditCancellationRequest old.intent intent)
    pure (j, old)
  | none => acceptCancellation p auth j intent

/-- The request by which the cancellation was asked for. -/
def cancelRequest : ServerJournalRequest β where
  requestHash := intent.requestHash
  operation := .cancel
  operationKey := intent.operationKey
  requestNonceHash := intent.requestNonceHash
  responseNonceHash := intent.responseNonceHash
  additionalNonceHash := intent.exclusivityNonceHash
  requestBytes := intent.requestBytes

/-- `INSERT INTO trusted_supervisor_cancellation_outcomes`: one outcome for each intent that
is there, and no event is the outcome of two. -/
def insertOutcome (row : OutcomeRow β) : Except Err (Journal β) := do
  require .replay ((∃ intent ∈ j.cancellationIntents, intent.intentHash = row.intentHash) ∧
    ∀ r ∈ j.cancellationOutcomes, r.intentHash ≠ row.intentHash ∧
      r.auditEventHash ≠ row.auditEventHash)
  pure { j with cancellationOutcomes := j.cancellationOutcomes ++ [row] }

/-- Ends a requested cancellation with the event and the response. -/
def endCancellation (intent : AuditCancellationIntent β) (ev : AuditExecutionEvent)
    (outcome : CancelOutcome) (resp : Except Err β) :
    Except Err (Journal β × AuditCancellationRecord β) := do
  let (auditIntent, evs) ← (loadAuditExecutionTx p auth j intent.envelopeHash "").mapError
    fun _ => .protocol
  require .protocol (auditIntent.envelopeHash = intent.envelopeHash ∧
    auditIntent.handoffID = intent.handoffID ∧ auditIntent.receiptHash = intent.receiptHash ∧
    ev.intentHash = auditIntent.intentHash ∧ ev.sequence = evs.length + 1 ∧
    validateAuditExecutionHistory p auth auditIntent (evs ++ [ev]) = .ok ())
  let bytes ← resp
  require .limit (0 < p.size bytes ∧ p.size bytes ≤ maxFrameBytes)
  let j ← insertEvent p j ev
  let j ← insertRequest j ⟨cancelRequest intent, intent.requestBytesHash, bytes,
    p.hashJournalBytes bytes, ev.occurredAt⟩
  let j ← insertNonces j (nonceRows (cancelRequest intent))
  let j ← insertOutcome j ⟨intent.intentHash, outcome, ev.eventHash, bytes,
    p.hashJournalBytes bytes, ev.occurredAt⟩
  pure (j, ⟨intent, outcome.state, some outcome, some bytes⟩)

def completeAuditCancellation (intent : AuditCancellationIntent β) (ev : AuditExecutionEvent)
    (outcome : CancelOutcome) (resp : Except Err β) :
    Except Err (Journal β × AuditCancellationRecord β) := do
  require .protocol (CancelSealed p intent ∧ sealAuditExecutionEvent p ev = .ok ev ∧
    ev.state = outcome.auditState)
  let ev ← auth.authenticateEvent p ev
  validateServerJournalContent p auth j
  let old ← expect .replay (← loadAuditCancellationTx p auth j intent.requestHash "")
  require .replay (sameAuditCancellationRequest old.intent intent)
  if old.state ≠ .requested then do
    require .replay (old.outcome = some outcome)
    pure (j, old)
  else endCancellation p auth j intent ev outcome resp

/-- The journal operations with their arguments; callbacks are given by what they return. -/
inductive JournalOp (β : Type)
  | transact (request : ServerJournalRequest β)
      (buildAuditIntent : Option (β → Except Err AuditExecutionIntent)) (response : Except Err β)
      (now : Nat)
  | storeAuditIntent (intent : AuditExecutionIntent)
  | appendAuditEvent (event : AuditExecutionEvent)
  | requestAuditCancellation (intent : AuditCancellationIntent β)
  | completeAuditCancellation (intent : AuditCancellationIntent β) (event : AuditExecutionEvent)
      (outcome : CancelOutcome) (response : Except Err β)

def perform : JournalOp β → Except Err (Journal β)
  | .transact req build resp now =>
    (transact p auth j req build resp now).map (·.1)
  | .storeAuditIntent intent => storeAuditIntent p auth j intent
  | .appendAuditEvent ev => appendAuditEvent p auth j ev
  | .requestAuditCancellation intent => (requestAuditCancellation p auth j intent).map (·.1)
  | .completeAuditCancellation intent ev outcome resp =>
    (completeAuditCancellation p auth j intent ev outcome resp).map (·.1)

/-- One operation; a failure changes nothing. -/
def exec (op : JournalOp β) : Journal β × Except Err Unit :=
  match perform p auth j op with
  | .ok j' => (j', .ok ())
  | .error e => (j, .error e)

end

end Ananke.TrustedSupervisor
