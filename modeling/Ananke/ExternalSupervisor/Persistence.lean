import Ananke.ExternalSupervisor.Seal
import Ananke.Launch.Admission

/-! The durable side of a handoff: its envelope, its receipt, and the callback or the
cancellation that follows. An operation holds the write lock from the admission of its
fence through the call of the transport to its commit. -/
namespace Ananke.ExternalSupervisor

open Launch Text Validation Relational

structure HandoffRow (β : Type) where
  (handoffID envelopeHash idempotencyKeyHash launchSpecHash : String)
  envelopeJSON : β
  createdAt : String

structure DeliveryOutboxRow where
  (handoffID envelopeHash createdAt : String)

structure ReceiptRow (β : Type) where
  (receiptIdentityHash handoffID envelopeHash : String)
  attemptNumber : Int
  (rootID trustBundleHash : String)
  receiptJSON : β
  createdAt : String

structure CallbackRow (β : Type) where
  (callbackIdentityHash handoffID envelopeHash receiptIdentityHash : String)
  attemptNumber : Int
  (rootID trustBundleHash : String)
  callbackJSON : β
  createdAt : String

structure CancellationRow (β : Type) where
  (cancellationIdentityHash handoffID envelopeHash receiptIdentityHash : String)
  attemptNumber : Int
  cancellationJSON : β
  createdAt : String

structure ReplayRow where
  messageType : MessageType
  (recordID nonceHash priorHash channelBindingHash signatureHash recordFingerprint createdAt
    : String)

/-- The primary key of the replay evidence. -/
def ReplayRow.record (row : ReplayRow) : MessageType × String := (row.messageType, row.recordID)

/-- The other key of the replay evidence. -/
def ReplayRow.nonce (row : ReplayRow) : MessageType × String := (row.messageType, row.nonceHash)

structure Store (β : Type) where
  launch : DB β := {}
  handoffs : List (HandoffRow β) := []
  deliveryOutbox : List DeliveryOutboxRow := []
  receipts : List (ReceiptRow β) := []
  callbacks : List (CallbackRow β) := []
  cancellations : List (CancellationRow β) := []
  replay : List ReplayRow := []

structure Handoff where
  envelope : Envelope
  launchSpecHash : String
  createdAt : Int
deriving DecidableEq

/-- Whether the evidence is what the pinned public roots vouch for. -/
structure Authenticator where
  verifyExternalSupervisorEnvelope : Envelope → Bool
  verifyExternalSupervisorReceipt : Envelope → AuthReceipt → Bool
  verifyExternalSupervisorCallback : Envelope → AuthReceipt → AuthCallback → Bool
  verifyExternalSupervisorCancellation : Envelope → AuthReceipt → AuthCancellation → Bool

variable {β : Type} [DecidableEq β] (p : Primitives β)

/-- Decodes, and insists on the canonical encoding. -/
def decodeCanonical {α : Type} (encode : α → β) (decode : β → Option α) (detail : String)
    (raw : β) : Except Err α := do
  let v ← expect (.invalid detail) (decode raw)
  require (.invalid detail) (encode v = raw)
  pure v

def loadExternalSupervisorHandoff (s : Store β) (handoffID : String) :
    Except Err (Option Handoff) :=
  match select HandoffRow.handoffID handoffID s.handoffs with
  | none => .ok none
  | some row => do
    let env ← decodeCanonical p.encodeEnvelope p.decodeEnvelope "corrupt sealed envelope"
      row.envelopeJSON
    require (.invalid "corrupt sealed envelope")
      (validateExternalSupervisorEnvelope p env = .ok () ∧
        env.launchSpecHash = row.launchSpecHash ∧ env.handoffID = handoffID)
    let createdAt ← expect (.invalid "corrupt handoff timestamp") (p.timeOf row.createdAt)
    pure (some ⟨env, row.launchSpecHash, createdAt⟩)

def loadHandoffOf (s : Store β) (handoffID detail : String) : Except Err Handoff := do
  let found ← (loadExternalSupervisorHandoff p s handoffID).mapError fun _ => .invalid detail
  expect (.invalid detail) found

def loadExternalSupervisorReceipt (s : Store β) (handoffID : String) :
    Except Err (Option AuthReceipt) :=
  match select ReceiptRow.handoffID handoffID s.receipts with
  | none => .ok none
  | some row => do
    let rcpt ← decodeCanonical p.encodeReceipt p.decodeReceipt "corrupt authenticated receipt"
      row.receiptJSON
    let handoff ← loadHandoffOf p s handoffID "corrupt authenticated receipt binding"
    require (.invalid "corrupt authenticated receipt binding")
      (validateAuthenticatedExternalSupervisorReceipt p rcpt handoff.envelope = .ok ())
    pure (some rcpt)

def loadReceiptOf (s : Store β) (handoffID detail : String) : Except Err AuthReceipt := do
  let found ← (loadExternalSupervisorReceipt p s handoffID).mapError fun _ => .invalid detail
  expect (.invalid detail) found

def loadExternalSupervisorCallback (s : Store β) (handoffID : String) :
    Except Err (Option AuthCallback) :=
  match select CallbackRow.handoffID handoffID s.callbacks with
  | none => .ok none
  | some row => do
    let cb ← decodeCanonical p.encodeCallback p.decodeCallback
      "corrupt authenticated callback" row.callbackJSON
    let handoff ← loadHandoffOf p s handoffID "corrupt callback handoff"
    let rcpt ← loadReceiptOf p s handoffID "corrupt authenticated callback binding"
    require (.invalid "corrupt authenticated callback binding")
      (validateAuthenticatedExternalSupervisorCallback p cb handoff.envelope rcpt = .ok ())
    pure (some cb)

def loadExternalSupervisorCancellation (s : Store β) (handoffID : String) :
    Except Err (Option AuthCancellation) :=
  match select CancellationRow.handoffID handoffID s.cancellations with
  | none => .ok none
  | some row => do
    let cancel ← decodeCanonical p.encodeCancel p.decodeCancel
      "corrupt authenticated cancellation" row.cancellationJSON
    let handoff ← loadHandoffOf p s handoffID "corrupt cancellation handoff"
    let rcpt ← loadReceiptOf p s handoffID "corrupt authenticated cancellation binding"
    require (.invalid "corrupt authenticated cancellation binding")
      (validateAuthenticatedExternalSupervisorCancellation p cancel handoff.envelope rcpt = .ok ())
    pure (some cancel)

def validateExternalSupervisorAdmission (db : DB β) (env : Envelope) (fence : LaunchFence)
    (now : Int) : Except Err Unit := do
  let boundary ← (loadLaunchRecoveryBoundary p.toPrimitives db env.launchSpecHash).mapError
    fun e => .fence (some e)
  require (.fence none) (boundary.action = .retryProcessAdmission ∧
    boundary.claim.fence = fence ∧ p.fenceBindingDigest fence = env.fenceBindingHash)
  let found ← (loadLaunchSpec p.toPrimitives db env.launchSpecHash).mapError .launch
  let stored ← expect .deadline found
  require .deadline (stored.spec.deadline = env.deadline)
  let deadline ← expect .deadline (p.timeOf env.deadline)
  require .deadline (now < deadline)
  require .attempt (stored.spec.attemptCap = env.attemptCap ∧
    boundary.claim.attempt = env.attemptNumber ∧
    env.attemptNumber ≤ env.attemptCap)

/-- Every row that shares an identity with the envelope holds the same handoff. -/
def loadMatching (s : Store β) : Option Handoff → List (HandoffRow β) → Except Err (Option Handoff)
  | found, [] => .ok found
  | found, row :: rows => do
    let loaded ← expect (.invalid "missing matched handoff")
      (← loadExternalSupervisorHandoff p s row.handoffID)
    require .conflict (found = none ∨ found = some loaded)
    loadMatching s (some loaded) rows

variable (s : Store β)

variable (env : Envelope)

def loadExternalSupervisorHandoffByAnyIdentity : Except Err (Option Handoff) :=
  loadMatching p s none (s.handoffs.filter fun row => row.handoffID = env.handoffID ∨
    row.envelopeHash = env.envelopeHash ∨
    row.idempotencyKeyHash = env.idempotencyKeyHash)

def insertRow {ρ : Type} (action : String) (fits : Prop) [Decidable fits] (row : ρ)
    (rows : List ρ) : Except Err (List ρ) := do
  require (.sql action) fits
  pure (rows ++ [row])

def stageExternalSupervisorHandoff (fence : LaunchFence)
    (now : Int) : Except Err (Handoff × Option (Store β)) := do
  validateExternalSupervisorEnvelope p env
  match ← loadExternalSupervisorHandoffByAnyIdentity p s env with
  | some old =>
    require .conflict (old.envelope = env)
    pure (old, none)
  | none =>
    validateExternalSupervisorAdmission p s.launch env fence now
    let createdAt ← expect (.other "parse handoff timestamp") (p.timeOf (p.formatTime now))
    let row : HandoffRow β := ⟨env.handoffID, env.envelopeHash,
      env.idempotencyKeyHash, env.launchSpecHash, p.encodeEnvelope env,
      p.formatTime now⟩
    let handoffs ← insertRow "insert external supervisor envelope"
      (row.handoffID ∉ s.handoffs.map HandoffRow.handoffID ∧
        row.envelopeHash ∉ s.handoffs.map HandoffRow.envelopeHash ∧
        row.idempotencyKeyHash ∉ s.handoffs.map HandoffRow.idempotencyKeyHash) row s.handoffs
    let outbox ← insertRow "insert external supervisor delivery outbox"
      (row.handoffID ∉ s.deliveryOutbox.map DeliveryOutboxRow.handoffID ∧
        row.envelopeHash ∉ s.deliveryOutbox.map DeliveryOutboxRow.envelopeHash)
      (⟨row.handoffID, row.envelopeHash, row.createdAt⟩ : DeliveryOutboxRow) s.deliveryOutbox
    pure (⟨env, env.launchSpecHash, createdAt⟩,
      some { s with handoffs := handoffs, deliveryOutbox := outbox })

def loadAuthenticatedHandoffAdmission (handoffID : String) (now : Int) : Except Err Handoff := do
  let found ← loadExternalSupervisorHandoff p s handoffID
  let handoff ← expect .notFound found
  let boundary ← (loadLaunchRecoveryBoundary p.toPrimitives s.launch
    handoff.launchSpecHash).mapError fun e => .fence (some e)
  validateExternalSupervisorAdmission p s.launch handoff.envelope boundary.claim.fence now
  pure handoff

def loadAuthenticatedHandoffAdmissionWithFence (handoffID : String)
    (fence : LaunchFence) (now : Int) : Except Err Handoff := do
  let handoff ← loadAuthenticatedHandoffAdmission p s handoffID now
  let boundary ← (loadLaunchRecoveryBoundary p.toPrimitives s.launch
    handoff.launchSpecHash).mapError fun _ => .fence none
  require (.fence none) (boundary.claim.fence = fence ∧
    p.fenceBindingDigest fence = handoff.envelope.fenceBindingHash)
  pure handoff

/-- Evidence that is there must be the same; a nonce is used once for each type. -/
def rememberExternalSupervisorReplay (row : ReplayRow) : Except Err (Store β) :=
  match select ReplayRow.record row.record s.replay with
  | some old => do
    require .conflict (old.nonceHash = row.nonceHash ∧ old.priorHash = row.priorHash ∧
      old.channelBindingHash = row.channelBindingHash ∧
      old.signatureHash = row.signatureHash ∧
      old.recordFingerprint = row.recordFingerprint)
    pure s
  | none => do
    require .conflict (row.nonce ∉ s.replay.map ReplayRow.nonce)
    pure { s with replay := s.replay ++ [row] }

variable (rcpt : AuthReceipt)

def receiptRow (now : Int) : ReceiptRow β where
  receiptIdentityHash := rcpt.receipt.receiptHash
  handoffID := env.handoffID
  envelopeHash := env.envelopeHash
  attemptNumber := rcpt.receipt.attemptNumber
  rootID := rcpt.receipt.trustRootID
  trustBundleHash := rcpt.delivery.trustBundleHash
  receiptJSON := p.encodeReceipt rcpt
  createdAt := p.formatTime now

def persistExternalSupervisorReceipt (now : Int) : Except Err (Store β) := do
  let s ← rememberExternalSupervisorReplay s ⟨.delivery, rcpt.delivery.deliveryID,
    rcpt.delivery.nonceHash, env.envelopeHash, rcpt.delivery.channelBindingHash,
    rcpt.deliveryAuthentication.signatureHash, rcpt.delivery.deliveryHash, p.formatTime now⟩
  let s ← rememberExternalSupervisorReplay s ⟨.receipt, rcpt.receipt.receiptID,
    rcpt.receipt.nonceHash, rcpt.delivery.deliveryHash, rcpt.receipt.channelBindingHash,
    rcpt.receiptAuthentication.signatureHash, rcpt.receipt.receiptHash, p.formatTime now⟩
  let row := receiptRow p env rcpt now
  let receipts ← insertRow "insert external supervisor receipt"
    (row.receiptIdentityHash ∉ s.receipts.map ReceiptRow.receiptIdentityHash ∧
      row.handoffID ∉ s.receipts.map ReceiptRow.handoffID ∧ 0 < row.attemptNumber) row s.receipts
  pure { s with receipts := receipts }

def callbackRow (cb : AuthCallback) (now : Int) : CallbackRow β where
  callbackIdentityHash := cb.callback.callbackHash
  handoffID := env.handoffID
  envelopeHash := env.envelopeHash
  receiptIdentityHash := rcpt.receipt.receiptHash
  attemptNumber := cb.callback.attemptNumber
  rootID := cb.callback.trustRootID
  trustBundleHash := rcpt.delivery.trustBundleHash
  callbackJSON := p.encodeCallback cb
  createdAt := p.formatTime now

def persistExternalSupervisorCallback (cb : AuthCallback) (now : Int) : Except Err (Store β) := do
  let s ← rememberExternalSupervisorReplay s ⟨.callback, cb.callback.callbackID,
    cb.callback.nonceHash, rcpt.receipt.receiptHash,
    cb.callback.callbackChannelBindingHash, cb.callbackAuthentication.signatureHash,
    cb.callback.callbackHash, p.formatTime now⟩
  let row := callbackRow p env rcpt cb now
  let callbacks ← insertRow "insert external supervisor callback"
    (row.callbackIdentityHash ∉ s.callbacks.map CallbackRow.callbackIdentityHash ∧
      row.handoffID ∉ s.callbacks.map CallbackRow.handoffID ∧ 0 < row.attemptNumber)
    row s.callbacks
  pure { s with callbacks := callbacks }

def cancelRow (cancel : AuthCancellation) (now : Int) : CancellationRow β where
  cancellationIdentityHash := cancel.cancellation.cancellationIdentityHash
  handoffID := env.handoffID
  envelopeHash := env.envelopeHash
  receiptIdentityHash := rcpt.receipt.receiptHash
  attemptNumber := env.attemptNumber
  cancellationJSON := p.encodeCancel cancel
  createdAt := p.formatTime now

def persistExternalSupervisorCancellation (cancel : AuthCancellation) (now : Int) :
    Except Err (Store β) := do
  let ack := cancel.acknowledgement
  let s ← rememberExternalSupervisorReplay s ⟨.cancellation, ack.acknowledgementID, ack.nonceHash,
    cancel.cancellation.cancellationIdentityHash, ack.channelBindingHash,
    cancel.acknowledgementAuthentication.signatureHash, ack.acknowledgementHash,
    p.formatTime now⟩
  let row := cancelRow p env rcpt cancel now
  let cancellations ← insertRow "insert external supervisor cancellation"
    (row.cancellationIdentityHash ∉ s.cancellations.map CancellationRow.cancellationIdentityHash ∧
      row.handoffID ∉ s.cancellations.map CancellationRow.handoffID ∧ 0 < row.attemptNumber)
    row s.cancellations
  pure { s with cancellations := cancellations }

/-- How far an operation comes without the transport: it has its answer, or makes a call. -/
inductive Stage (κ α : Type)
  | answered (a : α)
  | calls (k : κ)

/-- What an operation leaves, what it answers and what it called the transport with. -/
structure Reply (β κ α : Type) where
  store : Store β
  answer : Except Err α
  called : Option κ

omit [DecidableEq β] in
def refuse {κ α : Type} (s : Store β) (e : Err) : Reply β κ α := ⟨s, .error e, none⟩

/-- An operation that calls the transport within its transaction. -/
def perform {κ α : Type} (s : Store β) (commits : Bool) (before : Except Err (Stage κ α))
    (after : κ → Except Err (α × Option (Store β))) : Reply β κ α :=
  match before with
  | .error e => refuse s e
  | .ok (.answered a) => ⟨s, .ok a, none⟩
  | .ok (.calls k) =>
    let (s', answer) := settle commits (.sql "commit") s (after k)
    ⟨s', answer, some k⟩

def deliverAndPersistExternalSupervisorReceipt (handoffID : String) (authn : Option Authenticator)
    (deliver : Option (Envelope → Except Err AuthReceipt)) (now : Int)
    (commits : Bool) : Reply β Envelope AuthReceipt :=
  match authn, deliver with
  | some authn, some deliver =>
    perform s commits (do
        let handoff ← loadAuthenticatedHandoffAdmission p s handoffID now
        require .trustRoot (authn.verifyExternalSupervisorEnvelope handoff.envelope = true)
        match ← loadExternalSupervisorReceipt p s handoffID with
        | some old =>
          require .trustRoot (authn.verifyExternalSupervisorReceipt handoff.envelope old = true)
          pure (.answered old)
        | none => pure (.calls handoff.envelope))
      (fun env => do
        let rcpt ← deliver env
        validateAuthenticatedExternalSupervisorReceipt p rcpt env
        require .trustRoot (authn.verifyExternalSupervisorReceipt env rcpt = true)
        let s ← persistExternalSupervisorReceipt p s env rcpt now
        pure (rcpt, some s))
  | _, _ => refuse s .trustRoot

/-- The envelope and the receipt that the reconciliation and the cancellation start from. -/
def loadDelivered (handoff : Handoff) (handoffID : String)
    (authn : Authenticator) : Except Err AuthReceipt := do
  require .trustRoot (authn.verifyExternalSupervisorEnvelope handoff.envelope = true)
  let found ← loadExternalSupervisorReceipt p s handoffID
  let rcpt ← expect .receiptRequired found
  require .trustRoot (authn.verifyExternalSupervisorReceipt handoff.envelope rcpt = true)
  pure rcpt

def reconcileAndPersistExternalSupervisorCallback (handoffID : String)
    (authn : Option Authenticator) (reconcile : Option
      (Envelope → AuthReceipt → Except Err (Option AuthCallback)))
    (now : Int) (commits : Bool) :
    Reply β (Envelope × AuthReceipt) (Option AuthCallback) :=
  match authn, reconcile with
  | some authn, some reconcile =>
    perform s commits (do
        let handoff ← loadAuthenticatedHandoffAdmission p s handoffID now
        let rcpt ← loadDelivered p s handoff handoffID authn
        let cancel ← loadExternalSupervisorCancellation p s handoffID
        require .conflict (cancel.isSome = false)
        match ← loadExternalSupervisorCallback p s handoffID with
        | some old =>
          require .trustRoot (authn.verifyExternalSupervisorCallback handoff.envelope
            rcpt old = true)
          pure (.answered (some old))
        | none => pure (.calls (handoff.envelope, rcpt)))
      (fun (env, rcpt) => do
        match ← reconcile env rcpt with
        | none => pure (none, none)
        | some cb =>
          validateAuthenticatedExternalSupervisorCallback p cb env rcpt
          require .trustRoot (authn.verifyExternalSupervisorCallback env rcpt cb = true)
          let s ← persistExternalSupervisorCallback p s env rcpt cb now
          pure (some cb, some s))
  | _, _ => refuse s .trustRoot

def cancelAndPersistExternalSupervisorCancellation (cancellation : Cancellation)
    (fence : LaunchFence) (authn : Option Authenticator)
    (cancel : Option (Envelope → AuthReceipt → Cancellation →
      Except Err AuthCancellation)) (now : Int) (commits : Bool) :
    Reply β (Envelope × AuthReceipt) AuthCancellation :=
  match authn, cancel with
  | some authn, some cancel =>
    perform s commits (do
        require (.invalid "") (sealExternalSupervisorCancellation p cancellation = .ok cancellation)
        let handoff ← loadAuthenticatedHandoffAdmissionWithFence p s cancellation.handoffID fence
          now
        let rcpt ← loadDelivered p s handoff cancellation.handoffID authn
        require .conflict (cancellation.envelopeHash = handoff.envelope.envelopeHash ∧
          cancellation.receiptIdentityHash = rcpt.receipt.receiptHash ∧
          cancellation.attemptNumber = handoff.envelope.attemptNumber)
        let cb ← loadExternalSupervisorCallback p s cancellation.handoffID
        require .conflict (cb.isSome = false)
        match ← loadExternalSupervisorCancellation p s cancellation.handoffID with
        | some old =>
          require .conflict (old.cancellation = cancellation)
          require .trustRoot (authn.verifyExternalSupervisorCancellation
            handoff.envelope rcpt old = true)
          pure (.answered old)
        | none => pure (.calls (handoff.envelope, rcpt)))
      (fun (env, rcpt) => do
        let authenticated ← cancel env rcpt cancellation
        (validateAuthenticatedExternalSupervisorCancellation p authenticated env
          rcpt).mapError fun _ => .conflict
        require .conflict (authenticated.cancellation = cancellation)
        require .trustRoot (authn.verifyExternalSupervisorCancellation env rcpt
          authenticated = true)
        let s ← persistExternalSupervisorCancellation p s env rcpt authenticated now
        pure (authenticated, some s))
  | _, _ => refuse s .trustRoot

/-- Unlike the other two, it does not look for a stored callback. -/
def acceptExternalSupervisorCancellation (authenticated : AuthCancellation) (fence : LaunchFence)
    (authn : Option Authenticator) (now : Int) :
    Except Err (AuthCancellation × Option (Store β)) := do
  let authn ← expect .trustRoot authn
  let handoffID := authenticated.cancellation.handoffID
  let handoff ← loadAuthenticatedHandoffAdmissionWithFence p s handoffID fence now
  let rcpt ← expect .receiptRequired (← loadExternalSupervisorReceipt p s handoffID)
  match ← loadExternalSupervisorCancellation p s handoffID with
  | some old =>
    require .conflict (old = authenticated)
    pure (old, none)
  | none =>
    validateAuthenticatedExternalSupervisorCancellation p authenticated handoff.envelope rcpt
    require .trustRoot (authn.verifyExternalSupervisorCancellation handoff.envelope
      rcpt authenticated = true)
    let s ← persistExternalSupervisorCancellation p s handoff.envelope rcpt authenticated now
    pure (authenticated, some s)

inductive Op
  | launch (op : Launch.Op)
  | stage (envelope : Envelope) (fence : LaunchFence) (now : Int)
  | deliver (handoffID : String) (authenticator : Option Authenticator)
      (deliver : Option (Envelope → Except Err AuthReceipt)) (now : Int)
  | reconcile (handoffID : String) (authenticator : Option Authenticator) (reconcile : Option
        (Envelope → AuthReceipt → Except Err (Option AuthCallback)))
      (now : Int)
  | cancel (cancellation : Cancellation) (fence : LaunchFence)
      (authenticator : Option Authenticator)
      (cancel : Option (Envelope → AuthReceipt → Cancellation →
        Except Err AuthCancellation)) (now : Int)
  | accept (authenticated : AuthCancellation) (fence : LaunchFence)
      (authenticator : Option Authenticator) (now : Int)

inductive Answer
  | launch (answer : Launch.Answer)
  | handoff (handoff : Handoff)
  | receipt (receipt : AuthReceipt)
  | callback (callback : Option AuthCallback)
  | cancellation (cancellation : AuthCancellation)

/-- What was run outside the store before the operation ended. -/
inductive Called
  | invoke (boundary : LaunchRecoveryBoundary)
  | deliver (envelope : Envelope)
  | reconcile (envelope : Envelope) (receipt : AuthReceipt)
  | cancel (envelope : Envelope) (receipt : AuthReceipt)

structure Outcome where
  answer : Except Err Answer
  called : Option Called

omit [DecidableEq β] in
def Reply.outcome {κ α : Type} (r : Reply β κ α) (answer : α → Answer) (called : κ → Called) :
    Store β × Outcome :=
  (r.store, ⟨r.answer.map answer, r.called.map called⟩)

/-- One operation, in a transaction whose commit succeeds or not. -/
def exec (op : Op × Bool) : Store β × Outcome :=
  match op.1 with
  | .launch launchOp =>
    let (db, outcome) := Launch.exec p.toPrimitives s.launch (launchOp, op.2)
    ({ s with launch := db },
      ⟨(outcome.answer.map .launch).mapError .launch, outcome.invoked.map .invoke⟩)
  | .stage env fence now =>
    let (s', answer) := settle op.2 (.sql "commit") s
      (stageExternalSupervisorHandoff p s env fence now)
    (s', ⟨answer.map .handoff, none⟩)
  | .deliver handoffID authn deliver now =>
    (deliverAndPersistExternalSupervisorReceipt p s handoffID authn deliver now
      op.2).outcome .receipt .deliver
  | .reconcile handoffID authn reconcile now =>
    (reconcileAndPersistExternalSupervisorCallback p s handoffID authn reconcile now
      op.2).outcome .callback fun (env, rcpt) => .reconcile env rcpt
  | .cancel cancellation fence authn cancel now =>
    (cancelAndPersistExternalSupervisorCancellation p s cancellation fence authn cancel
      now op.2).outcome .cancellation fun (env, rcpt) => .cancel env rcpt
  | .accept authenticated fence authn now =>
    let (s', answer) := settle op.2 (.sql "commit") s
      (acceptExternalSupervisorCancellation p s authenticated fence authn now)
    (s', ⟨answer.map .cancellation, none⟩)

end Ananke.ExternalSupervisor
