import Ananke.ExternalSupervisor.Record
import Ananke.Text.Space
import Ananke.Validation.Seal

/-! The seals of the exchanged records, and the checks that bind one record to another. -/
namespace Ananke.ExternalSupervisor

open Launch Text Validation

variable {β : Type} (p : Primitives β)

def validExternalSupervisorIdentifier : String → Bool := identifierPattern

/-- The words an opaque identifier may not contain. -/
def externalSupervisorForbiddenOpaqueIdentifierMarkers : List String :=
  ["argument", "argv", "command", "credential", "environment", "error", "exec", "instruction",
    "password", "path", "pid", "prompt", "prose", "raw", "secret", "socket", "token", "address",
    "admin", "authority", "certificate", "delegate", "endpoint", "host", "http", "https",
    "issuer", "key", "port", "principal", "private", "public", "root", "signer", "spki", "uri",
    "url", "source", "artifact", "evidence"]

def bytesOf (s : String) : List UInt8 := s.toByteArray.data.toList

def underscore : UInt8 := 95

/-- The marker is read from here on, where underscores in between do not count. -/
def markerAt : List UInt8 → List UInt8 → Bool
  | _, [] => true
  | [], _ :: _ => false
  | c :: cs, m :: ms =>
    if c = underscore then markerAt cs (m :: ms) else if c = m then markerAt cs ms else false

def externalSupervisorIdentifierContainsMarker (v marker : String) : Bool :=
  (List.range (bytesOf v).length).any fun start =>
    markerAt ((bytesOf v).drop start) (bytesOf marker)

/-- A marker without underscores is read where the value begins with it, underscores apart. -/
theorem markerAt_iff {v marker : List UInt8} (h : underscore ∉ marker) :
    markerAt v marker = true ↔ marker <+: v.filter (· ≠ underscore) := by
  induction v generalizing marker with
  | nil => cases marker <;> simp [markerAt]
  | cons c v ih =>
    cases marker with
    | nil => simp [markerAt]
    | cons m marker =>
      rw [markerAt]
      by_cases hc : c = underscore
      · simpa [hc] using ih h
      · have hrest := ih fun hm => h (List.mem_cons_of_mem m hm)
        by_cases hm : c = m
        · subst hm
          simpa [hc] using hrest
        · simp [hc, hm, Ne.symm hm]

/-- The starts are tried one after the other; those past an underscore find no more than the
next does. -/
theorem exists_markerAt_iff {v marker : List UInt8} (hne : marker ≠ [])
    (h : underscore ∉ marker) : (∃ start < v.length, markerAt (v.drop start) marker = true) ↔
      marker <:+: v.filter (· ≠ underscore) := by
  induction v with
  | nil => simp [hne]
  | cons c v ih =>
    rw [List.length_cons, Nat.exists_lt_succ_left]
    simp only [List.drop_zero, List.drop_succ_cons]
    rw [ih, markerAt_iff h]
    by_cases hc : c = underscore
    · simpa [hc] using fun hfirst => hfirst.isInfix
    · simp [hc, List.infix_cons_iff]

/-- Underscores hide no marker, wherever they stand. -/
theorem contains_marker_iff (v : String) {marker : String} (hne : bytesOf marker ≠ [])
    (h : underscore ∉ bytesOf marker) :
    externalSupervisorIdentifierContainsMarker v marker = true ↔
      bytesOf marker <:+: (bytesOf v).filter (· ≠ underscore) := by
  rw [← exists_markerAt_iff hne h, externalSupervisorIdentifierContainsMarker]
  simp

theorem contains_marker_spread :
    bytesOf "path" <:+: (bytesOf "a_p_at__h").filter (· ≠ underscore) :=
  (contains_marker_iff "a_p_at__h" (by decide) (by decide)).mp (by decide)

def validExternalSupervisorSafeOpaqueIdentifier (v : String) : Bool :=
  validExternalSupervisorIdentifier v &&
    externalSupervisorForbiddenOpaqueIdentifierMarkers.all fun marker =>
      !externalSupervisorIdentifierContainsMarker v marker

def externalSupervisorHashes (values : List String) : Bool := values.all launchHashPattern

def externalSupervisorValidTime (v : String) : Bool :=
  match p.parseTime v with
  | some (_, utc) => utc
  | none => false

/-- Both texts are times, and the first is before the second. -/
def externalSupervisorOrderedTimes (first second : String) : Bool :=
  match p.timeOf first, p.timeOf second with
  | some left, some right => left < right
  | _, _ => false

/-- Both texts are times, and the second is not before the first. -/
def notBefore (second first : String) : Bool :=
  match p.timeOf first, p.timeOf second with
  | some left, some right => left ≤ right
  | _, _ => false

def signatureHash : Field DetachedSignature String where
  get s := s.signatureHash
  set s hash := { s with signatureHash := hash }

def sealExternalSupervisorDetachedSignature : DetachedSignature → Except Err DetachedSignature :=
  sealWith signatureHash (fun s =>
    s.schemaVersion = "ananke.independent-supervisor-detached-signature.v1" ∧
    s.algorithm = "ed25519" ∧ launchHashPattern s.signerKeySPKISHA256 = true ∧
    externalSupervisorSignaturePattern s.signature = true) p.signatureDigest (.invalid "")

def attestationHash : Field ReleaseAttestation String where
  get a := a.attestationHash
  set a hash := { a with attestationHash := hash }

def sealExternalSupervisorReleaseAttestation : ReleaseAttestation → Except Err ReleaseAttestation :=
  sealWith attestationHash (fun a =>
    a.schemaVersion = "ananke.independent-supervisor-release-attestation.v1" ∧
    validExternalSupervisorIdentifier a.releaseRootID = true ∧
    externalSupervisorOrderedTimes p a.issuedAt a.notAfter = true ∧
    externalSupervisorHashes [a.artifactSHA256, a.attestorKeySPKISHA256, a.buildIdentityHash,
      a.routeMappingHash] = true) p.attestationDigest (.invalid "")

def approvalHash : Field ReleaseApproval String where
  get a := a.approvalHash
  set a hash := { a with approvalHash := hash }

def sealExternalSupervisorReleaseApproval : ReleaseApproval → Except Err ReleaseApproval :=
  sealWith approvalHash (fun a =>
    a.schemaVersion = "ananke.independent-supervisor-release-approval.v1" ∧
    validExternalSupervisorSafeOpaqueIdentifier a.approvalID = true ∧
    validExternalSupervisorIdentifier a.approverRootID = true ∧ a.decision = "approved" ∧
    externalSupervisorOrderedTimes p a.issuedAt a.notAfter = true ∧
    externalSupervisorHashes [a.approverKeySPKISHA256, a.attestationHash, a.routeMappingHash] =
      true) p.approvalDigest (.invalid "")

def grantHash : Field MoARoleGrant String where
  get g := g.grantHash
  set g hash := { g with grantHash := hash }

def sealExternalSupervisorMoARoleGrant : MoARoleGrant → Except Err MoARoleGrant :=
  sealWith grantHash (fun g =>
    g.schemaVersion = "ananke.moa-typed-role-grant.v1" ∧
    validExternalSupervisorSafeOpaqueIdentifier g.grantID = true ∧
    g.granteeRole = "remote_supervisor_runner" ∧
    validExternalSupervisorIdentifier g.grantorRootID = true ∧
    externalSupervisorOrderedTimes p g.issuedAt g.notAfter = true ∧
    externalSupervisorHashes [g.grantorKeySPKISHA256, g.releaseApprovalHash,
      g.releaseAttestationHash, g.routeMappingHash] = true) p.grantDigest (.invalid "")

def deliveryHash : Field SealedDelivery String where
  get d := d.deliveryHash
  set d hash := { d with deliveryHash := hash }

def sealExternalSupervisorSealedDelivery : SealedDelivery → Except Err SealedDelivery :=
  sealWith deliveryHash (fun d =>
    d.schemaVersion = "ananke.independent-supervisor-sealed-handoff-delivery.v1" ∧
    validExternalSupervisorIdentifier d.deliveryID = true ∧ 1 ≤ d.attemptNumber ∧
    d.attemptNumber ≤ d.attemptCap ∧
    externalSupervisorOrderedTimes p d.issuedAt d.deliveryExpiresAt = true ∧
    notBefore p d.deadline d.deliveryExpiresAt = true ∧
    externalSupervisorHashes [d.channelBindingHash, d.moARoleGrantHash, d.nonceHash,
      d.predecessorEnvelopeHash, d.predecessorIdempotencyKeyHash, d.releaseApprovalHash,
      d.releaseAttestationHash, d.routeMappingHash, d.trustBundleHash] = true)
    p.deliveryDigest (.invalid "")

def receiptHash : Field ProtocolReceipt String where
  get r := r.receiptHash
  set r hash := { r with receiptHash := hash }

def sealExternalSupervisorProtocolReceipt : ProtocolReceipt → Except Err ProtocolReceipt :=
  sealWith receiptHash (fun r =>
    r.schemaVersion = "ananke.independent-supervisor-acceptance-receipt.v1" ∧
    validExternalSupervisorIdentifier r.receiptID = true ∧
    validExternalSupervisorIdentifier r.trustRootID = true ∧ 1 ≤ r.attemptNumber ∧
    externalSupervisorValidTime p r.issuedAt = true ∧
    externalSupervisorHashes [r.channelBindingHash, r.deliveryHash, r.envelopeHash, r.nonceHash,
      r.releaseApprovalHash, r.routeMappingHash, r.signerKeySPKISHA256] = true)
    p.receiptDigest (.invalid "")

def callbackHash : Field ProtocolCallback String where
  get c := c.callbackHash
  set c hash := { c with callbackHash := hash }

/-- The result is one that an execution ended with, or that no audit was run. -/
def ResultKnown (c : ProtocolCallback) : Prop :=
  c.resultSchemaVersion = "ananke.independent-supervisor-result.v1" ∧
      (c.terminalState = "completed" ∨ c.terminalState = "failed" ∨ c.terminalState = "cancelled") ∨
    c.resultSchemaVersion = "ananke.independent-supervisor-audit-not-run.v1" ∧
      c.terminalState = "waiting_for_human"

instance (c : ProtocolCallback) : Decidable (ResultKnown c) := inferInstanceAs (Decidable (_ ∨ _))

def sealExternalSupervisorProtocolCallback : ProtocolCallback → Except Err ProtocolCallback :=
  sealWith callbackHash (fun c =>
    c.schemaVersion = "ananke.independent-supervisor-callback.v1" ∧
    validExternalSupervisorIdentifier c.callbackID = true ∧
    validExternalSupervisorIdentifier c.trustRootID = true ∧ 1 ≤ c.attemptNumber ∧
    externalSupervisorValidTime p c.issuedAt = true ∧ ResultKnown c ∧
    externalSupervisorHashes [c.callbackChannelBindingHash, c.deliveryHash, c.envelopeHash,
      c.evidenceHash, c.nonceHash, c.receiptHash, c.routeMappingHash, c.signerKeySPKISHA256] =
      true) p.callbackDigest (.invalid "")

def authenticationSignatureHash : Field MessageAuth String where
  get a := a.signatureHash
  set a hash := { a with signatureHash := hash }

def sealExternalSupervisorMessageAuthentication : MessageAuth → Except Err MessageAuth :=
  sealWith authenticationSignatureHash (fun a =>
    a.schemaVersion = "ananke.local-trusted-supervisor-message-authentication.v1" ∧
    (a.messageType = .delivery ∨ a.messageType = .receipt ∨ a.messageType = .callback ∨
      a.messageType = .cancellation) ∧
    externalSupervisorValidTime p a.issuedAt = true ∧
    externalSupervisorSignaturePattern a.signature = true ∧
    externalSupervisorHashes [a.messageHash, a.nonceHash, a.channelBindingHash, a.requestHash,
      a.signerKeySPKISHA256] = true) p.authenticationDigest (.invalid "")

def cancellationIdentityHash : Field Cancellation String where
  get c := c.cancellationIdentityHash
  set c hash := { c with cancellationIdentityHash := hash }

def sealExternalSupervisorCancellation : Cancellation → Except Err Cancellation :=
  sealWith cancellationIdentityHash (fun c =>
    c.schemaVersion = "ananke.remote-supervisor-cancellation.v1" ∧
    validExternalSupervisorIdentifier c.handoffID = true ∧ 1 ≤ c.attemptNumber ∧
    externalSupervisorHashes [c.envelopeHash, c.receiptIdentityHash] = true)
    p.cancellationDigest (.invalid "")

def acknowledgementHash : Field CancellationAcknowledgement String where
  get a := a.acknowledgementHash
  set a hash := { a with acknowledgementHash := hash }

def sealExternalSupervisorCancellationAcknowledgement :
    CancellationAcknowledgement → Except Err CancellationAcknowledgement :=
  sealWith acknowledgementHash (fun a =>
    a.schemaVersion = "ananke.local-trusted-supervisor-cancellation-acknowledgement.v1" ∧
    validExternalSupervisorIdentifier a.acknowledgementID = true ∧
    validExternalSupervisorIdentifier a.trustRootID = true ∧ 1 ≤ a.attemptNumber ∧
    externalSupervisorValidTime p a.issuedAt = true ∧
    externalSupervisorHashes [a.cancellationHash, a.deliveryHash, a.envelopeHash, a.receiptHash,
      a.channelBindingHash, a.nonceHash, a.signerKeySPKISHA256] = true)
    p.acknowledgementDigest (.invalid "")

def validateExternalSupervisorEnvelopeContent (e : Envelope) : Except Err Unit := do
  require (.invalid "") (e.schemaVersion = "ananke.remote-supervisor-sealed-launch-envelope.v1" ∧
      validExternalSupervisorIdentifier e.handoffID = true ∧ 1 ≤ e.attemptNumber ∧
      1 ≤ e.attemptCap ∧ e.attemptNumber ≤ e.attemptCap ∧
      e.evidenceSchemaVersion = "ananke.remote-supervisor-evidence.v1" ∧
      trimSpace e.repositoryIdentity ≠ "")
  require (.invalid "deadline") ((p.timeOf e.deadline).isSome = true)
  each (fun hash => require (.invalid "identity hash") (launchHashPattern hash = true))
    [e.idempotencyKeyHash, e.launchSpecHash, e.fenceBindingHash, e.routeMappingHash,
      e.sourceSnapshotHash, e.sourceManifestHash, e.supervisorArtifactSHA256, e.buildIdentityHash,
      e.releaseAttestationHash, e.releaseApprovalHash, e.evidenceContractHash]

def validateExternalSupervisorEnvelope (e : Envelope) : Except Err Unit := do
  validateExternalSupervisorEnvelopeContent p e
  require (.invalid "envelope hash") (launchHashPattern e.envelopeHash = true)
  require (.invalid "envelope self-hash")
    (e.envelopeHash = p.envelopeDigest { e with envelopeHash := "" })

def validateExternalSupervisorMessageAuthentication (v : MessageAuth)
    (messageType : MessageType) (messageHash nonceHash channelHash issuedAt : String) :
    Except Err Unit :=
  require (.invalid "") (sealExternalSupervisorMessageAuthentication p v = .ok v ∧
    v.messageType = messageType ∧ v.messageHash = messageHash ∧
    v.nonceHash = nonceHash ∧ v.channelBindingHash = channelHash ∧
    v.issuedAt = issuedAt)

/-- Every record of the chain is sealed. -/
def ChainSealed (chain : AuthorizationChain) : Prop :=
  sealExternalSupervisorReleaseAttestation p chain.releaseAttestation =
    .ok chain.releaseAttestation ∧
  sealExternalSupervisorReleaseApproval p chain.releaseApproval = .ok chain.releaseApproval ∧
  sealExternalSupervisorMoARoleGrant p chain.moARoleGrant = .ok chain.moARoleGrant ∧
  ∀ sig ∈ [chain.releaseAttestationSignature, chain.releaseApprovalSignature,
      chain.moARoleGrantSignature],
    sealExternalSupervisorDetachedSignature p sig = .ok sig

instance (chain : AuthorizationChain) : Decidable (ChainSealed p chain) :=
  inferInstanceAs (Decidable (_ ∧ _))

/-- The receipt, its delivery and its authorization tell of the envelope and of each other. -/
def ReceiptBinds (v : AuthReceipt) (env : Envelope) : Prop :=
  let att := v.authorization.releaseAttestation
  let approval := v.authorization.releaseApproval
  let grant := v.authorization.moARoleGrant
  let delivery := v.delivery
  let rcpt := v.receipt
  delivery.nonceHash ≠ rcpt.nonceHash ∧
  delivery.channelBindingHash ≠ rcpt.channelBindingHash ∧
  delivery.predecessorEnvelopeHash = env.envelopeHash ∧
  delivery.predecessorIdempotencyKeyHash = env.idempotencyKeyHash ∧
  delivery.attemptNumber = env.attemptNumber ∧
  delivery.attemptCap = env.attemptCap ∧ delivery.deadline = env.deadline ∧
  delivery.routeMappingHash = env.routeMappingHash ∧
  delivery.releaseAttestationHash = att.attestationHash ∧
  delivery.releaseApprovalHash = approval.approvalHash ∧
  delivery.moARoleGrantHash = grant.grantHash ∧
  att.attestationHash ≠ env.releaseAttestationHash ∧
  att.artifactSHA256 = env.supervisorArtifactSHA256 ∧
  att.buildIdentityHash = env.buildIdentityHash ∧
  att.routeMappingHash = env.routeMappingHash ∧
  approval.approvalHash ≠ env.releaseApprovalHash ∧
  approval.attestationHash = att.attestationHash ∧
  approval.routeMappingHash = env.routeMappingHash ∧
  grant.releaseAttestationHash = att.attestationHash ∧
  grant.releaseApprovalHash = approval.approvalHash ∧
  grant.routeMappingHash = env.routeMappingHash ∧
  rcpt.deliveryHash = delivery.deliveryHash ∧ rcpt.envelopeHash = env.envelopeHash ∧
  rcpt.attemptNumber = env.attemptNumber ∧
  rcpt.releaseApprovalHash = approval.approvalHash ∧
  rcpt.routeMappingHash = env.routeMappingHash

instance (v : AuthReceipt) (env : Envelope) : Decidable (ReceiptBinds v env) :=
  inferInstanceAs (Decidable (_ ∧ _))

def validateAuthenticatedExternalSupervisorReceipt (v : AuthReceipt)
    (env : Envelope) : Except Err Unit := do
  require (.invalid "")
    (v.schemaVersion = "ananke.local-trusted-supervisor-authenticated-receipt.v1")
  require (.invalid "") (ChainSealed p v.authorization)
  require (.invalid "") (sealExternalSupervisorSealedDelivery p v.delivery = .ok v.delivery)
  require (.invalid "") (sealExternalSupervisorProtocolReceipt p v.receipt = .ok v.receipt)
  validateExternalSupervisorMessageAuthentication p v.deliveryAuthentication .delivery
    v.delivery.deliveryHash v.delivery.nonceHash v.delivery.channelBindingHash
    v.delivery.issuedAt
  validateExternalSupervisorMessageAuthentication p v.receiptAuthentication .receipt
    v.receipt.receiptHash v.receipt.nonceHash v.receipt.channelBindingHash
    v.receipt.issuedAt
  require .conflict (ReceiptBinds v env)
  require (.invalid "") (notBefore p v.receipt.issuedAt v.delivery.issuedAt = true ∧
    externalSupervisorOrderedTimes p v.receipt.issuedAt v.delivery.deliveryExpiresAt = true)

/-- The callback tells of the envelope and of its receipt. -/
def CallbackBinds (cb : ProtocolCallback) (env : Envelope) (rcpt : AuthReceipt) : Prop :=
  cb.nonceHash ≠ rcpt.receipt.nonceHash ∧
  cb.callbackChannelBindingHash ≠ rcpt.receipt.channelBindingHash ∧
  cb.deliveryHash = rcpt.delivery.deliveryHash ∧
  cb.envelopeHash = env.envelopeHash ∧
  cb.receiptHash = rcpt.receipt.receiptHash ∧
  cb.routeMappingHash = env.routeMappingHash ∧
  cb.attemptNumber = env.attemptNumber

instance (cb : ProtocolCallback) (env : Envelope) (rcpt : AuthReceipt) :
    Decidable (CallbackBinds cb env rcpt) :=
  inferInstanceAs (Decidable (_ ∧ _))

def validateAuthenticatedExternalSupervisorCallback (v : AuthCallback)
    (env : Envelope) (rcpt : AuthReceipt) : Except Err Unit := do
  require (.invalid "")
    (v.schemaVersion = "ananke.local-trusted-supervisor-authenticated-callback.v1")
  require (.invalid "") (sealExternalSupervisorProtocolCallback p v.callback = .ok v.callback)
  validateExternalSupervisorMessageAuthentication p v.callbackAuthentication .callback
    v.callback.callbackHash v.callback.nonceHash v.callback.callbackChannelBindingHash
    v.callback.issuedAt
  require .conflict (CallbackBinds v.callback env rcpt)
  require (.invalid "") (notBefore p v.callback.issuedAt rcpt.receipt.issuedAt = true)

/-- The cancellation and its acknowledgement tell of the envelope and of the receipt. -/
def CancellationBinds (v : AuthCancellation) (env : Envelope) (rcpt : AuthReceipt) : Prop :=
  let cancel := v.cancellation
  let ack := v.acknowledgement
  cancel.handoffID = env.handoffID ∧
  cancel.envelopeHash = env.envelopeHash ∧
  cancel.receiptIdentityHash = rcpt.receipt.receiptHash ∧
  cancel.attemptNumber = env.attemptNumber ∧
  ack.cancellationHash = cancel.cancellationIdentityHash ∧
  ack.deliveryHash = rcpt.delivery.deliveryHash ∧ ack.envelopeHash = env.envelopeHash ∧
  ack.receiptHash = rcpt.receipt.receiptHash ∧ ack.attemptNumber = env.attemptNumber

instance (v : AuthCancellation) (env : Envelope)
    (rcpt : AuthReceipt) : Decidable (CancellationBinds v env rcpt) :=
  inferInstanceAs (Decidable (_ ∧ _))

/-- Unlike the receipt and the callback, the acknowledgement is not compared in time with
its predecessor. -/
def validateAuthenticatedExternalSupervisorCancellation (v : AuthCancellation)
    (env : Envelope) (rcpt : AuthReceipt) : Except Err Unit := do
  require (.invalid "")
    (v.schemaVersion = "ananke.local-trusted-supervisor-authenticated-cancellation.v1")
  require (.invalid "") (sealExternalSupervisorCancellation p v.cancellation = .ok v.cancellation)
  require (.invalid "") (sealExternalSupervisorCancellationAcknowledgement p v.acknowledgement =
      .ok v.acknowledgement)
  validateExternalSupervisorMessageAuthentication p v.acknowledgementAuthentication
    .cancellation v.acknowledgement.acknowledgementHash v.acknowledgement.nonceHash
    v.acknowledgement.channelBindingHash v.acknowledgement.issuedAt
  require .conflict (CancellationBinds v env rcpt)

end Ananke.ExternalSupervisor
