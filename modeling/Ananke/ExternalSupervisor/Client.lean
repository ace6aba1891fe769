import Ananke.ExternalSupervisor.Authentication
import Ananke.ExternalSupervisor.Persistence

/-! What the client accepts of its peer: the delivery and the receipt, then the callback or
the acknowledgement of a cancellation. -/
namespace Ananke.ExternalSupervisor

open Launch Text Validation

variable {β κ : Type} (p : Primitives β) (c : Crypto κ)

structure Client where
  verifier : Ed25519Verifier
  /-- The operator's own check of a message, if one is configured. -/
  authentication : Option (MessageType → String → Int → Bool)

def newClient (bundle : TrustBundle) (want : PredecessorReleaseIdentity)
    (authentication : Option (MessageType → String → Int → Bool)) : Except ClientErr Client := do
  let verifier ← newEd25519Verifier p c bundle (some want)
  pure ⟨verifier, authentication⟩

variable (client : Client)

def Client.bundle : TrustBundle := client.verifier.bundle

def Client.peerSPKI : String :=
  client.bundle.supervisorPeer.certificate.subjectKeySPKISHA256

def verifyPeerMessage (ended : Bool) (messageType : MessageType)
    (messageHash nonceHash channelHash issuedAt : String) (evidence : MessageAuth) :
    Except ClientErr Unit := do
  verificationDeadlineError ended
  require (.authentication "message authentication binding")
    (sealExternalSupervisorMessageAuthentication p evidence = .ok evidence ∧
      evidence.messageType = messageType ∧ evidence.messageHash = messageHash ∧
      evidence.nonceHash = nonceHash ∧ evidence.channelBindingHash = channelHash ∧
      evidence.issuedAt = issuedAt ∧ evidence.signerKeySPKISHA256 = client.peerSPKI)
  let time ← expect (.authentication "message authentication time") (p.timeOf issuedAt)
  let (root, rootKey) ← (rootAt p c client.bundle.releaseRoots time).mapError
    fun _ => ClientErr.authentication "peer root"
  let peerKey ← (verifyCertificateAt p c client.bundle.supervisorPeer
    "independent_supervisor_protocol_adapter" root rootKey time).mapError
      fun _ => ClientErr.authentication "peer certificate"
  require (.authentication "peer possession signature")
    (c.verify peerKey (.message { evidence with signature := "", signatureHash := "" })
      evidence.signature = true)

def requireReleaseRoot (time : Int) (trustRootID reason : String) : Except ClientErr Unit := do
  let (root, _) ← (rootAt p c client.bundle.releaseRoots time).mapError
    fun _ => ClientErr.authentication reason
  require (.authentication reason) (trustRootID = root.rootID)

/-- The operator's check, where the verification is the one of a fresh message. -/
def runHook (runHooks : Bool) (messageType : MessageType) (messageHash : String)
    (issuedAt : Int) : Except ClientErr Unit :=
  require (.authentication "authentication hook") (runHooks = true →
    client.authentication.all (fun accepts => accepts messageType messageHash issuedAt) = true)

/-- The receipt and its delivery tell of the envelope and of the authorization. -/
def ReceiptBound (authenticated : AuthReceipt) (env : Envelope) : Prop :=
  let delivery := authenticated.delivery
  let rcpt := authenticated.receipt
  let chain := authenticated.authorization
  sealExternalSupervisorSealedDelivery p delivery = .ok delivery ∧
  sealExternalSupervisorProtocolReceipt p rcpt = .ok rcpt ∧
  delivery.predecessorEnvelopeHash = env.envelopeHash ∧
  delivery.predecessorIdempotencyKeyHash = env.idempotencyKeyHash ∧
  delivery.attemptNumber = env.attemptNumber ∧ delivery.attemptCap = env.attemptCap ∧
  delivery.deadline = env.deadline ∧ delivery.routeMappingHash = env.routeMappingHash ∧
  delivery.releaseAttestationHash = chain.releaseAttestation.attestationHash ∧
  delivery.releaseApprovalHash = chain.releaseApproval.approvalHash ∧
  delivery.moARoleGrantHash = chain.moARoleGrant.grantHash ∧
  rcpt.deliveryHash = delivery.deliveryHash ∧ rcpt.envelopeHash = env.envelopeHash ∧
  rcpt.attemptNumber = env.attemptNumber ∧
  rcpt.routeMappingHash = env.routeMappingHash ∧
  rcpt.releaseApprovalHash = chain.releaseApproval.approvalHash ∧
  rcpt.signerKeySPKISHA256 = client.peerSPKI

instance (client : Client) (authenticated : AuthReceipt) (env : Envelope) :
    Decidable (ReceiptBound p client authenticated env) :=
  inferInstanceAs (Decidable (_ ∧ _))

def verifyReceipt (client : Client) (ended : Bool) (env : Envelope)
    (authenticated : AuthReceipt) (runHooks : Bool) : Except ClientErr Unit := do
  let delivery := authenticated.delivery
  let rcpt := authenticated.receipt
  verificationDeadlineError ended
  require (.authentication "durable receipt trust bundle")
    (authenticated.schemaVersion = "ananke.local-trusted-supervisor-authenticated-receipt.v1" ∧
      authenticated.authorization = client.bundle.authorization ∧
      delivery.trustBundleHash = client.bundle.trustBundleHash)
  require (.authentication "receipt transitive binding") (ReceiptBound p client authenticated env)
  let deliveryAt ← expect (.authentication "receipt temporal order") (p.timeOf delivery.issuedAt)
  let receiptAt ← expect (.authentication "receipt temporal order") (p.timeOf rcpt.issuedAt)
  let expiresAt ← expect (.authentication "receipt temporal order")
    (p.timeOf delivery.deliveryExpiresAt)
  require (.authentication "receipt temporal order")
    (deliveryAt ≤ receiptAt ∧ receiptAt < expiresAt)
  verifyAuthorizationAt p c client.verifier ended env authenticated.authorization deliveryAt
  verifyAuthorizationAt p c client.verifier ended env authenticated.authorization receiptAt
  verifyPeerMessage p c client ended .delivery delivery.deliveryHash delivery.nonceHash
    delivery.channelBindingHash delivery.issuedAt authenticated.deliveryAuthentication
  verifyPeerMessage p c client ended .receipt rcpt.receiptHash rcpt.nonceHash
    rcpt.channelBindingHash rcpt.issuedAt authenticated.receiptAuthentication
  requireReleaseRoot p c client receiptAt rcpt.trustRootID "receipt release root"
  runHook client runHooks .delivery delivery.deliveryHash deliveryAt
  runHook client runHooks .receipt rcpt.receiptHash receiptAt

def verifyCallback (client : Client) (ended : Bool) (env : Envelope)
    (rcpt : AuthReceipt) (authenticated : AuthCallback) (runHooks : Bool) :
    Except ClientErr Unit := do
  let cb := authenticated.callback
  verificationDeadlineError ended
  verifyReceipt p c client ended env rcpt false
  require (.authentication "callback transitive binding")
    (authenticated.schemaVersion = "ananke.local-trusted-supervisor-authenticated-callback.v1" ∧
      sealExternalSupervisorProtocolCallback p cb = .ok cb ∧
      cb.deliveryHash = rcpt.delivery.deliveryHash ∧
      cb.envelopeHash = env.envelopeHash ∧
      cb.receiptHash = rcpt.receipt.receiptHash ∧
      cb.routeMappingHash = env.routeMappingHash ∧
      cb.attemptNumber = env.attemptNumber ∧
      cb.signerKeySPKISHA256 = client.peerSPKI)
  let callbackAt ← expect (.authentication "callback temporal order") (p.timeOf cb.issuedAt)
  let receiptAt ← expect (.authentication "callback temporal order")
    (p.timeOf rcpt.receipt.issuedAt)
  let deadline ← expect (.authentication "callback temporal order") (p.timeOf env.deadline)
  require (.authentication "callback temporal order")
    (receiptAt ≤ callbackAt ∧ callbackAt < deadline)
  verifyAuthorizationAt p c client.verifier ended env rcpt.authorization callbackAt
  verifyPeerMessage p c client ended .callback cb.callbackHash cb.nonceHash
    cb.callbackChannelBindingHash cb.issuedAt authenticated.callbackAuthentication
  requireReleaseRoot p c client callbackAt cb.trustRootID "callback release root"
  runHook client runHooks .callback cb.callbackHash callbackAt

/-- The time of the acknowledgement is compared with the deadline only. -/
def verifyCancellation (client : Client) (ended : Bool) (env : Envelope)
    (rcpt : AuthReceipt) (authenticated : AuthCancellation)
    (runHooks : Bool) : Except ClientErr Unit := do
  let ack := authenticated.acknowledgement
  verificationDeadlineError ended
  verifyReceipt p c client ended env rcpt false
  require (.authentication "cancellation transitive binding") (authenticated.schemaVersion =
        "ananke.local-trusted-supervisor-authenticated-cancellation.v1" ∧
      sealExternalSupervisorCancellation p authenticated.cancellation =
        .ok authenticated.cancellation ∧
      sealExternalSupervisorCancellationAcknowledgement p ack = .ok ack ∧
      CancellationBinds authenticated env rcpt ∧
      ack.signerKeySPKISHA256 = client.peerSPKI)
  let issuedAt ← expect (.authentication "cancellation time") (p.timeOf ack.issuedAt)
  let deadline ← expect (.authentication "cancellation time") (p.timeOf env.deadline)
  require (.authentication "cancellation time") (issuedAt < deadline)
  verifyAuthorizationAt p c client.verifier ended env rcpt.authorization issuedAt
  verifyPeerMessage p c client ended .cancellation ack.acknowledgementHash ack.nonceHash
    ack.channelBindingHash ack.issuedAt authenticated.acknowledgementAuthentication
  requireReleaseRoot p c client issuedAt ack.trustRootID "cancellation release root"
  runHook client runHooks .cancellation ack.acknowledgementHash issuedAt

/-- The client as the store's authenticator, at the client's time. -/
def Client.authenticator (client : Client) (ended : Bool) (now : Int) : Authenticator where
  verifyExternalSupervisorEnvelope env :=
    (verifyAuthorizationAt p c client.verifier ended env client.bundle.authorization now).isOk
  verifyExternalSupervisorReceipt env rcpt :=
    (verifyReceipt p c client ended env rcpt false).isOk
  verifyExternalSupervisorCallback env rcpt cb :=
    (verifyCallback p c client ended env rcpt cb false).isOk
  verifyExternalSupervisorCancellation env rcpt cancel :=
    (verifyCancellation p c client ended env rcpt cancel false).isOk

end Ananke.ExternalSupervisor
