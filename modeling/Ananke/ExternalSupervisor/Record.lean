import Ananke.Launch.Record

/-! The records that the launching side and the external supervisor exchange. Each carries
the hash of its own content, and names its predecessors by their hashes. -/
namespace Ananke.ExternalSupervisor

open Launch

@[ext] structure Envelope where
  (schemaVersion handoffID idempotencyKeyHash launchSpecHash fenceBindingHash deadline : String)
  (attemptNumber attemptCap : Int)
  (routeMappingHash sourceSnapshotHash sourceManifestHash repositoryIdentity
    supervisorArtifactSHA256 buildIdentityHash releaseAttestationHash releaseApprovalHash
    evidenceContractHash evidenceSchemaVersion envelopeHash : String)
deriving DecidableEq

structure Cancellation where
  (schemaVersion handoffID envelopeHash receiptIdentityHash cancellationIdentityHash : String)
  attemptNumber : Int
deriving DecidableEq

structure DetachedSignature where
  (schemaVersion algorithm signerKeySPKISHA256 signature signatureHash : String)
deriving DecidableEq

structure ReleaseAttestation where
  (schemaVersion artifactSHA256 attestationHash attestorKeySPKISHA256 buildIdentityHash issuedAt
    notAfter releaseRootID routeMappingHash : String)
deriving DecidableEq

structure ReleaseApproval where
  (schemaVersion approvalHash approvalID approverKeySPKISHA256 approverRootID attestationHash
    decision issuedAt notAfter routeMappingHash : String)
deriving DecidableEq

structure MoARoleGrant where
  (schemaVersion grantHash grantID granteeRole grantorKeySPKISHA256 grantorRootID issuedAt
    notAfter releaseApprovalHash releaseAttestationHash routeMappingHash : String)
deriving DecidableEq

structure AuthorizationChain where
  releaseAttestation : ReleaseAttestation
  releaseAttestationSignature : DetachedSignature
  releaseApproval : ReleaseApproval
  releaseApprovalSignature : DetachedSignature
  moARoleGrant : MoARoleGrant
  moARoleGrantSignature : DetachedSignature
deriving DecidableEq

structure SealedDelivery where
  schemaVersion : String
  (attemptCap attemptNumber : Int)
  (channelBindingHash deadline deliveryExpiresAt deliveryHash deliveryID issuedAt
    moARoleGrantHash nonceHash predecessorEnvelopeHash predecessorIdempotencyKeyHash
    releaseApprovalHash releaseAttestationHash routeMappingHash trustBundleHash : String)
deriving DecidableEq

structure ProtocolReceipt where
  schemaVersion : String
  attemptNumber : Int
  (channelBindingHash deliveryHash envelopeHash issuedAt nonceHash receiptHash receiptID
    releaseApprovalHash routeMappingHash signerKeySPKISHA256 trustRootID : String)
deriving DecidableEq

structure ProtocolCallback where
  schemaVersion : String
  attemptNumber : Int
  (callbackChannelBindingHash callbackHash callbackID deliveryHash envelopeHash evidenceHash
    issuedAt nonceHash receiptHash resultSchemaVersion routeMappingHash signerKeySPKISHA256
    terminalState trustRootID : String)
deriving DecidableEq

inductive MessageType
  | delivery
  | receipt
  | callback
  | cancellation
  /-- Any other text. -/
  | other (text : String)
deriving DecidableEq

structure MessageAuth where
  schemaVersion : String
  messageType : MessageType
  (messageHash nonceHash channelBindingHash requestHash issuedAt signerKeySPKISHA256 signature
    signatureHash : String)
deriving DecidableEq

structure AuthReceipt where
  schemaVersion : String
  authorization : AuthorizationChain
  delivery : SealedDelivery
  deliveryAuthentication : MessageAuth
  receipt : ProtocolReceipt
  receiptAuthentication : MessageAuth
deriving DecidableEq

structure AuthCallback where
  schemaVersion : String
  callback : ProtocolCallback
  callbackAuthentication : MessageAuth
deriving DecidableEq

structure CancellationAcknowledgement where
  (schemaVersion acknowledgementID acknowledgementHash cancellationHash deliveryHash envelopeHash
    receiptHash : String)
  attemptNumber : Int
  (channelBindingHash nonceHash issuedAt signerKeySPKISHA256 trustRootID : String)
deriving DecidableEq

structure AuthCancellation where
  schemaVersion : String
  cancellation : Cancellation
  acknowledgement : CancellationAcknowledgement
  acknowledgementAuthentication : MessageAuth
deriving DecidableEq

inductive Err
  | invalid (detail : String)
  | conflict
  | notFound
  | fence (cause : Option Launch.Err)
  | deadline
  | attempt
  | receiptRequired
  | trustRoot
  | launch (cause : Launch.Err)
  /-- The database refused the statement. -/
  | sql (action : String)
  | other (text : String)
deriving DecidableEq

/-- What the handoff takes from elsewhere: the SHA-256 of the canonical JSON of each record
without its own hash, and the codec of the records that are stored. -/
structure Primitives (β : Type) extends Launch.Primitives β where
  fenceBindingDigest : LaunchFence → String
  envelopeDigest : Envelope → String
  signatureDigest : DetachedSignature → String
  attestationDigest : ReleaseAttestation → String
  approvalDigest : ReleaseApproval → String
  grantDigest : MoARoleGrant → String
  deliveryDigest : SealedDelivery → String
  receiptDigest : ProtocolReceipt → String
  callbackDigest : ProtocolCallback → String
  authenticationDigest : MessageAuth → String
  cancellationDigest : Cancellation → String
  acknowledgementDigest : CancellationAcknowledgement → String
  -- canonical JSON and the strict decoder
  encodeEnvelope : Envelope → β
  decodeEnvelope : β → Option Envelope
  encodeReceipt : AuthReceipt → β
  decodeReceipt : β → Option AuthReceipt
  encodeCallback : AuthCallback → β
  decodeCallback : β → Option AuthCallback
  encodeCancel : AuthCancellation → β
  decodeCancel : β → Option AuthCancellation

/-- The numbers of a receipt are integers that canonical JSON, whose numbers are 64-bit
floats, carries unchanged. -/
def AuthReceipt.Exact (r : AuthReceipt) : Prop :=
  ∀ n ∈ [r.delivery.attemptCap, r.delivery.attemptNumber, r.receipt.attemptNumber],
    -2 ^ 53 ≤ n ∧ n ≤ 2 ^ 53

/-- A stored receipt is read back as it was. -/
def Primitives.Lawful {β : Type} (p : Primitives β) : Prop :=
  ∀ r : AuthReceipt, r.Exact → p.decodeReceipt (p.encodeReceipt r) = some r

end Ananke.ExternalSupervisor
