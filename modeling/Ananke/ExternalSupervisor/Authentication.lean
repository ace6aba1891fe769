import Ananke.ExternalSupervisor.Seal

/-! Verification from pinned public roots: each root has an active key, a successor and a
revocation, and signs the certificates that sign the records of an authorization chain. -/
namespace Ananke.ExternalSupervisor

open Launch Text Validation

structure TrustRootKey where
  (rootID publicKey spkiSHA256 validFrom notAfter : String)

structure RootRotation where
  (schemaVersion crossSignatureReferenceHash oldRootID newRootID newRootSPKISHA256
    newRootValidFrom oldRootNotAfter rotationHash : String)
deriving DecidableEq

structure RootRevocation where
  (schemaVersion revokedRootID issuerRootID effectiveAt revocationReasonClass revocationHash
    : String)
deriving DecidableEq

structure TrustRootLifecycle where
  (active successor : TrustRootKey)
  rotation : RootRotation
  rotationSignature : DetachedSignature
  revocation : RootRevocation
  revocationSignature : DetachedSignature

structure SigningCertificate where
  (schemaVersion role subjectKeySPKISHA256 subjectPublicKey issuerRootID issuedAt notAfter
    certificateHash : String)
deriving DecidableEq

structure SignedCertificate where
  certificate : SigningCertificate
  signature : DetachedSignature

structure TrustBundle where
  (schemaVersion trustBundleHash : String)
  (releaseRoots approvalRoots moARoots : TrustRootLifecycle)
  (releaseAttestor releaseApprover moAGrantor supervisorPeer : SignedCertificate)
  authorization : AuthorizationChain

structure PredecessorReleaseIdentity where
  (supervisorArtifactSHA256 buildIdentityHash releaseAttestationHash releaseApprovalHash : String)
deriving DecidableEq

/-- A record under a signature. -/
inductive Signed
  | rotation (r : RootRotation)
  | revocation (r : RootRevocation)
  | certificate (c : SigningCertificate)
  | attestation (a : ReleaseAttestation)
  | approval (a : ReleaseApproval)
  | grant (g : MoARoleGrant)
  /-- Without its signature and the hash of it. -/
  | message (m : MessageAuth)

/-- The hashes of the trust records, and the signature scheme with its keys. -/
structure Crypto (κ : Type) where
  rotationDigest : RootRotation → String
  revocationDigest : RootRevocation → String
  certificateDigest : SigningCertificate → String
  bundleDigest : TrustBundle → String
  /-- The key that a text encodes, where its hash is the expected one. -/
  parsePublicKey : String → String → Except String κ
  /-- The text decodes to a signature of the record's canonical JSON by this key. -/
  verify : κ → Signed → String → Bool

variable {β κ : Type} (p : Primitives β) (c : Crypto κ)

/-- `time.Parse` where the error is ignored: the zero time. -/
def Primitives.timeOrZero (text : String) : Int := (p.timeOf text).getD 0

def rotationHash : Field RootRotation String where
  get r := r.rotationHash
  set r hash := { r with rotationHash := hash }

def sealExternalSupervisorRootRotation : RootRotation → Except Err RootRotation :=
  sealWith rotationHash (fun r =>
    r.schemaVersion = "ananke.independent-supervisor-trust-root-rotation.v1" ∧
    validExternalSupervisorIdentifier r.oldRootID = true ∧
    validExternalSupervisorIdentifier r.newRootID = true ∧ r.oldRootID ≠ r.newRootID ∧
    externalSupervisorHashes [r.crossSignatureReferenceHash, r.newRootSPKISHA256] = true ∧
    externalSupervisorOrderedTimes p r.newRootValidFrom r.oldRootNotAfter = true)
    c.rotationDigest (.invalid "")

def revocationHash : Field RootRevocation String where
  get r := r.revocationHash
  set r hash := { r with revocationHash := hash }

def sealExternalSupervisorRootRevocation : RootRevocation → Except Err RootRevocation :=
  sealWith revocationHash (fun r =>
    r.schemaVersion = "ananke.independent-supervisor-trust-root-revocation.v1" ∧
    validExternalSupervisorIdentifier r.revokedRootID = true ∧
    validExternalSupervisorIdentifier r.issuerRootID = true ∧
    r.revocationReasonClass = "key_compromise_or_policy_withdrawal" ∧
    externalSupervisorValidTime p r.effectiveAt = true) c.revocationDigest (.invalid "")

def certificateHash : Field SigningCertificate String where
  get r := r.certificateHash
  set r hash := { r with certificateHash := hash }

def sealExternalSupervisorSigningCertificate : SigningCertificate → Except Err SigningCertificate :=
  sealWith certificateHash (fun r =>
    r.schemaVersion = "ananke.independent-supervisor-signing-certificate.v1" ∧
    validExternalSupervisorIdentifier r.role = true ∧
    validExternalSupervisorIdentifier r.issuerRootID = true ∧
    launchHashPattern r.subjectKeySPKISHA256 = true ∧
    externalSupervisorPublicKeyPattern r.subjectPublicKey = true ∧
    externalSupervisorOrderedTimes p r.issuedAt r.notAfter = true)
    c.certificateDigest (.invalid "")

/-- The bundle carries its own hash. What it holds is validated by the verifier. -/
def validateExternalSupervisorTrustBundle (bundle : TrustBundle) : Except Err Unit :=
  require (.invalid "trust bundle")
    (bundle.schemaVersion = "ananke.independent-supervisor-trust-bundle.v1" ∧
      c.bundleDigest { bundle with trustBundleHash := "" } = bundle.trustBundleHash ∧
      launchHashPattern bundle.trustBundleHash = true)

def recordValidAt (issuedAt notAfter : String) (time : Int) : Bool :=
  match p.timeOf issuedAt, p.timeOf notAfter with
  | some issued, some expiry => issued ≤ time && time < expiry
  | _, _ => false

def validateTrustRootKey (root : TrustRootKey) : Except String κ := do
  require "invalid root ID" (protocolIdentifierPattern root.rootID = true)
  require "invalid root validity"
    (externalSupervisorOrderedTimes p root.validFrom root.notAfter = true)
  c.parsePublicKey root.publicKey root.spkiSHA256

def verifyDetachedSignature (publicKey : κ) (expectedSPKI : String) (v : Signed)
    (sig : DetachedSignature) : Except String Unit := do
  require "detached signature metadata" (sealExternalSupervisorDetachedSignature p sig = .ok sig ∧
      sig.signerKeySPKISHA256 = expectedSPKI)
  require "detached signature verification" (c.verify publicKey v sig.signature = true)

def validateRootLifecycle (life : TrustRootLifecycle) : Except String Unit := do
  let activeKey ← validateTrustRootKey p c life.active
  let successorKey ← validateTrustRootKey p c life.successor
  require "invalid successor overlap or binding"
    (p.timeOrZero life.successor.validFrom < p.timeOrZero life.active.notAfter ∧
      life.rotation.oldRootID = life.active.rootID ∧
      life.rotation.newRootID = life.successor.rootID ∧
      life.rotation.newRootSPKISHA256 = life.successor.spkiSHA256 ∧
      life.rotation.newRootValidFrom = life.successor.validFrom ∧
      life.rotation.oldRootNotAfter = life.active.notAfter)
  require "invalid rotation self hash"
    (sealExternalSupervisorRootRotation p c life.rotation = .ok life.rotation)
  (verifyDetachedSignature p c activeKey life.active.spkiSHA256 (.rotation life.rotation)
    life.rotationSignature).mapError fun _ => "invalid cross-signed rotation"
  require "invalid revocation binding"
    (sealExternalSupervisorRootRevocation p c life.revocation = .ok life.revocation ∧
      life.revocation.revokedRootID = life.active.rootID ∧
      life.revocation.issuerRootID = life.successor.rootID)
  (verifyDetachedSignature p c successorKey life.successor.spkiSHA256
    (.revocation life.revocation) life.revocationSignature).mapError
      fun _ => "invalid signed revocation"

def validPredecessorReleaseIdentity (ident : PredecessorReleaseIdentity) : Bool :=
  [ident.supervisorArtifactSHA256, ident.buildIdentityHash, ident.releaseAttestationHash,
    ident.releaseApprovalHash].all protocolHashPattern

def predecessorReleaseIdentityFromEnvelope (env : Envelope) : PredecessorReleaseIdentity :=
  ⟨env.supervisorArtifactSHA256, env.buildIdentityHash, env.releaseAttestationHash,
    env.releaseApprovalHash⟩

inductive ClientErr
  | authentication (reason : String)
  | protocol (reason : String)
  | deadline

structure Ed25519Verifier where
  bundle : TrustBundle
  /-- The predecessor that an envelope has to name, if one is expected. -/
  expectedPredecessor : Option PredecessorReleaseIdentity

def validateBundleCertificate (role : String) (cert : SigningCertificate) :
    Except ClientErr Unit := do
  require (.authentication "certificate role mismatch") (cert.role = role)
  let _ ← (c.parsePublicKey cert.subjectPublicKey
    cert.subjectKeySPKISHA256).mapError fun _ => .authentication "certificate public key"
  require (.authentication "certificate self hash")
    (sealExternalSupervisorSigningCertificate p c cert = .ok cert)

def newEd25519Verifier (bundle : TrustBundle) (want : Option PredecessorReleaseIdentity) :
    Except ClientErr Ed25519Verifier := do
  require (.authentication "invalid trust bundle")
    (validateExternalSupervisorTrustBundle c bundle = .ok ())
  require (.authentication "invalid predecessor release identity")
    (want.all validPredecessorReleaseIdentity = true)
  each (fun (name, life) => (validateRootLifecycle p c life).mapError fun e =>
      .authentication (name ++ " root lifecycle: " ++ e))
    [("release", bundle.releaseRoots), ("approval", bundle.approvalRoots), ("moa", bundle.moARoots)]
  each (fun (role, cert) =>
      validateBundleCertificate p c role (SignedCertificate.certificate cert))
    [("release_attestor", bundle.releaseAttestor), ("release_approver", bundle.releaseApprover),
      ("moa_grantor", bundle.moAGrantor),
      ("independent_supervisor_protocol_adapter", bundle.supervisorPeer)]
  pure ⟨bundle, want⟩

/-- The root whose turn it is, if it is valid then and not revoked. -/
def rootAt (life : TrustRootLifecycle) (time : Int) : Except String (TrustRootKey × κ) := do
  let selected := if time < p.timeOrZero life.successor.validFrom then life.active
    else life.successor
  require "root outside validity"
    (p.timeOrZero selected.validFrom ≤ time ∧ time < p.timeOrZero selected.notAfter)
  require "root revoked" (life.revocation.revokedRootID = selected.rootID →
    time < p.timeOrZero life.revocation.effectiveAt)
  let key ← c.parsePublicKey selected.publicKey selected.spkiSHA256
  pure (selected, key)

def verifyCertificateAt (cert : SignedCertificate) (role : String) (root : TrustRootKey)
    (rootKey : κ) (time : Int) : Except String κ := do
  require "certificate binding or validity"
    (cert.certificate.role = role ∧ cert.certificate.issuerRootID = root.rootID ∧
      recordValidAt p cert.certificate.issuedAt cert.certificate.notAfter time = true)
  require "certificate self hash" (sealExternalSupervisorSigningCertificate p c cert.certificate =
      .ok cert.certificate)
  verifyDetachedSignature p c rootKey root.spkiSHA256 (.certificate cert.certificate) cert.signature
  c.parsePublicKey cert.certificate.subjectPublicKey cert.certificate.subjectKeySPKISHA256

/-- One record of the chain, and who has to have signed it. -/
structure ChainCheck where
  lifecycle : TrustRootLifecycle
  rootID : String
  certificate : SignedCertificate
  role : String
  record : Signed
  signature : DetachedSignature
  signerSPKI : String

def ChainCheck.run (check : ChainCheck) (time : Int) : Except ClientErr Unit := do
  let (root, rootKey) ← (rootAt p c check.lifecycle time).mapError
    fun _ => ClientErr.authentication "authorization root"
  require (.authentication "authorization root") (root.rootID = check.rootID)
  let leafKey ← (verifyCertificateAt p c check.certificate check.role root rootKey time).mapError
    fun _ => ClientErr.authentication "authorization certificate"
  require (.authentication "authorization certificate")
    (check.certificate.certificate.subjectKeySPKISHA256 = check.signerSPKI)
  (verifyDetachedSignature p c leafKey check.signerSPKI check.record check.signature).mapError
    fun _ => .authentication "authorization signature"

/-- The records of the chain with the roots and certificates that the bundle has for them. -/
def chainChecks (bundle : TrustBundle) (chain : AuthorizationChain) : List ChainCheck :=
  [⟨bundle.releaseRoots, chain.releaseAttestation.releaseRootID, bundle.releaseAttestor,
      "release_attestor", .attestation chain.releaseAttestation, chain.releaseAttestationSignature,
      chain.releaseAttestation.attestorKeySPKISHA256⟩,
    ⟨bundle.approvalRoots, chain.releaseApproval.approverRootID, bundle.releaseApprover,
      "release_approver", .approval chain.releaseApproval, chain.releaseApprovalSignature,
      chain.releaseApproval.approverKeySPKISHA256⟩,
    ⟨bundle.moARoots, chain.moARoleGrant.grantorRootID, bundle.moAGrantor, "moa_grantor",
      .grant chain.moARoleGrant, chain.moARoleGrantSignature,
      chain.moARoleGrant.grantorKeySPKISHA256⟩]

/-- A context that ends while a verification runs only turns its acceptance into an error,
so here it has ended or it has not. -/
def verificationDeadlineError (ended : Bool) : Except ClientErr Unit :=
  require .deadline (ended = false)

def verifyAuthorizationChainAt (v : Ed25519Verifier) (ended : Bool) (chain : AuthorizationChain)
    (time : Int) : Except ClientErr Unit := do
  let att := chain.releaseAttestation
  let approval := chain.releaseApproval
  let grant := chain.moARoleGrant
  verificationDeadlineError ended
  require (.authentication "authorization chain input") (chain = v.bundle.authorization)
  require (.authentication "authorization time") (time ≠ 0)
  require (.authentication "attestation self hash")
    (sealExternalSupervisorReleaseAttestation p att = .ok att)
  require (.authentication "approval self hash")
    (sealExternalSupervisorReleaseApproval p approval = .ok approval)
  require (.authentication "MoA grant self hash")
    (sealExternalSupervisorMoARoleGrant p grant = .ok grant)
  require (.authentication "authorization transitive binding")
    (approval.attestationHash = att.attestationHash ∧
      approval.routeMappingHash = att.routeMappingHash ∧
      grant.releaseAttestationHash = att.attestationHash ∧
      grant.releaseApprovalHash = approval.approvalHash ∧
      grant.routeMappingHash = att.routeMappingHash ∧
      grant.granteeRole = "remote_supervisor_runner")
  require (.authentication "authorization validity")
    (recordValidAt p att.issuedAt att.notAfter time = true ∧
      recordValidAt p approval.issuedAt approval.notAfter time = true ∧
      recordValidAt p grant.issuedAt grant.notAfter time = true)
  require (.authentication "authorization order")
    (p.timeOrZero att.issuedAt ≤ p.timeOrZero approval.issuedAt ∧
      p.timeOrZero approval.issuedAt ≤ p.timeOrZero grant.issuedAt)
  each (ChainCheck.run p c · time) (chainChecks v.bundle chain)

def verifyAuthorizationAt (v : Ed25519Verifier) (ended : Bool) (env : Envelope)
    (chain : AuthorizationChain) (time : Int) : Except ClientErr Unit := do
  let att := chain.releaseAttestation
  verificationDeadlineError ended
  require (.authentication "authorization input")
    (validateExternalSupervisorEnvelope p env = .ok () ∧ chain = v.bundle.authorization ∧
      (v.expectedPredecessor = none ∨
        v.expectedPredecessor = some (predecessorReleaseIdentityFromEnvelope env)))
  require (.authentication "authorization predecessor binding")
    (env.supervisorArtifactSHA256 = att.artifactSHA256 ∧
      env.buildIdentityHash = att.buildIdentityHash ∧
      env.routeMappingHash = att.routeMappingHash ∧
      env.releaseAttestationHash ≠ att.attestationHash ∧
      env.releaseApprovalHash ≠ chain.releaseApproval.approvalHash)
  verifyAuthorizationChainAt p c v ended chain time

end Ananke.ExternalSupervisor
