import Ananke.ExternalSupervisor.Client
import Ananke.ExternalSupervisor.Instance

/-! A trust bundle for the handoff of the instance, and the client that accepts it. Every
signature is good. -/
namespace Ananke.ExternalSupervisor.Instance

open Launch Validation Text List
open TrustedSupervisor.Instance (digits sha sha_ne clockText)

def crypto : Crypto Unit where
  rotationDigest _ := sha 14
  revocationDigest _ := sha 15
  certificateDigest _ := sha 16
  bundleDigest _ := sha 0
  parsePublicKey _ _ := .ok ()
  verify _ _ _ := true

def publicKey : String := String.ofList ("ed25519:".toList ++ digits 64 0)

@[simp] theorem publicKeyPattern_publicKey : externalSupervisorPublicKeyPattern publicKey = true :=
  hexAfter_digits "ed25519:" 64 0

@[simp] theorem time_clockText (now : Nat) : prims.timeOrZero (clockText now) = (now : Int) := by
  simp [Primitives.timeOrZero]

@[simp] theorem validAt_clockText (m n k : Nat) :
    recordValidAt prims (clockText m) (clockText n) (k : Int) = decide (m ≤ k ∧ k < n) := by
  simp [recordValidAt]

def activeRoot : TrustRootKey := ⟨name, publicKey, sha 0, clockText 1, clockText 90⟩

/-- The second root takes over at 80, when the first is revoked. -/
def roots : TrustRootLifecycle where
  active := activeRoot
  successor := ⟨"two", publicKey, sha 0, clockText 80, clockText 99⟩
  rotation := ⟨"ananke.independent-supervisor-trust-root-rotation.v1", sha 0, name, "two",
    sha 0, clockText 80, clockText 90, sha 14⟩
  rotationSignature := detached
  revocation := ⟨"ananke.independent-supervisor-trust-root-revocation.v1", name, "two",
    clockText 80, "key_compromise_or_policy_withdrawal", sha 15⟩
  revocationSignature := detached

def cert (role : String) : SignedCertificate where
  certificate := ⟨"ananke.independent-supervisor-signing-certificate.v1", role, sha 0, publicKey,
    name, clockText 1, clockText 90, sha 16⟩
  signature := detached

def bundle : TrustBundle where
  schemaVersion := "ananke.independent-supervisor-trust-bundle.v1"
  trustBundleHash := sha 0
  releaseRoots := roots
  approvalRoots := roots
  moARoots := roots
  releaseAttestor := cert "release_attestor"
  releaseApprover := cert "release_approver"
  moAGrantor := cert "moa_grantor"
  supervisorPeer := cert "independent_supervisor_protocol_adapter"
  authorization := chain

def predecessor : PredecessorReleaseIdentity := ⟨sha 0, sha 0, sha 0, sha 0⟩

def client : Client := ⟨⟨bundle, some predecessor⟩, none⟩

theorem verifySignature_ok (v : Signed) :
    verifyDetachedSignature prims crypto () (sha 0) v detached = .ok () := by
  simp only [verifyDetachedSignature, ok_iff]
  exact ⟨(), ⟨sealed_detached, rfl⟩, rfl⟩

variable {role : String}

theorem sealed_certificate (hrole : identifierPattern role = true) :
    sealExternalSupervisorSigningCertificate prims crypto (cert role).certificate =
      .ok (cert role).certificate := by
  unfold cert
  refine sealWith_eq_ok.mpr ⟨?_, rfl⟩
  simp [certificateHash, validExternalSupervisorIdentifier, hrole]

section

variable {κ : Type} {c : Crypto κ} {k k' : κ} {key key' spki spki' : String}
  {sig signature' : DetachedSignature} {life : TrustRootLifecycle}
  {cert : String → SignedCertificate}

theorem validateRootLifecycle_of (hrot : ∀ r, c.rotationDigest r = sha 14)
    (hrevocation : ∀ r, c.revocationDigest r = sha 15) (hspki : launchHashPattern spki' = true)
    (hkey : c.parsePublicKey key spki = .ok k) (hkey' : c.parsePublicKey key' spki' = .ok k')
    (hsigned : ∀ v, verifyDetachedSignature prims c k spki v sig = .ok ())
    (hsigned' : ∀ v, verifyDetachedSignature prims c k' spki' v signature' = .ok ()) :
    validateRootLifecycle prims c ⟨⟨name, key, spki, clockText 1, clockText 90⟩,
        ⟨"two", key', spki', clockText 80, clockText 99⟩,
        ⟨"ananke.independent-supervisor-trust-root-rotation.v1", sha 0, name, "two", spki',
          clockText 80, clockText 90, sha 14⟩, sig,
        ⟨"ananke.independent-supervisor-trust-root-revocation.v1", name, "two", clockText 80,
          "key_compromise_or_policy_withdrawal", sha 15⟩, signature'⟩ = .ok () := by
  have htwo : identifierPattern "two" = true := by decide
  have hne : name ≠ "two" := by decide
  simp only [validateRootLifecycle, validateTrustRootKey, bind_eq_ok, require_eq_ok, mapError_eq_ok]
  refine ⟨k, ⟨(), identifierPattern_name, (), by simp, hkey⟩, k', ⟨(), htwo, (), by simp, hkey'⟩,
    (), by simp, (), sealWith_eq_ok.mpr ⟨?_, ?_⟩, (), hsigned _, (),
    ⟨sealWith_eq_ok.mpr ⟨?_, ?_⟩, trivial, trivial⟩, hsigned' _⟩
  · simp [rotationHash, validExternalSupervisorIdentifier, externalSupervisorHashes, htwo, hne,
      hspki]
  · simp [rotationHash, hrot]
  · simp [revocationHash, validExternalSupervisorIdentifier, htwo]
  · simp [revocationHash, hrevocation]

/-- A bundle with the same roots everywhere and a certificate for each role. -/
theorem newEd25519Verifier_of {chain : AuthorizationChain}
    {want : Option PredecessorReleaseIdentity} (hdigest : ∀ b, c.bundleDigest b = sha 0)
    (hexp : want.all validPredecessorReleaseIdentity = true)
    (hroots : validateRootLifecycle prims c life = .ok ())
    (hcert : ∀ role, identifierPattern role = true →
      validateBundleCertificate prims c role (cert role).certificate = .ok ()) :
    let bundle : TrustBundle := ⟨"ananke.independent-supervisor-trust-bundle.v1", sha 0,
      life, life, life, cert "release_attestor",
      cert "release_approver", cert "moa_grantor",
      cert "independent_supervisor_protocol_adapter", chain⟩
    newEd25519Verifier prims c bundle want = .ok ⟨bundle, want⟩ := by
  simp only [newEd25519Verifier, bind_eq_ok, require_eq_ok, each_eq_ok, pure_eq_ok]
  refine ⟨(), require_of ⟨rfl, hdigest _, launch_sha 0⟩, (), hexp, (), ?_, (), ?_, trivial⟩
  · simp only [forall_mem_cons, mapError_eq_ok]
    exact ⟨hroots, hroots, hroots, fun _ h => absurd h not_mem_nil⟩
  · simp only [forall_mem_cons]
    exact ⟨hcert _ (by decide), hcert _ (by decide +kernel),
      hcert _ (by decide), hcert _ (by decide +kernel),
      fun _ h => absurd h not_mem_nil⟩

end

theorem validateRootLifecycle_ok : validateRootLifecycle prims crypto roots = .ok () :=
  validateRootLifecycle_of (fun _ => rfl) (fun _ => rfl) (launch_sha 0) rfl rfl
    verifySignature_ok verifySignature_ok

theorem newClient_ok : newClient prims crypto bundle predecessor none = .ok client := by
  have hver : newEd25519Verifier prims crypto bundle (some predecessor) = .ok client.verifier := by
    refine newEd25519Verifier_of (fun _ => rfl) ?_ validateRootLifecycle_ok fun role hrole => ?_
    · simp [validPredecessorReleaseIdentity, predecessor]
    · simp only [validateBundleCertificate, bind_eq_ok, require_eq_ok, mapError_eq_ok]
      exact ⟨(), rfl, (), rfl, sealed_certificate hrole⟩
  simp only [newClient, bind_eq_ok, pure_eq_ok]
  exact ⟨_, hver, rfl⟩

variable {time : Nat}

theorem rootAt_ok (htime : 1 ≤ time ∧ time < 80) :
    rootAt prims crypto roots (time : Int) = .ok (activeRoot, ()) := by
  have hselected : (if (time : Int) < prims.timeOrZero roots.successor.validFrom
      then roots.active else roots.successor) = activeRoot := by
    refine if_pos ?_
    rw [show roots.successor.validFrom = clockText 80 from rfl, time_clockText]
    exact_mod_cast htime.2
  simp only [rootAt, hselected, ok_iff]
  refine ⟨(), ?_, (), ?_, (), rfl, trivial⟩
  · simp [activeRoot]
    omega
  · intro _
    rw [show roots.revocation.effectiveAt = clockText 80 from rfl, time_clockText]
    exact_mod_cast htime.2

section

variable (hrole : identifierPattern role = true) (htime : 1 ≤ time ∧ time < 80)
include hrole htime

theorem verifyCertificateAt_ok :
    verifyCertificateAt prims crypto (cert role) role activeRoot () (time : Int) = .ok () := by
  simp only [verifyCertificateAt, ok_iff]
  refine ⟨(), ⟨rfl, rfl, ?_⟩, (), sealed_certificate hrole, (), verifySignature_ok _, rfl⟩
  rw [cert, validAt_clockText]
  exact decide_eq_true ⟨htime.1, by omega⟩

theorem chainCheck_ok {record : Signed} : ChainCheck.run prims crypto
      ⟨roots, name, cert role, role, record, detached, sha 0⟩ (time : Int) = .ok () := by
  simp only [ChainCheck.run, ok_iff]
  exact ⟨_, rootAt_ok htime, (), rfl, (), verifyCertificateAt_ok hrole htime, (), rfl,
    verifySignature_ok _⟩

end

theorem authorizationAt_ok (htime : 1 ≤ time ∧ time < 80) :
    verifyAuthorizationAt prims crypto client.verifier false envelope chain (time : Int) =
      .ok () := by
  have hvalid : recordValidAt prims (clockText 1) (clockText 90) (time : Int) = true := by
    rw [validAt_clockText]
    exact decide_eq_true ⟨htime.1, by omega⟩
  have hattest : sha 0 ≠ sha 5 := sha_ne (by decide)
  have happr : sha 0 ≠ sha 6 := sha_ne (by decide)
  have hchecks : each (ChainCheck.run prims crypto · (time : Int)) (chainChecks bundle chain) =
      .ok () := by
    simp only [each_eq_ok, chainChecks, forall_mem_cons]
    exact ⟨chainCheck_ok (by decide) htime, chainCheck_ok (by decide +kernel) htime,
      chainCheck_ok (by decide) htime, fun _ h => absurd h not_mem_nil⟩
  simp only [verifyAuthorizationAt, verifyAuthorizationChainAt, verificationDeadlineError, ok_iff]
  exact ⟨(), trivial, (), ⟨validateEnvelope_ok, rfl, .inr rfl⟩, (),
    ⟨rfl, rfl, rfl, hattest, happr⟩, (), trivial, (), rfl, (), by omega, (),
    sealed_attestation, (), sealed_approval, (), sealed_grant, (), ⟨rfl, rfl, rfl, rfl, rfl, rfl⟩,
    (), ⟨hvalid, hvalid, hvalid⟩, (), ⟨le_refl _, le_refl _⟩, hchecks⟩

theorem verifyPeerMessage_ok (messageType : MessageType) (message nonce channel time : Nat)
    (htype : messageType = .delivery ∨ messageType = .receipt ∨ messageType = .callback ∨
      messageType = .cancellation) (htime : 1 ≤ time ∧ time < 80) :
    verifyPeerMessage prims crypto client false messageType (sha message) (sha nonce)
      (sha channel) (clockText time)
      (authentication messageType (sha message) (sha nonce) (sha channel)
        (clockText time)) = .ok () := by
  have hseal := sealed_auth messageType message nonce channel time htype
  rw [validateExternalSupervisorMessageAuthentication, require_eq_ok] at hseal
  simp only [verifyPeerMessage, verificationDeadlineError, ok_iff]
  exact ⟨(), trivial, (), ⟨hseal.1, rfl, rfl, rfl, rfl, rfl, rfl⟩, time, timeOf_clockText time, _,
    rootAt_ok htime, (), verifyCertificateAt_ok (by decide) htime, rfl⟩

theorem requireReleaseRoot_ok (reason : String) (htime : 1 ≤ time ∧ time < 80) :
    requireReleaseRoot prims crypto client (time : Int) name reason = .ok () := by
  simp only [requireReleaseRoot, ok_iff]
  exact ⟨_, rootAt_ok htime, rfl⟩

theorem verifyReceipt_ok (runHooks : Bool) :
    verifyReceipt prims crypto client false envelope receipt runHooks = .ok () := by
  have hdel := verifyPeerMessage_ok .delivery 8 21 20 4 (by simp) (by decide)
  have hrec := verifyPeerMessage_ok .receipt 9 23 22 6 (by simp) (by decide)
  have hbound : ReceiptBound prims client receipt envelope :=
    ⟨sealed_delivery, sealed_protocolReceipt, rfl, rfl, rfl, rfl, rfl, rfl, rfl, rfl, rfl, rfl, rfl,
      rfl, rfl, rfl, rfl⟩
  have hhook (messageType : MessageType) (hash : String) (time : Int) :
      runHook client runHooks messageType hash time = .ok () := require_of fun _ => rfl
  simp only [verifyReceipt, verificationDeadlineError, ok_iff]
  exact ⟨(), trivial, (), ⟨rfl, rfl, rfl⟩, (), hbound, (4 : Nat), timeOf_clockText 4, (6 : Nat),
    timeOf_clockText 6, (60 : Nat), timeOf_clockText 60, (), by decide, (),
    authorizationAt_ok (by decide), (),
    authorizationAt_ok (by decide), (), hdel, (), hrec, (),
    requireReleaseRoot_ok _ (by decide), (), hhook _ _ _, hhook _ _ _⟩

variable {issuedAt : Nat}

theorem verifyCancellation_ok (runHooks : Bool) (htime : 1 ≤ issuedAt ∧ issuedAt < 80) :
    verifyCancellation prims crypto client false envelope receipt (acknowledged issuedAt)
      runHooks = .ok () := by
  have hmessage := verifyPeerMessage_ok .cancellation 13 27 26 issuedAt (by simp) htime
  simp only [verifyCancellation, verificationDeadlineError, ok_iff]
  exact ⟨(), trivial, (), verifyReceipt_ok false, (), ⟨rfl, sealed_cancel issuedAt,
    sealed_ack issuedAt, ⟨rfl, rfl, rfl, rfl, rfl, rfl, rfl, rfl, rfl⟩, rfl⟩, issuedAt,
    timeOf_clockText issuedAt, 1000, timeOf_deadline, (), by omega, (),
    authorizationAt_ok htime, (), hmessage, (), requireReleaseRoot_ok _ htime,
    require_of fun _ => rfl⟩

/-- What the client makes of the messages at 6, as the store's authenticator. -/
def peer : Authenticator :=
  client.authenticator prims crypto false (6 : Nat)

theorem peer_envelope : peer.verifyExternalSupervisorEnvelope envelope = true := by
  have h : verifyAuthorizationAt prims crypto client.verifier false envelope
      client.bundle.authorization ((6 : Nat) : Int) = .ok () :=
    authorizationAt_ok (by decide)
  simp only [peer, Client.authenticator, h]
  rfl

theorem peer_receipt : peer.verifyExternalSupervisorReceipt envelope receipt = true := by
  simp only [peer, Client.authenticator, verifyReceipt_ok]
  rfl

theorem peer_cancellation (htime : 1 ≤ issuedAt ∧ issuedAt < 80) :
    peer.verifyExternalSupervisorCancellation envelope receipt (acknowledged issuedAt) = true := by
  simp only [peer, Client.authenticator, verifyCancellation_ok false htime]
  rfl

end Ananke.ExternalSupervisor.Instance
