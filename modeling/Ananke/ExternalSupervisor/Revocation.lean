import Ananke.ExternalSupervisor.PeerInstance

/-! A root is revoked by its name, and trusted by its key. After the revocation only the
successor can be selected, so the revoked key stays trusted exactly where the successor
has it too. -/
namespace Ananke.ExternalSupervisor

open Launch Text Validation List

variable {β κ : Type} {p : Primitives β} {c : Crypto κ}

/-- No signature is good for one record under two keys. -/
def Crypto.Exclusive (c : Crypto κ) : Prop :=
  ∀ k k' record sig, c.verify k record sig = true → c.verify k' record sig = true → k = k'

/-- The key of the root verifies the certificate. -/
def VerifiesUnder (c : Crypto κ) (root : TrustRootKey) (cert : SignedCertificate) : Prop :=
  ∃ key, c.parsePublicKey root.publicKey root.spkiSHA256 = .ok key ∧
    c.verify key (.certificate cert.certificate) cert.signature.signature = true

/-- What the verifier's validation says of the two roots of a lifecycle. -/
structure Rooted (p : Primitives β) (c : Crypto κ) (lifecycle : TrustRootLifecycle) : Prop where
  active : ∃ key, c.parsePublicKey lifecycle.active.publicKey lifecycle.active.spkiSHA256 = .ok key
  distinct : lifecycle.active.rootID ≠ lifecycle.successor.rootID
  revoked : lifecycle.revocation.revokedRootID = lifecycle.active.rootID

variable {life : TrustRootLifecycle}

theorem rooted_of_validate (h : validateRootLifecycle p c life = .ok ()) : Rooted p c life := by
  simp only [validateRootLifecycle, ok_iff, exists_const] at h
  obtain ⟨activeKey, hact, _, -, ⟨-, hold, hnew, -⟩, hrot, -, -, ⟨-, hrev, -⟩, -⟩ := h
  simp only [validateTrustRootKey, ok_iff, exists_const] at hact
  have hdist := (sealWith_eq_ok.mp hrot).1.2.2.2.1
  refine ⟨⟨activeKey, hact.2.2⟩, ?_, hrev⟩
  rw [← hold, ← hnew]
  exact hdist

/-- This root is selected at this time. -/
def Selected (p : Primitives β) (c : Crypto κ) (life : TrustRootLifecycle)
    (root : TrustRootKey) (time : Int) : Prop :=
  ∃ key, rootAt p c life time = .ok (root, key)

section Handover

variable {life : TrustRootLifecycle} {time : Int} {root : TrustRootKey}

theorem selected_iff : Selected p c life root time ↔
    (if time < p.timeOrZero life.successor.validFrom then life.active
      else life.successor) = root ∧
    (p.timeOrZero root.validFrom ≤ time ∧ time < p.timeOrZero root.notAfter) ∧
    (life.revocation.revokedRootID = root.rootID →
      time < p.timeOrZero life.revocation.effectiveAt) ∧
    ∃ key, c.parsePublicKey root.publicKey root.spkiSHA256 = .ok key := by
  simp only [Selected, rootAt, ok_iff, exists_const, Prod.mk.injEq]
  constructor
  · rintro ⟨_, hvalid, hunrev, key, hkey, rfl, rfl⟩
    exact ⟨rfl, hvalid, hunrev, key, hkey⟩
  · rintro ⟨rfl, hvalid, hunrev, key, hkey⟩
    exact ⟨key, hvalid, hunrev, key, hkey, rfl, rfl⟩

section

variable (h : validateRootLifecycle p c life = .ok ())
include h

theorem overlap_of_validate :
    p.timeOrZero life.successor.validFrom < p.timeOrZero life.active.notAfter ∧
      ∃ key, c.parsePublicKey life.successor.publicKey life.successor.spkiSHA256 =
        .ok key := by
  simp only [validateRootLifecycle, ok_iff, exists_const] at h
  obtain ⟨-, -, successorKey, hsucc, ⟨hoverlap, -⟩, -⟩ := h
  simp only [validateTrustRootKey, ok_iff, exists_const] at hsucc
  exact ⟨hoverlap, successorKey, hsucc.2.2⟩

theorem selected_active_iff : Selected p c life life.active time ↔
      p.timeOrZero life.active.validFrom ≤ time ∧
      time < min (p.timeOrZero life.successor.validFrom)
        (p.timeOrZero life.revocation.effectiveAt) := by
  have hrooted := rooted_of_validate h
  obtain ⟨hoverlap, -⟩ := overlap_of_validate h
  rw [selected_iff, lt_min_iff]
  constructor
  · rintro ⟨hturn, hvalid, hunrev, -⟩
    refine ⟨hvalid.1, ?_, hunrev hrooted.revoked⟩
    by_contra hlate
    rw [if_neg hlate] at hturn
    exact hrooted.distinct (congrArg TrustRootKey.rootID hturn.symm)
  · rintro ⟨hfrom, hpre, hunrev⟩
    exact ⟨if_pos hpre, ⟨hfrom, hpre.trans hoverlap⟩, fun _ => hunrev, hrooted.active⟩

theorem selected_successor_iff : Selected p c life life.successor time ↔
      p.timeOrZero life.successor.validFrom ≤ time ∧
      time < p.timeOrZero life.successor.notAfter := by
  have hrooted := rooted_of_validate h
  rw [selected_iff]
  constructor
  · rintro ⟨-, hvalid, -⟩
    exact hvalid
  · intro hvalid
    refine ⟨if_neg (not_lt.mpr hvalid.1), hvalid, fun hrev => ?_, (overlap_of_validate h).2⟩
    exact absurd (hrooted.revoked.symm.trans hrev) hrooted.distinct

end

/-- The active root is selected until the successor takes over or the revocation takes effect,
the successor from then on as long as it is valid, and no root at any other time; a root that
was replaced or revoked is not selected again. -/
theorem root_handover (h : validateRootLifecycle p c life = .ok ()) (time : Int) :
    (Selected p c life life.active time ↔ p.timeOrZero life.active.validFrom ≤ time ∧
      time < min (p.timeOrZero life.successor.validFrom)
        (p.timeOrZero life.revocation.effectiveAt)) ∧
    (Selected p c life life.successor time ↔ p.timeOrZero life.successor.validFrom ≤ time ∧
      time < p.timeOrZero life.successor.notAfter) ∧
    ((∃ e, rootAt p c life time = .error e) ↔ ¬ Selected p c life life.active time ∧
      ¬ Selected p c life life.successor time) ∧
    (∀ root root', Selected p c life root time → Selected p c life root' time →
      root = root') ∧ ∀ before after, before ≤ time → time ≤ after →
      Selected p c life life.active before →
      ¬ Selected p c life life.active time →
      ¬ Selected p c life life.active after := by
  refine ⟨selected_active_iff h, selected_successor_iff h, ?_, ?_, ?_⟩
  · constructor
    · rintro ⟨e, he⟩
      constructor
      · rintro ⟨key, hkey⟩
        cases he.symm.trans hkey
      · rintro ⟨key, hkey⟩
        cases he.symm.trans hkey
    · rintro ⟨hactive, hsuccessor⟩
      cases hresult : rootAt p c life time with
      | error e => exact ⟨e, rfl⟩
      | ok selected =>
        have hturn := (selected_iff.mp ⟨selected.2, hresult⟩).1
        split at hturn
        · exact absurd ⟨selected.2, hturn ▸ hresult⟩ hactive
        · exact absurd ⟨selected.2, hturn ▸ hresult⟩ hsuccessor
  · rintro _ _ ⟨_, hkey⟩ ⟨_, hkey'⟩
    cases hkey.symm.trans hkey'
    rfl
  · intro before after hbefore hafter
    rw [selected_active_iff h, selected_active_iff h, selected_active_iff h]
    intro hfirst hnow hlast
    exact hnow ⟨hfirst.1.trans hbefore, hafter.trans_lt hlast.2⟩

/-- The first root is selected until 80, when the second takes over. -/
theorem root_handover_roots :
    Selected Instance.prims Instance.crypto Instance.roots Instance.roots.active 79 ∧
    ¬ Selected Instance.prims Instance.crypto Instance.roots Instance.roots.active 80 ∧
    Selected Instance.prims Instance.crypto Instance.roots Instance.roots.successor 80 := by
  have hlater := root_handover Instance.validateRootLifecycle_ok 80
  refine ⟨⟨(), Instance.rootAt_ok (by decide)⟩, ?_, ?_⟩
  · rw [hlater.1]
    simp [Instance.roots]
  · rw [hlater.2.1]
    simp [Instance.roots]

end Handover

variable {check : ChainCheck}

theorem rooted_of_check {bundle : TrustBundle} {want : Option PredecessorReleaseIdentity}
    {v : Ed25519Verifier} (hv : newEd25519Verifier p c bundle want = .ok v)
    {chain : AuthorizationChain} (hcheck : check ∈ chainChecks v.bundle chain) :
    Rooted p c check.lifecycle := by
  simp only [newEd25519Verifier, ok_iff, exists_const] at hv
  obtain ⟨-, -, ⟨⟩, hroots, -, -, rfl⟩ := hv
  simp only [each_eq_ok, forall_mem_cons, mapError_eq_ok] at hroots
  obtain ⟨hrelease, happr, hmoa, -⟩ := hroots
  simp only [chainChecks, mem_cons, not_mem_nil, or_false] at hcheck
  obtain rfl | rfl | rfl := hcheck
  · exact rooted_of_validate hrelease
  · exact rooted_of_validate happr
  · exact rooted_of_validate hmoa

variable {time : Int}

theorem rootAt_revoked {root : TrustRootKey} {key : κ} (hrooted : Rooted p c life)
    (hrev : p.timeOrZero life.revocation.effectiveAt ≤ time)
    (h : rootAt p c life time = .ok (root, key)) :
    root = life.successor ∧
      c.parsePublicKey life.successor.publicKey life.successor.spkiSHA256 = .ok key := by
  simp only [rootAt, ok_iff, exists_const, Prod.mk.injEq] at h
  obtain ⟨-, hunrev, _, hkey, hroot, rfl⟩ := h
  have hturn : ¬ time < p.timeOrZero life.successor.validFrom := by
    intro hpre
    rw [if_pos hpre] at hunrev
    exact absurd (hunrev hrooted.revoked) (not_lt.mpr hrev)
  rw [if_neg hturn] at hroot hkey
  exact ⟨hroot.symm, hkey⟩

theorem verify_of_check (h : check.run p c time = .ok ()) :
    ∃ root key, rootAt p c check.lifecycle time = .ok (root, key) ∧
      c.verify key (.certificate check.certificate.certificate)
        check.certificate.signature.signature = true := by
  simp only [ChainCheck.run, ok_iff, exists_const] at h
  obtain ⟨⟨root, key⟩, hroot, -, _, hleaf, -⟩ := h
  simp only [verifyCertificateAt, verifyDetachedSignature, ok_iff, exists_const] at hleaf
  obtain ⟨-, -, ⟨-, hver⟩, -⟩ := hleaf
  exact ⟨root, key, hroot, hver⟩

/-- A chain that is accepted when a root of it is revoked: the certificate under that root
does not verify by the revoked key exactly when the successor has another key. -/
theorem revoked_key_untrusted_iff (hexclusive : c.Exclusive) {bundle : TrustBundle}
    {want : Option PredecessorReleaseIdentity} {v : Ed25519Verifier}
    (hv : newEd25519Verifier p c bundle want = .ok v) {ended : Bool}
    {chain : AuthorizationChain} {time : Int}
    (haccepts : verifyAuthorizationChainAt p c v ended chain time = .ok ()) {check : ChainCheck}
    (hcheck : check ∈ chainChecks v.bundle chain)
    (hrevoked : p.timeOrZero check.lifecycle.revocation.effectiveAt ≤ time) :
    ¬ VerifiesUnder c check.lifecycle.active check.certificate ↔
      c.parsePublicKey check.lifecycle.active.publicKey check.lifecycle.active.spkiSHA256 ≠
        c.parsePublicKey check.lifecycle.successor.publicKey
          check.lifecycle.successor.spkiSHA256 := by
  have hrooted := rooted_of_check hv hcheck
  have hchecks : ∀ check ∈ chainChecks v.bundle chain, check.run p c time = .ok () := by
    simp only [verifyAuthorizationChainAt, ok_iff, exists_const, each_eq_ok] at haccepts
    obtain ⟨-, -, -, -, -, -, -, -, -, -, hchecks⟩ := haccepts
    exact hchecks
  obtain ⟨_, key, hroot, hverify⟩ := verify_of_check (hchecks check hcheck)
  obtain ⟨rfl, hsuccessor⟩ := rootAt_revoked hrooted hrevoked hroot
  rw [hsuccessor, not_iff_not]
  constructor
  · rintro ⟨_, hactive, hactiveVerifies⟩
    rw [hactive, hexclusive _ _ _ _ hactiveVerifies hverify]
  · intro hsame
    exact ⟨key, hsame, hverify⟩

namespace Instance

open TrustedSupervisor.Instance (digits sha sha_ne clockText)

/-! Two keys, of which the revoked root has the first. -/

def keyText (key : Bool) : String := String.ofList ("ed25519:".toList ++ digits 64 key.toNat)

def spkiOf (key : Bool) : String := sha key.toNat

def signatureBy (key : Bool) : String := String.ofList ("ed25519:".toList ++ digits 128 key.toNat)

def twoKeys : Crypto Bool where
  rotationDigest _ := sha 14
  revocationDigest _ := sha 15
  certificateDigest _ := sha 16
  bundleDigest _ := sha 0
  parsePublicKey text spki :=
    if text = keyText false ∧ spki = spkiOf false then .ok false
    else if text = keyText true ∧ spki = spkiOf true then .ok true
    else .error "public key SPKI mismatch"
  verify key _ signature := signature == signatureBy key

theorem twoKeys_exclusive : twoKeys.Exclusive := by
  intro k k' record sig h h'
  have hne : signatureBy false ≠ signatureBy true := by decide +kernel
  simp only [twoKeys, beq_iff_eq] at h h'
  rw [h] at h'
  cases k <;> cases k' <;> simp_all

variable (key : Bool)

theorem parse_keyText : twoKeys.parsePublicKey (keyText key) (spkiOf key) = .ok key := by
  have hne : spkiOf true ≠ spkiOf false := sha_ne (by decide)
  cases key with
  | false => simp [twoKeys]
  | true => simp [twoKeys, hne]

def detachedBy : DetachedSignature :=
  ⟨"ananke.independent-supervisor-detached-signature.v1", "ed25519", spkiOf key, signatureBy key,
    sha 4⟩

theorem verify_detachedBy (v : Signed) :
    verifyDetachedSignature prims twoKeys key (spkiOf key) v (detachedBy key) = .ok () := by
  have hseal : sealExternalSupervisorDetachedSignature prims (detachedBy key) =
      .ok (detachedBy key) := by
    unfold detachedBy
    refine sealWith_eq_ok.mpr ⟨?_, rfl⟩
    refine ⟨rfl, rfl, launch_sha _, hexAfter_digits "ed25519:" 128 _⟩
  simp only [verifyDetachedSignature, ok_iff]
  exact ⟨(), ⟨hseal, rfl⟩, by simp [twoKeys, detachedBy]⟩

def rootsWith : TrustRootLifecycle where
  active := ⟨name, keyText false, spkiOf false, clockText 1, clockText 90⟩
  successor := ⟨"two", keyText key, spkiOf key, clockText 80, clockText 99⟩
  rotation := ⟨"ananke.independent-supervisor-trust-root-rotation.v1", sha 0, name, "two",
    spkiOf key, clockText 80, clockText 90, sha 14⟩
  rotationSignature := detachedBy false
  revocation := ⟨"ananke.independent-supervisor-trust-root-revocation.v1", name, "two",
    clockText 80, "key_compromise_or_policy_withdrawal", sha 15⟩
  revocationSignature := detachedBy key

def certificateBy (role : String) : SignedCertificate where
  certificate := ⟨"ananke.independent-supervisor-signing-certificate.v1", role, spkiOf true,
    keyText true, "two", clockText 1, clockText 90, sha 16⟩
  signature := detachedBy key

def laterChain : AuthorizationChain where
  releaseAttestation :=
    { attestation with releaseRootID := "two", attestorKeySPKISHA256 := spkiOf true }
  releaseAttestationSignature := detachedBy true
  releaseApproval :=
    { approval with approverRootID := "two", approverKeySPKISHA256 := spkiOf true }
  releaseApprovalSignature := detachedBy true
  moARoleGrant := { grant with grantorRootID := "two", grantorKeySPKISHA256 := spkiOf true }
  moARoleGrantSignature := detachedBy true

def bundleWith : TrustBundle where
  schemaVersion := "ananke.independent-supervisor-trust-bundle.v1"
  trustBundleHash := sha 0
  releaseRoots := rootsWith key
  approvalRoots := rootsWith key
  moARoots := rootsWith key
  releaseAttestor := certificateBy key "release_attestor"
  releaseApprover := certificateBy key "release_approver"
  moAGrantor := certificateBy key "moa_grantor"
  supervisorPeer := certificateBy key "independent_supervisor_protocol_adapter"
  authorization := laterChain

theorem identifierPattern_two : identifierPattern "two" = true := by decide

attribute [local simp] identifierPattern_two validExternalSupervisorIdentifier
  externalSupervisorHashes

theorem validateRoots_rootsWith : validateRootLifecycle prims twoKeys (rootsWith key) = .ok () :=
  validateRootLifecycle_of (fun _ => rfl) (fun _ => rfl) (launch_sha _)
    (parse_keyText false) (parse_keyText key)
    (verify_detachedBy false) (verify_detachedBy key)

variable {role : String}

theorem sealed_certificateBy (hrole : identifierPattern role = true) :
    sealExternalSupervisorSigningCertificate prims twoKeys (certificateBy key role).certificate =
      .ok (certificateBy key role).certificate := by
  have hspki : launchHashPattern (spkiOf true) = true := launch_sha _
  have hkey : externalSupervisorPublicKeyPattern (keyText true) = true :=
    hexAfter_digits "ed25519:" 64 _
  rw [certificateBy]
  refine sealWith_eq_ok.mpr ⟨?_, rfl⟩
  simp [certificateHash, hrole, hspki, hkey]

theorem verifier_bundleWith :
    newEd25519Verifier prims twoKeys (bundleWith key) none = .ok ⟨bundleWith key, none⟩ := by
  refine newEd25519Verifier_of (fun _ => rfl) rfl (validateRoots_rootsWith key)
    fun role hrole => ?_
  simp only [validateBundleCertificate, bind_eq_ok, require_eq_ok, mapError_eq_ok]
  exact ⟨(), rfl, true, parse_keyText true, sealed_certificateBy key hrole⟩

theorem chain_certificateBy {record : Signed} (hrole : identifierPattern role = true) :
    ChainCheck.run prims twoKeys
      ⟨rootsWith key, "two", certificateBy key role, role, record, detachedBy true, spkiOf true⟩
      85 = .ok () := by
  have hsucc : prims.timeOrZero (rootsWith key).successor.validFrom = 80 :=
    time_clockText 80
  have hexpiry : prims.timeOrZero (rootsWith key).successor.notAfter = 99 :=
    time_clockText 99
  have hroot : rootAt prims twoKeys (rootsWith key) 85 = .ok ((rootsWith key).successor, key) := by
    have hne : (rootsWith key).revocation.revokedRootID ≠ (rootsWith key).successor.rootID := by
      change name ≠ "two"
      decide
    simp only [rootAt, hsucc, ok_iff]
    refine ⟨(), ⟨?_, ?_⟩, (), fun h => absurd h hne, key, parse_keyText key, rfl⟩
    · simp [hsucc]
    · simp [hexpiry]
  have hleaf : verifyCertificateAt prims twoKeys (certificateBy key role) role
      (rootsWith key).successor key 85 = .ok true := by
    simp only [verifyCertificateAt, ok_iff]
    refine ⟨(), ⟨rfl, rfl, ?_⟩, (), sealed_certificateBy key hrole, (),
      verify_detachedBy key _, parse_keyText true⟩
    exact (validAt_clockText 1 90 85).trans (by decide)
  simp only [ChainCheck.run, ok_iff]
  exact ⟨_, hroot, (), rfl, true, hleaf, (), rfl, verify_detachedBy true _⟩

theorem chainAt_laterChain :
    verifyAuthorizationChainAt prims twoKeys ⟨bundleWith key, none⟩ false laterChain 85 =
      .ok () := by
  have hspki : launchHashPattern (spkiOf true) = true := launch_sha _
  have hattest : sealExternalSupervisorReleaseAttestation prims
      laterChain.releaseAttestation = .ok laterChain.releaseAttestation := by
    rw [laterChain, attestation]
    refine sealWith_eq_ok.mpr ⟨?_, rfl⟩
    simp [attestationHash, hspki]
  have happr : sealExternalSupervisorReleaseApproval prims laterChain.releaseApproval =
      .ok laterChain.releaseApproval := by
    rw [laterChain, approval]
    refine sealWith_eq_ok.mpr ⟨?_, rfl⟩
    simp [approvalHash, hspki]
  have hgrant : sealExternalSupervisorMoARoleGrant prims laterChain.moARoleGrant =
      .ok laterChain.moARoleGrant := by
    rw [laterChain, grant]
    refine sealWith_eq_ok.mpr ⟨?_, rfl⟩
    simp [grantHash, hspki]
  have hvalid : recordValidAt prims (clockText 1) (clockText 90) 85 = true :=
    (validAt_clockText 1 90 85).trans (by decide)
  have hchecks : each (ChainCheck.run prims twoKeys · 85)
      (chainChecks (bundleWith key) laterChain) = .ok () := by
    simp only [each_eq_ok, chainChecks, forall_mem_cons]
    exact ⟨chain_certificateBy key (by decide), chain_certificateBy key (by decide),
      chain_certificateBy key (by decide), fun _ h => absurd h not_mem_nil⟩
  simp only [verifyAuthorizationChainAt, verificationDeadlineError, ok_iff]
  exact ⟨(), trivial, (), rfl, (), by decide, (), hattest, (), happr, (), hgrant, (),
    ⟨rfl, rfl, rfl, rfl, rfl, rfl⟩, (), ⟨hvalid, hvalid, hvalid⟩, (), ⟨le_refl _, le_refl _⟩,
    hchecks⟩

def releaseCheck : ChainCheck :=
  ⟨rootsWith key, "two", certificateBy key "release_attestor", "release_attestor",
    .attestation laterChain.releaseAttestation, detachedBy true, spkiOf true⟩

theorem releaseCheck_mem : releaseCheck key ∈ chainChecks (bundleWith key) laterChain :=
  mem_cons_self

theorem revoked_before :
    prims.timeOrZero (releaseCheck key).lifecycle.revocation.effectiveAt ≤ 85 := by
  have heffective : prims.timeOrZero (releaseCheck key).lifecycle.revocation.effectiveAt = 80 :=
    time_clockText 80
  rw [heffective]
  decide

end Instance

open Instance in
theorem revoked_key_untrusted_iff_rotated :
    verifyAuthorizationChainAt prims twoKeys ⟨bundleWith true, none⟩ false laterChain 85 = .ok () ∧
      ¬ VerifiesUnder twoKeys (rootsWith true).active (certificateBy true "release_attestor") := by
  have haccepts := chainAt_laterChain true
  refine ⟨haccepts, (revoked_key_untrusted_iff twoKeys_exclusive
    (verifier_bundleWith true) haccepts (releaseCheck_mem true)
    (revoked_before true)).mpr ?_⟩
  have hactive : twoKeys.parsePublicKey (releaseCheck true).lifecycle.active.publicKey
      (releaseCheck true).lifecycle.active.spkiSHA256 = .ok false := parse_keyText false
  have hsuccessor : twoKeys.parsePublicKey (releaseCheck true).lifecycle.successor.publicKey
      (releaseCheck true).lifecycle.successor.spkiSHA256 = .ok true := parse_keyText true
  rw [hactive, hsuccessor]
  simp

open Instance in
/-- The successor has the revoked root's key under another name. The bundle is accepted, and
after the revocation so is a chain whose certificates the revoked key signed. -/
theorem revoked_key_trusted : twoKeys.Exclusive ∧
      newEd25519Verifier prims twoKeys (bundleWith false) none = .ok ⟨bundleWith false, none⟩ ∧
      prims.timeOrZero (rootsWith false).revocation.effectiveAt ≤ 85 ∧
      releaseCheck false ∈ chainChecks (bundleWith false) laterChain ∧
      verifyAuthorizationChainAt prims twoKeys ⟨bundleWith false, none⟩ false laterChain 85 =
        .ok () ∧
      VerifiesUnder twoKeys (rootsWith false).active (certificateBy false "release_attestor") := by
  refine ⟨twoKeys_exclusive, verifier_bundleWith false, revoked_before false,
    releaseCheck_mem false, chainAt_laterChain false, false,
    parse_keyText false, ?_⟩
  simp [twoKeys, certificateBy, detachedBy]

end Ananke.ExternalSupervisor
