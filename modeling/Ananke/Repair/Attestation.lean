import Ananke.Repair.Intent
import Ananke.Repair.Sandbox
import Ananke.Repair.Worktree

/-! The evaluation of a review attestation against the evidence of the three phases, and the
links between that evidence which it compares. -/
namespace Ananke.Repair

variable {β : Type} (p : Primitives β)

def attestationVerificationKinds : List String :=
  ["trust_binding_verification", "authorization_binding_verification",
    "phase_claim_binding_verification", "repository_binding_verification",
    "adapter_binding_verification", "test_binding_verification",
    "attestation_integrity_verification"]

/-- The hash of the verifier authority that is pinned in the release. -/
def attestationVerifierAuthorityHash : String :=
  (hashRecord p.toCanonical
    [("schema_version", .text "ananke.controlled-repair-attestation-verifier-authority.v1"),
      ("verifier_id", .text "controlled_repair_attestation_verifier_v1"),
      ("release_pins_hash", .text p.frozen.pins.releasePinsHash),
      ("signature_domain", .text signatureDomain),
      ("verification_kinds", .list (attestationVerificationKinds.map .text))]).getD ""

/-- `HashAttestationRecord`; the hash covers the signature. -/
def hashAttestationRecord (record : RepairReviewAttestation) : Option String :=
  hashRecord p.toCanonical record.content

/-- The evidence of each kind of verification, in the order of the kinds. -/
def attestationSealEvidence (record : RepairReviewAttestation) : List Value :=
  [.object [("release_pins_hash", .text record.releasePinsHash),
      ("trust_bundle_hash", .text record.trustBundleHash),
      ("repair_attestor_certificate_hash", .text record.repairAttestorCertificateHash),
      ("repair_attestor_root_id", .text record.repairAttestorRootID),
      ("repair_attestor_leaf_spki", .text record.repairAttestorLeafSPKI)],
    .object [("authorization_hash", .text record.authorizationHash),
      ("approval_hash", .text record.approvalHash), ("request_hash", .text record.requestHash),
      ("dispatch_hash", .text record.dispatchHash), ("attempt_hash", .text record.attemptHash),
      ("attempt_number", .number record.attemptNumber),
      ("attempt_cap", .number record.attemptCap),
      ("effect_time_validation_timestamp", .text record.effectTimeValidationTimestamp)],
    .object [("materialization_claim_hash", .text record.materializationClaimHash),
      ("adapter_claim_hash", .text record.adapterClaimHash),
      ("test_claim_hash", .text record.testClaimHash),
      ("predecessor_claim_hash", .text record.predecessorClaimHash),
      ("supervisor_journal_head_hash", .text record.supervisorJournalHeadHash),
      ("supervisor_journal_predecessor_hash", .text record.supervisorJournalPredecessorHash),
      ("boot_epoch_id", .text record.bootEpochID),
      ("boot_epoch_hash", .text record.bootEpochHash)],
    .object [("repository_binding_hash", .text record.repositoryBindingHash),
      ("repository_identity_hash", .text record.repositoryIdentityHash),
      ("common_git_identity_hash", .text record.commonGitIdentityHash),
      ("git_executable_identity_hash", .text record.gitExecutableIdentityHash),
      ("worktree_slot_id", .text record.worktreeSlotID),
      ("worktree_slot_path_hash", .text record.worktreeSlotPathHash),
      ("installed_worktree_root_identity_hash", .text record.installedWorktreeRootIdentityHash)],
    .object [("adapter_seatbelt_profile_hash", .text record.adapterSeatbeltProfileHash),
      ("adapter_sandbox_hash", .text record.adapterSandboxHash),
      ("adapter_terminal_proof_hash", .text record.adapterTerminalProofHash),
      ("adapter_capability_hash", .text record.adapterCapabilityHash),
      ("uid_pool_hash", .text record.uidPoolHash), ("uid_lease_hash", .text record.uidLeaseHash),
      ("uid", .number record.uid), ("group_id", .number record.groupID)],
    .object [("toolchain_manifest_hash", .text record.toolchainManifestHash),
      ("test_profile_hash", .text record.testProfileHash),
      ("candidate_copy_hash", .text record.candidateCopyHash),
      ("test_sandbox_hash", .text record.testSandboxHash),
      ("test_terminal_proof_hash", .text record.testTerminalProofHash),
      ("test_root_cleanup_hash", .text record.testRootCleanupHash),
      ("test_result_hash", .text record.testResultHash),
      ("test_output_hash", .text record.testOutputHash),
      ("test_output_size", .number record.testOutputSize),
      ("test_command_hash", .text record.testCommandHash)],
    .object [("attestation_hash", .text record.attestationHash),
      ("state", .text record.state.name), ("signature_domain", .text record.signatureDomain),
      ("patch_hash", .text record.patchHash), ("patch_size", .number record.patchSize),
      ("ordered_paths_hash", .text record.orderedPathsHash),
      ("status_hash", .text record.statusHash), ("raw_hash", .text record.rawHash),
      ("numstat_hash", .text record.numstatHash), ("ignored_hash", .text record.ignoredHash),
      ("filesystem_scan_hash", .text record.filesystemScanHash),
      ("request_nonce_hash", .text record.requestNonceHash),
      ("response_nonce_hash", .text record.responseNonceHash),
      ("channel_hash", .text record.channelHash), ("issued_at", .text record.issuedAt)]]

/-- The seal of an attestation is the digest of the seal record together with its own hash,
not that hash, and it is made even where the evidence has no digest. -/
def deriveAttestationVerificationSeal (record : RepairReviewAttestation) (canonicalHash : String)
    (kind : String) (evidence : Value) : String :=
  let schemaVersion : String × Value :=
    ("schema_version", .text "ananke.controlled-repair-attestation-verification-seal.v1")
  let members : List (String × Value) :=
    [("seal_kind", .text kind),
      ("verifier_authority_hash", .text (attestationVerifierAuthorityHash p)),
      ("attestation_hash", .text record.attestationHash),
      ("canonical_hash", .text canonicalHash),
      ("evidence_hash", .text (evidenceHash p.toCanonical evidence))]
  match hashRecord p.toCanonical (schemaVersion :: members) with
  | some hash =>
    p.sha256Digest (p.marshal (.object (schemaVersion :: ("seal_hash", .text hash) :: members)))
  | none => ""

def attestationVerificationSeals (record : RepairReviewAttestation) (canonicalHash : String) :
    List String :=
  List.zipWith (deriveAttestationVerificationSeal p record canonicalHash)
    attestationVerificationKinds (attestationSealEvidence record)

def validateAttestationRecord (v : RepairReviewAttestation) : Bool :=
  v.schemaVersion = "ananke.controlled-repair-review-attestation.v1" &&
    v.state = .waitingForReview && v.signatureDomain = signatureDomain &&
    validClosedIdentifier v.attestationID 128 && validHash v.attestationHash &&
    validSignature v.signature &&
    [v.releasePinsHash, v.trustBundleHash, v.repairAttestorCertificateHash].all validHash &&
    validClosedIdentifier v.repairAttestorRootID 128 &&
    [v.repairAttestorLeafSPKI, v.requestNonceHash, v.responseNonceHash,
      v.channelHash, v.authorizationHash, v.approvalHash, v.requestHash,
      v.dispatchHash, v.attemptHash].all validHash &&
    1 ≤ v.attemptNumber && v.attemptNumber ≤ attemptCap &&
    v.attemptCap = attemptCap &&
    [v.materializationClaimHash, v.adapterClaimHash, v.testClaimHash,
      v.predecessorClaimHash, v.supervisorJournalHeadHash,
      v.supervisorJournalPredecessorHash].all validHash &&
    validClosedIdentifier v.bootEpochID 128 &&
    [v.bootEpochHash, v.repositoryBindingHash, v.repositoryIdentityHash,
      v.commonGitIdentityHash, v.gitExecutableIdentityHash, v.worktreeParentHash,
      v.worktreeTargetHash, v.worktreeAdminHash, v.worktreeDescriptorHash].all
      validHash &&
    validClosedIdentifier v.worktreeSlotID 128 &&
    [v.worktreeSlotPathHash, v.installedWorktreeRootIdentityHash,
      v.adapterSeatbeltProfileHash, v.adapterSandboxHash, v.adapterTerminalProofHash,
      v.adapterCapabilityHash, v.uidPoolHash, v.uidLeaseHash].all validHash &&
    v.uid ≠ 0 && v.groupID ≠ 0 && validHash v.patchHash && 0 ≤ v.patchSize &&
    [v.orderedPathsHash, v.statusHash, v.rawHash, v.numstatHash,
      v.ignoredHash, v.filesystemScanHash, v.toolchainManifestHash,
      v.testProfileHash].all validHash &&
    [v.candidateCopyHash, v.testSandboxHash, v.testTerminalProofHash,
      v.testRootCleanupHash].all validHash &&
    [v.testResultHash, v.testOutputHash].all validHash && 0 ≤ v.testOutputSize &&
    [v.testCommandHash, v.testCapabilityHash].all validHash &&
    (p.parseUTC v.issuedAt).isSome &&
    (p.parseUTC v.effectTimeValidationTimestamp).isSome &&
    recordHashMatches p.toCanonical v.content v.attestationHash

variable (v : VerifiedAttestationSnapshot β)

def attestationSnapshotIntegrityHash : String :=
  (hashRecord p.toCanonical [("valid", .flag v.valid), ("trust_verified", .flag v.trustVerified),
      ("authorization_verified", .flag v.authorizationVerified),
      ("phase_claim_verified", .flag v.phaseClaimVerified),
      ("repository_verified", .flag v.repositoryVerified),
      ("adapter_verified", .flag v.adapterVerified),
      ("test_verified", .flag v.testVerified),
      ("integrity_verified", .flag v.integrityVerified),
      ("attestation_hash", .text v.attestation.attestationHash),
      ("canonical_hash", .text v.canonicalHash),
      ("verifier_authority_hash", .text v.verifierAuthorityHash),
      ("trust_verification_seal", .text v.trustVerificationSeal),
      ("authorization_verification_seal", .text v.authorizationVerificationSeal),
      ("phase_claim_verification_seal", .text v.phaseClaimVerificationSeal),
      ("repository_verification_seal", .text v.repositoryVerificationSeal),
      ("adapter_verification_seal", .text v.adapterVerificationSeal),
      ("test_verification_seal", .text v.testVerificationSeal),
      ("integrity_verification_seal", .text v.integrityVerificationSeal)]).getD ""

def VerifiedAttestationSnapshot.flags : List Bool :=
  [v.trustVerified, v.authorizationVerified, v.phaseClaimVerified,
    v.repositoryVerified, v.adapterVerified, v.testVerified, v.integrityVerified]

def VerifiedAttestationSnapshot.seals : List String :=
  [v.trustVerificationSeal, v.authorizationVerificationSeal,
    v.phaseClaimVerificationSeal, v.repositoryVerificationSeal,
    v.adapterVerificationSeal, v.testVerificationSeal, v.integrityVerificationSeal]

/-- The snapshot is a valid attestation with the seals of the frozen verifier. -/
def verifiedAttestationSnapshotIntact : Bool :=
  v.valid && v.flags.all id && validHash v.integrityHash &&
    v.integrityHash = attestationSnapshotIntegrityHash p v &&
    validHash v.canonicalHash && v.canonicalHash = p.sha256Digest v.canonical &&
    v.verifierAuthorityHash = attestationVerifierAuthorityHash p &&
    p.decodeAttestation v.canonical = some v.attestation &&
    validateAttestationRecord p v.attestation &&
    v.seals = attestationVerificationSeals p v.attestation v.canonicalHash

def verifiedAttestationIntegrityHash (v : VerifiedAttestation β) : String :=
  (hashRecord p.toCanonical
    [("valid", .flag v.valid), ("attestation_hash", .text v.attestationHash),
      ("snapshot_integrity_hash", .text v.snapshotIntegrityHash),
      ("verifier_authority_hash", .text v.verifierAuthorityHash),
      ("verification_seals_hash", .text v.verificationSealsHash),
      ("authorization_hash", .text v.authorizationHash),
      ("test_claim_hash", .text v.testClaimHash),
      ("adapter_claim_hash", .text v.adapterClaimHash),
      ("materialization_claim_hash", .text v.materializationClaimHash),
      ("repository_binding_hash", .text v.repositoryBindingHash),
      ("adapter_capability_hash", .text v.adapterCapabilityHash),
      ("test_capability_hash", .text v.testCapabilityHash),
      ("canonical_hash", .text v.canonicalHash)]).getD ""

/-- The capability names a valid attestation, and its seals are those of the frozen verifier. -/
def verifiedAttestationIntact (v : VerifiedAttestation β) : Bool :=
  v.valid && validHash v.integrityHash && v.integrityHash = verifiedAttestationIntegrityHash p v &&
    [v.attestationHash, v.snapshotIntegrityHash, v.verifierAuthorityHash,
      v.verificationSealsHash, v.authorizationHash, v.testClaimHash,
      v.adapterClaimHash, v.materializationClaimHash, v.repositoryBindingHash,
      v.adapterCapabilityHash, v.testCapabilityHash, v.canonicalHash].all validHash &&
    v.canonicalHash = p.sha256Digest v.canonical &&
    v.verifierAuthorityHash = attestationVerifierAuthorityHash p &&
    match p.decodeAttestation v.canonical with
    | none => false
    | some decoded =>
      validateAttestationRecord p decoded && decoded.attestationHash = v.attestationHash &&
        v.verificationSealsHash = verificationSealsHash p.toCanonical
          (attestationVerificationSeals p decoded v.canonicalHash)

inductive AttestationAction
  | admitForReview | statusOnly
  | other (name : String)
deriving DecidableEq

inductive AttestationDisposition
  | capabilityReady | retainedStatus

inductive AttestationRequirement
  | nextVerification | noFurtherEffect

structure AttestationAssessment where
  disposition : AttestationDisposition
  effectAllowed : Bool
  nextRequirement : AttestationRequirement

inductive AttestationError
  | invalidAttestation

/-- One call of `EvaluateAttestation`. -/
structure AttestationRequest (β : Type) where
  expected : SupervisorIntentAuthority
  authorization : VerifiedAuthorization β
  testClaim : VerifiedSupervisorIntentClaim β
  predecessorClaim : Option (VerifiedSupervisorIntentClaim β)
  predecessorTerminal : Option VerifiedSupervisorTerminalEvent
  worktree : VerifiedRepositoryWorktree β
  adapterSandbox : VerifiedAdapterSandbox β
  testSandbox : VerifiedTestSandbox β
  snapshot : VerifiedAttestationSnapshot β
  action : AttestationAction
  now : Int

section Bindings

variable (r : AttestationRequest β)

def AttestationRequest.record : RepairReviewAttestation := r.snapshot.attestation

def trustBound : Bool :=
  let bundle := p.frozen.bundle
  r.record.releasePinsHash = p.frozen.pins.releasePinsHash &&
    r.record.trustBundleHash = bundle.trustBundleHash &&
    r.record.repairAttestorCertificateHash = bundle.repairAttestor.certificateHash &&
    r.record.repairAttestorRootID = bundle.repairAttestor.issuerRootID &&
    r.record.repairAttestorLeafSPKI = bundle.repairAttestor.subjectSPKISHA256

def authorizationBound : Bool :=
  let authorization := r.authorization.authorization
  let dispatch := r.expected.acceptedDispatch
  r.record.authorizationHash = authorization.authorizationHash &&
    r.record.approvalHash = authorization.approvalHash &&
    r.record.requestHash = dispatch.request.requestHash &&
    r.record.dispatchHash = dispatch.dispatchHash &&
    r.record.attemptHash = r.expected.attemptHash &&
    r.record.attemptNumber = r.expected.attemptNumber &&
    r.record.attemptCap = r.expected.attemptCap &&
    r.record.repositoryBindingHash = r.expected.repository.repositoryBindingHash &&
    r.record.repositoryIdentityHash = r.expected.repository.repositoryIdentityHash

/-- The claims of the first two phases only have to be named. -/
def phaseClaimBound : Bool :=
  r.record.materializationClaimHash ≠ "" && r.record.adapterClaimHash ≠ "" &&
    r.record.testClaimHash = r.testClaim.claim.claimHash &&
    r.record.predecessorClaimHash = r.expected.predecessorClaimHash &&
    r.record.bootEpochID = r.expected.bootEpochID &&
    r.record.bootEpochHash = r.expected.bootEpochHash

def repositoryBound : Bool :=
  match decodeRepositoryWorktreeObservation p r.worktree.canonical with
  | none => false
  | some obs =>
    r.record.worktreeSlotID = r.worktree.worktreeSlotID &&
      r.record.worktreeSlotPathHash = obs.worktreeSlotPathHash &&
      r.record.installedWorktreeRootIdentityHash = obs.installedWorktreeRootIdentityHash &&
      r.record.adapterCapabilityHash = r.adapterSandbox.snapshotIntegrityHash

def adapterBound : Bool :=
  match decodeAdapterSandboxObservation p r.adapterSandbox.canonical with
  | none => false
  | some obs =>
    r.record.adapterSandboxHash = obs.sandboxHash &&
      r.record.adapterTerminalProofHash = obs.terminalProof.proofHash &&
      r.record.adapterSeatbeltProfileHash = obs.seatbeltProfileHash &&
      r.record.uidPoolHash = obs.uidPoolHash &&
      r.record.uidLeaseHash = obs.uidLeaseHash && r.record.uid = obs.uid &&
      r.record.groupID = obs.groupID

def testBound : Bool :=
  match decodeTestSandboxObservation p r.testSandbox.canonical with
  | none => false
  | some obs =>
    r.record.testSandboxHash = obs.sandboxHash &&
      r.record.testTerminalProofHash = obs.terminalProof.proofHash &&
      r.record.toolchainManifestHash = obs.toolchainManifestHash &&
      r.record.testProfileHash = obs.testProfileHash &&
      r.record.candidateCopyHash = obs.candidateCopy.copyHash &&
      r.record.testCapabilityHash = r.testSandbox.snapshotIntegrityHash

def attestationSnapshotMatchesAuthority : Bool :=
  trustBound p r && authorizationBound r && phaseClaimBound r && repositoryBound p r &&
    adapterBound p r && testBound p r

end Bindings

def mintAttestation (snap : VerifiedAttestationSnapshot β) : VerifiedAttestation β :=
  let record := snap.attestation
  let capability : VerifiedAttestation β :=
    { valid := true
      attestationHash := record.attestationHash
      snapshotIntegrityHash := snap.integrityHash
      verifierAuthorityHash := attestationVerifierAuthorityHash p
      verificationSealsHash := verificationSealsHash p.toCanonical
        (attestationVerificationSeals p record snap.canonicalHash)
      authorizationHash := record.authorizationHash
      testClaimHash := record.testClaimHash
      adapterClaimHash := record.adapterClaimHash
      materializationClaimHash := record.materializationClaimHash
      repositoryBindingHash := record.repositoryBindingHash
      adapterCapabilityHash := record.adapterCapabilityHash
      testCapabilityHash := record.testCapabilityHash
      canonical := snap.canonical
      canonicalHash := snap.canonicalHash
      integrityHash := "" }
  { capability with integrityHash := verifiedAttestationIntegrityHash p capability }

section Evaluation

variable [DecidableEq β]

/-- All that is checked before the state and the action are looked at. -/
def attestationAdmissible (r : AttestationRequest β) : Bool :=
  verifyReleaseTrust p p.frozen r.now && r.expected.phase = .testClaim &&
    r.expected.sequence = 3 && validateSupervisorIntentAuthority p r.expected r.authorization &&
    validateSupervisorIntentFreshness p r.expected r.authorization r.now &&
    verifiedSupervisorIntentClaimIntact p r.testClaim &&
    validateSupervisorIntentClaim p r.expected r.authorization r.predecessorClaim
      r.predecessorTerminal r.testClaim.claim &&
    verifiedRepositoryWorktreeIntact p r.worktree &&
    verifiedAdapterSandboxIntact p r.adapterSandbox &&
    verifiedTestSandboxIntact p r.testSandbox &&
    verifiedAttestationSnapshotIntact p r.snapshot && attestationSnapshotMatchesAuthority p r

def evaluateAttestation (r : AttestationRequest β) :
    Except AttestationError (AttestationAssessment × Option (VerifiedAttestation β)) :=
  if !attestationAdmissible p r then .error .invalidAttestation
  else
    match r.record.state with
    | .other _ => .error .invalidAttestation
    | .waitingForReview =>
      if r.action = .statusOnly then .ok (⟨.retainedStatus, false, .noFurtherEffect⟩, none)
      else if r.action ≠ .admitForReview || !r.snapshot.flags.all id then
        .error .invalidAttestation
      else if !verifiedAttestationIntact p (mintAttestation p r.snapshot) then
        .error .invalidAttestation
      else
        .ok (⟨.capabilityReady, false, .nextVerification⟩, some (mintAttestation p r.snapshot))

end Evaluation

end Ananke.Repair
