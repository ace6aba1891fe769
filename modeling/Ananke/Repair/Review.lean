import Ananke.Repair.Claim
import Ananke.Repair.Observation

/-! The review attestation that the supervisor signs, the record that Ananke keeps of it, and
the evidence about both. -/
namespace Ananke.Repair

/-- The state of an attestation; an unknown state keeps its name. -/
inductive AttestationState
  | waitingForReview
  | other (name : String)
deriving DecidableEq

def AttestationState.name : AttestationState → String
  | .waitingForReview => "waiting_for_review"
  | .other name => name

/-- The terminal record of an attempt. -/
structure RepairReviewAttestation where
  (schemaVersion attestationHash attestationID issuedAt : String)
  state : AttestationState
  (signatureDomain signature releasePinsHash trustBundleHash repairAttestorCertificateHash
    repairAttestorRootID repairAttestorLeafSPKI requestNonceHash responseNonceHash channelHash
    authorizationHash approvalHash requestHash dispatchHash attemptHash : String)
  (attemptNumber attemptCap : Int)
  (effectTimeValidationTimestamp materializationClaimHash adapterClaimHash testClaimHash
    predecessorClaimHash supervisorJournalHeadHash supervisorJournalPredecessorHash bootEpochID
    bootEpochHash repositoryBindingHash repositoryIdentityHash commonGitIdentityHash
    gitExecutableIdentityHash worktreeParentHash worktreeTargetHash worktreeAdminHash
    worktreeDescriptorHash worktreeSlotID worktreeSlotPathHash installedWorktreeRootIdentityHash
    adapterSeatbeltProfileHash adapterSandboxHash adapterTerminalProofHash adapterCapabilityHash
    uidPoolHash uidLeaseHash : String)
  (uid groupID : Nat)
  patchHash : String
  patchSize : Int
  (orderedPathsHash statusHash rawHash numstatHash ignoredHash filesystemScanHash
    toolchainManifestHash testProfileHash candidateCopyHash testSandboxHash testTerminalProofHash
    testRootCleanupHash testResultHash testOutputHash : String)
  testOutputSize : Int
  (testCommandHash testCapabilityHash : String)
deriving DecidableEq

def RepairReviewAttestation.content (r : RepairReviewAttestation) : List (String × Value) :=
  [("schema_version", .text r.schemaVersion), ("attestation_id", .text r.attestationID),
    ("issued_at", .text r.issuedAt), ("state", .text r.state.name),
    ("signature_domain", .text r.signatureDomain), ("signature", .text r.signature),
    ("release_pins_hash", .text r.releasePinsHash),
    ("trust_bundle_hash", .text r.trustBundleHash),
    ("repair_attestor_certificate_hash", .text r.repairAttestorCertificateHash),
    ("repair_attestor_root_id", .text r.repairAttestorRootID),
    ("repair_attestor_leaf_spki", .text r.repairAttestorLeafSPKI),
    ("request_nonce_hash", .text r.requestNonceHash),
    ("response_nonce_hash", .text r.responseNonceHash), ("channel_hash", .text r.channelHash),
    ("authorization_hash", .text r.authorizationHash), ("approval_hash", .text r.approvalHash),
    ("request_hash", .text r.requestHash), ("dispatch_hash", .text r.dispatchHash),
    ("attempt_hash", .text r.attemptHash), ("attempt_number", .number r.attemptNumber),
    ("attempt_cap", .number r.attemptCap),
    ("effect_time_validation_timestamp", .text r.effectTimeValidationTimestamp),
    ("materialization_claim_hash", .text r.materializationClaimHash),
    ("adapter_claim_hash", .text r.adapterClaimHash), ("test_claim_hash", .text r.testClaimHash),
    ("predecessor_claim_hash", .text r.predecessorClaimHash),
    ("supervisor_journal_head_hash", .text r.supervisorJournalHeadHash),
    ("supervisor_journal_predecessor_hash", .text r.supervisorJournalPredecessorHash),
    ("boot_epoch_id", .text r.bootEpochID), ("boot_epoch_hash", .text r.bootEpochHash),
    ("repository_binding_hash", .text r.repositoryBindingHash),
    ("repository_identity_hash", .text r.repositoryIdentityHash),
    ("common_git_identity_hash", .text r.commonGitIdentityHash),
    ("git_executable_identity_hash", .text r.gitExecutableIdentityHash),
    ("worktree_parent_hash", .text r.worktreeParentHash),
    ("worktree_target_hash", .text r.worktreeTargetHash),
    ("worktree_admin_hash", .text r.worktreeAdminHash),
    ("worktree_descriptor_hash", .text r.worktreeDescriptorHash),
    ("worktree_slot_id", .text r.worktreeSlotID),
    ("worktree_slot_path_hash", .text r.worktreeSlotPathHash),
    ("installed_worktree_root_identity_hash", .text r.installedWorktreeRootIdentityHash),
    ("adapter_seatbelt_profile_hash", .text r.adapterSeatbeltProfileHash),
    ("adapter_sandbox_hash", .text r.adapterSandboxHash),
    ("adapter_terminal_proof_hash", .text r.adapterTerminalProofHash),
    ("adapter_capability_hash", .text r.adapterCapabilityHash),
    ("uid_pool_hash", .text r.uidPoolHash), ("uid_lease_hash", .text r.uidLeaseHash),
    ("uid", .number r.uid), ("group_id", .number r.groupID), ("patch_hash", .text r.patchHash),
    ("patch_size", .number r.patchSize), ("ordered_paths_hash", .text r.orderedPathsHash),
    ("status_hash", .text r.statusHash), ("raw_hash", .text r.rawHash),
    ("numstat_hash", .text r.numstatHash), ("ignored_hash", .text r.ignoredHash),
    ("filesystem_scan_hash", .text r.filesystemScanHash),
    ("toolchain_manifest_hash", .text r.toolchainManifestHash),
    ("test_profile_hash", .text r.testProfileHash),
    ("candidate_copy_hash", .text r.candidateCopyHash),
    ("test_sandbox_hash", .text r.testSandboxHash),
    ("test_terminal_proof_hash", .text r.testTerminalProofHash),
    ("test_root_cleanup_hash", .text r.testRootCleanupHash),
    ("test_result_hash", .text r.testResultHash), ("test_output_hash", .text r.testOutputHash),
    ("test_output_size", .number r.testOutputSize),
    ("test_command_hash", .text r.testCommandHash),
    ("test_capability_hash", .text r.testCapabilityHash)]

def RepairReviewAttestation.toValue (r : RepairReviewAttestation) : Value :=
  .object (("attestation_hash", .text r.attestationHash) :: r.content)

/-- Evidence that an attestation was checked, with the seals of each kind of check. -/
structure VerifiedAttestationSnapshot (β : Type) where
  (valid trustVerified authorizationVerified phaseClaimVerified repositoryVerified
    adapterVerified testVerified integrityVerified : Bool)
  attestation : RepairReviewAttestation
  canonical : β
  (canonicalHash verifierAuthorityHash trustVerificationSeal authorizationVerificationSeal
    phaseClaimVerificationSeal repositoryVerificationSeal adapterVerificationSeal
    testVerificationSeal integrityVerificationSeal integrityHash : String)

/-- The capability that an attestation gives. -/
structure VerifiedAttestation (β : Type) where
  valid : Bool
  (attestationHash snapshotIntegrityHash verifierAuthorityHash verificationSealsHash
    authorizationHash testClaimHash adapterClaimHash materializationClaimHash
    repositoryBindingHash adapterCapabilityHash testCapabilityHash : String)
  canonical : β
  (canonicalHash integrityHash : String)

inductive AnankeVerificationState
  | waitingForReview
deriving DecidableEq

def AnankeVerificationState.name : AnankeVerificationState → String
  | .waitingForReview => "waiting_for_review"

/-- What Ananke keeps of an attestation that it verified. -/
structure AnankeAttestationRecord where
  (schemaVersion verificationHash verificationID attestationHash verifiedAt : String)
  state : AnankeVerificationState
  (releasePinsHash verifierAuthorityHash repairAttestorCertificateHash repairAttestorRootID
    repairAttestorLeafSPKI attestationIssuedAt freshnessCheckedAt requestNonceHash
    responseNonceHash channelHash authorizationHash attemptHash : String)
  attemptNumber : Int
  supervisorJournalHeadHash : String
deriving DecidableEq

def AnankeAttestationRecord.content (r : AnankeAttestationRecord) : List (String × Value) :=
  [("schema_version", .text r.schemaVersion), ("verification_id", .text r.verificationID),
    ("attestation_hash", .text r.attestationHash), ("verified_at", .text r.verifiedAt),
    ("state", .text r.state.name), ("release_pins_hash", .text r.releasePinsHash),
    ("verifier_authority_hash", .text r.verifierAuthorityHash),
    ("repair_attestor_certificate_hash", .text r.repairAttestorCertificateHash),
    ("repair_attestor_root_id", .text r.repairAttestorRootID),
    ("repair_attestor_leaf_spki", .text r.repairAttestorLeafSPKI),
    ("attestation_issued_at", .text r.attestationIssuedAt),
    ("freshness_checked_at", .text r.freshnessCheckedAt),
    ("request_nonce_hash", .text r.requestNonceHash),
    ("response_nonce_hash", .text r.responseNonceHash), ("channel_hash", .text r.channelHash),
    ("authorization_hash", .text r.authorizationHash), ("attempt_hash", .text r.attemptHash),
    ("attempt_number", .number r.attemptNumber),
    ("supervisor_journal_head_hash", .text r.supervisorJournalHeadHash)]

def AnankeAttestationRecord.toValue (r : AnankeAttestationRecord) : Value :=
  .object (("verification_hash", .text r.verificationHash) :: r.content)

/-- Evidence that a record was checked, with the seals of each kind of check. -/
structure VerifiedAnankeRecord (β : Type) where
  (valid signatureVerified signerRoleVerified certificateValidityVerified freshnessVerified
    channelVerified requestBindingVerified headConsistencyVerified : Bool)
  record : AnankeAttestationRecord
  canonical : β
  (canonicalHash verifierAuthorityHash signatureVerificationSeal signerRoleVerificationSeal
    certificateValidityVerificationSeal freshnessVerificationSeal channelVerificationSeal
    requestBindingVerificationSeal headConsistencyVerificationSeal integrityHash : String)

/-- The capability that a verification gives. -/
structure VerifiedAnankeCapability (β : Type) where
  valid : Bool
  (verificationHash recordIntegrityHash verifierAuthorityHash verificationSealsHash
    attestationHash authorizationHash : String)
  canonical : β
  (canonicalHash integrityHash : String)

end Ananke.Repair
