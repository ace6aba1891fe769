import Ananke.Repair.Primitive

/-! The evidence of the adapter and the test phase: what the verifiers observed of the two
sandboxes when their processes had ended, sealed under their authority. -/
namespace Ananke.Repair

variable {β : Type} (p : Primitives β)

def adapterUIDPoolGroupID : Nat := 62000

def adapterUIDPoolUIDs : List Nat := [62001, 62002, 62003, 62004]

def adapterUIDPoolEntry (uid index : Nat) : Value :=
  let content : List (String × Value) :=
    [("schema_version", .text "ananke.controlled-repair-adapter-uid-pool-entry.v1"),
      ("sequence", .number (index + 1)), ("uid", .number uid),
      ("user_name", .text ("_ananke_repair" ++ "_" ++ toString (index + 1))),
      ("group_id", .number adapterUIDPoolGroupID)]
  .object (("entry_hash", .text ((hashRecord p.toCanonical content).getD "")) :: content)

def adapterUIDPoolHash : String :=
  (hashRecord p.toCanonical
    [("schema_version", .text "ananke.controlled-repair-adapter-uid-pool.v1"),
      ("pool_id", .text "controlled_repair_runtime_uid_pool_v1"),
      ("group_id", .number adapterUIDPoolGroupID), ("group_name", .text "_ananke_repair"),
      ("pool_size", .number adapterUIDPoolUIDs.length),
      ("entries", .list (adapterUIDPoolUIDs.zipIdx.map fun (uid, index) =>
        adapterUIDPoolEntry p uid index))]).getD ""

def adapterSeatbeltProfileID : String := "controlled_repair_adapter_seatbelt_v1"

def adapterSeatbeltProfileHash : String :=
  (hashRecord p.toCanonical
    ([("schema_version", .text "ananke.controlled-repair-adapter-seatbelt-profile.v1"),
      ("profile_id", .text adapterSeatbeltProfileID)] ++
    ["adapter_child_process_only", "no_in_process_interface", "write_disposable_roots_only",
      "read_pinned_roots_only", "network_broker_only", "exec_pinned_adapter_only",
      "no_credentials_in_argv", "no_credentials_in_policy_or_evidence",
      "descriptor_closure_required", "uid_wide_process_enumeration_required",
      "root_freeze_before_continue"].map fun policy => (policy, .flag true))).getD ""

def validAdapterSandboxStateReason :
    AdapterSandboxState → Option AdapterSandboxAmbiguityReason → Bool
  | .terminalProven, reason | .retainedTerminalReplay, reason => reason.isNone
  | .retainForHuman, reason => reason.isSome

def validateAdapterTerminalProof (v : AdapterTerminalProof) : Bool :=
  v.schemaVersion = "ananke.controlled-repair-adapter-terminal-proof.v1" &&
    validClosedIdentifier v.proofID 192 &&
    [v.proofHash, v.uidLeaseHash, v.leaderIdentityHash,
      v.processGroupIdentityHash, v.uidEmptyObservationHash, v.sandboxHash,
      v.rootIdentityHash, v.descriptorClosureHash, v.bootEpochHash].all validHash &&
    recordHashMatches p.toCanonical v.content v.proofHash &&
    (p.parseUTC v.observedAt).isSome

variable (v : AdapterSandboxObservation)

def validateAdapterSandboxObservation : Bool :=
  v.schemaVersion = "ananke.controlled-repair-adapter-sandbox-observation.v1" &&
    [v.observationID, v.worktreeSlotID, v.seatbeltProfileID, v.bootEpochID].all
      (validClosedIdentifier · 192) &&
    recordHashMatches p.toCanonical v.content v.observationHash &&
    [v.authorizationHash, v.approvalHash, v.requestHash, v.dispatchHash,
      v.attemptHash, v.claimHash, v.predecessorClaimHash,
      v.predecessorTerminalEventHash, v.repositoryBindingHash,
      v.repositoryIdentityHash, v.worktreeSlotPathHash, v.worktreeCapabilityHash,
      v.installedWorktreeRootIdentityHash, v.uidPoolHash, v.uidLeaseHash,
      v.seatbeltProfileHash, v.rootIdentityHash, v.sandboxHash,
      v.descriptorClosureHash, v.bootEpochHash].all validHash &&
    1 ≤ v.attemptNumber && v.attemptNumber ≤ attemptCap &&
    v.attemptCap = attemptCap && v.uid ≠ 0 && v.groupID ≠ 0 &&
    validAdapterSandboxStateReason v.state v.ambiguityReason &&
    validateAdapterTerminalProof p v.terminalProof &&
    v.uidPoolHash = adapterUIDPoolHash p && v.groupID = adapterUIDPoolGroupID &&
    v.seatbeltProfileID = adapterSeatbeltProfileID &&
    v.seatbeltProfileHash = adapterSeatbeltProfileHash p && v.uid ∈ adapterUIDPoolUIDs

def decodeAdapterSandboxObservation (raw : β) : Option AdapterSandboxObservation :=
  (p.decodeAdapterObservation raw).filter (validateAdapterSandboxObservation p)

def adapterSandboxSealEvidence : List (String × Value) :=
  let proof := v.terminalProof
  [("uid_lease_verification", .object [("uid_lease_hash", .text v.uidLeaseHash),
      ("uid", .number v.uid), ("group_id", .number v.groupID),
      ("pool_id", .text "controlled_repair_runtime_uid_pool_v1")]),
    ("seatbelt_profile_verification", .object [("seatbelt_profile_hash",
      .text v.seatbeltProfileHash), ("sandbox_hash", .text v.sandboxHash)]),
    ("terminal_proof_verification", .object [("terminal_proof_hash", .text proof.proofHash),
      ("cleanup_result", .text proof.cleanupResult.name),
      ("uid_empty_verified", .flag proof.uidEmptyVerified)]),
    ("sandbox_boundary_verification", .object [("sandbox_hash", .text v.sandboxHash),
      ("descriptor_closure_hash", .text v.descriptorClosureHash)]),
    ("descriptor_closure_verification", .object [("descriptor_closure_hash",
      .text v.descriptorClosureHash), ("descriptors_closed", .flag proof.descriptorsClosed)]),
    ("root_identity_verification", .object [("root_identity_hash",
      .text v.rootIdentityHash), ("roots_frozen", .flag proof.rootsFrozen)]),
    ("uid_empty_verification", .object [("uid_empty_observation_hash",
      .text proof.uidEmptyObservationHash), ("uid_empty_verified",
      .flag proof.uidEmptyVerified)])]

def adapterSandboxVerifierAuthorityHash : String :=
  (hashRecord p.toCanonical
    [("schema_version", .text "ananke.controlled-repair-adapter-sandbox-verifier-authority.v1"),
      ("verifier_id", .text "controlled_repair_adapter_sandbox_verifier_v1"),
      ("seatbelt_profile_id", .text adapterSeatbeltProfileID),
      ("seatbelt_profile_hash", .text (adapterSeatbeltProfileHash p)),
      ("uid_pool_hash", .text (adapterUIDPoolHash p)),
      ("release_pins_hash", .text p.frozen.pins.releasePinsHash),
      ("verification_kinds", .list (["uid_lease_verification", "seatbelt_profile_verification",
        "terminal_proof_verification", "sandbox_boundary_verification",
        "descriptor_closure_verification", "root_identity_verification",
        "uid_empty_verification"].map .text))]).getD ""

def adapterSandboxVerificationSeals (canonicalHash : String) : List String :=
  (adapterSandboxSealEvidence v).map fun (kind, evidence) =>
    deriveVerificationSeal p.toCanonical
      "ananke.controlled-repair-adapter-sandbox-verification-seal.v1"
      (adapterSandboxVerifierAuthorityHash p) v.observationHash canonicalHash kind evidence

def verifiedAdapterSandboxIntegrityHash (v : VerifiedAdapterSandbox β) : String :=
  (hashRecord p.toCanonical
    [("valid", .flag v.valid), ("observation_hash", .text v.observationHash),
      ("snapshot_integrity_hash", .text v.snapshotIntegrityHash),
      ("verifier_authority_hash", .text v.verifierAuthorityHash),
      ("verification_seals_hash", .text v.verificationSealsHash),
      ("authorization_hash", .text v.authorizationHash),
      ("claim_hash", .text v.claimHash), ("attempt_hash", .text v.attemptHash),
      ("predecessor_claim_hash", .text v.predecessorClaimHash),
      ("worktree_capability_hash", .text v.worktreeCapabilityHash),
      ("uid_lease_hash", .text v.uidLeaseHash),
      ("terminal_proof_hash", .text v.terminalProofHash),
      ("canonical_hash", .text v.canonicalHash)]).getD ""

/-- The capability repeats what was observed of a sandbox whose end is proven, and its seals
are those of the frozen verifier. -/
def verifiedAdapterSandboxIntact (v : VerifiedAdapterSandbox β) : Bool :=
  v.valid && validHash v.integrityHash &&
    v.integrityHash = verifiedAdapterSandboxIntegrityHash p v &&
    [v.snapshotIntegrityHash, v.authorizationHash, v.claimHash, v.attemptHash,
      v.predecessorClaimHash, v.worktreeCapabilityHash, v.uidLeaseHash,
      v.terminalProofHash, v.canonicalHash, v.verifierAuthorityHash,
      v.verificationSealsHash].all validHash &&
    v.canonicalHash = p.sha256Digest v.canonical &&
    v.verifierAuthorityHash = adapterSandboxVerifierAuthorityHash p &&
    match decodeAdapterSandboxObservation p v.canonical with
    | none => false
    | some obs =>
      obs.state = .terminalProven && obs.observationHash = v.observationHash &&
        obs.authorizationHash = v.authorizationHash &&
        obs.claimHash = v.claimHash && obs.attemptHash = v.attemptHash &&
        obs.predecessorClaimHash = v.predecessorClaimHash &&
        obs.worktreeCapabilityHash = v.worktreeCapabilityHash &&
        obs.uidLeaseHash = v.uidLeaseHash &&
        obs.terminalProof.proofHash = v.terminalProofHash &&
        v.verificationSealsHash = verificationSealsHash p.toCanonical
          (adapterSandboxVerificationSeals p obs v.canonicalHash)

def goToolchainManifestID : String := "controlled_repair_go_toolchain_v1"

def goToolchainGoVersion : String := "1.24.0"

def zeroHash : String :=
  "sha256:0000000000000000000000000000000000000000000000000000000000000000"

def goToolchainManifestHash : String :=
  (hashRecord p.toCanonical
    [("schema_version", .text "ananke.controlled-repair-go-toolchain-manifest.v1"),
      ("manifest_id", .text goToolchainManifestID), ("go_version", .text goToolchainGoVersion),
      ("executable_hash", .text zeroHash), ("module_cache_hash", .text zeroHash),
      ("root_owned", .flag true), ("read_only_module_cache", .flag true)]).getD ""

def goTestProfileID : String := "controlled_repair_go_test_profile_v1"

def testCommand : String := "go test ./... -count=1 -mod=readonly"

def goTestProfileHash : String :=
  (hashRecord p.toCanonical
    [("schema_version", .text "ananke.controlled-repair-go-test-profile.v1"),
      ("profile_id", .text goTestProfileID), ("command", .text testCommand),
      ("timeout_seconds", .number 300), ("max_output_bytes", .number 1048576),
      ("max_cpu_percent", .number 100), ("max_memory_bytes", .number 1073741824),
      ("cgo_enabled", .text "0"), ("goenv", .text "off"), ("gotoolchain", .text "local"),
      ("goproxy", .text "off"), ("gosumdb", .text "off"), ("govcs", .text "*:off"),
      ("gowork", .text "off"), ("no_network", .flag true), ("private_home", .flag true),
      ("private_tmpdir", .flag true), ("private_gocache", .flag true),
      ("read_only_module_cache", .flag true)]).getD ""

def validTestSandboxStateReason : TestSandboxState → Option TestSandboxAmbiguityReason → Bool
  | .terminalProven, reason | .retainedTerminalReplay, reason => reason.isNone
  | .retainForHuman, reason => reason.isSome

def validateTestCandidateCopy (v : TestCandidateCopyObservation) : Bool :=
  v.schemaVersion = "ananke.controlled-repair-test-candidate-copy-observation.v1" &&
    validHash v.copyHash && recordHashMatches p.toCanonical v.content v.copyHash &&
    v.noDotGit && v.noRemotes && v.noCredentials && v.noOriginalRepo &&
    v.noRetainedWorktree && v.noJournalPaths && v.noKeyPaths &&
    validHash v.candidateRootIdentityHash

def validateTestTerminalProof (v : TestTerminalProof) : Bool :=
  v.schemaVersion = "ananke.controlled-repair-test-terminal-proof.v1" &&
    validClosedIdentifier v.proofID 192 &&
    [v.proofHash, v.uidLeaseHash, v.leaderIdentityHash,
      v.processGroupIdentityHash, v.uidEmptyObservationHash, v.sandboxHash,
      v.rootIdentityHash, v.descriptorClosureHash, v.bootEpochHash].all validHash &&
    recordHashMatches p.toCanonical v.content v.proofHash &&
    (p.parseUTC v.observedAt).isSome

def validateTestSandboxObservation (v : TestSandboxObservation) : Bool :=
  v.schemaVersion = "ananke.controlled-repair-test-sandbox-observation.v1" &&
    [v.observationID, v.worktreeSlotID, v.toolchainManifestID, v.testProfileID,
      v.bootEpochID].all (validClosedIdentifier · 192) &&
    recordHashMatches p.toCanonical v.content v.observationHash &&
    [v.authorizationHash, v.approvalHash, v.requestHash, v.dispatchHash,
      v.attemptHash, v.claimHash, v.predecessorClaimHash,
      v.predecessorTerminalEventHash, v.repositoryBindingHash,
      v.repositoryIdentityHash, v.adapterCapabilityHash, v.uidPoolHash,
      v.uidLeaseHash, v.toolchainManifestHash, v.testProfileHash,
      v.rootIdentityHash, v.sandboxHash, v.descriptorClosureHash,
      v.bootEpochHash].all validHash &&
    1 ≤ v.attemptNumber && v.attemptNumber ≤ attemptCap &&
    v.attemptCap = attemptCap && v.uid ≠ 0 && v.groupID ≠ 0 &&
    validTestSandboxStateReason v.state v.ambiguityReason &&
    validateTestTerminalProof p v.terminalProof &&
    validateTestCandidateCopy p v.candidateCopy &&
    v.uidPoolHash = adapterUIDPoolHash p && v.groupID = adapterUIDPoolGroupID &&
    v.toolchainManifestID = goToolchainManifestID &&
    v.toolchainManifestHash = goToolchainManifestHash p &&
    v.testProfileID = goTestProfileID && v.testProfileHash = goTestProfileHash p &&
    v.uid ∈ adapterUIDPoolUIDs

def decodeTestSandboxObservation (raw : β) : Option TestSandboxObservation :=
  (p.decodeTestObservation raw).filter (validateTestSandboxObservation p)

def testSandboxSealEvidence (v : TestSandboxObservation) : List (String × Value) :=
  let proof := v.terminalProof
  let copy := v.candidateCopy
  [("toolchain_manifest_verification", .object [("toolchain_manifest_hash",
      .text v.toolchainManifestHash), ("go_version", .text goToolchainGoVersion)]),
    ("test_profile_verification", .object [("test_profile_hash", .text v.testProfileHash),
      ("command", .text testCommand)]),
    ("candidate_copy_verification", .object [("copy_hash", .text copy.copyHash),
      ("no_dot_git", .flag copy.noDotGit), ("no_remotes", .flag copy.noRemotes),
      ("no_credentials", .flag copy.noCredentials),
      ("no_original_repo", .flag copy.noOriginalRepo),
      ("no_retained_worktree", .flag copy.noRetainedWorktree)]),
    ("test_sandbox_boundary_verification", .object [("sandbox_hash", .text v.sandboxHash),
      ("descriptor_closure_hash", .text v.descriptorClosureHash)]),
    ("terminal_proof_verification", .object [("terminal_proof_hash", .text proof.proofHash),
      ("cleanup_result", .text proof.cleanupResult.name),
      ("uid_empty_verified", .flag proof.uidEmptyVerified)]),
    ("root_cleanup_verification", .object [("root_identity_hash",
      .text v.rootIdentityHash), ("root_scrubbed_and_proven_absent",
      .flag proof.rootScrubbedAndProvenAbsent), ("roots_scrubbed", .flag proof.rootsScrubbed)]),
    ("uid_empty_verification", .object [("uid_empty_observation_hash",
      .text proof.uidEmptyObservationHash), ("uid_empty_verified",
      .flag proof.uidEmptyVerified)])]

def testSandboxVerifierAuthorityHash : String :=
  (hashRecord p.toCanonical
    [("schema_version", .text "ananke.controlled-repair-test-sandbox-verifier-authority.v1"),
      ("verifier_id", .text "controlled_repair_test_sandbox_verifier_v1"),
      ("toolchain_manifest_id", .text goToolchainManifestID),
      ("toolchain_manifest_hash", .text (goToolchainManifestHash p)),
      ("test_profile_id", .text goTestProfileID),
      ("test_profile_hash", .text (goTestProfileHash p)),
      ("uid_pool_hash", .text (adapterUIDPoolHash p)),
      ("release_pins_hash", .text p.frozen.pins.releasePinsHash),
      ("verification_kinds", .list (["toolchain_manifest_verification",
        "test_profile_verification", "candidate_copy_verification",
        "test_sandbox_boundary_verification", "terminal_proof_verification",
        "root_cleanup_verification", "uid_empty_verification"].map .text))]).getD ""

def testSandboxVerificationSeals (v : TestSandboxObservation) (canonicalHash : String) :
    List String :=
  (testSandboxSealEvidence v).map fun (kind, evidence) =>
    deriveVerificationSeal p.toCanonical
      "ananke.controlled-repair-test-sandbox-verification-seal.v1"
      (testSandboxVerifierAuthorityHash p) v.observationHash canonicalHash kind evidence

def verifiedTestSandboxIntegrityHash (v : VerifiedTestSandbox β) : String :=
  (hashRecord p.toCanonical
    [("valid", .flag v.valid), ("observation_hash", .text v.observationHash),
      ("snapshot_integrity_hash", .text v.snapshotIntegrityHash),
      ("verifier_authority_hash", .text v.verifierAuthorityHash),
      ("verification_seals_hash", .text v.verificationSealsHash),
      ("authorization_hash", .text v.authorizationHash),
      ("claim_hash", .text v.claimHash), ("attempt_hash", .text v.attemptHash),
      ("predecessor_claim_hash", .text v.predecessorClaimHash),
      ("adapter_capability_hash", .text v.adapterCapabilityHash),
      ("uid_lease_hash", .text v.uidLeaseHash),
      ("terminal_proof_hash", .text v.terminalProofHash),
      ("canonical_hash", .text v.canonicalHash)]).getD ""

/-- The capability repeats what was observed of a sandbox whose end is proven, and its seals
are those of the frozen verifier. -/
def verifiedTestSandboxIntact (v : VerifiedTestSandbox β) : Bool :=
  v.valid && validHash v.integrityHash && v.integrityHash = verifiedTestSandboxIntegrityHash p v &&
    [v.snapshotIntegrityHash, v.authorizationHash, v.claimHash, v.attemptHash,
      v.predecessorClaimHash, v.adapterCapabilityHash, v.uidLeaseHash,
      v.terminalProofHash, v.canonicalHash, v.verifierAuthorityHash,
      v.verificationSealsHash].all validHash &&
    v.canonicalHash = p.sha256Digest v.canonical &&
    v.verifierAuthorityHash = testSandboxVerifierAuthorityHash p &&
    match decodeTestSandboxObservation p v.canonical with
    | none => false
    | some obs =>
      obs.state = .terminalProven && obs.observationHash = v.observationHash &&
        obs.authorizationHash = v.authorizationHash &&
        obs.claimHash = v.claimHash && obs.attemptHash = v.attemptHash &&
        obs.predecessorClaimHash = v.predecessorClaimHash &&
        obs.adapterCapabilityHash = v.adapterCapabilityHash &&
        obs.uidLeaseHash = v.uidLeaseHash &&
        obs.terminalProof.proofHash = v.terminalProofHash &&
        v.verificationSealsHash = verificationSealsHash p.toCanonical
          (testSandboxVerificationSeals p obs v.canonicalHash)

end Ananke.Repair
