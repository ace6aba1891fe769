import Ananke.Repair.Primitive

/-! The evidence of the materialization phase: what the verifier observed of the worktree,
sealed under its authority. -/
namespace Ananke.Repair

variable {β : Type} (p : Primitives β)

def validRepositoryWorktreeStateReason :
    RepositoryWorktreeState → Option RepositoryWorktreeAmbiguityReason → Bool
  | .newExact, reason | .retainedExactReplay, reason => reason.isNone
  | .retainForHuman, reason => reason.isSome && reason ≠ some .orphanedMaterialization
  | .orphanedStatusOnly, reason => reason = some .orphanedMaterialization

def validateRepositoryDescriptor (v : RepositoryDescriptorIdentity) : Bool :=
  v.schemaVersion = "ananke.controlled-repair-repository-descriptor-identity.v1" &&
    validHash v.canonicalPathHash && validHash v.noFollowIdentityHash &&
    recordHashMatches p.toCanonical v.content v.descriptorHash

def validateCommonGitMember (member : CommonGitMemberObservation) : Bool :=
  member.schemaVersion = "ananke.controlled-repair-common-git-member-observation.v1" &&
    1 ≤ member.sequence &&
    [member.repositoryRelativePathHash, member.descriptorIdentityHash, member.contentHash,
      member.semanticTargetHash].all validHash &&
    recordHashMatches p.toCanonical member.content member.memberHash

def validateCommonGitProtectedDomain (domain : CommonGitProtectedDomainObservation) : Bool :=
  domain.schemaVersion = "ananke.controlled-repair-common-git-protected-domain-observation.v1" &&
    1 ≤ domain.sequence && validHash domain.beforeHash && validHash domain.afterHash &&
    recordHashMatches p.toCanonical domain.content domain.domainHash

def validateCommonGitDelta (v : CommonGitDeltaObservation) : Bool :=
  v.schemaVersion = "ananke.controlled-repair-common-git-delta-observation.v1" &&
    recordHashMatches p.toCanonical v.content v.deltaHash &&
    validClosedIdentifier v.worktreeSlotID 192 &&
    [v.candidateAdminSubtreePathHash, v.beforeInventoryHash, v.afterInventoryHash].all validHash &&
    v.members.length ≤ 64 && v.addedMemberIDs.length ≤ 64 &&
    v.protectedDomains.length ≤ 64 && v.members.all (validateCommonGitMember p) &&
    [v.changedPreexistingMemberHashes, v.removedPreexistingMemberHashes,
      v.extraAddedMemberHashes].all
      (fun hashes => hashes.length ≤ 64 && hashes.all validHash) &&
    v.protectedDomains.all (validateCommonGitProtectedDomain p)

def validateRepositoryCandidate (v : RepositoryCandidateObservation) : Bool :=
  v.schemaVersion = "ananke.controlled-repair-repository-candidate-observation.v1" &&
    recordHashMatches p.toCanonical v.content v.candidateHash &&
    gitObjectPattern v.headCommit && gitObjectPattern v.origHeadCommit &&
    gitObjectPattern v.indexTree && validHash v.candidateGitfileTargetPathHash &&
    validHash v.adminGitdirBacklinkPathHash

def validateRepositorySourceClosure (v : RepositorySourceClosure) : Bool :=
  v.schemaVersion = "ananke.controlled-repair-repository-source-closure.v1" &&
    recordHashMatches p.toCanonical v.content v.sourceClosureHash &&
    [v.installedWorktreeRootIdentityHash, v.sourceRootIdentityHashBefore,
      v.sourceRootIdentityHashAfter, v.protectedContentsHashBefore,
      v.protectedContentsHashAfter].all validHash

def validateRepositoryWritablePath (path : RepositoryWritablePathObservation) : Bool :=
  path.schemaVersion = "ananke.controlled-repair-repository-writable-path-observation.v1" &&
    1 ≤ path.sequence && validClosedIdentifier path.pathID 192 &&
    [path.repositoryRelativePathHash, path.resolvedCanonicalPathHash,
      path.ancestorDescriptorChainHash, path.leafIdentityHash].all validHash &&
    recordHashMatches p.toCanonical path.content path.pathObservationHash

def validateRepositoryWritablePaths (v : RepositoryWritablePathClosure) : Bool :=
  v.schemaVersion = "ananke.controlled-repair-repository-writable-path-closure.v1" &&
    recordHashMatches p.toCanonical v.content v.pathClosureHash &&
    validHash v.authorizedPathSetHash && validHash v.candidateRootIdentityHash &&
    v.paths.length ≤ 256 && v.paths.all (validateRepositoryWritablePath p)

def validateRepositoryConfigClosure (v : RepositoryGitConfigClosure) : Bool :=
  v.schemaVersion = "ananke.controlled-repair-repository-git-config-closure.v1" &&
    recordHashMatches p.toCanonical v.content v.configClosureHash &&
    validClosedIdentifier v.materializerProfileID 192 &&
    [v.materializerProfileHash, v.commonConfigDescriptorHashBefore,
      v.commonConfigDescriptorHashAfter, v.commonConfigBytesHashBefore,
      v.commonConfigBytesHashAfter].all validHash

/-- All are hashes where the file exists, and all are empty where it does not. -/
def validOptionalDescriptorContentPair («exists» : Bool) (values : List String) : Bool :=
  values.all fun v => if «exists» then validHash v else v = ""

def validateRepositoryAttributesClosure (v : RepositoryGitAttributesClosure) : Bool :=
  v.schemaVersion = "ananke.controlled-repair-repository-git-attributes-closure.v1" &&
    recordHashMatches p.toCanonical v.content v.attributesClosureHash &&
    validHash v.baseTreeGitattributesInventoryHash &&
    validHash v.effectiveAttributesHash &&
    validOptionalDescriptorContentPair v.infoAttributesExists
      [v.infoAttributesDescriptorHashBefore, v.infoAttributesDescriptorHashAfter,
        v.infoAttributesContentHashBefore, v.infoAttributesContentHashAfter] &&
    validOptionalDescriptorContentPair v.infoExcludeExists
      [v.infoExcludeDescriptorHashBefore, v.infoExcludeDescriptorHashAfter,
        v.infoExcludeContentHashBefore, v.infoExcludeContentHashAfter]

variable (v : RepositoryWorktreeMaterializationObservation)

def validateRepositoryWorktreeObservation : Bool :=
  v.schemaVersion = "ananke.controlled-repair-repository-worktree-observation.v1" &&
    validClosedIdentifier v.observationID 192 &&
    recordHashMatches p.toCanonical v.content v.observationHash &&
    [v.authorizationHash, v.approvalHash, v.requestHash, v.dispatchHash,
      v.attemptHash, v.claimHash, v.worktreeSlotPathHash,
      v.installedWorktreeRootIdentityHash, v.materializerProfileHash,
      v.beforeCommonGitInventoryHash, v.afterCommonGitInventoryHash].all validHash &&
    1 ≤ v.attemptNumber && v.attemptNumber ≤ attemptCap &&
    v.attemptCap = attemptCap && validClosedIdentifier v.worktreeSlotID 192 &&
    validClosedIdentifier v.materializerProfileID 192 &&
    v.repository.schemaVersion = "ananke.controlled-repair-repository-binding.v1" &&
    recordHashMatches p.toCanonical v.repository.content v.repository.repositoryBindingHash &&
    gitObjectPattern v.repository.baseCommit && gitObjectPattern v.repository.baseTree &&
    validRepositoryWorktreeStateReason v.state v.ambiguityReason &&
    [v.sourceRootDescriptor, v.commonGitRootDescriptor, v.candidateRootDescriptor,
      v.candidateGitfileDescriptor, v.candidateAdminDescriptor].all
      (validateRepositoryDescriptor p) &&
    validateCommonGitDelta p v.commonGitDelta && validateRepositoryCandidate p v.candidate &&
    validateRepositorySourceClosure p v.source &&
    validateRepositoryWritablePaths p v.writablePaths &&
    validateRepositoryConfigClosure p v.config &&
    validateRepositoryAttributesClosure p v.attributes

def decodeRepositoryWorktreeObservation (raw : β) :
    Option RepositoryWorktreeMaterializationObservation :=
  (p.decodeWorktreeObservation raw).filter (validateRepositoryWorktreeObservation p)

def repositoryWorktreeSealEvidence (tupleUnique slotUnique ownershipCertain unambiguous : Bool) :
    List (String × Value) :=
  [("descriptor_verification", .object [("descriptor_hashes", .list
      (([v.sourceRootDescriptor, v.commonGitRootDescriptor,
        v.candidateRootDescriptor, v.candidateGitfileDescriptor,
        v.candidateAdminDescriptor].map (·.descriptorHash)).map .text))]),
    ("delta_verification", .object [("delta_hash", .text v.commonGitDelta.deltaHash),
      ("before_common_git_inventory_hash", .text v.beforeCommonGitInventoryHash),
      ("after_common_git_inventory_hash", .text v.afterCommonGitInventoryHash)]),
    ("config_verification", .object [("config_closure_hash", .text v.config.configClosureHash)]),
    ("attributes_verification", .object [("attributes_closure_hash",
      .text v.attributes.attributesClosureHash)]),
    ("path_verification", .object [("path_closure_hash", .text v.writablePaths.pathClosureHash)]),
    ("uniqueness_verification", .object [("tuple_unique", .flag tupleUnique),
      ("slot_unique", .flag slotUnique), ("ownership_certain", .flag ownershipCertain)]),
    ("ambiguity_verification", .object [("unambiguous", .flag unambiguous),
      ("state", .text v.state.name),
      ("ambiguity_reason", .text ((v.ambiguityReason.map
        RepositoryWorktreeAmbiguityReason.name).getD ""))])]

def repositoryWorktreeMaterializerProfileID : String :=
  "installed_git_2_54_detached_worktree_materializer_v1"

def repositoryWorktreeMaterializerProfileHash : String :=
  (hashRecord p.toCanonical ([("schema_version",
        .text "ananke.controlled-repair-repository-git-254-materializer-profile.v1"),
      ("materializer_profile_id", .text repositoryWorktreeMaterializerProfileID),
      ("git_version", .text "2.54")] ++
    ["detached_head_only", "exact_six_member_delta", "commondir_parent_parent_only",
      "system_config_disabled", "global_config_disabled", "no_includes", "no_include_if",
      "no_hooks_path", "no_attributes_file", "no_filters", "no_fsmonitor",
      "no_external_commands", "system_attributes_disabled", "no_external_filter_attributes",
      "no_process_filter_attributes", "no_external_command_attributes"].map
      fun policy => (policy, .flag true))).getD ""

def repositoryWorktreeVerifierAuthorityHash : String :=
  (hashRecord p.toCanonical [("schema_version",
        .text "ananke.controlled-repair-repository-worktree-verifier-authority.v1"),
      ("verifier_id", .text "controlled_repair_repository_worktree_verifier_v1"),
      ("materializer_profile_id", .text repositoryWorktreeMaterializerProfileID),
      ("materializer_profile_hash", .text (repositoryWorktreeMaterializerProfileHash p)),
      ("release_pins_hash", .text p.frozen.pins.releasePinsHash),
      ("verification_kinds", .list (["descriptor_verification", "delta_verification",
        "config_verification", "attributes_verification", "path_verification",
        "uniqueness_verification", "ambiguity_verification"].map .text))]).getD ""

def repositoryWorktreeVerificationSeals (canonicalHash : String)
    (tupleUnique slotUnique ownershipCertain unambiguous : Bool) : List String :=
  (repositoryWorktreeSealEvidence v tupleUnique slotUnique ownershipCertain unambiguous).map
    fun (kind, evidence) => deriveVerificationSeal p.toCanonical
      "ananke.controlled-repair-repository-worktree-verification-seal.v1"
      (repositoryWorktreeVerifierAuthorityHash p) v.observationHash canonicalHash kind
      evidence

def verifiedRepositoryWorktreeIntegrityHash (v : VerifiedRepositoryWorktree β) : String :=
  (hashRecord p.toCanonical
    [("valid", .flag v.valid), ("observation_hash", .text v.observationHash),
      ("snapshot_integrity_hash", .text v.snapshotIntegrityHash),
      ("verifier_authority_hash", .text v.verifierAuthorityHash),
      ("verification_seals_hash", .text v.verificationSealsHash),
      ("authorization_hash", .text v.authorizationHash),
      ("claim_hash", .text v.claimHash), ("attempt_hash", .text v.attemptHash),
      ("worktree_slot_id", .text v.worktreeSlotID),
      ("writable_path_set_hash", .text v.writablePathSetHash),
      ("candidate_root_identity_hash", .text v.candidateRootIdentityHash),
      ("canonical_hash", .text v.canonicalHash)]).getD ""

/-- The capability repeats what was observed of a new worktree, and its seals are those of
the frozen verifier. -/
def verifiedRepositoryWorktreeIntact (v : VerifiedRepositoryWorktree β) : Bool :=
  v.valid && validHash v.integrityHash &&
    v.integrityHash = verifiedRepositoryWorktreeIntegrityHash p v &&
    [v.snapshotIntegrityHash, v.authorizationHash, v.claimHash, v.attemptHash,
      v.writablePathSetHash, v.candidateRootIdentityHash, v.canonicalHash,
      v.verifierAuthorityHash, v.verificationSealsHash].all validHash &&
    validClosedIdentifier v.worktreeSlotID 192 &&
    v.canonicalHash = p.sha256Digest v.canonical &&
    v.verifierAuthorityHash = repositoryWorktreeVerifierAuthorityHash p &&
    match decodeRepositoryWorktreeObservation p v.canonical with
    | none => false
    | some obs =>
      obs.state = .newExact && obs.observationHash = v.observationHash &&
        obs.authorizationHash = v.authorizationHash &&
        obs.claimHash = v.claimHash && obs.attemptHash = v.attemptHash &&
        obs.worktreeSlotID = v.worktreeSlotID &&
        obs.writablePaths.authorizedPathSetHash = v.writablePathSetHash &&
        obs.candidateRootDescriptor.noFollowIdentityHash = v.candidateRootIdentityHash &&
        v.verificationSealsHash = verificationSealsHash p.toCanonical
          (repositoryWorktreeVerificationSeals p obs v.canonicalHash true true true true)

end Ananke.Repair
