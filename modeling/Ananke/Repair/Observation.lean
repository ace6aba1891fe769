import Ananke.Repair.Record

/-! What the verifiers of the worktree, the adapter sandbox and the test sandbox observed,
and the evidence that they give out. -/
namespace Ananke.Repair

inductive RepositoryWorktreeState
  | newExact | retainedExactReplay | retainForHuman | orphanedStatusOnly
deriving DecidableEq

def RepositoryWorktreeState.name : RepositoryWorktreeState → String
  | .newExact => "new_exact"
  | .retainedExactReplay => "retained_exact_replay"
  | .retainForHuman => "retain_for_human"
  | .orphanedStatusOnly => "orphaned_status_only"

inductive RepositoryWorktreeAmbiguityReason
  | conflictingRetainedState | partialCommonGitDelta | uncertainOwnership
  | conflictingWorktreeSlot | gitConfigDrift | gitAttributesDrift | authorizedPathAmbiguity
  | protectedCommonGitDrift | candidateStateDrift | descriptorIdentityDrift
  | orphanedMaterialization
deriving DecidableEq

def RepositoryWorktreeAmbiguityReason.name : RepositoryWorktreeAmbiguityReason → String
  | .conflictingRetainedState => "conflicting_retained_state"
  | .partialCommonGitDelta => "partial_common_git_delta"
  | .uncertainOwnership => "uncertain_ownership"
  | .conflictingWorktreeSlot => "conflicting_worktree_slot"
  | .gitConfigDrift => "git_config_drift"
  | .gitAttributesDrift => "git_attributes_drift"
  | .authorizedPathAmbiguity => "authorized_path_ambiguity"
  | .protectedCommonGitDrift => "protected_common_git_drift"
  | .candidateStateDrift => "candidate_state_drift"
  | .descriptorIdentityDrift => "descriptor_identity_drift"
  | .orphanedMaterialization => "orphaned_materialization"

inductive RepositoryDescriptorID
  | sourceRoot | commonGitRoot | candidateRoot | candidateGitfile | candidateAdminSubtree

def RepositoryDescriptorID.name : RepositoryDescriptorID → String
  | .sourceRoot => "source_root"
  | .commonGitRoot => "common_git_root"
  | .candidateRoot => "candidate_root"
  | .candidateGitfile => "candidate_gitfile"
  | .candidateAdminSubtree => "candidate_admin_subtree"

inductive RepositoryDescriptorObjectKind
  | directory | regularFile

def RepositoryDescriptorObjectKind.name : RepositoryDescriptorObjectKind → String
  | .directory => "directory"
  | .regularFile => "regular_file"

inductive CommonGitMemberID
  | head | origHead | commondir | gitdir | index | logsHead

def CommonGitMemberID.name : CommonGitMemberID → String
  | .head => "head"
  | .origHead => "orig_head"
  | .commondir => "commondir"
  | .gitdir => "gitdir"
  | .index => "index"
  | .logsHead => "logs_head"

inductive CommonGitMemberSemantic
  | detachedHeadAtBaseCommit | origHeadAtBaseCommit | commondirParentParent
  | adminGitdirCandidateBacklink | indexAtBaseTree | detachedCheckoutHeadLog

def CommonGitMemberSemantic.name : CommonGitMemberSemantic → String
  | .detachedHeadAtBaseCommit => "detached_head_at_base_commit"
  | .origHeadAtBaseCommit => "orig_head_at_base_commit"
  | .commondirParentParent => "commondir_parent_parent"
  | .adminGitdirCandidateBacklink => "admin_gitdir_candidate_backlink"
  | .indexAtBaseTree => "index_at_base_tree"
  | .detachedCheckoutHeadLog => "detached_checkout_head_log"

inductive CommonGitDeltaState
  | exactNewSubtree | exactRetainedSubtree | ambiguousOrPartial

def CommonGitDeltaState.name : CommonGitDeltaState → String
  | .exactNewSubtree => "exact_new_subtree"
  | .exactRetainedSubtree => "exact_retained_subtree"
  | .ambiguousOrPartial => "ambiguous_or_partial"

inductive CommonGitProtectedDomainID
  | refs | logsOutsideCandidateAdmin | config | objects | hooks | infoExclude | infoAttributes
  | alternates | shallow | grafts | replace | packedRefs | commonIndex | worktreeAdminSiblings

def CommonGitProtectedDomainID.name : CommonGitProtectedDomainID → String
  | .refs => "refs"
  | .logsOutsideCandidateAdmin => "logs_outside_candidate_admin"
  | .config => "config"
  | .objects => "objects"
  | .hooks => "hooks"
  | .infoExclude => "info_exclude"
  | .infoAttributes => "info_attributes"
  | .alternates => "alternates"
  | .shallow => "shallow"
  | .grafts => "grafts"
  | .replace => "replace"
  | .packedRefs => "packed_refs"
  | .commonIndex => "common_index"
  | .worktreeAdminSiblings => "worktree_admin_siblings"

inductive RepositoryCandidateHeadMode
  | detached | branch

def RepositoryCandidateHeadMode.name : RepositoryCandidateHeadMode → String
  | .detached => "detached"
  | .branch => "branch"

inductive RepositoryCandidateStatus
  | clean | dirty

def RepositoryCandidateStatus.name : RepositoryCandidateStatus → String
  | .clean => "clean"
  | .dirty => "dirty"

/-- A descriptor that was opened without following links. -/
structure RepositoryDescriptorIdentity where
  (schemaVersion descriptorHash : String)
  descriptorID : RepositoryDescriptorID
  (canonicalPathHash noFollowIdentityHash : String)
  objectKind : RepositoryDescriptorObjectKind

def RepositoryDescriptorIdentity.content (r : RepositoryDescriptorIdentity) :
    List (String × Value) :=
  [("schema_version", .text r.schemaVersion), ("descriptor_id", .text r.descriptorID.name),
    ("canonical_path_hash", .text r.canonicalPathHash),
    ("no_follow_identity_hash", .text r.noFollowIdentityHash),
    ("object_kind", .text r.objectKind.name)]

def RepositoryDescriptorIdentity.toValue (r : RepositoryDescriptorIdentity) : Value :=
  .object (("descriptor_hash", .text r.descriptorHash) :: r.content)

structure CommonGitMemberObservation where
  (schemaVersion memberHash : String)
  sequence : Int
  memberID : CommonGitMemberID
  (repositoryRelativePathHash descriptorIdentityHash contentHash : String)
  semantic : CommonGitMemberSemantic
  semanticTargetHash : String

def CommonGitMemberObservation.content (r : CommonGitMemberObservation) : List (String × Value) :=
  [("schema_version", .text r.schemaVersion), ("sequence", .number r.sequence),
    ("member_id", .text r.memberID.name),
    ("repository_relative_path_hash", .text r.repositoryRelativePathHash),
    ("descriptor_identity_hash", .text r.descriptorIdentityHash),
    ("content_hash", .text r.contentHash), ("semantic", .text r.semantic.name),
    ("semantic_target_hash", .text r.semanticTargetHash)]

def CommonGitMemberObservation.toValue (r : CommonGitMemberObservation) : Value :=
  .object (("member_hash", .text r.memberHash) :: r.content)

structure CommonGitProtectedDomainObservation where
  (schemaVersion domainHash : String)
  sequence : Int
  domainID : CommonGitProtectedDomainID
  (beforeHash afterHash : String)
  unchanged : Bool

def CommonGitProtectedDomainObservation.content (r : CommonGitProtectedDomainObservation) :
    List (String × Value) :=
  [("schema_version", .text r.schemaVersion), ("sequence", .number r.sequence),
    ("domain_id", .text r.domainID.name), ("before_hash", .text r.beforeHash),
    ("after_hash", .text r.afterHash), ("unchanged", .flag r.unchanged)]

def CommonGitProtectedDomainObservation.toValue (r : CommonGitProtectedDomainObservation) : Value :=
  .object (("domain_hash", .text r.domainHash) :: r.content)

structure CommonGitDeltaObservation where
  (schemaVersion deltaHash : String)
  state : CommonGitDeltaState
  (worktreeSlotID candidateAdminSubtreePathHash beforeInventoryHash afterInventoryHash : String)
  members : List CommonGitMemberObservation
  addedMemberIDs : List CommonGitMemberID
  (changedPreexistingMemberHashes removedPreexistingMemberHashes extraAddedMemberHashes
    : List String)
  protectedDomains : List CommonGitProtectedDomainObservation

def CommonGitDeltaObservation.content (r : CommonGitDeltaObservation) : List (String × Value) :=
  [("schema_version", .text r.schemaVersion), ("state", .text r.state.name),
    ("worktree_slot_id", .text r.worktreeSlotID),
    ("candidate_admin_subtree_path_hash", .text r.candidateAdminSubtreePathHash),
    ("before_inventory_hash", .text r.beforeInventoryHash),
    ("after_inventory_hash", .text r.afterInventoryHash),
    ("members", .list (r.members.map CommonGitMemberObservation.toValue)),
    ("added_member_ids", .list (r.addedMemberIDs.map fun id => .text id.name)),
    ("changed_preexisting_member_hashes", .list (r.changedPreexistingMemberHashes.map .text)),
    ("removed_preexisting_member_hashes", .list (r.removedPreexistingMemberHashes.map .text)),
    ("extra_added_member_hashes", .list (r.extraAddedMemberHashes.map .text)),
    ("protected_domains",
      .list (r.protectedDomains.map CommonGitProtectedDomainObservation.toValue))]

def CommonGitDeltaObservation.toValue (r : CommonGitDeltaObservation) : Value :=
  .object (("delta_hash", .text r.deltaHash) :: r.content)

structure RepositoryCandidateObservation where
  (schemaVersion candidateHash headCommit origHeadCommit : String)
  headMode : RepositoryCandidateHeadMode
  indexTree : String
  initialStatus : RepositoryCandidateStatus
  (branchRefCreated branchRefUpdated otherRefUpdated : Bool)
  (candidateGitfileTargetPathHash adminGitdirBacklinkPathHash : String)

def RepositoryCandidateObservation.content (r : RepositoryCandidateObservation) :
    List (String × Value) :=
  [("schema_version", .text r.schemaVersion), ("head_commit", .text r.headCommit),
    ("orig_head_commit", .text r.origHeadCommit), ("head_mode", .text r.headMode.name),
    ("index_tree", .text r.indexTree), ("initial_status", .text r.initialStatus.name),
    ("branch_ref_created", .flag r.branchRefCreated),
    ("branch_ref_updated", .flag r.branchRefUpdated),
    ("other_ref_updated", .flag r.otherRefUpdated),
    ("candidate_gitfile_target_path_hash", .text r.candidateGitfileTargetPathHash),
    ("admin_gitdir_backlink_path_hash", .text r.adminGitdirBacklinkPathHash)]

def RepositoryCandidateObservation.toValue (r : RepositoryCandidateObservation) : Value :=
  .object (("candidate_hash", .text r.candidateHash) :: r.content)

structure RepositorySourceClosure where
  (schemaVersion sourceClosureHash installedWorktreeRootIdentityHash sourceRootIdentityHashBefore
    sourceRootIdentityHashAfter protectedContentsHashBefore protectedContentsHashAfter : String)
  (sourceUnchanged candidateExactChild candidateNew sourceCandidateAlias sourceCommonGitAlias
    candidateCommonGitAlias commonGitWritableByAdapter : Bool)

def RepositorySourceClosure.content (r : RepositorySourceClosure) : List (String × Value) :=
  [("schema_version", .text r.schemaVersion),
    ("installed_worktree_root_identity_hash", .text r.installedWorktreeRootIdentityHash),
    ("source_root_identity_hash_before", .text r.sourceRootIdentityHashBefore),
    ("source_root_identity_hash_after", .text r.sourceRootIdentityHashAfter),
    ("protected_contents_hash_before", .text r.protectedContentsHashBefore),
    ("protected_contents_hash_after", .text r.protectedContentsHashAfter),
    ("source_unchanged", .flag r.sourceUnchanged),
    ("candidate_exact_child", .flag r.candidateExactChild),
    ("candidate_new", .flag r.candidateNew),
    ("source_candidate_alias", .flag r.sourceCandidateAlias),
    ("source_common_git_alias", .flag r.sourceCommonGitAlias),
    ("candidate_common_git_alias", .flag r.candidateCommonGitAlias),
    ("common_git_writable_by_adapter", .flag r.commonGitWritableByAdapter)]

def RepositorySourceClosure.toValue (r : RepositorySourceClosure) : Value :=
  .object (("source_closure_hash", .text r.sourceClosureHash) :: r.content)

structure RepositoryWritablePathObservation where
  (schemaVersion pathObservationHash : String)
  sequence : Int
  (pathID repositoryRelativePathHash resolvedCanonicalPathHash ancestorDescriptorChainHash
    leafIdentityHash : String)

def RepositoryWritablePathObservation.content (r : RepositoryWritablePathObservation) :
    List (String × Value) :=
  [("schema_version", .text r.schemaVersion), ("sequence", .number r.sequence),
    ("path_id", .text r.pathID),
    ("repository_relative_path_hash", .text r.repositoryRelativePathHash),
    ("resolved_canonical_path_hash", .text r.resolvedCanonicalPathHash),
    ("ancestor_descriptor_chain_hash", .text r.ancestorDescriptorChainHash),
    ("leaf_identity_hash", .text r.leafIdentityHash)]

def RepositoryWritablePathObservation.toValue (r : RepositoryWritablePathObservation) : Value :=
  .object (("path_observation_hash", .text r.pathObservationHash) :: r.content)

structure RepositoryWritablePathClosure where
  (schemaVersion pathClosureHash authorizedPathSetHash candidateRootIdentityHash : String)
  paths : List RepositoryWritablePathObservation
  (allPathsUnderCandidate ancestorsNoFollowVerified noSymlinks noHardlinks noPrefixEscapes
    noDuplicates noCaseFoldCollisions noUnicodeNormalizationCollisions : Bool)

def RepositoryWritablePathClosure.content (r : RepositoryWritablePathClosure) :
    List (String × Value) :=
  [("schema_version", .text r.schemaVersion),
    ("authorized_path_set_hash", .text r.authorizedPathSetHash),
    ("candidate_root_identity_hash", .text r.candidateRootIdentityHash),
    ("paths", .list (r.paths.map RepositoryWritablePathObservation.toValue)),
    ("all_paths_under_candidate", .flag r.allPathsUnderCandidate),
    ("ancestors_no_follow_verified", .flag r.ancestorsNoFollowVerified),
    ("no_symlinks", .flag r.noSymlinks), ("no_hardlinks", .flag r.noHardlinks),
    ("no_prefix_escapes", .flag r.noPrefixEscapes), ("no_duplicates", .flag r.noDuplicates),
    ("no_case_fold_collisions", .flag r.noCaseFoldCollisions),
    ("no_unicode_normalization_collisions", .flag r.noUnicodeNormalizationCollisions)]

def RepositoryWritablePathClosure.toValue (r : RepositoryWritablePathClosure) : Value :=
  .object (("path_closure_hash", .text r.pathClosureHash) :: r.content)

structure RepositoryGitConfigClosure where
  (schemaVersion configClosureHash materializerProfileID materializerProfileHash
    commonConfigDescriptorHashBefore commonConfigDescriptorHashAfter commonConfigBytesHashBefore
    commonConfigBytesHashAfter : String)
  (commonConfigUnchanged systemConfigDisabled globalConfigDisabled noIncludes noIncludeIf
    noHooksPath noAttributesFile noFilters noFSMonitor noExternalCommands : Bool)

def RepositoryGitConfigClosure.content (r : RepositoryGitConfigClosure) : List (String × Value) :=
  [("schema_version", .text r.schemaVersion),
    ("materializer_profile_id", .text r.materializerProfileID),
    ("materializer_profile_hash", .text r.materializerProfileHash),
    ("common_config_descriptor_hash_before", .text r.commonConfigDescriptorHashBefore),
    ("common_config_descriptor_hash_after", .text r.commonConfigDescriptorHashAfter),
    ("common_config_bytes_hash_before", .text r.commonConfigBytesHashBefore),
    ("common_config_bytes_hash_after", .text r.commonConfigBytesHashAfter),
    ("common_config_unchanged", .flag r.commonConfigUnchanged),
    ("system_config_disabled", .flag r.systemConfigDisabled),
    ("global_config_disabled", .flag r.globalConfigDisabled),
    ("no_includes", .flag r.noIncludes), ("no_include_if", .flag r.noIncludeIf),
    ("no_hooks_path", .flag r.noHooksPath), ("no_attributes_file", .flag r.noAttributesFile),
    ("no_filters", .flag r.noFilters), ("no_fsmonitor", .flag r.noFSMonitor),
    ("no_external_commands", .flag r.noExternalCommands)]

def RepositoryGitConfigClosure.toValue (r : RepositoryGitConfigClosure) : Value :=
  .object (("config_closure_hash", .text r.configClosureHash) :: r.content)

structure RepositoryGitAttributesClosure where
  (schemaVersion attributesClosureHash : String)
  (systemAttributesDisabled infoAttributesExists : Bool)
  (infoAttributesDescriptorHashBefore infoAttributesDescriptorHashAfter
    infoAttributesContentHashBefore infoAttributesContentHashAfter : String)
  (infoAttributesUnchanged infoExcludeExists : Bool)
  (infoExcludeDescriptorHashBefore infoExcludeDescriptorHashAfter infoExcludeContentHashBefore
    infoExcludeContentHashAfter : String)
  infoExcludeUnchanged : Bool
  (baseTreeGitattributesInventoryHash effectiveAttributesHash : String)
  (baseTreeGitattributesVerified noExternalFilterAttributes noProcessFilterAttributes
    noExternalCommandAttributes : Bool)

def RepositoryGitAttributesClosure.content (r : RepositoryGitAttributesClosure) :
    List (String × Value) :=
  [("schema_version", .text r.schemaVersion),
    ("system_attributes_disabled", .flag r.systemAttributesDisabled),
    ("info_attributes_exists", .flag r.infoAttributesExists),
    ("info_attributes_descriptor_hash_before", .text r.infoAttributesDescriptorHashBefore),
    ("info_attributes_descriptor_hash_after", .text r.infoAttributesDescriptorHashAfter),
    ("info_attributes_content_hash_before", .text r.infoAttributesContentHashBefore),
    ("info_attributes_content_hash_after", .text r.infoAttributesContentHashAfter),
    ("info_attributes_unchanged", .flag r.infoAttributesUnchanged),
    ("info_exclude_exists", .flag r.infoExcludeExists),
    ("info_exclude_descriptor_hash_before", .text r.infoExcludeDescriptorHashBefore),
    ("info_exclude_descriptor_hash_after", .text r.infoExcludeDescriptorHashAfter),
    ("info_exclude_content_hash_before", .text r.infoExcludeContentHashBefore),
    ("info_exclude_content_hash_after", .text r.infoExcludeContentHashAfter),
    ("info_exclude_unchanged", .flag r.infoExcludeUnchanged),
    ("base_tree_gitattributes_inventory_hash", .text r.baseTreeGitattributesInventoryHash),
    ("effective_attributes_hash", .text r.effectiveAttributesHash),
    ("base_tree_gitattributes_verified", .flag r.baseTreeGitattributesVerified),
    ("no_external_filter_attributes", .flag r.noExternalFilterAttributes),
    ("no_process_filter_attributes", .flag r.noProcessFilterAttributes),
    ("no_external_command_attributes", .flag r.noExternalCommandAttributes)]

def RepositoryGitAttributesClosure.toValue (r : RepositoryGitAttributesClosure) : Value :=
  .object (("attributes_closure_hash", .text r.attributesClosureHash) :: r.content)

structure RepositoryWorktreeMaterializationObservation where
  (schemaVersion observationHash observationID : String)
  state : RepositoryWorktreeState
  ambiguityReason : Option RepositoryWorktreeAmbiguityReason
  (authorizationHash approvalHash requestHash dispatchHash attemptHash : String)
  (attemptNumber attemptCap : Int)
  claimHash : String
  repository : RepositoryBinding
  (worktreeSlotID worktreeSlotPathHash installedWorktreeRootIdentityHash materializerProfileID
    materializerProfileHash : String)
  (sourceRootDescriptor commonGitRootDescriptor candidateRootDescriptor
    candidateGitfileDescriptor candidateAdminDescriptor : RepositoryDescriptorIdentity)
  (beforeCommonGitInventoryHash afterCommonGitInventoryHash : String)
  commonGitDelta : CommonGitDeltaObservation
  candidate : RepositoryCandidateObservation
  source : RepositorySourceClosure
  writablePaths : RepositoryWritablePathClosure
  config : RepositoryGitConfigClosure
  attributes : RepositoryGitAttributesClosure

def RepositoryWorktreeMaterializationObservation.content
    (r : RepositoryWorktreeMaterializationObservation) : List (String × Value) :=
  [("schema_version", .text r.schemaVersion), ("observation_id", .text r.observationID),
    ("state", .text r.state.name),
    ("ambiguity_reason",
      .text ((r.ambiguityReason.map RepositoryWorktreeAmbiguityReason.name).getD "")),
    ("authorization_hash", .text r.authorizationHash), ("approval_hash", .text r.approvalHash),
    ("request_hash", .text r.requestHash), ("dispatch_hash", .text r.dispatchHash),
    ("attempt_hash", .text r.attemptHash), ("attempt_number", .number r.attemptNumber),
    ("attempt_cap", .number r.attemptCap), ("claim_hash", .text r.claimHash),
    ("repository", r.repository.toValue), ("worktree_slot_id", .text r.worktreeSlotID),
    ("worktree_slot_path_hash", .text r.worktreeSlotPathHash),
    ("installed_worktree_root_identity_hash", .text r.installedWorktreeRootIdentityHash),
    ("materializer_profile_id", .text r.materializerProfileID),
    ("materializer_profile_hash", .text r.materializerProfileHash),
    ("source_root_descriptor", r.sourceRootDescriptor.toValue),
    ("common_git_root_descriptor", r.commonGitRootDescriptor.toValue),
    ("candidate_root_descriptor", r.candidateRootDescriptor.toValue),
    ("candidate_gitfile_descriptor", r.candidateGitfileDescriptor.toValue),
    ("candidate_admin_descriptor", r.candidateAdminDescriptor.toValue),
    ("before_common_git_inventory_hash", .text r.beforeCommonGitInventoryHash),
    ("after_common_git_inventory_hash", .text r.afterCommonGitInventoryHash),
    ("common_git_delta", r.commonGitDelta.toValue), ("candidate", r.candidate.toValue),
    ("source", r.source.toValue), ("writable_paths", r.writablePaths.toValue),
    ("config", r.config.toValue), ("attributes", r.attributes.toValue)]

def RepositoryWorktreeMaterializationObservation.toValue
    (r : RepositoryWorktreeMaterializationObservation) : Value :=
  .object (("observation_hash", .text r.observationHash) :: r.content)

/-- The capability of the materialization phase. -/
structure VerifiedRepositoryWorktree (β : Type) where
  valid : Bool
  (observationHash snapshotIntegrityHash verifierAuthorityHash verificationSealsHash
    authorizationHash claimHash attemptHash worktreeSlotID writablePathSetHash
    candidateRootIdentityHash : String)
  canonical : β
  (canonicalHash integrityHash : String)

inductive AdapterSandboxState
  | terminalProven | retainedTerminalReplay | retainForHuman
deriving DecidableEq

def AdapterSandboxState.name : AdapterSandboxState → String
  | .terminalProven => "terminal_proven"
  | .retainedTerminalReplay => "retained_terminal_replay"
  | .retainForHuman => "retain_for_human"

inductive AdapterSandboxAmbiguityReason
  | uidNotEmpty | descriptorsNotClosed | rootsNotFrozen | stalePidEpoch | uidReuseContention
  | childStillAlive | brokerNetworkEscape | ignoredContext | doubleForkEscape | setsidNewSession
  | closedStdioEvade | delayedWriteRefUpdate

def AdapterSandboxAmbiguityReason.name : AdapterSandboxAmbiguityReason → String
  | .uidNotEmpty => "uid_not_empty"
  | .descriptorsNotClosed => "descriptors_not_closed"
  | .rootsNotFrozen => "roots_not_frozen"
  | .stalePidEpoch => "stale_pid_epoch"
  | .uidReuseContention => "uid_reuse_contention"
  | .childStillAlive => "child_still_alive"
  | .brokerNetworkEscape => "broker_network_escape"
  | .ignoredContext => "ignored_context"
  | .doubleForkEscape => "double_fork_escape"
  | .setsidNewSession => "setsid_new_session"
  | .closedStdioEvade => "closed_stdio_evade"
  | .delayedWriteRefUpdate => "delayed_write_ref_update"

inductive AdapterTerminalCleanupResult
  | uidEmptyRootsFrozen | uidNonemptyRetained | partialRetained

def AdapterTerminalCleanupResult.name : AdapterTerminalCleanupResult → String
  | .uidEmptyRootsFrozen => "uid_empty_roots_frozen"
  | .uidNonemptyRetained => "uid_nonempty_retained"
  | .partialRetained => "partial_retained"

structure AdapterTerminalProof where
  (schemaVersion proofHash proofID uidLeaseHash leaderIdentityHash processGroupIdentityHash
    uidEmptyObservationHash sandboxHash rootIdentityHash descriptorClosureHash bootEpochHash
    : String)
  cleanupResult : AdapterTerminalCleanupResult
  (uidEmptyVerified descriptorsClosed rootsFrozen : Bool)
  observedAt : String

def AdapterTerminalProof.content (r : AdapterTerminalProof) : List (String × Value) :=
  [("schema_version", .text r.schemaVersion), ("proof_id", .text r.proofID),
    ("uid_lease_hash", .text r.uidLeaseHash),
    ("leader_identity_hash", .text r.leaderIdentityHash),
    ("process_group_identity_hash", .text r.processGroupIdentityHash),
    ("uid_empty_observation_hash", .text r.uidEmptyObservationHash),
    ("sandbox_hash", .text r.sandboxHash), ("root_identity_hash", .text r.rootIdentityHash),
    ("descriptor_closure_hash", .text r.descriptorClosureHash),
    ("boot_epoch_hash", .text r.bootEpochHash), ("cleanup_result", .text r.cleanupResult.name),
    ("uid_empty_verified", .flag r.uidEmptyVerified),
    ("descriptors_closed", .flag r.descriptorsClosed), ("roots_frozen", .flag r.rootsFrozen),
    ("observed_at", .text r.observedAt)]

def AdapterTerminalProof.toValue (r : AdapterTerminalProof) : Value :=
  .object (("proof_hash", .text r.proofHash) :: r.content)

structure AdapterSandboxObservation where
  (schemaVersion observationHash observationID : String)
  state : AdapterSandboxState
  ambiguityReason : Option AdapterSandboxAmbiguityReason
  (authorizationHash approvalHash requestHash dispatchHash attemptHash : String)
  (attemptNumber attemptCap : Int)
  (claimHash predecessorClaimHash predecessorTerminalEventHash repositoryBindingHash
    repositoryIdentityHash worktreeSlotID worktreeSlotPathHash worktreeCapabilityHash
    installedWorktreeRootIdentityHash uidPoolHash uidLeaseHash : String)
  (uid groupID : Nat)
  (seatbeltProfileID seatbeltProfileHash : String)
  terminalProof : AdapterTerminalProof
  (rootIdentityHash sandboxHash descriptorClosureHash bootEpochID bootEpochHash : String)

def AdapterSandboxObservation.content (r : AdapterSandboxObservation) : List (String × Value) :=
  [("schema_version", .text r.schemaVersion), ("observation_id", .text r.observationID),
    ("state", .text r.state.name),
    ("ambiguity_reason",
      .text ((r.ambiguityReason.map AdapterSandboxAmbiguityReason.name).getD "")),
    ("authorization_hash", .text r.authorizationHash), ("approval_hash", .text r.approvalHash),
    ("request_hash", .text r.requestHash), ("dispatch_hash", .text r.dispatchHash),
    ("attempt_hash", .text r.attemptHash), ("attempt_number", .number r.attemptNumber),
    ("attempt_cap", .number r.attemptCap), ("claim_hash", .text r.claimHash),
    ("predecessor_claim_hash", .text r.predecessorClaimHash),
    ("predecessor_terminal_event_hash", .text r.predecessorTerminalEventHash),
    ("repository_binding_hash", .text r.repositoryBindingHash),
    ("repository_identity_hash", .text r.repositoryIdentityHash),
    ("worktree_slot_id", .text r.worktreeSlotID),
    ("worktree_slot_path_hash", .text r.worktreeSlotPathHash),
    ("worktree_capability_hash", .text r.worktreeCapabilityHash),
    ("installed_worktree_root_identity_hash", .text r.installedWorktreeRootIdentityHash),
    ("uid_pool_hash", .text r.uidPoolHash), ("uid_lease_hash", .text r.uidLeaseHash),
    ("uid", .number r.uid), ("group_id", .number r.groupID),
    ("seatbelt_profile_id", .text r.seatbeltProfileID),
    ("seatbelt_profile_hash", .text r.seatbeltProfileHash),
    ("terminal_proof", r.terminalProof.toValue),
    ("root_identity_hash", .text r.rootIdentityHash), ("sandbox_hash", .text r.sandboxHash),
    ("descriptor_closure_hash", .text r.descriptorClosureHash),
    ("boot_epoch_id", .text r.bootEpochID), ("boot_epoch_hash", .text r.bootEpochHash)]

def AdapterSandboxObservation.toValue (r : AdapterSandboxObservation) : Value :=
  .object (("observation_hash", .text r.observationHash) :: r.content)

/-- The capability of the adapter phase. -/
structure VerifiedAdapterSandbox (β : Type) where
  valid : Bool
  (observationHash snapshotIntegrityHash verifierAuthorityHash verificationSealsHash
    authorizationHash claimHash attemptHash predecessorClaimHash worktreeCapabilityHash
    uidLeaseHash terminalProofHash : String)
  canonical : β
  (canonicalHash integrityHash : String)

inductive TestSandboxState
  | terminalProven | retainedTerminalReplay | retainForHuman
deriving DecidableEq

def TestSandboxState.name : TestSandboxState → String
  | .terminalProven => "terminal_proven"
  | .retainedTerminalReplay => "retained_terminal_replay"
  | .retainForHuman => "retain_for_human"

inductive TestSandboxAmbiguityReason
  | uidNotEmpty | rootsNotScrubbed | stalePidEpoch | uidReuseContention | gitPushAttempt
  | localRefWriteAttempt | networkAccessAttempt | externalWriteAttempt | originalWorktreeMutation
  | arbitraryExecAttempt | forkEscape | setsidNewSession | delayedWriteRefUpdate | missingModule
  | cacheDrift | toolchainReplacement

def TestSandboxAmbiguityReason.name : TestSandboxAmbiguityReason → String
  | .uidNotEmpty => "uid_not_empty"
  | .rootsNotScrubbed => "roots_not_scrubbed"
  | .stalePidEpoch => "stale_pid_epoch"
  | .uidReuseContention => "uid_reuse_contention"
  | .gitPushAttempt => "git_push_attempt"
  | .localRefWriteAttempt => "local_ref_write_attempt"
  | .networkAccessAttempt => "network_access_attempt"
  | .externalWriteAttempt => "external_write_attempt"
  | .originalWorktreeMutation => "original_worktree_mutation"
  | .arbitraryExecAttempt => "arbitrary_exec_attempt"
  | .forkEscape => "fork_escape"
  | .setsidNewSession => "setsid_new_session"
  | .delayedWriteRefUpdate => "delayed_write_ref_update"
  | .missingModule => "missing_module"
  | .cacheDrift => "cache_drift"
  | .toolchainReplacement => "toolchain_replacement"

inductive TestTerminalCleanupResult
  | uidEmptyRootsScrubbed | uidNonemptyRetained | partialRetained

def TestTerminalCleanupResult.name : TestTerminalCleanupResult → String
  | .uidEmptyRootsScrubbed => "uid_empty_roots_scrubbed"
  | .uidNonemptyRetained => "uid_nonempty_retained"
  | .partialRetained => "partial_retained"

structure TestCandidateCopyObservation where
  (schemaVersion copyHash : String)
  (noDotGit noRemotes noCredentials noOriginalRepo noRetainedWorktree noJournalPaths noKeyPaths
    : Bool)
  candidateRootIdentityHash : String

def TestCandidateCopyObservation.content (r : TestCandidateCopyObservation) :
    List (String × Value) :=
  [("schema_version", .text r.schemaVersion), ("no_dot_git", .flag r.noDotGit),
    ("no_remotes", .flag r.noRemotes), ("no_credentials", .flag r.noCredentials),
    ("no_original_repo", .flag r.noOriginalRepo),
    ("no_retained_worktree", .flag r.noRetainedWorktree),
    ("no_journal_paths", .flag r.noJournalPaths), ("no_key_paths", .flag r.noKeyPaths),
    ("candidate_root_identity_hash", .text r.candidateRootIdentityHash)]

def TestCandidateCopyObservation.toValue (r : TestCandidateCopyObservation) : Value :=
  .object (("copy_hash", .text r.copyHash) :: r.content)

structure TestTerminalProof where
  (schemaVersion proofHash proofID uidLeaseHash leaderIdentityHash processGroupIdentityHash
    uidEmptyObservationHash sandboxHash rootIdentityHash descriptorClosureHash bootEpochHash
    : String)
  cleanupResult : TestTerminalCleanupResult
  (rootScrubbedAndProvenAbsent uidEmptyVerified descriptorsClosed rootsScrubbed : Bool)
  observedAt : String

def TestTerminalProof.content (r : TestTerminalProof) : List (String × Value) :=
  [("schema_version", .text r.schemaVersion), ("proof_id", .text r.proofID),
    ("uid_lease_hash", .text r.uidLeaseHash),
    ("leader_identity_hash", .text r.leaderIdentityHash),
    ("process_group_identity_hash", .text r.processGroupIdentityHash),
    ("uid_empty_observation_hash", .text r.uidEmptyObservationHash),
    ("sandbox_hash", .text r.sandboxHash), ("root_identity_hash", .text r.rootIdentityHash),
    ("descriptor_closure_hash", .text r.descriptorClosureHash),
    ("boot_epoch_hash", .text r.bootEpochHash), ("cleanup_result", .text r.cleanupResult.name),
    ("root_scrubbed_and_proven_absent", .flag r.rootScrubbedAndProvenAbsent),
    ("uid_empty_verified", .flag r.uidEmptyVerified),
    ("descriptors_closed", .flag r.descriptorsClosed), ("roots_scrubbed", .flag r.rootsScrubbed),
    ("observed_at", .text r.observedAt)]

def TestTerminalProof.toValue (r : TestTerminalProof) : Value :=
  .object (("proof_hash", .text r.proofHash) :: r.content)

structure TestSandboxObservation where
  (schemaVersion observationHash observationID : String)
  state : TestSandboxState
  ambiguityReason : Option TestSandboxAmbiguityReason
  (authorizationHash approvalHash requestHash dispatchHash attemptHash : String)
  (attemptNumber attemptCap : Int)
  (claimHash predecessorClaimHash predecessorTerminalEventHash repositoryBindingHash
    repositoryIdentityHash worktreeSlotID adapterCapabilityHash uidPoolHash uidLeaseHash : String)
  (uid groupID : Nat)
  (toolchainManifestID toolchainManifestHash testProfileID testProfileHash : String)
  candidateCopy : TestCandidateCopyObservation
  terminalProof : TestTerminalProof
  (rootIdentityHash sandboxHash descriptorClosureHash bootEpochID bootEpochHash : String)

def TestSandboxObservation.content (r : TestSandboxObservation) : List (String × Value) :=
  [("schema_version", .text r.schemaVersion), ("observation_id", .text r.observationID),
    ("state", .text r.state.name),
    ("ambiguity_reason", .text ((r.ambiguityReason.map TestSandboxAmbiguityReason.name).getD "")),
    ("authorization_hash", .text r.authorizationHash), ("approval_hash", .text r.approvalHash),
    ("request_hash", .text r.requestHash), ("dispatch_hash", .text r.dispatchHash),
    ("attempt_hash", .text r.attemptHash), ("attempt_number", .number r.attemptNumber),
    ("attempt_cap", .number r.attemptCap), ("claim_hash", .text r.claimHash),
    ("predecessor_claim_hash", .text r.predecessorClaimHash),
    ("predecessor_terminal_event_hash", .text r.predecessorTerminalEventHash),
    ("repository_binding_hash", .text r.repositoryBindingHash),
    ("repository_identity_hash", .text r.repositoryIdentityHash),
    ("worktree_slot_id", .text r.worktreeSlotID),
    ("adapter_capability_hash", .text r.adapterCapabilityHash),
    ("uid_pool_hash", .text r.uidPoolHash), ("uid_lease_hash", .text r.uidLeaseHash),
    ("uid", .number r.uid), ("group_id", .number r.groupID),
    ("toolchain_manifest_id", .text r.toolchainManifestID),
    ("toolchain_manifest_hash", .text r.toolchainManifestHash),
    ("test_profile_id", .text r.testProfileID), ("test_profile_hash", .text r.testProfileHash),
    ("candidate_copy", r.candidateCopy.toValue), ("terminal_proof", r.terminalProof.toValue),
    ("root_identity_hash", .text r.rootIdentityHash), ("sandbox_hash", .text r.sandboxHash),
    ("descriptor_closure_hash", .text r.descriptorClosureHash),
    ("boot_epoch_id", .text r.bootEpochID), ("boot_epoch_hash", .text r.bootEpochHash)]

def TestSandboxObservation.toValue (r : TestSandboxObservation) : Value :=
  .object (("observation_hash", .text r.observationHash) :: r.content)

/-- The capability of the test phase. -/
structure VerifiedTestSandbox (β : Type) where
  valid : Bool
  (observationHash snapshotIntegrityHash verifierAuthorityHash verificationSealsHash
    authorizationHash claimHash attemptHash predecessorClaimHash adapterCapabilityHash
    uidLeaseHash terminalProofHash : String)
  canonical : β
  (canonicalHash integrityHash : String)

end Ananke.Repair
