import Ananke.Repair.Canonical

/-! The trust, authorization and dispatch records of a controlled repair. -/
namespace Ananke.Repair

structure FullFence where
  (schemaVersion fenceHash claimID claimTokenHash : String)
  fenceGeneration : Int
deriving DecidableEq

def FullFence.content (r : FullFence) : List (String × Value) :=
  [("schema_version", .text r.schemaVersion), ("claim_id", .text r.claimID),
    ("claim_token_hash", .text r.claimTokenHash),
    ("fence_generation", .number r.fenceGeneration)]

def FullFence.toValue (r : FullFence) : Value :=
  .object (("fence_hash", .text r.fenceHash) :: r.content)

structure P4Binding where
  (schemaVersion p4FactHash p4ProposalHash p4InputHash p4EvidenceBundleHash p4AdmissionHash
    : String)
  fullFence : FullFence
  (attemptNumber attemptCap : Int)
deriving DecidableEq

def P4Binding.content (r : P4Binding) : List (String × Value) :=
  [("schema_version", .text r.schemaVersion), ("p4_proposal_hash", .text r.p4ProposalHash),
    ("p4_input_hash", .text r.p4InputHash),
    ("p4_evidence_bundle_hash", .text r.p4EvidenceBundleHash),
    ("p4_admission_hash", .text r.p4AdmissionHash), ("full_fence", r.fullFence.toValue),
    ("attempt_number", .number r.attemptNumber), ("attempt_cap", .number r.attemptCap)]

def P4Binding.toValue (r : P4Binding) : Value :=
  .object (("p4_fact_hash", .text r.p4FactHash) :: r.content)

structure RepositoryBinding where
  (schemaVersion repositoryBindingHash repositoryIdentity repositoryIdentityHash baseCommit
    baseTree : String)
deriving DecidableEq

def RepositoryBinding.content (r : RepositoryBinding) : List (String × Value) :=
  [("schema_version", .text r.schemaVersion), ("repository_identity", .text r.repositoryIdentity),
    ("repository_identity_hash", .text r.repositoryIdentityHash),
    ("base_commit", .text r.baseCommit), ("base_tree", .text r.baseTree)]

def RepositoryBinding.toValue (r : RepositoryBinding) : Value :=
  .object (("repository_binding_hash", .text r.repositoryBindingHash) :: r.content)

/-- A release-defined identifier and the hash of a repository-relative path. -/
structure WritablePathBinding where
  (schemaVersion pathBindingHash : String)
  sequence : Int
  (pathID repositoryRelativePathHash : String)
deriving DecidableEq

variable (r : WritablePathBinding)

def WritablePathBinding.content : List (String × Value) :=
  [("schema_version", .text r.schemaVersion), ("sequence", .number r.sequence),
    ("path_id", .text r.pathID),
    ("repository_relative_path_hash", .text r.repositoryRelativePathHash)]

def WritablePathBinding.toValue : Value :=
  .object (("path_binding_hash", .text r.pathBindingHash) :: r.content)

structure TestProfileBinding where
  (schemaVersion profileBindingHash : String)
  sequence : Int
  (profileID installedProfileHash : String)
deriving DecidableEq

def TestProfileBinding.content (r : TestProfileBinding) : List (String × Value) :=
  [("schema_version", .text r.schemaVersion), ("sequence", .number r.sequence),
    ("profile_id", .text r.profileID), ("installed_profile_hash", .text r.installedProfileHash)]

def TestProfileBinding.toValue (r : TestProfileBinding) : Value :=
  .object (("profile_binding_hash", .text r.profileBindingHash) :: r.content)

structure RouteBinding where
  (schemaVersion routeBindingHash routeID routeIdentityHash supervisorProfileID
    supervisorProfileHash : String)
deriving DecidableEq

def RouteBinding.content (r : RouteBinding) : List (String × Value) :=
  [("schema_version", .text r.schemaVersion), ("route_id", .text r.routeID),
    ("route_identity_hash", .text r.routeIdentityHash),
    ("supervisor_profile_id", .text r.supervisorProfileID),
    ("supervisor_profile_hash", .text r.supervisorProfileHash)]

def RouteBinding.toValue (r : RouteBinding) : Value :=
  .object (("route_binding_hash", .text r.routeBindingHash) :: r.content)

structure AttemptBinding where
  schemaVersion : String
  (attemptNumber attemptCap : Int)
  previousAuthorizationHash : String

def AttemptBinding.content (r : AttemptBinding) : List (String × Value) :=
  [("schema_version", .text r.schemaVersion), ("attempt_number", .number r.attemptNumber),
    ("attempt_cap", .number r.attemptCap),
    ("previous_authorization_hash", .text r.previousAuthorizationHash)]

def AttemptBinding.toValue (r : AttemptBinding) : Value := .object r.content

/-- The credential and release identities that the peer of the local transport must show. -/
structure UnixPeerIdentity where
  (schemaVersion peerIdentityHash peerRole : String)
  (userID groupID : Nat)
  (codeSigningIdentityHash executableIdentityHash runtimeIdentityHash : String)
deriving DecidableEq

def UnixPeerIdentity.content (r : UnixPeerIdentity) : List (String × Value) :=
  [("schema_version", .text r.schemaVersion), ("peer_role", .text r.peerRole),
    ("user_id", .number r.userID), ("group_id", .number r.groupID),
    ("code_signing_identity_hash", .text r.codeSigningIdentityHash),
    ("executable_identity_hash", .text r.executableIdentityHash),
    ("runtime_identity_hash", .text r.runtimeIdentityHash)]

def UnixPeerIdentity.toValue (r : UnixPeerIdentity) : Value :=
  .object (("peer_identity_hash", .text r.peerIdentityHash) :: r.content)

structure AuthorizationScope where
  (schemaVersion scopeHash repairLineageHash : String)
  p4 : P4Binding
  repository : RepositoryBinding
  writablePaths : List WritablePathBinding
  testProfiles : List TestProfileBinding
  route : RouteBinding
  attempt : AttemptBinding
  channelBindingHash : String
  expectedPeer : UnixPeerIdentity
  (policyHash rotationMode : String)

def AuthorizationScope.content (r : AuthorizationScope) : List (String × Value) :=
  [("schema_version", .text r.schemaVersion), ("repair_lineage_hash", .text r.repairLineageHash),
    ("p4", r.p4.toValue), ("repository", r.repository.toValue),
    ("writable_paths", .list (r.writablePaths.map WritablePathBinding.toValue)),
    ("test_profiles", .list (r.testProfiles.map TestProfileBinding.toValue)),
    ("route", r.route.toValue), ("attempt", r.attempt.toValue),
    ("channel_binding_hash", .text r.channelBindingHash),
    ("expected_peer", r.expectedPeer.toValue), ("policy_hash", .text r.policyHash),
    ("rotation_mode", .text r.rotationMode)]

def AuthorizationScope.toValue (r : AuthorizationScope) : Value :=
  .object (("scope_hash", .text r.scopeHash) :: r.content)

structure OperatorApproval where
  (schemaVersion approvalHash approvalID decision operatorIdentity operatorIdentityHash
    authenticationProvenance guiProvenanceHash approvedScopeHash approvedAt notAfter : String)
deriving DecidableEq

def OperatorApproval.content (r : OperatorApproval) : List (String × Value) :=
  [("schema_version", .text r.schemaVersion), ("approval_id", .text r.approvalID),
    ("decision", .text r.decision), ("operator_identity", .text r.operatorIdentity),
    ("operator_identity_hash", .text r.operatorIdentityHash),
    ("authentication_provenance", .text r.authenticationProvenance),
    ("gui_provenance_hash", .text r.guiProvenanceHash),
    ("approved_scope_hash", .text r.approvedScopeHash), ("approved_at", .text r.approvedAt),
    ("not_after", .text r.notAfter)]

def OperatorApproval.toValue (r : OperatorApproval) : Value :=
  .object (("approval_hash", .text r.approvalHash) :: r.content)

structure Authorization where
  (schemaVersion authorizationHash approvalHash policyHash : String)
  scope : AuthorizationScope
  approval : OperatorApproval

def Authorization.content (r : Authorization) : List (String × Value) :=
  [("schema_version", .text r.schemaVersion), ("approval_hash", .text r.approvalHash),
    ("policy_hash", .text r.policyHash), ("scope", r.scope.toValue),
    ("approval", r.approval.toValue)]

def Authorization.toValue (r : Authorization) : Value :=
  .object (("authorization_hash", .text r.authorizationHash) :: r.content)

structure DispatchRequest where
  (schemaVersion requestHash requestID authorizationHash : String)
  (attemptNumber attemptCap : Int)

def DispatchRequest.content (r : DispatchRequest) : List (String × Value) :=
  [("schema_version", .text r.schemaVersion), ("request_id", .text r.requestID),
    ("authorization_hash", .text r.authorizationHash),
    ("attempt_number", .number r.attemptNumber), ("attempt_cap", .number r.attemptCap)]

def DispatchRequest.toValue (r : DispatchRequest) : Value :=
  .object (("request_hash", .text r.requestHash) :: r.content)

structure ImmutableDispatch where
  (schemaVersion dispatchHash authorizationHash approvalHash policyHash : String)
  (attemptNumber attemptCap : Int)
  request : DispatchRequest
  channelBindingHash : String
  expectedPeer : UnixPeerIdentity
  (releasePinsHash selectedSupervisorPolicyHash selectedSupervisorProfileID
    selectedSupervisorProfileHash createdAt dispatchNotAfter : String)

def ImmutableDispatch.content (r : ImmutableDispatch) : List (String × Value) :=
  [("schema_version", .text r.schemaVersion), ("authorization_hash", .text r.authorizationHash),
    ("approval_hash", .text r.approvalHash), ("policy_hash", .text r.policyHash),
    ("attempt_number", .number r.attemptNumber), ("attempt_cap", .number r.attemptCap),
    ("request", r.request.toValue), ("channel_binding_hash", .text r.channelBindingHash),
    ("expected_peer", r.expectedPeer.toValue), ("release_pins_hash", .text r.releasePinsHash),
    ("selected_supervisor_policy_hash", .text r.selectedSupervisorPolicyHash),
    ("selected_supervisor_profile_id", .text r.selectedSupervisorProfileID),
    ("selected_supervisor_profile_hash", .text r.selectedSupervisorProfileHash),
    ("created_at", .text r.createdAt), ("dispatch_not_after", .text r.dispatchNotAfter)]

structure ReleasePins where
  (schemaVersion releasePinsHash trustBundleHash repairRootCertificateHash repairRootSPKISHA256
    repairAttestorCertificateHash repairAttestorRootID repairAttestorLeafSPKI
    rotationApproverRootCertificateHash rotationApproverRootSPKISHA256
    rotationApproverCertificateHash rotationApproverRootID rotationApproverKeyID
    rotationApproverLeafSPKI rotationApproverRole rotationApproverDomain releaseManifestHash
    buildIdentityHash supervisorPolicyHash supervisorProfileHash rotationPolicyHash
    signatureDomain trustBootstrapMode databaseTrustMode runtimeInstallMode verifierSelection
    anankeKeyCustody : String)
deriving DecidableEq

def ReleasePins.content (r : ReleasePins) : List (String × Value) :=
  [("schema_version", .text r.schemaVersion), ("trust_bundle_hash", .text r.trustBundleHash),
    ("repair_root_certificate_hash", .text r.repairRootCertificateHash),
    ("repair_root_spki_sha256", .text r.repairRootSPKISHA256),
    ("repair_attestor_certificate_hash", .text r.repairAttestorCertificateHash),
    ("repair_attestor_root_id", .text r.repairAttestorRootID),
    ("repair_attestor_leaf_spki", .text r.repairAttestorLeafSPKI),
    ("rotation_approver_root_certificate_hash", .text r.rotationApproverRootCertificateHash),
    ("rotation_approver_root_spki_sha256", .text r.rotationApproverRootSPKISHA256),
    ("rotation_approver_certificate_hash", .text r.rotationApproverCertificateHash),
    ("rotation_approver_root_id", .text r.rotationApproverRootID),
    ("rotation_approver_key_id", .text r.rotationApproverKeyID),
    ("rotation_approver_leaf_spki", .text r.rotationApproverLeafSPKI),
    ("rotation_approver_role", .text r.rotationApproverRole),
    ("rotation_approver_domain", .text r.rotationApproverDomain),
    ("release_manifest_hash", .text r.releaseManifestHash),
    ("build_identity_hash", .text r.buildIdentityHash),
    ("supervisor_policy_hash", .text r.supervisorPolicyHash),
    ("supervisor_profile_hash", .text r.supervisorProfileHash),
    ("rotation_policy_hash", .text r.rotationPolicyHash),
    ("signature_domain", .text r.signatureDomain),
    ("trust_bootstrap_mode", .text r.trustBootstrapMode),
    ("database_trust_mode", .text r.databaseTrustMode),
    ("runtime_install_mode", .text r.runtimeInstallMode),
    ("verifier_selection", .text r.verifierSelection),
    ("ananke_key_custody", .text r.anankeKeyCustody)]

structure TrustRoot where
  (schemaVersion rootHash rootID rootSPKISHA256 validFrom notAfter revocationState : String)
deriving DecidableEq

structure RepairAttestorCertificate where
  (schemaVersion certificateHash role subjectSPKISHA256 issuerRootID validFrom notAfter
    revocationState : String)
deriving DecidableEq

structure RotationApproverCertificate where
  (schemaVersion certificateHash keyID role signatureDomain subjectSPKISHA256 issuerRootID
    validFrom notAfter revocationState : String)
deriving DecidableEq

structure TrustBundle where
  (schemaVersion trustBundleHash bundleID : String)
  root : TrustRoot
  repairAttestor : RepairAttestorCertificate
  rotationApproverRoot : TrustRoot
  rotationApprover : RotationApproverCertificate
deriving DecidableEq

structure TrustRotation where
  (schemaVersion rotationHash state currentRootID rotationPolicyHash releaseManifestHash : String)
deriving DecidableEq

def TrustRotation.content (r : TrustRotation) : List (String × Value) :=
  [("schema_version", .text r.schemaVersion), ("state", .text r.state),
    ("current_root_id", .text r.currentRootID),
    ("rotation_policy_hash", .text r.rotationPolicyHash),
    ("release_manifest_hash", .text r.releaseManifestHash)]

/-- The GUI event that approved the repair, as a trusted caller authenticated it. -/
structure GUIApprovalEventAuthority where
  (schemaVersion approvalHash approvalID decision operatorIdentity operatorIdentityHash
    authenticationProvenance guiProvenanceHash approvedScopeHash approvedAt notAfter : String)
deriving DecidableEq

/-- What a trusted caller read of the repair from durable records. -/
structure AuthorityContext where
  repairLineageHash : String
  p4 : P4Binding
  repository : RepositoryBinding
  writablePaths : List WritablePathBinding
  testProfiles : List TestProfileBinding
  route : RouteBinding
  channelBindingHash : String
  expectedPeer : UnixPeerIdentity
  (installedPolicyHash installedSupervisorProfileHash rotationMode : String)
  (attemptNumber attemptCap : Int)
  guiApprovalEvent : GUIApprovalEventAuthority
deriving DecidableEq

/-! The hash strings of a record: the members whose name ends in `_hash`, `_sha256` or
`_spki`. The previous authorization may be missing. -/

def FullFence.hashes (r : FullFence) : List String :=
  [r.fenceHash, r.claimTokenHash]

def P4Binding.hashes (r : P4Binding) : List String :=
  [r.p4FactHash, r.p4ProposalHash, r.p4InputHash, r.p4EvidenceBundleHash, r.p4AdmissionHash]
    ++ r.fullFence.hashes

def RepositoryBinding.hashes (r : RepositoryBinding) : List String :=
  [r.repositoryBindingHash, r.repositoryIdentityHash]

def WritablePathBinding.hashes : List String :=
  [r.pathBindingHash, r.repositoryRelativePathHash]

def TestProfileBinding.hashes (r : TestProfileBinding) : List String :=
  [r.profileBindingHash, r.installedProfileHash]

def RouteBinding.hashes (r : RouteBinding) : List String :=
  [r.routeBindingHash, r.routeIdentityHash, r.supervisorProfileHash]

def AttemptBinding.hashes (r : AttemptBinding) : List String :=
  (if r.previousAuthorizationHash = "" then [] else [r.previousAuthorizationHash])

def UnixPeerIdentity.hashes (r : UnixPeerIdentity) : List String :=
  [r.peerIdentityHash, r.codeSigningIdentityHash, r.executableIdentityHash, r.runtimeIdentityHash]

def AuthorizationScope.hashes (r : AuthorizationScope) : List String :=
  [r.scopeHash, r.repairLineageHash, r.channelBindingHash, r.policyHash] ++ r.p4.hashes
    ++ r.repository.hashes ++ r.writablePaths.flatMap WritablePathBinding.hashes
    ++ r.testProfiles.flatMap TestProfileBinding.hashes ++ r.route.hashes ++ r.attempt.hashes
    ++ r.expectedPeer.hashes

def OperatorApproval.hashes (r : OperatorApproval) : List String :=
  [r.approvalHash, r.operatorIdentityHash, r.guiProvenanceHash, r.approvedScopeHash]

def Authorization.hashes (r : Authorization) : List String :=
  [r.authorizationHash, r.approvalHash, r.policyHash] ++ r.scope.hashes ++ r.approval.hashes

def DispatchRequest.hashes (r : DispatchRequest) : List String :=
  [r.requestHash, r.authorizationHash]

def ImmutableDispatch.hashes (r : ImmutableDispatch) : List String :=
  [r.dispatchHash, r.authorizationHash, r.approvalHash, r.policyHash, r.channelBindingHash,
    r.releasePinsHash, r.selectedSupervisorPolicyHash, r.selectedSupervisorProfileHash]
    ++ r.request.hashes ++ r.expectedPeer.hashes

def ReleasePins.hashes (r : ReleasePins) : List String :=
  [r.releasePinsHash, r.trustBundleHash, r.repairRootCertificateHash, r.repairRootSPKISHA256,
    r.repairAttestorCertificateHash, r.repairAttestorLeafSPKI,
    r.rotationApproverRootCertificateHash, r.rotationApproverRootSPKISHA256,
    r.rotationApproverCertificateHash, r.rotationApproverLeafSPKI, r.releaseManifestHash,
    r.buildIdentityHash, r.supervisorPolicyHash, r.supervisorProfileHash, r.rotationPolicyHash]

def validateAllHashStrings (hashes : List String) : Bool := hashes.all validHash

end Ananke.Repair
