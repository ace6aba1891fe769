import Ananke.Repair.Verification
import Ananke.TrustedSupervisor.Instance

/-! A codec, and the second attempt of a repair from its authorization to Ananke's record of
the attestation. Bytes are a fingerprint of the record they encode. -/
namespace Ananke.Repair.Instance

open Text List
open TrustedSupervisor.Instance
  (digits length_digits isHex_digits isDigit_digits sha sha_ne clockText readClock pattern_sha)

/-- The number of members and the first number among them. -/
def fingerprint : Value → Nat
  | .object members =>
    members.length + 1000 * (members.findSome? fun member =>
      match member.2 with
      | .number n => some n.toNat
      | _ => none).getD 0
  | .list values => values.length
  | _ => 0

def codec : Canonical Nat where
  canonicalBytes v := some (fingerprint v)
  sha256Digest := sha

variable (members : List (String × Value))

def own : String := sha (fingerprint (.object members))

variable (n : Nat)

@[simp] theorem validHash_sha : validHash (sha n) = true :=
  pattern_sha n

@[simp] theorem validHash_own : validHash (own members) = true := validHash_sha _

@[simp] theorem hashMatches_own : recordHashMatches codec members (own members) = true := by
  simp [recordHashMatches, hashRecord, codec, own]

@[simp] theorem canonicalBytes_codec (v : Value) : codec.canonicalBytes v = some (fingerprint v) :=
  rfl

@[simp] theorem sha256Digest_codec : codec.sha256Digest n = sha n := rfl

@[simp] theorem hashRecord_codec : hashRecord codec members = some (own members) := rfl

theorem sha_ne_empty : sha n ≠ "" := by
  intro h
  simpa [sha] using congrArg String.toList h

def gitObject : String := String.ofList (digits 40 n)

@[simp] theorem objectPattern_gitObject : gitObjectPattern (gitObject n) = true := by
  have hall : (digits 40 n).all isHex = true := all_eq_true.mpr fun c hc => isHex_digits hc
  rw [gitObjectPattern, gitObject, String.toList_ofList, length_digits, hall]
  rfl

def pins : ReleasePins :=
  let bare : ReleasePins :=
    ⟨"", "", sha 11, sha 12, sha 13, sha 14, "root", sha 15, sha 16, sha 17,
      sha 18, "approver", rotationApproverKeyID, sha 19, rotationApproverRole,
      rotationApproverSignatureDomain, sha 20, sha 21, sha 22, sha 23, sha 24,
      signatureDomain, "", "", "", "", ""⟩
  { bare with releasePinsHash := own bare.content }

def bundle : TrustBundle :=
  ⟨"", sha 11, "", ⟨"", sha 12, "root", sha 13, clockText 0, clockText 9, "not_revoked"⟩,
    ⟨"", sha 14, repairAttestorRole, sha 15, "root", clockText 0, clockText 9, "not_revoked"⟩,
    ⟨"", sha 16, "approver", sha 17, clockText 0, clockText 9, "not_revoked"⟩,
    ⟨"", sha 18, rotationApproverKeyID, rotationApproverRole, rotationApproverSignatureDomain,
      sha 19, "approver", clockText 0, clockText 9, "not_revoked"⟩⟩

def rotation : TrustRotation :=
  let bare : TrustRotation := ⟨"", "", "", "root", sha 24, sha 20⟩
  { bare with rotationHash := own bare.content }

def release : Release := ⟨pins, bundle, rotation⟩

def fence : FullFence :=
  let bare : FullFence := ⟨"ananke.controlled-repair-full-fence.v1", "", "claim", sha 31, 1⟩
  { bare with fenceHash := own bare.content }

def p4 : P4Binding :=
  let bare : P4Binding := ⟨"", "", sha 32, sha 33, sha 34, sha 35, fence, 2, 2⟩
  { bare with p4FactHash := own bare.content }

def repository : RepositoryBinding :=
  let bare : RepositoryBinding :=
    ⟨"ananke.controlled-repair-repository-binding.v1", "", "host/name", sha 36, gitObject 1,
      gitObject 2⟩
  { bare with repositoryBindingHash := own bare.content }

def writablePath : WritablePathBinding :=
  let bare : WritablePathBinding :=
    ⟨"ananke.controlled-repair-writable-path-binding.v1", "", 1, "path", sha 37⟩
  { bare with pathBindingHash := own bare.content }

def testProfile : TestProfileBinding :=
  let bare : TestProfileBinding :=
    ⟨"ananke.controlled-repair-test-profile-binding.v1", "", 1, "profile", sha 38⟩
  { bare with profileBindingHash := own bare.content }

def route : RouteBinding :=
  let bare : RouteBinding := ⟨"", "", "route", sha 39, "supervisor", sha 40⟩
  { bare with routeBindingHash := own bare.content }

def peer : UnixPeerIdentity :=
  let bare : UnixPeerIdentity := ⟨"", "", "peer", 0, 0, sha 41, sha 42, sha 43⟩
  { bare with peerIdentityHash := own bare.content }

def scope : AuthorizationScope :=
  let bare : AuthorizationScope :=
    ⟨"ananke.controlled-repair-authorization-scope.v1", "", sha 44, p4, repository,
      [writablePath], [testProfile], route,
      ⟨"ananke.controlled-repair-attempt-binding.v1", 2, 2, sha 1⟩, sha 45, peer, sha 46,
      "forbidden_v1"⟩
  { bare with scopeHash := own bare.content }

def approval : OperatorApproval :=
  let bare : OperatorApproval :=
    ⟨"ananke.controlled-repair-operator-approval.v1", "", "approval", "approved", "operator",
      sha 47, "gui", sha 48, scope.scopeHash, clockText 1, clockText 8⟩
  { bare with approvalHash := own bare.content }

def authorization : Authorization :=
  let bare : Authorization :=
    ⟨"ananke.controlled-repair-authorization.v1", "", approval.approvalHash, scope.policyHash,
      scope, approval⟩
  { bare with authorizationHash := own bare.content }

def authority : AuthorityContext where
  repairLineageHash := sha 44
  p4 := p4
  repository := repository
  writablePaths := [writablePath]
  testProfiles := [testProfile]
  route := route
  channelBindingHash := sha 45
  expectedPeer := peer
  installedPolicyHash := sha 46
  installedSupervisorProfileHash := sha 40
  rotationMode := "forbidden_v1"
  attemptNumber := 2
  attemptCap := 2
  guiApprovalEvent :=
    { schemaVersion := approval.schemaVersion
      approvalHash := approval.approvalHash
      approvalID := approval.approvalID
      decision := approval.decision
      operatorIdentity := approval.operatorIdentity
      operatorIdentityHash := approval.operatorIdentityHash
      authenticationProvenance := approval.authenticationProvenance
      guiProvenanceHash := approval.guiProvenanceHash
      approvedScopeHash := approval.approvedScopeHash
      approvedAt := approval.approvedAt
      notAfter := approval.notAfter }

def verifiedAuthorization : VerifiedAuthorization Nat where
  valid := true
  authorization := authorization
  authority := authority
  canonical := fingerprint authorization.toValue

def dispatchRequest : DispatchRequest :=
  let bare : DispatchRequest :=
    ⟨"ananke.controlled-repair-dispatch-request.v1", "", "request",
      authorization.authorizationHash, 2, 2⟩
  { bare with requestHash := own bare.content }

def dispatch : ImmutableDispatch :=
  let bare : ImmutableDispatch :=
    ⟨"ananke.controlled-repair-immutable-dispatch.v1", "", authorization.authorizationHash,
      authorization.approvalHash, authorization.policyHash, 2, 2, dispatchRequest, sha 45, peer,
      pins.releasePinsHash, sha 46, "supervisor", sha 40, clockText 2, clockText 8⟩
  { bare with dispatchHash := own bare.content }

def attemptHash : String := sha 2007

def claimOf (claimID : String) (phase : SupervisorIntentPhase) (seq : Int)
    (predecessorClaimHash predecessorTerminalEventHash journalHeadHash journalSlotID : String) :
    SupervisorIntentClaim :=
  let bare : SupervisorIntentClaim :=
    ⟨"ananke.controlled-repair-supervisor-intent-claim.v1", "", claimID, phase, seq,
      attemptHash, 2, 2, authorization.authorizationHash, authorization.approvalHash,
      authorization.policyHash, p4.p4FactHash, p4.p4ProposalHash, p4.p4InputHash,
      p4.p4EvidenceBundleHash, p4.p4AdmissionHash, fence.fenceHash, fence.claimTokenHash,
      dispatchRequest.requestHash, dispatch.dispatchHash, dispatch.channelBindingHash,
      peer.peerIdentityHash, predecessorClaimHash, predecessorTerminalEventHash, "boot", sha 51,
      journalHeadHash, journalSlotID, repository.repositoryBindingHash,
      repository.repositoryIdentityHash, repository.baseCommit, repository.baseTree, sha 52,
      "sandbox", sha 53, "namespace", sha 54, sha 55, durabilityPolicyFullFullFSync,
      clockText 3, clockText 7⟩
  { bare with claimHash := own bare.content }

def materializationClaim : SupervisorIntentClaim :=
  claimOf "materialization" .materializationClaim 1 "" "" (sha 56) "first"

def adapterClaim : SupervisorIntentClaim :=
  claimOf "adapter" .adapterClaim 2 materializationClaim.claimHash (sha 57) (sha 58) "second"

def testClaim : SupervisorIntentClaim :=
  claimOf "test" .testClaim 3 adapterClaim.claimHash (sha 59) (sha 60) "third"

def commitOf (claim : SupervisorIntentClaim) : VerifiedSupervisorClaimSlotCommit Nat :=
  ⟨true, true, true, true, claim.attemptHash, claim.phase, claim.sequence, claim.journalSlotID,
    claim.journalHeadHash, claim.supervisorBootEpochID, claim.supervisorBootEpochHash,
    claim.claimID, claim.claimHash, claim.authorizationHash, claim.approvalHash, claim.requestHash,
    claim.dispatchHash, fingerprint claim.toValue, sha (fingerprint claim.toValue),
    sha (18 + 1000 * claim.sequence.toNat)⟩

def verifiedClaim (claim : SupervisorIntentClaim) : VerifiedSupervisorIntentClaim Nat :=
  ⟨true, claim, fingerprint claim.toValue, commitOf claim⟩

def adapterTerminal : VerifiedSupervisorTerminalEvent :=
  ⟨true, true, attemptHash, .adapterClaim, 2, adapterClaim.claimHash, sha 59, sha 51,
    "second", sha 58, sha 60, "succeeded", sha 2012⟩

def expected : SupervisorIntentAuthority :=
  ⟨"boot", sha 51, sha 60, "third", attemptHash, 2, 2, .testClaim, 3, "test", dispatch,
    repository, sha 52, "sandbox", sha 53, "namespace", sha 54, sha 55,
    durabilityPolicyFullFullFSync, clockText 3, clockText 7, adapterClaim.claimHash⟩

def descriptor (id : RepositoryDescriptorID) : RepositoryDescriptorIdentity :=
  let bare : RepositoryDescriptorIdentity :=
    ⟨"ananke.controlled-repair-repository-descriptor-identity.v1", "", id, sha 71, sha 72,
      .directory⟩
  { bare with descriptorHash := own bare.content }

def delta : CommonGitDeltaObservation :=
  let bare : CommonGitDeltaObservation :=
    ⟨"ananke.controlled-repair-common-git-delta-observation.v1", "", .exactNewSubtree, "worktree",
      sha 73, sha 74, sha 75, [], [], [], [], [], []⟩
  { bare with deltaHash := own bare.content }

def candidate : RepositoryCandidateObservation :=
  let bare : RepositoryCandidateObservation :=
    ⟨"ananke.controlled-repair-repository-candidate-observation.v1", "", gitObject 1, gitObject 1,
      .detached, gitObject 2, .clean, false, false, false, sha 76, sha 77⟩
  { bare with candidateHash := own bare.content }

def sourceClosure : RepositorySourceClosure :=
  let bare : RepositorySourceClosure :=
    ⟨"ananke.controlled-repair-repository-source-closure.v1", "", sha 78, sha 79, sha 79,
      sha 80, sha 80, true, true, true, false, false, false, false⟩
  { bare with sourceClosureHash := own bare.content }

def pathClosure : RepositoryWritablePathClosure :=
  let bare : RepositoryWritablePathClosure :=
    ⟨"ananke.controlled-repair-repository-writable-path-closure.v1", "", sha 81, sha 72, [],
      true, true, true, true, true, true, true, true⟩
  { bare with pathClosureHash := own bare.content }

def configClosure : RepositoryGitConfigClosure :=
  let bare : RepositoryGitConfigClosure :=
    ⟨"ananke.controlled-repair-repository-git-config-closure.v1", "", "materializer", sha 82,
      sha 83, sha 83, sha 84, sha 84, true, true, true, true, true, true, true, true,
      true, true⟩
  { bare with configClosureHash := own bare.content }

def attributesClosure : RepositoryGitAttributesClosure :=
  let bare : RepositoryGitAttributesClosure :=
    ⟨"ananke.controlled-repair-repository-git-attributes-closure.v1", "", true, false, "", "", "",
      "", true, false, "", "", "", "", true, sha 85, sha 86, true, true, true, true⟩
  { bare with attributesClosureHash := own bare.content }

def worktreeObservation (attempt : Int) (authorizationHash attemptHash claimHash : String) :
    RepositoryWorktreeMaterializationObservation :=
  let bare : RepositoryWorktreeMaterializationObservation :=
    ⟨"ananke.controlled-repair-repository-worktree-observation.v1", "", "observation", .newExact,
      none, authorizationHash, sha 87, sha 88, sha 89, attemptHash, attempt, 2, claimHash,
      repository, "worktree", sha 90, sha 78, "materializer", sha 82,
      descriptor .sourceRoot, descriptor .commonGitRoot, descriptor .candidateRoot,
      descriptor .candidateGitfile, descriptor .candidateAdminSubtree, sha 74, sha 75, delta,
      candidate, sourceClosure, pathClosure, configClosure, attributesClosure⟩
  { bare with observationHash := own bare.content }

def ownObservation : RepositoryWorktreeMaterializationObservation :=
  worktreeObservation 2 authorization.authorizationHash attemptHash materializationClaim.claimHash

/-- The worktree of the first attempt, which had an authorization of its own. -/
def foreignObservation : RepositoryWorktreeMaterializationObservation :=
  worktreeObservation 1 (sha 1) (sha 2) (sha 3)

def worktreeOf (obs : RepositoryWorktreeMaterializationObservation) :
    VerifiedRepositoryWorktree Nat :=
  ⟨true, obs.observationHash, sha 91, sha 6, sha 7, obs.authorizationHash,
    obs.claimHash, obs.attemptHash, obs.worktreeSlotID,
    obs.writablePaths.authorizedPathSetHash,
    obs.candidateRootDescriptor.noFollowIdentityHash, fingerprint obs.toValue,
    sha (fingerprint obs.toValue), sha 12⟩

def adapterProof : AdapterTerminalProof :=
  let bare : AdapterTerminalProof :=
    ⟨"ananke.controlled-repair-adapter-terminal-proof.v1", "", "proof", sha 92, sha 93,
      sha 94, sha 95, sha 96, sha 97, sha 98, sha 51, .uidEmptyRootsFrozen, true,
      true, true, clockText 4⟩
  { bare with proofHash := own bare.content }

def adapterObservation : AdapterSandboxObservation :=
  let bare : AdapterSandboxObservation :=
    ⟨"ananke.controlled-repair-adapter-sandbox-observation.v1", "", "observation", .terminalProven,
      none, authorization.authorizationHash, authorization.approvalHash,
      dispatchRequest.requestHash, dispatch.dispatchHash, attemptHash, 2, 2, adapterClaim.claimHash,
      materializationClaim.claimHash, sha 57, repository.repositoryBindingHash,
      repository.repositoryIdentityHash, "worktree", sha 90, sha 91, sha 78,
      sha 62000006, sha 92, 62001, 62000, adapterSeatbeltProfileID, sha 13, adapterProof,
      sha 97, sha 96, sha 98, "boot", sha 51⟩
  { bare with observationHash := own bare.content }

def adapterSandbox : VerifiedAdapterSandbox Nat :=
  ⟨true, adapterObservation.observationHash, sha 99, sha 7, sha 7,
    authorization.authorizationHash, adapterClaim.claimHash, attemptHash,
    materializationClaim.claimHash, sha 91, sha 92, adapterProof.proofHash,
    fingerprint adapterObservation.toValue, sha (fingerprint adapterObservation.toValue),
    sha 13⟩

def candidateCopy : TestCandidateCopyObservation :=
  let bare : TestCandidateCopyObservation :=
    ⟨"ananke.controlled-repair-test-candidate-copy-observation.v1", "", true, true, true, true,
      true, true, true, sha 101⟩
  { bare with copyHash := own bare.content }

def testProof : TestTerminalProof :=
  let bare : TestTerminalProof :=
    ⟨"ananke.controlled-repair-test-terminal-proof.v1", "", "proof", sha 102, sha 103,
      sha 104, sha 105, sha 106, sha 107, sha 108, sha 51, .uidEmptyRootsScrubbed,
      true, true, true, true, clockText 4⟩
  { bare with proofHash := own bare.content }

def testObservation : TestSandboxObservation :=
  let bare : TestSandboxObservation :=
    ⟨"ananke.controlled-repair-test-sandbox-observation.v1", "", "observation", .terminalProven,
      none, authorization.authorizationHash, authorization.approvalHash,
      dispatchRequest.requestHash, dispatch.dispatchHash, attemptHash, 2, 2, testClaim.claimHash,
      adapterClaim.claimHash, sha 59, repository.repositoryBindingHash,
      repository.repositoryIdentityHash, "worktree", sha 99, sha 62000006, sha 102, 62002,
      62000, goToolchainManifestID, sha 7, goTestProfileID, sha 300019, candidateCopy,
      testProof, sha 107, sha 106, sha 108, "boot", sha 51⟩
  { bare with observationHash := own bare.content }

def testSandbox : VerifiedTestSandbox Nat :=
  ⟨true, testObservation.observationHash, sha 109, sha 9, sha 7,
    authorization.authorizationHash, testClaim.claimHash, attemptHash, adapterClaim.claimHash,
    sha 99, sha 102, testProof.proofHash, fingerprint testObservation.toValue,
    sha (fingerprint testObservation.toValue), sha 13⟩

def attestation : RepairReviewAttestation :=
  let bare : RepairReviewAttestation :=
    ⟨"ananke.controlled-repair-review-attestation.v1", "", "attestation", clockText 4,
      .waitingForReview, signatureDomain, sha 111, pins.releasePinsHash, bundle.trustBundleHash,
      bundle.repairAttestor.certificateHash, bundle.repairAttestor.issuerRootID,
      bundle.repairAttestor.subjectSPKISHA256, sha 112, sha 113, sha 114,
      authorization.authorizationHash, authorization.approvalHash, dispatchRequest.requestHash,
      dispatch.dispatchHash, attemptHash, 2, 2, clockText 4, materializationClaim.claimHash,
      adapterClaim.claimHash, testClaim.claimHash, adapterClaim.claimHash, sha 60, sha 58,
      "boot", sha 51, repository.repositoryBindingHash, repository.repositoryIdentityHash,
      sha 115, sha 116, sha 117, sha 118, sha 119, sha 120, "worktree", sha 90,
      sha 78, adapterObservation.seatbeltProfileHash, adapterObservation.sandboxHash,
      adapterProof.proofHash, adapterSandbox.snapshotIntegrityHash, adapterObservation.uidPoolHash,
      adapterObservation.uidLeaseHash, adapterObservation.uid, adapterObservation.groupID,
      sha 121, 0, sha 122, sha 123, sha 124, sha 125, sha 126, sha 127,
      testObservation.toolchainManifestHash, testObservation.testProfileHash,
      candidateCopy.copyHash, testObservation.sandboxHash, testProof.proofHash, sha 128,
      sha 129, sha 130, 0, sha 131, testSandbox.snapshotIntegrityHash⟩
  { bare with attestationHash := own bare.content }

/-- The seal of each kind of check has the same members, and so the same digest. -/
def snapshot : VerifiedAttestationSnapshot Nat :=
  ⟨true, true, true, true, true, true, true, true, attestation, fingerprint attestation.toValue,
    sha (fingerprint attestation.toValue), sha 5, sha 7, sha 7, sha 7, sha 7,
    sha 7, sha 7, sha 7, sha 18⟩

variable (t : Nat)

/-- Ananke's record of the attestation, which says when freshness was checked. -/
def anankeRecord : AnankeAttestationRecord :=
  let bare : AnankeAttestationRecord :=
    ⟨"ananke.controlled-repair-ananke-verification.v1", "", "verification",
      attestation.attestationHash, clockText t, .waitingForReview, pins.releasePinsHash,
      sha 5, attestation.repairAttestorCertificateHash, attestation.repairAttestorRootID,
      attestation.repairAttestorLeafSPKI, attestation.issuedAt, clockText t,
      attestation.requestNonceHash, attestation.responseNonceHash, attestation.channelHash,
      attestation.authorizationHash, attestation.attemptHash, 2,
      attestation.supervisorJournalHeadHash⟩
  { bare with verificationHash := own bare.content }

def anankeSnapshot : VerifiedAnankeRecord Nat :=
  ⟨true, true, true, true, true, true, true, true, anankeRecord t,
    fingerprint (anankeRecord t).toValue, sha (fingerprint (anankeRecord t).toValue),
    sha 5, sha 6, sha 6, sha 6, sha 6, sha 6, sha 6, sha 6, sha 18⟩

/-- The value that these bytes encode, among the values that are known. -/
def decode {α : Type} (toValue : α → Value) (known : List α) (raw : Nat) : Option α :=
  known.find? fun v => fingerprint (toValue v) = raw

def prims : Primitives Nat where
  toCanonical := codec
  marshal := fingerprint
  textBytes text := text.length
  parseUTC text := (readClock text).map (·.1)
  decodeClaim := decode SupervisorIntentClaim.toValue
    [materializationClaim, adapterClaim, testClaim]
  decodeWorktreeObservation := decode RepositoryWorktreeMaterializationObservation.toValue
    [foreignObservation, ownObservation]
  decodeAdapterObservation := decode AdapterSandboxObservation.toValue [adapterObservation]
  decodeTestObservation := decode TestSandboxObservation.toValue [testObservation]
  decodeAttestation := decode RepairReviewAttestation.toValue [attestation]
  decodeAnankeRecord := decode AnankeAttestationRecord.toValue [anankeRecord t]
  frozen := release
  root := ⟨1, 0, 9⟩
  leaf := ⟨2, 0, 9⟩
  rotationApproverRoot := ⟨3, 0, 9⟩
  rotationApprover := ⟨4, 0, 9⟩
  verifyChain _ _ _ := true

@[simp] theorem toCanonical_eq : (prims t).toCanonical = codec := rfl

@[simp] theorem utc_clockText (t now : Nat) :
    (prims t).parseUTC (clockText now) = some (now : Int) := by
  simp [prims, readClock, clockText]

@[simp] theorem within_clockText (t start until' : Nat) (now : Int) :
    within (prims t) (clockText start) (clockText until') now =
      (decide ((start : Int) ≤ now) && decide (now < (until' : Int))) := by
  simp [within]

theorem sha_injOn {m n : Nat} (hm : m < 1000) (hn : n < 1000) (h : sha m = sha n) : m = n := by
  by_contra hne
  refine sha_ne ?_ h
  rwa [Nat.mod_eq_of_lt (by omega), Nat.mod_eq_of_lt (by omega)]

theorem distinctHashes_map {ns : List Nat} (hnodup : ns.Nodup) (hsmall : ∀ n ∈ ns, n < 1000) :
    distinctHashes (ns.map sha) = true := by
  simp only [distinctHashes, checks_iff, all_eq_true, mem_map]
  refine ⟨?_, hnodup.map_on fun m hm n hn => sha_injOn (hsmall m hm) (hsmall n hn)⟩
  rintro _ ⟨n, -, rfl⟩
  exact validHash_sha n

theorem sha_ne_protocolAdapter (n : Nat) : sha n ≠ protocolAdapterLeafSPKIHash := by
  intro h
  have hb : 'b' ∈ (sha n).toList := by rw [h]; decide
  rw [sha, String.toList_ofList] at hb
  have hb : 'b' ∈ digits 64 n := by simpa using hb
  exact absurd (isDigit_digits hb) (by decide)

theorem separateRoles_bundle : separateRoles bundle = true := by
  have hroles : repairAttestorRole ≠ protocolAdapterRole ∧
      rotationApproverRole ≠ repairAttestorRole ∧ rotationApproverRole ≠ protocolAdapterRole := by
    decide
  have hhash : ∀ m < 1000, ∀ n < 1000, m ≠ n → sha m ≠ sha n :=
    fun m hm n hn hne heq => hne (sha_injOn hm hn heq)
  simp [separateRoles, bundle, hroles, sha_ne_protocolAdapter, hhash]

theorem pinsMatchBundle_pins : pinsMatchBundle pins bundle = true := by
  have hdist : distinctHashes (((List.range 14).map (· + 11)).map sha) = true :=
    distinctHashes_map (by decide) (by decide)
  simpa [pinsMatchBundle, pins, bundle, range_succ] using hdist

theorem verifyTrust_release {now : Int} (h₀ : 0 ≤ now) (h₉ : now < 9) :
    verifyReleaseTrust (prims t) release now = true := by
  have hfrozen : (prims t).frozen = release := rfl
  have hembedded : (prims t).verifyEmbeddedReleaseTrust now = true := by
    simp [Primitives.verifyEmbeddedReleaseTrust, verifyCertificateTime, prims, h₀, h₉]
  have htimes : validateTrustTimes (prims t) bundle now = true := by
    simp [validateTrustTimes, bundle, h₀, h₉]
  have hhashes : validateAllHashStrings pins.hashes = true := by
    simp [validateAllHashStrings, ReleasePins.hashes, pins]
  have hpins : recordHashMatches codec pins.content pins.releasePinsHash = true :=
    hashMatches_own _
  have hrot : recordHashMatches codec rotation.content rotation.rotationHash = true :=
    hashMatches_own _
  simp [verifyReleaseTrust, hfrozen, hembedded, release, separateRoles_bundle, pinsMatchBundle_pins,
    htimes, hhashes, hpins, hrot]

theorem hashesMatch_authorization : authorizationHashesMatch (prims t) authorization = true := by
  simp [authorizationHashesMatch, authorization, scope, approval, p4, fence, repository, route,
    peer, Authorization.content, AuthorizationScope.content, OperatorApproval.content,
    FullFence.content, P4Binding.content, RepositoryBinding.content, RouteBinding.content,
    UnixPeerIdentity.content]

theorem record_authorization {now : Int} (h₁ : 1 ≤ now) (h₈ : now < 8) :
    validateAuthorizationRecord (prims t) authorization now = true := by
  have hhashes : validateAllHashStrings authorization.hashes = true := by
    simp [validateAllHashStrings, Authorization.hashes, AuthorizationScope.hashes,
      P4Binding.hashes, FullFence.hashes, RepositoryBinding.hashes, WritablePathBinding.hashes,
      TestProfileBinding.hashes, RouteBinding.hashes, AttemptBinding.hashes,
      UnixPeerIdentity.hashes, OperatorApproval.hashes, authorization, scope, approval, p4, fence,
      repository, writablePath, testProfile, route, peer, sha_ne_empty]
  have hfresh : approvalFresh (prims t) authorization.approval now = true := by
    simp only [approvalFresh, authorization, approval, utc_clockText, checks_iff]
    simp only [minute, second]
    omega
  have hpaths : validateWritablePaths (prims t) [writablePath] = true := by
    simp [validateWritablePaths, writablePath, WritablePathBinding.content]
  have hprof : validateTestProfiles (prims t) [testProfile] = true := by
    simp [validateTestProfiles, testProfile, TestProfileBinding.content]
  simp only [validateAuthorizationRecord, hhashes, hfresh, hashesMatch_authorization t]
  simp +decide [authorization, scope, approval, p4, fence, repository, route, peer,
    hasDuplicatePaths, hasDuplicateProfiles, validFullFence, hpaths, hprof]

theorem intact_authorization :
    verifiedAuthorizationIntact (prims t) verifiedAuthorization = true := by
  have hmatch : recordHashMatches codec authorization.content authorization.authorizationHash =
      true := hashMatches_own _
  simp [verifiedAuthorizationIntact, verifiedAuthorization, hmatch]

theorem authority_authorization : authorizationMatchesAuthority authority authorization = true := by
  simp [authorizationMatchesAuthority, authority, authorization, scope, approvalFromAuthority,
    approval, route]

theorem dispatchMatches_dispatch :
    dispatchMatches (prims t) authority authorization dispatch = true := by
  have hpins : (prims t).frozen.pins = pins := rfl
  simp [dispatchMatches, authority, dispatch, dispatchRequest, authorization, scope, route, hpins]

theorem dispatchWindow_dispatch :
    dispatchWindow (prims t) authorization.approval dispatch = true := by
  simp only [dispatchWindow, dispatch, authorization, approval, utc_clockText, checks_iff]
  simp only [minute, second]
  omega

theorem hashStrings_dispatch : validateAllHashStrings dispatch.hashes = true := by
  simp [validateAllHashStrings, ImmutableDispatch.hashes, DispatchRequest.hashes,
    UnixPeerIdentity.hashes, dispatch, dispatchRequest, authorization, scope, approval, peer, pins]

theorem record_dispatch (freshAt : Option Int) (moment : ValidationMoment)
    (h : ∀ now ∈ freshAt, 2 ≤ now ∧ now < 8) (htime : freshAt = none ∨ moment = .effect) :
    validateDispatchRecord (prims t) authority verifiedAuthorization dispatch freshAt
      moment = true := by
  have hreq : recordHashMatches codec dispatch.request.content dispatch.request.requestHash =
      true := hashMatches_own _
  have hdisp : recordHashMatches codec dispatch.content dispatch.dispatchHash = true :=
    hashMatches_own _
  have hschema : dispatch.schemaVersion = "ananke.controlled-repair-immutable-dispatch.v1" ∧
      dispatch.request.schemaVersion = "ananke.controlled-repair-dispatch-request.v1" := ⟨rfl, rfl⟩
  have hfresh : ∀ now ∈ freshAt, dispatchFresh (prims t) authorization dispatch now
      moment = true := by
    intro now hnow
    obtain ⟨h₂, h₈⟩ := h now hnow
    obtain rfl | rfl := htime
    · cases hnow
    have htrust : verifyReleaseTrust (prims t) (prims t).frozen now = true :=
      verifyTrust_release t (by omega) (by omega)
    have hrec := record_authorization t (by omega : 1 ≤ now) h₈
    simp [dispatchFresh, htrust, hrec, dispatch, h₂, h₈]
  have hver : verifiedAuthorization.authorization = authorization ∧
      verifiedAuthorization.authority = authority := ⟨rfl, rfl⟩
  simp only [validateDispatchRecord, intact_authorization, hver,
    authority_authorization, hschema, dispatchMatches_dispatch,
    hashStrings_dispatch, toCanonical_eq, hreq, hdisp,
    dispatchWindow_dispatch, decide_true, Bool.and_self, Bool.true_and]
  cases freshAt with
  | none => rfl
  | some now => exact hfresh now rfl

theorem matches_repository :
    recordHashMatches codec repository.content repository.repositoryBindingHash = true :=
      hashMatches_own _

theorem authorization_expected :
    authorityMatchesAuthorization (prims t) expected authorization = true := by
  have hatt : supervisorAttemptIdentityHash (prims t) authorization dispatch =
    attemptHash := congrArg sha rfl
  have hdisp : expected.acceptedDispatch = dispatch := rfl
  simp only [authorityMatchesAuthorization, hdisp, hatt]
  simp +decide [expected, authorization, scope, dispatch, dispatchRequest, matches_repository,
    adapterClaim, claimOf, attemptHash]

theorem intentWindow_expected : intentWindow (prims t) expected verifiedAuthorization = true := by
  have hauth : verifiedAuthorization.authority = authority := rfl
  have hdisp : expected.acceptedDispatch = dispatch := rfl
  have hadm := record_dispatch t none .admission (by simp) (.inl rfl)
  have hlast := record_dispatch t (some 6) .effect (by simp) (.inr rfl)
  have htimes : expected.createdAt = clockText 3 ∧ expected.notAfter = clockText 7 ∧
      dispatch.createdAt = clockText 2 ∧ dispatch.dispatchNotAfter = clockText 8 :=
    ⟨rfl, rfl, rfl, rfl⟩
  simp only [intentWindow, hauth, hdisp, hadm, htimes, utc_clockText]
  simp [hlast, maxSupervisorIntentLifetime, minute, second]

theorem authority_expected :
    validateSupervisorIntentAuthority (prims t) expected verifiedAuthorization = true := by
  have hauth : verifiedAuthorization.authorization = authorization := rfl
  simp [validateSupervisorIntentAuthority, intact_authorization,
    hauth, authorization_expected, intentWindow_expected]

theorem validateFreshness_expected :
    validateSupervisorIntentFreshness (prims t) expected verifiedAuthorization 5 =
      true := by
  have hdisp := record_dispatch t (some 5) .effect (by simp) (.inr rfl)
  have hauth : verifiedAuthorization.authority = authority := rfl
  simp [validateSupervisorIntentFreshness, hauth, expected, hdisp]

theorem fingerprint_claim : fingerprint materializationClaim.toValue = 1041 ∧
    fingerprint adapterClaim.toValue = 2041 ∧ fingerprint testClaim.toValue = 3041 :=
  ⟨rfl, rfl, rfl⟩

variable {claim : SupervisorIntentClaim}

theorem decodeClaim_claim (h : claim = adapterClaim ∨ claim = testClaim) :
    (prims t).decodeClaim (fingerprint claim.toValue) = some claim := by
  obtain ⟨hfirst, hsnd, hthird⟩ := fingerprint_claim
  obtain rfl | rfl := h <;> simp [prims, decode, hfirst, hsnd, hthird]

theorem claimIntact_claim (h : claim = adapterClaim ∨ claim = testClaim) :
    verifiedSupervisorIntentClaimIntact (prims t) (verifiedClaim claim) = true := by
  have hdec := decodeClaim_claim t h
  have hint : supervisorClaimSlotCommitIntegrityHash (prims t) (commitOf claim) =
    (commitOf claim).integrityHash := congrArg sha rfl
  have hmatch : recordHashMatches codec claim.content claim.claimHash = true := by
    obtain rfl | rfl := h
    all_goals
      simp [adapterClaim, testClaim, claimOf, SupervisorIntentClaim.content]
  have hslot : validClosedIdentifier claim.journalSlotID 192 = true ∧
      validClosedIdentifier claim.supervisorBootEpochID 192 = true ∧
      phaseSequence claim.phase = claim.sequence := by
    obtain rfl | rfl := h <;> decide
  have hhashes : [claim.attemptHash, claim.journalHeadHash, claim.supervisorBootEpochHash,
      claim.claimHash, claim.authorizationHash, claim.approvalHash, claim.requestHash,
      claim.dispatchHash].all validHash = true := by
    obtain rfl | rfl := h
    all_goals
      simp [adapterClaim, testClaim, claimOf, attemptHash, authorization, approval, dispatchRequest,
        dispatch]
  have hcommit : verifiedSupervisorClaimSlotCommitIntact (prims t) (commitOf claim) =
      true := by
    unfold verifiedSupervisorClaimSlotCommitIntact
    rw [hint]
    simp [commitOf, hdec, slotCommitMatchesClaim, hhashes, hslot, hmatch]
  simp only [verifiedSupervisorIntentClaimIntact, verifiedClaim, hcommit]
  simp [commitOf, slotCommitMatchesClaim, hmatch]

theorem intact_adapterTerminal :
    verifiedSupervisorTerminalEventIntact (prims t) adapterTerminal = true := by
  have hint : supervisorTerminalEventIntegrityHash (prims t) adapterTerminal =
      sha 2012 := rfl
  have hslot : validClosedIdentifier "second" 192 = true := by decide
  simp only [verifiedSupervisorTerminalEventIntact, hint]
  simp [adapterTerminal, phaseSequence, attemptHash, adapterClaim, claimOf, hslot]

theorem validateClaim_testClaim :
    validateSupervisorIntentClaim (prims t) expected verifiedAuthorization
      (some (verifiedClaim adapterClaim)) (some adapterTerminal) testClaim = true := by
  have hmatch : claimMatchesAuthority expected verifiedAuthorization testClaim = true := by
    simp [claimMatchesAuthority, expected, verifiedAuthorization, testClaim, claimOf, authorization,
      scope, p4, dispatch, peer, fence]
  have hclaim : recordHashMatches codec testClaim.content testClaim.claimHash = true :=
    hashMatches_own _
  have hhashes : validSupervisorIntentClaimHashes testClaim = true := by
    simp [validSupervisorIntentClaimHashes, testClaim, adapterClaim, claimOf, attemptHash,
      authorization, approval, scope, p4, fence, dispatch, dispatchRequest, peer, repository]
  have hfol : claimFollows (prims t) expected (verifiedClaim adapterClaim)
      adapterTerminal testClaim = true := by
    simp only [claimFollows, claimIntact_claim t (.inl rfl), intact_adapterTerminal]
    simp [verifiedClaim, expected, adapterTerminal, adapterClaim, testClaim, claimOf, phaseSequence]
  have hseq : expected.sequence = 3 := rfl
  unfold validateSupervisorIntentClaim
  simp only [hmatch, toCanonical_eq, hclaim, hhashes, hfol, hseq]
  rfl

end Ananke.Repair.Instance
