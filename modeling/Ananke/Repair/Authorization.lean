import Ananke.Repair.Primitive

/-! Release trust, the authorization of a repair, and its immutable dispatch. -/
namespace Ananke.Repair

open Text

variable {β : Type} (p : Primitives β)

def repairAttestorRole : String := "controlled_repair_review_attestor"

def protocolAdapterRole : String := "independent_supervisor_protocol_adapter"

def protocolAdapterLeafSPKIHash : String :=
  "sha256:992b7a6da10ae5bdbffca27986dc3e7d29b05472e417bf12e8218d8751b25ab7"

def rotationApproverRole : String := "controlled_repair_rotation_release_approver"

def rotationApproverSignatureDomain : String :=
  "ananke.controlled-repair.root-rotation-release-approval.v1"

def rotationApproverKeyID : String := "ananke_controlled_repair_rotation_release_approver_v1"

def distinctHashes (hashes : List String) : Bool := hashes.all validHash && decide hashes.Nodup

/-- Each certificate of the bundle is valid at this instant and not revoked. -/
def validateTrustTimes (bundle : TrustBundle) (now : Int) : Bool :=
  within p bundle.root.validFrom bundle.root.notAfter now &&
    bundle.root.revocationState = "not_revoked" &&
    within p bundle.repairAttestor.validFrom bundle.repairAttestor.notAfter now &&
    bundle.repairAttestor.revocationState = "not_revoked" &&
    within p bundle.rotationApproverRoot.validFrom bundle.rotationApproverRoot.notAfter now &&
    bundle.rotationApproverRoot.revocationState = "not_revoked" &&
    within p bundle.rotationApprover.validFrom bundle.rotationApprover.notAfter now &&
    bundle.rotationApprover.revocationState = "not_revoked"

/-- The roles and keys of the bundle are separate. -/
def separateRoles (bundle : TrustBundle) : Bool :=
  let root := bundle.root
  let attestor := bundle.repairAttestor
  let approverRoot := bundle.rotationApproverRoot
  let approver := bundle.rotationApprover
  attestor.role = repairAttestorRole && attestor.role ≠ protocolAdapterRole &&
    attestor.subjectSPKISHA256 ≠ protocolAdapterLeafSPKIHash &&
    attestor.issuerRootID = root.rootID && approver.keyID = rotationApproverKeyID &&
    approver.role = rotationApproverRole &&
    approver.signatureDomain = rotationApproverSignatureDomain &&
    approver.issuerRootID = approverRoot.rootID && approver.role ≠ repairAttestorRole &&
    approver.role ≠ protocolAdapterRole &&
    approver.subjectSPKISHA256 ≠ protocolAdapterLeafSPKIHash &&
    approverRoot.rootHash ≠ root.rootHash && approverRoot.rootSPKISHA256 ≠ root.rootSPKISHA256 &&
    approver.certificateHash ≠ attestor.certificateHash &&
    approver.subjectSPKISHA256 ≠ attestor.subjectSPKISHA256

/-- The pins name the certificates of the bundle. -/
def pinsMatchBundle (pins : ReleasePins) (bundle : TrustBundle) : Bool :=
  pins.trustBundleHash = bundle.trustBundleHash &&
    pins.repairRootCertificateHash = bundle.root.rootHash &&
    pins.repairRootSPKISHA256 = bundle.root.rootSPKISHA256 &&
    pins.repairAttestorCertificateHash = bundle.repairAttestor.certificateHash &&
    pins.repairAttestorRootID = bundle.root.rootID &&
    pins.repairAttestorLeafSPKI = bundle.repairAttestor.subjectSPKISHA256 &&
    pins.rotationApproverRootCertificateHash = bundle.rotationApproverRoot.rootHash &&
    pins.rotationApproverRootSPKISHA256 = bundle.rotationApproverRoot.rootSPKISHA256 &&
    pins.rotationApproverCertificateHash = bundle.rotationApprover.certificateHash &&
    pins.rotationApproverRootID = bundle.rotationApproverRoot.rootID &&
    pins.rotationApproverKeyID = bundle.rotationApprover.keyID &&
    pins.rotationApproverLeafSPKI = bundle.rotationApprover.subjectSPKISHA256 &&
    pins.rotationApproverRole = bundle.rotationApprover.role &&
    pins.rotationApproverDomain = bundle.rotationApprover.signatureDomain &&
    distinctHashes [pins.trustBundleHash, pins.repairRootCertificateHash,
      pins.repairRootSPKISHA256, pins.repairAttestorCertificateHash, pins.repairAttestorLeafSPKI,
      pins.rotationApproverRootCertificateHash, pins.rotationApproverRootSPKISHA256,
      pins.rotationApproverCertificateHash, pins.rotationApproverLeafSPKI,
      pins.releaseManifestHash, pins.buildIdentityHash, pins.supervisorPolicyHash,
      pins.supervisorProfileHash, pins.rotationPolicyHash]

def verifyReleaseTrust (release : Release) (now : Int) : Bool :=
  release = p.frozen && p.verifyEmbeddedReleaseTrust now &&
    validateAllHashStrings release.pins.hashes &&
    recordHashMatches p.toCanonical release.pins.content release.pins.releasePinsHash &&
    recordHashMatches p.toCanonical release.rotation.content release.rotation.rotationHash &&
    separateRoles release.bundle && pinsMatchBundle release.pins release.bundle &&
    validateTrustTimes p release.bundle now

/-- `[a-z0-9]+`, again after each separator. -/
def plainWords (separator : Char → Bool) (s : List Char) : Bool :=
  (s.splitOnP separator).all fun word => !word.isEmpty && word.all isPlain

/-- `^[a-z0-9]+(?:[.-][a-z0-9]+)*(?:/[a-z0-9]+(?:[-._][a-z0-9]+)*)+$` in at most 256 bytes. -/
def validRepositoryIdentity (s : String) : Bool :=
  s.toList.length ≤ 256 &&
    match s.toList.splitOn '/' with
    | host :: name :: names =>
      plainWords (fun ch => ch = '.' || ch = '-') host &&
        (name :: names).all (plainWords fun ch => ch = '-' || ch = '.' || ch = '_')
    | _ => false

def validFullFence (fence : FullFence) : Bool :=
  fence.schemaVersion = "ananke.controlled-repair-full-fence.v1" && validHash fence.fenceHash &&
    validClosedIdentifier fence.claimID 128 && validHash fence.claimTokenHash &&
    0 < fence.fenceGeneration

def hasDuplicatePaths (paths : List WritablePathBinding) : Bool :=
  !(decide (paths.map (·.pathID)).Nodup &&
    decide (paths.map (·.repositoryRelativePathHash)).Nodup)

def hasDuplicateProfiles (profiles : List TestProfileBinding) : Bool :=
  !(decide (profiles.map (·.profileID)).Nodup &&
    decide (profiles.map (·.installedProfileHash)).Nodup)

/-- The paths are numbered in their order. -/
def validateWritablePaths (paths : List WritablePathBinding) : Bool :=
  paths.zipIdx.all fun (path, index) =>
    path.schemaVersion = "ananke.controlled-repair-writable-path-binding.v1" &&
      path.sequence = index + 1 && path.pathID ≠ "" &&
      recordHashMatches p.toCanonical path.content path.pathBindingHash

/-- The profiles are numbered in their order. -/
def validateTestProfiles (profiles : List TestProfileBinding) : Bool :=
  profiles.zipIdx.all fun (profile, index) =>
    profile.schemaVersion = "ananke.controlled-repair-test-profile-binding.v1" &&
      profile.sequence = index + 1 && profile.profileID ≠ "" &&
      recordHashMatches p.toCanonical profile.content profile.profileBindingHash

/-- The records of the authorization carry their own hashes. -/
def authorizationHashesMatch (v : Authorization) : Bool :=
  let scope := v.scope
  recordHashMatches p.toCanonical v.content v.authorizationHash &&
    recordHashMatches p.toCanonical scope.content scope.scopeHash &&
    recordHashMatches p.toCanonical v.approval.content v.approval.approvalHash &&
    recordHashMatches p.toCanonical scope.p4.fullFence.content scope.p4.fullFence.fenceHash &&
    recordHashMatches p.toCanonical scope.p4.content scope.p4.p4FactHash &&
    recordHashMatches p.toCanonical scope.repository.content
      scope.repository.repositoryBindingHash &&
    recordHashMatches p.toCanonical scope.route.content scope.route.routeBindingHash &&
    recordHashMatches p.toCanonical scope.expectedPeer.content scope.expectedPeer.peerIdentityHash

/-- The approval lasts at most ten minutes and is at most five minutes old. -/
def approvalFresh (approval : OperatorApproval) (now : Int) : Bool :=
  match p.parseUTC approval.approvedAt, p.parseUTC approval.notAfter with
  | some approvedAt, some notAfter =>
    approvedAt < notAfter && notAfter - approvedAt ≤ 10 * minute && approvedAt ≤ now &&
      now < notAfter && now - approvedAt ≤ 5 * minute
  | _, _ => false

def validateAuthorizationRecord (v : Authorization) (now : Int) : Bool :=
  let scope := v.scope
  v.schemaVersion = "ananke.controlled-repair-authorization.v1" &&
    scope.schemaVersion = "ananke.controlled-repair-authorization-scope.v1" &&
    v.approval.schemaVersion = "ananke.controlled-repair-operator-approval.v1" &&
    v.approvalHash = v.approval.approvalHash && v.policyHash = scope.policyHash &&
    v.approval.approvedScopeHash = scope.scopeHash &&
    scope.attempt.schemaVersion = "ananke.controlled-repair-attempt-binding.v1" &&
    scope.attempt.attemptCap = attemptCap && 1 ≤ scope.attempt.attemptNumber &&
    scope.attempt.attemptNumber ≤ attemptCap &&
    scope.p4.attemptNumber = scope.attempt.attemptNumber && scope.p4.attemptCap = attemptCap &&
    scope.rotationMode = "forbidden_v1" && validFullFence scope.p4.fullFence &&
    validRepositoryIdentity scope.repository.repositoryIdentity &&
    validClosedIdentifier scope.route.routeID 128 &&
    validClosedIdentifier scope.route.supervisorProfileID 128 &&
    validClosedIdentifier scope.expectedPeer.peerRole 128 &&
    validateAllHashStrings v.hashes && authorizationHashesMatch p v &&
    gitObjectPattern scope.repository.baseCommit && gitObjectPattern scope.repository.baseTree &&
    !scope.writablePaths.isEmpty && !scope.testProfiles.isEmpty &&
    !hasDuplicatePaths scope.writablePaths && !hasDuplicateProfiles scope.testProfiles &&
    validateWritablePaths p scope.writablePaths && validateTestProfiles p scope.testProfiles &&
    approvalFresh p v.approval now

def approvalFromAuthority (ev : GUIApprovalEventAuthority) : OperatorApproval where
  schemaVersion := ev.schemaVersion
  approvalHash := ev.approvalHash
  approvalID := ev.approvalID
  decision := ev.decision
  operatorIdentity := ev.operatorIdentity
  operatorIdentityHash := ev.operatorIdentityHash
  authenticationProvenance := ev.authenticationProvenance
  guiProvenanceHash := ev.guiProvenanceHash
  approvedScopeHash := ev.approvedScopeHash
  approvedAt := ev.approvedAt
  notAfter := ev.notAfter

def authorizationMatchesAuthority (want : AuthorityContext) (cur : Authorization) : Bool :=
  let scope := cur.scope
  scope.repairLineageHash = want.repairLineageHash && scope.p4 = want.p4 &&
    scope.repository = want.repository && scope.writablePaths = want.writablePaths &&
    scope.testProfiles = want.testProfiles && scope.route = want.route &&
    scope.channelBindingHash = want.channelBindingHash &&
    scope.expectedPeer = want.expectedPeer &&
    scope.policyHash = want.installedPolicyHash &&
    scope.route.supervisorProfileHash = want.installedSupervisorProfileHash &&
    scope.rotationMode = want.rotationMode &&
    scope.attempt.attemptNumber = want.attemptNumber &&
    scope.attempt.attemptCap = want.attemptCap &&
    cur.approval = approvalFromAuthority want.guiApprovalEvent

section Dispatch

variable [DecidableEq β]

section

variable (want : AuthorityContext) (authorization : Authorization) (verified :
  VerifiedAuthorization β) (v : ImmutableDispatch)

def verifiedAuthorizationIntact : Bool :=
  verified.valid && p.canonicalBytes verified.authorization.toValue = some verified.canonical &&
    recordHashMatches p.toCanonical verified.authorization.content
      verified.authorization.authorizationHash

inductive ValidationMoment
  | admission | effect
deriving DecidableEq

/-- The dispatch is the one that the authorization and the authority call for. -/
def dispatchMatches : Bool :=
  let attempt := authorization.scope.attempt
  v.authorizationHash = authorization.authorizationHash &&
    v.approvalHash = authorization.approvalHash &&
    v.policyHash = authorization.policyHash && v.attemptNumber = attempt.attemptNumber &&
    v.attemptCap = attempt.attemptCap &&
    v.request.authorizationHash = v.authorizationHash &&
    v.request.attemptNumber = v.attemptNumber &&
    v.request.attemptCap = v.attemptCap && v.request.requestID ≠ "" &&
    v.channelBindingHash = want.channelBindingHash &&
    v.expectedPeer = want.expectedPeer &&
    v.releasePinsHash = p.frozen.pins.releasePinsHash &&
    v.selectedSupervisorPolicyHash = want.installedPolicyHash &&
    v.selectedSupervisorProfileID = want.route.supervisorProfileID &&
    v.selectedSupervisorProfileHash = want.installedSupervisorProfileHash

/-- The dispatch lives at most four minutes, within the life of the approval. -/
def dispatchWindow (approval : OperatorApproval) (v : ImmutableDispatch) : Bool :=
  match p.parseUTC v.createdAt, p.parseUTC v.dispatchNotAfter,
    p.parseUTC approval.approvedAt, p.parseUTC approval.notAfter with
  | some createdAt, some dispatchNotAfter, some approvedAt, some notAfter =>
    createdAt < dispatchNotAfter && dispatchNotAfter - createdAt ≤ 4 * minute &&
      approvedAt ≤ createdAt && createdAt < notAfter && dispatchNotAfter ≤ notAfter
  | _, _, _, _ => false

/-- The dispatch may take effect, or be admitted, at this instant. -/
def dispatchFresh (now : Int) (moment : ValidationMoment) : Bool :=
  verifyReleaseTrust p p.frozen now && validateAuthorizationRecord p authorization now &&
    within p v.createdAt v.dispatchNotAfter now &&
    (moment = .effect || p.parseUTC v.createdAt = some now)

/-- `validateDispatchRecord`; freshness is checked at an instant, if there is one. -/
def validateDispatchRecord (freshAt : Option Int) (moment : ValidationMoment) : Bool :=
  verifiedAuthorizationIntact p verified && want = verified.authority &&
    authorizationMatchesAuthority want verified.authorization &&
    v.schemaVersion = "ananke.controlled-repair-immutable-dispatch.v1" &&
    v.request.schemaVersion = "ananke.controlled-repair-dispatch-request.v1" &&
    dispatchMatches p want verified.authorization v &&
    validateAllHashStrings v.hashes &&
    recordHashMatches p.toCanonical v.request.content v.request.requestHash &&
    recordHashMatches p.toCanonical v.content v.dispatchHash &&
    dispatchWindow p verified.authorization.approval v &&
    match freshAt with
    | none => true
    | some now => dispatchFresh p verified.authorization v now moment

end

end Dispatch

end Ananke.Repair
