import Ananke.Repair.Signature

/-! A repair run: the worktree, the adapter, the tests, and the attestation that is signed and
stored in the end. What the outside answers is an input. -/
namespace Ananke.Repair

open Text Validation

/-- An instant whose year has four digits, in nanoseconds since 1970. -/
def Instant : Type :=
  { n : Int // -62167219200 * second ≤ n ∧ n < 253402300800 * second }

/-- `time.Time{}`, the first of January of the year 1. -/
def Instant.isZero (now : Instant) : Bool := now.val = -62135596800 * second

/-- What a run rests on, with the laws of the digest, of the clock texts and of the material
that is compiled in. -/
structure Runner (β : Type) extends Signing β where
  sign : List UInt8 → β → List UInt8
  /-- `transportprimitives.MarshalCanonical` -/
  marshalCanonical : Value → Option β
  /-- `Format(time.RFC3339Nano)` -/
  formatUTC : Instant → String
  /-- `Format("20060102_150405")` -/
  formatStamp : Instant → String
  /-- The sorted paths of a status text, one in each line. -/
  orderedPaths : String → String
  digest_valid : ∀ raw, validHash (sha256Digest raw) = true
  parse_formatUTC : ∀ now, (parseUTC (formatUTC now)).isSome = true
  formatStamp_closed : ∀ now, validClosedIdentifier (formatStamp now) 15 = true
  frozen_valid : [frozen.pins.releasePinsHash, frozen.bundle.trustBundleHash,
    frozen.pins.repairAttestorCertificateHash].all validHash = true ∧
    validClosedIdentifier frozen.pins.repairAttestorRootID 128 = true

structure RepairContext where
  (authorizationHash approvalHash requestHash dispatchHash attemptHash : String)
  (attemptNumber attemptCap : Int)
  (releasePinsHash trustBundleHash repairAttestorCertificateHash repairAttestorRootID
    repairAttestorLeafSPKI requestNonceHash responseNonceHash channelHash repositoryBindingHash
    repositoryIdentityHash commonGitIdentityHash gitExecutableIdentityHash
    effectTimeValidationTimestamp materializationClaimHash adapterClaimHash testClaimHash
    predecessorClaimHash supervisorJournalHeadHash supervisorJournalPredecessorHash bootEpochID
    bootEpochHash : String)

structure DiffClosure where
  (orderedPathsHash statusHash rawHash numstatHash ignoredHash filesystemScanHash : String)

structure WorktreeResult where
  (worktreeParentHash worktreeTargetHash worktreeAdminHash worktreeDescriptorHash worktreeSlotID
    worktreeSlotPathHash installedWorktreeRootIdentityHash : String)
  diff : DiffClosure
  patchHash : String
  patchSize : Int

structure AdapterResult where
  (seatbeltProfileHash sandboxHash terminalProofHash capabilityHash uidPoolHash uidLeaseHash
    : String)
  (uid groupID : Nat)

structure TestProfileResult where
  (toolchainManifestHash testProfileHash candidateCopyHash testSandboxHash testTerminalProofHash
    testRootCleanupHash testResultHash testOutputHash : String)
  testOutputSize : Int
  (testCommandHash testCapabilityHash : String)

structure RepairSigningMaterial where
  verifier : RepairVerifier
  privateKey : List UInt8
  publicKey : List UInt8
  (rootID signerSPKI : String)

inductive AttestationFailure
  | nilSigningMaterial | canonicalBytes | sign | hash | verifyBytes | selfVerify
  | emptyAttestationHash | emptyAttestationID | emptySignatureDomain
  | conflict | marshal | insert | commit

variable {β : Type} (p : Runner β)

/-- The last eight characters, or none. -/
def generateAttestationID (attemptHash : String) (now : Instant) : String :=
  let suffix :=
    if 8 ≤ attemptHash.toList.length then
      String.ofList (attemptHash.toList.drop (attemptHash.toList.length - 8))
    else ""
  "attestation_" ++ p.formatStamp now ++ "_" ++ suffix

/-- The record before it is signed. -/
def unsignedRecord (ctx : RepairContext) (worktree : WorktreeResult) (adapter : AdapterResult)
    (test : TestProfileResult) (now : Instant) : RepairReviewAttestation where
  schemaVersion := "ananke.controlled-repair-review-attestation.v1"
  attestationHash := ""
  attestationID := generateAttestationID p ctx.attemptHash now
  issuedAt := p.formatUTC now
  state := .waitingForReview
  signatureDomain := signatureDomain
  signature := ""
  releasePinsHash := ctx.releasePinsHash
  trustBundleHash := ctx.trustBundleHash
  repairAttestorCertificateHash := ctx.repairAttestorCertificateHash
  repairAttestorRootID := ctx.repairAttestorRootID
  repairAttestorLeafSPKI := ctx.repairAttestorLeafSPKI
  requestNonceHash := ctx.requestNonceHash
  responseNonceHash := ctx.responseNonceHash
  channelHash := ctx.channelHash
  authorizationHash := ctx.authorizationHash
  approvalHash := ctx.approvalHash
  requestHash := ctx.requestHash
  dispatchHash := ctx.dispatchHash
  attemptHash := ctx.attemptHash
  attemptNumber := ctx.attemptNumber
  attemptCap := ctx.attemptCap
  effectTimeValidationTimestamp := ctx.effectTimeValidationTimestamp
  materializationClaimHash := ctx.materializationClaimHash
  adapterClaimHash := ctx.adapterClaimHash
  testClaimHash := ctx.testClaimHash
  predecessorClaimHash := ctx.predecessorClaimHash
  supervisorJournalHeadHash := ctx.supervisorJournalHeadHash
  supervisorJournalPredecessorHash := ctx.supervisorJournalPredecessorHash
  bootEpochID := ctx.bootEpochID
  bootEpochHash := ctx.bootEpochHash
  repositoryBindingHash := ctx.repositoryBindingHash
  repositoryIdentityHash := ctx.repositoryIdentityHash
  commonGitIdentityHash := ctx.commonGitIdentityHash
  gitExecutableIdentityHash := ctx.gitExecutableIdentityHash
  worktreeParentHash := worktree.worktreeParentHash
  worktreeTargetHash := worktree.worktreeTargetHash
  worktreeAdminHash := worktree.worktreeAdminHash
  worktreeDescriptorHash := worktree.worktreeDescriptorHash
  worktreeSlotID := worktree.worktreeSlotID
  worktreeSlotPathHash := worktree.worktreeSlotPathHash
  installedWorktreeRootIdentityHash := worktree.installedWorktreeRootIdentityHash
  adapterSeatbeltProfileHash := adapter.seatbeltProfileHash
  adapterSandboxHash := adapter.sandboxHash
  adapterTerminalProofHash := adapter.terminalProofHash
  adapterCapabilityHash := adapter.capabilityHash
  uidPoolHash := adapter.uidPoolHash
  uidLeaseHash := adapter.uidLeaseHash
  uid := adapter.uid
  groupID := adapter.groupID
  patchHash := worktree.patchHash
  patchSize := worktree.patchSize
  orderedPathsHash := worktree.diff.orderedPathsHash
  statusHash := worktree.diff.statusHash
  rawHash := worktree.diff.rawHash
  numstatHash := worktree.diff.numstatHash
  ignoredHash := worktree.diff.ignoredHash
  filesystemScanHash := worktree.diff.filesystemScanHash
  toolchainManifestHash := test.toolchainManifestHash
  testProfileHash := test.testProfileHash
  candidateCopyHash := test.candidateCopyHash
  testSandboxHash := test.testSandboxHash
  testTerminalProofHash := test.testTerminalProofHash
  testRootCleanupHash := test.testRootCleanupHash
  testResultHash := test.testResultHash
  testOutputHash := test.testOutputHash
  testOutputSize := test.testOutputSize
  testCommandHash := test.testCommandHash
  testCapabilityHash := test.testCapabilityHash

namespace RepairSigningMaterial

/-- `SignAttestationBytes`; the key is gone once the material is closed. -/
def signAttestationBytes (m : RepairSigningMaterial) (signedBytes : β) : Option String :=
  if m.privateKey.isEmpty then none
  else some (signatureMark ++ String.ofList (encodeHex (p.sign m.privateKey signedBytes)))

def verifyAttestationBytes (m : RepairSigningMaterial) (signedBytes : β) (sig : String) :
    Bool :=
  !m.privateKey.isEmpty && hasSignatureMark sig &&
    match decodeHex (trimSignatureMark sig) with
    | none => false
    | some bytes => ed25519Verify p.toSigning m.publicKey signedBytes bytes

end RepairSigningMaterial

/-- The record is signed, then hashed, then checked once more. -/
def signRecord (material : RepairSigningMaterial) (unsigned : RepairReviewAttestation) :
    Except AttestationFailure RepairReviewAttestation := do
  let signedBytes ← expect .canonicalBytes (runtimeSignatureCanonicalBytes p.toSigning unsigned)
  let sig ← expect .sign (material.signAttestationBytes p signedBytes)
  let signed := { unsigned with signature := sig }
  let attestationHash ← expect .hash (hashAttestationRecord p.toPrimitives signed)
  let record := { signed with attestationHash := attestationHash }
  let verifyBytes ← expect .verifyBytes (runtimeSignatureCanonicalBytes p.toSigning record)
  require .selfVerify (material.verifyAttestationBytes p verifyBytes sig = true)
  pure record

/-- `canonicalJSONString`; what cannot be encoded is the empty text. -/
def canonicalJSONString (record : RepairReviewAttestation) : β :=
  (p.marshalCanonical record.toValue).getD (p.textBytes "")

/-- The attestations, each with its row in the outbox. -/
structure AttestationStore (β : Type) where
  attestations : List (RepairAttestationRow β)

def rowOf (record : RepairReviewAttestation) (json : β) : RepairAttestationRow β where
  attestationHash := record.attestationHash
  attestationID := record.attestationID
  authorizationHash := record.authorizationHash
  attemptHash := record.attemptHash
  attemptNumber := record.attemptNumber
  signatureDomain := record.signatureDomain
  signatureHash := record.signature
  state := record.state
  issuedAt := record.issuedAt
  attestationJSON := json
  outboxDelivered := 0
  deliveredDiagnostic := ""

section Persist

variable [DecidableEq β]

/-- A record with a hash that is stored already is compared with what is stored. The table
takes only one state, and the transaction may fail to commit. -/
def persistRepairAttestation (s : AttestationStore β) (record : RepairReviewAttestation)
    (commits : Bool) : AttestationStore β × Except AttestationFailure (RepairAttestationRow β) :=
  if record.attestationHash = "" then (s, .error .emptyAttestationHash)
  else if record.attestationID = "" then (s, .error .emptyAttestationID)
  else if record.signatureDomain = "" then (s, .error .emptySignatureDomain)
  else
    match s.attestations.find? (·.attestationHash = record.attestationHash) with
    | some old =>
      if old.attestationJSON ≠ canonicalJSONString p record then (s, .error .conflict)
      else (s, .ok old)
    | none =>
      match p.marshalCanonical record.toValue with
      | none => (s, .error .marshal)
      | some json =>
        if record.state ≠ .waitingForReview then (s, .error .insert)
        else if !commits then (s, .error .commit)
        else (⟨s.attestations ++ [rowOf record json]⟩, .ok (rowOf record json))

def produceSignedAttestation (s : AttestationStore β) (ctx : RepairContext)
    (worktree : WorktreeResult) (adapter : AdapterResult) (test : TestProfileResult)
    (material : Option RepairSigningMaterial) (now : Instant) (commits : Bool) :
    AttestationStore β × Except AttestationFailure (RepairAttestationRow β) :=
  match material with
  | none => (s, .error .nilSigningMaterial)
  | some material =>
    match signRecord p material (unsignedRecord p ctx worktree adapter test now) with
    | .error e => (s, .error e)
    | .ok record => persistRepairAttestation p s record commits

end Persist

/-! The stages of a run. -/

structure RepairRequest where
  (projectPath requestText adapterType : String)

structure RepairConfig where
  (wrapperPath provider model : String)
  timeout : Int

/-- A run of the tests in a copy of the worktree. -/
structure TestRun where
  (sandboxDir proof output : String)
  outputSize : Nat

/-- What the outside answers in the course of a run; a text that is only hashed is given as it
is hashed. -/
structure RepairEnvironment where
  keyPair : Option (List UInt8 × List UInt8)
  (slotDir absRepo : Option String)
  baseRepo : String
  parentCommit : Option String
  (worktreeAdded gitFile : Bool)
  /-- The size and the mode of the root. -/
  rootInfo : Option (Nat × Nat)
  (uid gid : Nat)
  editWritten : Bool
  promptDir : Option String
  (promptWritten sessionDirMade : Bool)
  ompOutput : String
  ompSucceeded : Bool
  /-- What is known of the user and the worktree when the adapter has ended. -/
  adapterProof : String
  (status raw numstat ignored files : Option String)
  goMod : Bool
  goRoot : String
  tests : Except String TestRun

inductive RepairFailure
  | signingMaterial | createSlotDir | absPath | gitRevParse | materializeWorktree | fakeAdapter
  | createPromptDir | writePrompt | ompAdapter | unknownAdapter (name : String) | diffClosure
  | produceAttestation (cause : AttestationFailure)

structure RepairResult where
  (attestationHash diffPath : String)

def hashString (s : String) : String := p.sha256Digest (p.textBytes s)

/-- The pins of the verifier take the key that was just made. -/
def generateSigningMaterial (keyPair : Option (List UInt8 × List UInt8)) (now : Instant) :
    Except RepairFailure RepairSigningMaterial := do
  require .signingMaterial (now.isZero = false)
  let keys ← expect .signingMaterial keyPair
  let spki ← expect .signingMaterial (spkiHash p.toSigning keys.1)
  let pins := { p.frozen.pins with repairAttestorLeafSPKI := spki }
  let verifier ← (RepairVerifier.setAttestorPublicKey p.toSigning ⟨pins, p.frozen.bundle, []⟩
    keys.1).mapError fun _ => .signingMaterial
  pure ⟨verifier, keys.2, keys.1, pins.repairAttestorRootID, spki⟩

structure WorktreeDescriptor where
  (repositoryRoot parentCommit targetRef slotID slotPath : String)

section

variable (d : WorktreeDescriptor) (req : RepairRequest) (cfg : RepairConfig)
  (env : RepairEnvironment)

def isAbs (path : String) : Bool := path.toList.head? = some '/'

def validateDescriptor : Bool :=
  isAbs d.repositoryRoot && d.parentCommit.utf8ByteSize = 40 && d.slotID ≠ "" && isAbs d.slotPath

/-- The digest of the canonical encoding. -/
def hashCanonical (members : List (String × Value)) : Option String :=
  (p.marshalCanonical (.object members)).map p.sha256Digest

def materializeWorktree : Except RepairFailure WorktreeResult := do
  require .materializeWorktree (validateDescriptor d = true)
  require .materializeWorktree (env.worktreeAdded = true ∧ env.gitFile = true)
  let descriptorHash ← expect .materializeWorktree (hashCanonical p
    [("repository_root", .text d.repositoryRoot), ("parent_commit", .text d.parentCommit),
      ("target_ref", .text d.targetRef), ("slot_id", .text d.slotID),
      ("slot_path", .text d.slotPath)])
  let root ← expect .materializeWorktree env.rootInfo
  let rootIdentityHash ← expect .materializeWorktree (hashCanonical p
    [("size", .number root.1), ("mode", .number root.2)])
  let empty := hashString p ""
  pure
    { worktreeParentHash := hashString p d.parentCommit
      worktreeTargetHash := hashString p d.targetRef
      worktreeAdminHash := hashString p d.repositoryRoot
      worktreeDescriptorHash := descriptorHash
      worktreeSlotID := d.slotID
      worktreeSlotPathHash := hashString p d.slotPath
      installedWorktreeRootIdentityHash := rootIdentityHash
      diff := ⟨empty, empty, empty, empty, empty, empty⟩
      patchHash := empty
      patchSize := 0 }

/-- The two adapters differ in the output that their capability is the hash of. -/
def adapterResult (slotPath out : String) : AdapterResult where
  seatbeltProfileHash := hashString p "fake_seatbelt_profile_v1"
  sandboxHash := hashString p slotPath
  terminalProofHash := hashString p env.adapterProof
  capabilityHash := hashString p out
  uidPoolHash := hashString p ("uid_pool_" ++ toString env.uid)
  uidLeaseHash := hashString p ("uid_lease_" ++ toString env.uid ++ "_" ++ toString env.gid)
  uid := env.uid
  groupID := env.gid

variable (slotPath : String)

def runFakeAdapter : Except RepairFailure AdapterResult := do
  require .fakeAdapter (env.editWritten = true)
  pure (adapterResult p env slotPath ("# Ananke Repair Edit\n\nProvider: fake\nUID: " ++
    toString env.uid ++ "\nGID: " ++ toString env.gid ++ "\nGenerated: deterministic\n"))

/-- The members of the configuration that are not given by the caller are never empty. -/
def validateOMPConfig : Bool :=
  cfg.wrapperPath ≠ "" && cfg.provider ≠ "" && cfg.model ≠ "" && 0 < cfg.timeout

def runOMPAdapter : Except RepairFailure AdapterResult := do
  let _ ← expect .createPromptDir env.promptDir
  require .writePrompt (env.promptWritten = true)
  require .ompAdapter (validateOMPConfig cfg = true)
  require .ompAdapter (env.sessionDirMade = true)
  require .ompAdapter (env.ompSucceeded = true)
  pure (adapterResult p env slotPath env.ompOutput)

def runAdapter : Except RepairFailure AdapterResult :=
  if req.adapterType = "fake" then runFakeAdapter p env slotPath
  else if req.adapterType = "omp" then runOMPAdapter p cfg env slotPath
  else .error (.unknownAdapter req.adapterType)

def computeDiffClosure : Except RepairFailure DiffClosure := do
  let status ← expect .diffClosure env.status
  let raw ← expect .diffClosure env.raw
  let numstat ← expect .diffClosure env.numstat
  let ignored ← expect .diffClosure env.ignored
  let files ← expect .diffClosure env.files
  pure ⟨hashString p (p.orderedPaths status), hashString p status, hashString p raw,
    hashString p numstat, hashString p ignored, hashString p files⟩

/-- The hashes of a copy, a sandbox, a proof and a cleanup are left empty. -/
def skipTestResult (msg : String) : TestProfileResult where
  toolchainManifestHash := hashString p "go_test"
  testProfileHash := hashString p "go test"
  candidateCopyHash := ""
  testSandboxHash := ""
  testTerminalProofHash := ""
  testRootCleanupHash := ""
  testResultHash := hashString p msg
  testOutputHash := hashString p msg
  testOutputSize := 0
  testCommandHash := hashString p "skip"
  testCapabilityHash := hashString p "test_capability"

def goTestCommand : String := "go test ./... -count=1 -timeout 60s"

/-- The result of `RunGoTestProfile`, whether the tests passed or not. -/
def goTestResult (goRoot : String) (run : TestRun) : TestProfileResult where
  toolchainManifestHash := hashString p goRoot
  testProfileHash := hashString p goTestCommand
  candidateCopyHash := hashString p run.sandboxDir
  testSandboxHash := hashString p run.sandboxDir
  testTerminalProofHash := hashString p run.proof
  testRootCleanupHash := hashString p run.sandboxDir
  testResultHash := hashString p run.output
  testOutputHash := hashString p run.output
  testOutputSize := run.outputSize
  testCommandHash := hashString p goTestCommand
  testCapabilityHash := hashString p "test_capability"

/-- Without a module, and where the profile cannot be run, the tests are skipped. -/
def runTests : TestProfileResult :=
  if env.goMod then
    match env.tests with
    | .ok run => goTestResult p env.goRoot run
    | .error msg => skipTestResult p msg
  else skipTestResult p "skipped: no go.mod"

/-- Most members of the context are hashes of fixed texts. -/
def repairContext (absRepo : String) (material : RepairSigningMaterial) (now : Instant) :
    RepairContext where
  authorizationHash := hashString p "ananke-repair-auth"
  approvalHash := hashString p "ananke-repair-approval"
  requestHash := hashString p req.requestText
  dispatchHash := hashString p "ananke-repair-dispatch"
  attemptHash := hashString p "ananke-repair-attempt-1"
  attemptNumber := 1
  attemptCap := attemptCap
  releasePinsHash := material.verifier.pins.releasePinsHash
  trustBundleHash := material.verifier.bundle.trustBundleHash
  repairAttestorCertificateHash := material.verifier.pins.repairAttestorCertificateHash
  repairAttestorRootID := material.rootID
  repairAttestorLeafSPKI := material.signerSPKI
  requestNonceHash := hashString p "nonce_req"
  responseNonceHash := hashString p "nonce_resp"
  channelHash := hashString p "channel"
  repositoryBindingHash := hashString p absRepo
  repositoryIdentityHash := hashString p env.baseRepo
  commonGitIdentityHash := hashString p "git_identity"
  gitExecutableIdentityHash := hashString p "git_exec"
  effectTimeValidationTimestamp := p.formatUTC now
  materializationClaimHash := hashString p "mat_claim"
  adapterClaimHash := hashString p "adapter_claim"
  testClaimHash := hashString p "test_claim"
  predecessorClaimHash := hashString p "pred_claim"
  supervisorJournalHeadHash := hashString p "journal_head"
  supervisorJournalPredecessorHash := hashString p "journal_pred"
  bootEpochID := "boot_epoch_repair_v1"
  bootEpochHash := hashString p "boot_epoch"

/-- All that is known when the attestation is produced. -/
structure Prepared where
  material : RepairSigningMaterial
  context : RepairContext
  worktree : WorktreeResult
  adapter : AdapterResult
  test : TestProfileResult

/-- `RunRepair`, up to the attestation. -/
def prepareRepair (now : Instant) : Except RepairFailure Prepared := do
  let material ← generateSigningMaterial p env.keyPair now
  let slotDir ← expect .createSlotDir env.slotDir
  let absRepo ← expect .absPath env.absRepo
  let parentCommit ← expect .gitRevParse env.parentCommit
  let slotPath := slotDir ++ "/worktree"
  let worktree ← materializeWorktree p
    ⟨absRepo, parentCommit, "refs/heads/feat/ananke-repair", "slot_" ++ p.formatStamp now,
      slotPath⟩ env
  let adapter ← runAdapter p req cfg env slotPath
  let diff ← computeDiffClosure p env
  pure ⟨material, repairContext p req env absRepo material now, { worktree with diff := diff },
    adapter, runTests p env⟩

/-- Where the patch is saved; the name is the second in which the run began. -/
def diffPath (now : Instant) : String := "/tmp/ananke-diffs/" ++ p.formatStamp now ++ ".patch"

def runRepair [DecidableEq β] (s : AttestationStore β) (req : RepairRequest) (cfg : RepairConfig)
    (env : RepairEnvironment) (now : Instant) (commits : Bool) :
    AttestationStore β × Except RepairFailure RepairResult :=
  match prepareRepair p req cfg env now with
  | .error e => (s, .error e)
  | .ok prepared =>
    let produced := produceSignedAttestation p s prepared.context prepared.worktree
      prepared.adapter prepared.test (some prepared.material) now commits
    (produced.1, match produced.2 with
      | .error e => .error (.produceAttestation e)
      | .ok row => .ok ⟨row.attestationHash, diffPath p now⟩)

end

end Ananke.Repair
