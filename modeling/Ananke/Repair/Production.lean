import Ananke.Repair.Runner

/-! What a repair run stores: its hash and its signature are always right, but it is a valid
attestation only if the tests were run, and not by the superuser. -/
namespace Ananke.Repair

open Text Validation List

variable {a : String}

theorem closed_append {b : String} {m n : Nat} (ha : validClosedIdentifier a m = true)
    (hb : validClosedIdentifier b n = true) :
    validClosedIdentifier (a ++ "_" ++ b) (m + 1 + n) = true := by
  have hlist : (a ++ "_" ++ b).toList = a.toList ++ '_' :: b.toList := by simp
  simp only [validClosedIdentifier, checks_iff] at ha hb ⊢
  rw [hlist, splitOn_append_cons_self, all_append, ha.2, hb.2]
  refine ⟨?_, rfl⟩
  simp only [length_append, length_cons]
  omega

theorem closed_mono {m n : Nat} (h : validClosedIdentifier a m = true)
    (hmn : m ≤ n) : validClosedIdentifier a n = true := by
  simp only [validClosedIdentifier, checks_iff] at h ⊢
  exact ⟨by omega, h.2⟩

theorem closed_of_plain {cs : List Char} (hne : cs ≠ []) (hplain : cs.all isPlain = true) :
    validClosedIdentifier (String.ofList cs) cs.length = true := by
  have hseparator : '_' ∉ cs := by
    intro hmem
    exact absurd (all_eq_true.mp hplain '_' hmem) (by decide)
  simp [validClosedIdentifier, splitOn_eq_singleton hseparator, hne, hplain]

theorem isPlain_of_isHex {c : Char} (h : isHex c = true) : isPlain c = true := by
  simp only [isHex, isPlain, isLower, Bool.or_eq_true, checks_iff] at h ⊢
  rcases h with hdigit | ⟨ha, hf⟩
  · exact .inr hdigit
  · exact .inl ⟨ha, Char.le_trans hf (by decide)⟩

variable {hash : String}

theorem closed_hash_suffix (h : validHash hash = true) :
    8 ≤ hash.toList.length ∧ validClosedIdentifier
      (String.ofList (hash.toList.drop (hash.toList.length - 8))) 8 = true := by
  unfold validHash protocolHashPattern at h
  split at h
  next digits hdigits =>
    simp only [checks_iff] at h
    have hdrop : hash.toList.drop (hash.toList.length - 8) = digits.drop 56 := by
      rw [hdigits]
      simp [h.1]
    have hlen : (digits.drop 56).length = 8 := by simp [h.1]
    refine ⟨by simp [hdigits, h.1], ?_⟩
    rw [hdrop, ← hlen]
    refine closed_of_plain ?_ ?_
    · intro hnil
      simp [hnil] at hlen
    · refine all_eq_true.mpr fun c hc => isPlain_of_isHex ?_
      exact all_eq_true.mp h.2 c (mem_of_mem_drop hc)
  · cases h

variable {β : Type} {p : Runner β}

theorem attestationID_closed {attemptHash : String} (h : validHash attemptHash = true)
    (now : Instant) : validClosedIdentifier (generateAttestationID p attemptHash now) 128 =
      true := by
  obtain ⟨hlen, hsuffix⟩ := closed_hash_suffix h
  have hname : validClosedIdentifier "attestation" 11 = true := by decide
  have hid := closed_append (closed_append hname (p.formatStamp_closed now)) hsuffix
  have heq : "attestation" ++ "_" ++ p.formatStamp now = "attestation_" ++ p.formatStamp now := by
    rw [show "attestation" ++ "_" = "attestation_" by decide]
  rw [heq] at hid
  simp only [generateAttestationID, if_pos hlen]
  exact closed_mono hid (by decide)

theorem slotID_closed (now : Instant) :
    validClosedIdentifier ("slot_" ++ p.formatStamp now) 128 = true := by
  have hname : validClosedIdentifier "slot" 4 = true := by decide
  have hid := closed_append hname (p.formatStamp_closed now)
  rw [show "slot" ++ "_" = "slot_" by decide] at hid
  exact closed_mono hid (by decide)

/-- The hashes that an attestation is put together from. -/
def inputHashes (ctx : RepairContext) (worktree : WorktreeResult) (adapter : AdapterResult)
    (test : TestProfileResult) : List String :=
  [ctx.releasePinsHash, ctx.trustBundleHash, ctx.repairAttestorCertificateHash,
    ctx.repairAttestorLeafSPKI, ctx.requestNonceHash, ctx.responseNonceHash, ctx.channelHash,
    ctx.authorizationHash, ctx.approvalHash, ctx.requestHash, ctx.dispatchHash, ctx.attemptHash,
    ctx.materializationClaimHash, ctx.adapterClaimHash, ctx.testClaimHash,
    ctx.predecessorClaimHash, ctx.supervisorJournalHeadHash,
    ctx.supervisorJournalPredecessorHash, ctx.bootEpochHash, ctx.repositoryBindingHash,
    ctx.repositoryIdentityHash, ctx.commonGitIdentityHash, ctx.gitExecutableIdentityHash,
    worktree.worktreeParentHash, worktree.worktreeTargetHash, worktree.worktreeAdminHash,
    worktree.worktreeDescriptorHash, worktree.worktreeSlotPathHash,
    worktree.installedWorktreeRootIdentityHash, adapter.seatbeltProfileHash, adapter.sandboxHash,
    adapter.terminalProofHash, adapter.capabilityHash, adapter.uidPoolHash, adapter.uidLeaseHash,
    worktree.patchHash, worktree.diff.orderedPathsHash, worktree.diff.statusHash,
    worktree.diff.rawHash, worktree.diff.numstatHash, worktree.diff.ignoredHash,
    worktree.diff.filesystemScanHash, test.toolchainManifestHash, test.testProfileHash,
    test.candidateCopyHash, test.testSandboxHash, test.testTerminalProofHash,
    test.testRootCleanupHash, test.testResultHash, test.testOutputHash, test.testCommandHash,
    test.testCapabilityHash]

variable (p) in
/-- What is put together is well formed. -/
structure WellFormed (ctx : RepairContext) (worktree : WorktreeResult) (adapter : AdapterResult)
    (test : TestProfileResult) : Prop where
  hashes : (inputHashes ctx worktree adapter test).all validHash = true
  attempt : 1 ≤ ctx.attemptNumber ∧ ctx.attemptNumber ≤ attemptCap ∧ ctx.attemptCap = attemptCap
  identifiers : validClosedIdentifier ctx.repairAttestorRootID 128 = true ∧
    validClosedIdentifier ctx.bootEpochID 128 = true ∧
    validClosedIdentifier worktree.worktreeSlotID 128 = true
  user : adapter.uid ≠ 0 ∧ adapter.groupID ≠ 0
  sizes : 0 ≤ worktree.patchSize ∧ 0 ≤ test.testOutputSize
  effectTime : (p.parseUTC ctx.effectTimeValidationTimestamp).isSome = true

/-- The record with its signature and its hash. -/
def sealedRecord (unsigned : RepairReviewAttestation) (sig attestationHash : String) :
    RepairReviewAttestation :=
  { unsigned with signature := sig, attestationHash := attestationHash }

variable {worktree : WorktreeResult} {adapter : AdapterResult} {now : Instant}
  {test : TestProfileResult} {ctx : RepairContext}

/-- A record that is signed and hashed is valid exactly if what it was put together from is
well formed. -/
theorem validate_iff_wellFormed {sig attestationHash : String} (hsig : validSignature sig = true)
    (hvalid : validHash attestationHash = true) (hhash : recordHashMatches p.toCanonical
      (sealedRecord (unsignedRecord p ctx worktree adapter test now) sig
        attestationHash).content attestationHash = true) :
    validateAttestationRecord p.toPrimitives (sealedRecord
        (unsignedRecord p ctx worktree adapter test now) sig attestationHash) = true ↔
      WellFormed p ctx worktree adapter test := by
  have hissued := p.parse_formatUTC now
  constructor
  · intro h
    simp only [validateAttestationRecord, all_cons, all_nil, checks_iff, and_assoc] at h
    simp only [sealedRecord, unsignedRecord, true_and] at h
    exact
      { hashes := by simp [inputHashes, h]
        attempt := by simp [h]
        identifiers := by simp [h]
        user := by simp [h]
        sizes := by simp [h]
        effectTime := by simp [h] }
  · rintro ⟨hhashes, hatt, hidentifiers, huser, hsizes, heffect⟩
    simp only [inputHashes, all_cons, all_nil, Bool.and_eq_true] at hhashes
    have hid : validClosedIdentifier (generateAttestationID p ctx.attemptHash now) 128 = true :=
      attestationID_closed (by simp [hhashes]) now
    simp only [validateAttestationRecord, all_cons, all_nil, checks_iff]
    refine ⟨?_, hhash⟩
    simp [sealedRecord, unsignedRecord, hhashes, hatt, hidentifiers, huser, hsizes, heffect, hid,
      hissued, hsig, hvalid]

theorem trim_mark (digits : List Char) :
    trimSignatureMark (signatureMark ++ String.ofList digits) = digits := by
  have hlist : (signatureMark ++ String.ofList digits).toList = signatureMark.toList ++ digits := by
    simp
  have hmark : hasSignatureMark (signatureMark ++ String.ofList digits) = true := by
    rw [hasSignatureMark, hlist]
    simp
  rw [trimSignatureMark, if_pos hmark, hlist, drop_left]

theorem validSignature_mark {bytes : List UInt8} (h : bytes.length = 64) :
    validSignature (signatureMark ++ String.ofList (encodeHex bytes)) = true := by
  have hlist : (signatureMark ++ String.ofList (encodeHex bytes)).toList =
      signatureMark.toList ++ encodeHex bytes := by simp
  have hlen : (encodeHex bytes).length = 128 := by rw [length_encodeHex, h]
  have hhex : hexAfter signatureMark 128 (signatureMark ++ String.ofList (encodeHex bytes)) =
      true := by
    simp only [hexAfter, hlist, drop_left, hlen, all_isHex_encodeHex]
    simp
  rw [validSignature, Bool.or_eq_true]
  exact .inr hhex

variable (p) in
/-- The record is hashed as it is, and its signature is one of the key. -/
structure Sealed (record : RepairReviewAttestation) (key : List UInt8) : Prop where
  hashed : recordHashMatches p.toCanonical record.content record.attestationHash = true
  signed : verifyRowSignature p.toSigning record key = .ok ()

variable {material : RepairSigningMaterial}

theorem signRecord_ok
    {unsigned record : RepairReviewAttestation} (h : signRecord p material unsigned = .ok record) :
    ∃ sig attestationHash, record = sealedRecord unsigned sig attestationHash ∧
      validSignature sig = true ∧ validHash attestationHash = true ∧
      Sealed p record material.publicKey := by
  simp only [signRecord, ok_iff, exists_const] at h
  obtain ⟨signedBytes, -, _, hsig, _, hhash, _, hbytes, hver, rfl⟩ := h
  simp only [RepairSigningMaterial.signAttestationBytes, Option.ite_none_left_eq_some,
    Option.some.injEq] at hsig
  obtain ⟨-, rfl⟩ := hsig
  simp only [RepairSigningMaterial.verifyAttestationBytes, Bool.and_eq_true,
    trim_mark, decodeHex_encodeHex] at hver
  have hsize : (p.sign material.privateKey signedBytes).length = 64 := by
    have := hver.2
    simp only [ed25519Verify, checks_iff] at this
    exact this.1
  refine ⟨_, _, rfl, validSignature_mark hsize, ?_, ?_, ?_⟩
  · simp only [hashAttestationRecord, hashRecord, Option.map_eq_some_iff] at hhash
    obtain ⟨bytes, -, rfl⟩ := hhash
    exact p.digest_valid bytes
  · exact decide_eq_true hhash
  · simp [verifyRowSignature, hbytes, trim_mark, decodeHex_encodeHex, hver.2]

section Persist

variable [DecidableEq β] {s : AttestationStore β} {commits : Bool} {row : RepairAttestationRow β}

theorem persistRepair_new {record : RepairReviewAttestation}
    (hrow : row ∈ (persistRepairAttestation p s record commits).1.attestations)
    (hnew : row ∉ s.attestations) :
    ∃ json, p.marshalCanonical record.toValue = some json ∧ row = rowOf record json := by
  unfold persistRepairAttestation at hrow
  split at hrow
  · exact absurd hrow hnew
  split at hrow
  · exact absurd hrow hnew
  split at hrow
  · exact absurd hrow hnew
  split at hrow
  · split at hrow
    · exact absurd hrow hnew
    · exact absurd hrow hnew
  split at hrow
  · exact absurd hrow hnew
  next json hjson =>
  split at hrow
  · exact absurd hrow hnew
  split at hrow
  · exact absurd hrow hnew
  rcases mem_append.mp hrow with hold | hadded
  · exact absurd hold hnew
  · exact ⟨json, hjson, mem_singleton.mp hadded⟩

theorem produceSigned_new {material : Option RepairSigningMaterial} {worktree : WorktreeResult}
    {adapter : AdapterResult} {now : Instant}
    (hrow : row ∈ (produceSignedAttestation p s ctx worktree adapter test material now
      commits).1.attestations) (hnew : row ∉ s.attestations) :
    ∃ signer record json, material = some signer ∧
      p.marshalCanonical record.toValue = some json ∧ row = rowOf record json ∧
      Sealed p record signer.publicKey ∧
      (validateAttestationRecord p.toPrimitives record = true ↔
        WellFormed p ctx worktree adapter test) := by
  unfold produceSignedAttestation at hrow
  split at hrow
  · exact absurd hrow hnew
  split at hrow
  · exact absurd hrow hnew
  next record hsign =>
  obtain ⟨json, hjson, rfl⟩ := persistRepair_new hrow hnew
  obtain ⟨_, _, rfl, hsig, hvalid, hseal⟩ := signRecord_ok hsign
  exact ⟨_, _, json, rfl, hjson, rfl, hseal, validate_iff_wellFormed hsig hvalid hseal.hashed⟩

end Persist

/-! What a run puts together. -/

theorem hash_hashString (text : String) : validHash (hashString p text) = true :=
  p.digest_valid _

theorem hashCanonical_valid {members : List (String × Value)}
    (h : hashCanonical p members = some hash) : validHash hash = true := by
  simp only [hashCanonical, Option.map_eq_some_iff] at h
  obtain ⟨bytes, -, rfl⟩ := h
  exact p.digest_valid bytes

theorem signingMaterial_ok {keyPair : Option (List UInt8 × List UInt8)}
    (h : generateSigningMaterial p keyPair now = .ok material) :
    keyPair = some (material.publicKey, material.privateKey) ∧
      material.rootID = p.frozen.pins.repairAttestorRootID ∧
      validHash material.signerSPKI = true ∧
      material.verifier.bundle = p.frozen.bundle ∧
      material.verifier.pins =
        { p.frozen.pins with repairAttestorLeafSPKI := material.signerSPKI } := by
  simp only [generateSigningMaterial, ok_iff, exists_const] at h
  obtain ⟨-, _, rfl, _, hspki, _, hver, rfl⟩ := h
  obtain ⟨-, -, rfl⟩ := setPublicKey_ok hver
  simp only [spkiHash, Option.map_eq_some_iff] at hspki
  obtain ⟨bytes, -, rfl⟩ := hspki
  exact ⟨rfl, rfl, p.digest_valid bytes, rfl, rfl⟩

variable {env : RepairEnvironment} {d : WorktreeDescriptor}

theorem materializeWorktree_ok (h : materializeWorktree p d env = .ok worktree) :
    [worktree.worktreeParentHash, worktree.worktreeTargetHash, worktree.worktreeAdminHash,
      worktree.worktreeDescriptorHash, worktree.worktreeSlotPathHash,
      worktree.installedWorktreeRootIdentityHash, worktree.patchHash].all validHash = true ∧
      worktree.worktreeSlotID = d.slotID ∧ worktree.patchSize = 0 := by
  simp only [materializeWorktree, ok_iff, exists_const] at h
  obtain ⟨-, -, _, hdesc, _, -, _, hroot, rfl⟩ := h
  simp [hash_hashString, hashCanonical_valid hdesc, hashCanonical_valid hroot]

variable {req : RepairRequest} {cfg : RepairConfig}

theorem runAdapter_ok {slotPath : String} (h : runAdapter p req cfg env slotPath = .ok adapter) :
    ∃ out, adapter = adapterResult p env slotPath out := by
  unfold runAdapter at h
  split at h
  · simp only [runFakeAdapter, seq_eq_ok, pure_eq_ok] at h
    exact ⟨_, h.2.symm⟩
  split at h
  · simp only [runOMPAdapter, ok_iff, exists_const] at h
    obtain ⟨-, -, -, -, -, -, rfl⟩ := h
    exact ⟨_, rfl⟩
  · cases h

theorem computeDiffClosure_ok {diff : DiffClosure} (h : computeDiffClosure p env = .ok diff) :
    [diff.orderedPathsHash, diff.statusHash, diff.rawHash, diff.numstatHash, diff.ignoredHash,
      diff.filesystemScanHash].all validHash = true := by
  simp only [computeDiffClosure, ok_iff] at h
  obtain ⟨-, -, -, -, -, -, -, -, -, -, rfl⟩ := h
  simp [hash_hashString]

/-- The tests are run and give a result. -/
def RepairEnvironment.Tested (env : RepairEnvironment) : Prop :=
  env.goMod = true ∧ ∃ run, env.tests = .ok run

variable (p) in
/-- The hashes of the tests, the four that are left empty where the tests are skipped first. -/
theorem runTests_hashes (env : RepairEnvironment) :
    ([(runTests p env).candidateCopyHash, (runTests p env).testSandboxHash,
      (runTests p env).testTerminalProofHash, (runTests p env).testRootCleanupHash].all validHash =
        true ↔ env.Tested) ∧
    [(runTests p env).toolchainManifestHash, (runTests p env).testProfileHash,
      (runTests p env).testResultHash, (runTests p env).testOutputHash,
      (runTests p env).testCommandHash, (runTests p env).testCapabilityHash].all validHash = true ∧
    0 ≤ (runTests p env).testOutputSize := by
  have hempty : validHash "" = false := by decide
  unfold runTests
  split
  next hmod =>
    split
    next run hrun =>
      simp [goTestResult, hash_hashString, RepairEnvironment.Tested, hmod, hrun]
    next msg hrun =>
      simp [skipTestResult, hash_hashString, RepairEnvironment.Tested, hempty, hrun]
  next hmod =>
    simp [skipTestResult, hash_hashString, RepairEnvironment.Tested, hempty, hmod]

/-- What a run puts together is well formed exactly if the tests were run, by a user other than
the superuser. -/
theorem prepare_wellFormed_iff {prepared : Prepared}
    (h : prepareRepair p req cfg env now = .ok prepared) :
    WellFormed p prepared.context prepared.worktree prepared.adapter prepared.test ↔
      env.Tested ∧ env.uid ≠ 0 ∧ env.gid ≠ 0 := by
  simp only [prepareRepair, ok_iff] at h
  obtain ⟨_, hmat, _, -, _, -, _, -, _, htree, _, hadapter, _, hdiff, rfl⟩ := h
  obtain ⟨-, hroot, hspki, hbundle, hpins⟩ := signingMaterial_ok hmat
  obtain ⟨hworktrees, hslot, hsize⟩ := materializeWorktree_ok htree
  obtain ⟨_, rfl⟩ := runAdapter_ok hadapter
  have hdiffs := computeDiffClosure_ok hdiff
  obtain ⟨htested, htests, htestSize⟩ := runTests_hashes p env
  obtain ⟨hfrozen, hrootID⟩ := p.frozen_valid
  have hboot : validClosedIdentifier "boot_epoch_repair_v1" 128 = true := by decide
  simp only [all_cons, all_nil, Bool.and_eq_true] at hworktrees hdiffs htests hfrozen
  rw [← htested]
  simp only [all_cons, all_nil, Bool.and_eq_true]
  constructor
  · intro hwell
    have hhashes := hwell.hashes
    simp only [inputHashes, all_cons, all_nil, Bool.and_eq_true] at hhashes
    exact ⟨by simp [hhashes], hwell.user⟩
  · rintro ⟨hfour, huser⟩
    exact
      { hashes := by
          simp [inputHashes, repairContext, adapterResult, hash_hashString, hbundle, hpins,
            hspki, hworktrees, hdiffs, htests, hfrozen, hfour]
        attempt := by simp [repairContext, attemptCap]
        identifiers := ⟨by simpa [repairContext, hroot] using hrootID, hboot,
          by simpa [hslot] using slotID_closed now⟩
        user := huser
        sizes := ⟨by simp [hsize], htestSize⟩
        effectTime := p.parse_formatUTC now }

theorem runRepair_new [DecidableEq β] {s : AttestationStore β} {commits : Bool}
    {row : RepairAttestationRow β}
    (hrow : row ∈ (runRepair p s req cfg env now commits).1.attestations)
    (hnew : row ∉ s.attestations) :
    ∃ keys record json, env.keyPair = some keys ∧ p.marshalCanonical record.toValue = some json ∧
      row = rowOf record json ∧ Sealed p record keys.1 ∧
      (validateAttestationRecord p.toPrimitives record = true ↔
        env.Tested ∧ env.uid ≠ 0 ∧ env.gid ≠ 0) := by
  unfold runRepair at hrow
  split at hrow
  · exact absurd hrow hnew
  next prepared hprep =>
  obtain ⟨_, record, json, ⟨⟩, hjson, hrow, hseal, hvalid⟩ := produceSigned_new hrow hnew
  have hkeys : env.keyPair = some (prepared.material.publicKey, prepared.material.privateKey) := by
    simp only [prepareRepair, ok_iff] at hprep
    obtain ⟨_, hmat, -, -, -, -, -, -, -, -, -, -, -, -, rfl⟩ := hprep
    exact (signingMaterial_ok hmat).1
  exact ⟨_, record, json, hkeys, hjson, hrow, hseal, hvalid.trans (prepare_wellFormed_iff hprep)⟩

namespace Instance

open TrustedSupervisor.Instance (digits length_digits isHex_digits sha clockText readClock)

theorem closed_digits (n : Nat) : validClosedIdentifier (String.ofList (digits 15 n)) 15 =
    true := by
  have hlen := length_digits 15 n
  have hclosed := @closed_of_plain (digits 15 n) (by intro hnil; simp [hnil] at hlen)
    (all_eq_true.mpr fun c hc => isPlain_of_isHex (isHex_digits hc))
  rwa [hlen] at hclosed

def ticks (now : Instant) : Nat := (now.val + 62167219200 * second).toNat

def runner : Runner Nat where
  toSigning := signing attestation
  sign _ message := signatureOf message
  marshalCanonical value := some (fingerprint value)
  formatUTC now := clockText (ticks now)
  formatStamp now := String.ofList (digits 15 (ticks now / 1000000000))
  orderedPaths status := status
  digest_valid := validHash_sha
  parse_formatUTC now := by
    have hparse := utc_clockText 4 (ticks now)
    exact Option.isSome_iff_exists.mpr ⟨_, hparse⟩
  formatStamp_closed now := closed_digits _
  frozen_valid := by
    have hid : validClosedIdentifier "root" 128 = true := by decide
    simp [signing, prims, release, pins, bundle, hid]

def start : Instant := ⟨1, by decide, by decide⟩

/-- A repository in which the edit is written, with or without a module to test. -/
def environment (goMod : Bool) : RepairEnvironment where
  keyPair := some (publicKey, [1])
  slotDir := some "/slot"
  absRepo := some "/repo"
  baseRepo := "repo"
  parentCommit := some "0123456789012345678901234567890123456789"
  worktreeAdded := true
  gitFile := true
  rootInfo := some (64, 493)
  uid := 501
  gid := 20
  editWritten := true
  promptDir := none
  promptWritten := false
  sessionDirMade := false
  ompOutput := ""
  ompSucceeded := false
  adapterProof := "done"
  status := some "?? EDIT.md"
  raw := some ""
  numstat := some ""
  ignored := some ""
  files := some "EDIT.md"
  goMod := goMod
  goRoot := "/go"
  tests := .ok ⟨"/copy", "passed", "ok", 2⟩

def request : RepairRequest := ⟨"repo", "repair", "fake"⟩

def config : RepairConfig := ⟨"", "", "", 0⟩

theorem materialize_environment (hd : validateDescriptor d = true)
    (goMod : Bool) : ∃ worktree, materializeWorktree runner d (environment goMod) =
      .ok worktree := by
  simp only [materializeWorktree, ok_iff, exists_const]
  exact ⟨_, hd, ⟨rfl, rfl⟩, _, rfl, _, rfl, _, rfl, rfl⟩

theorem prepareRepair_environment (goMod : Bool) :
    ∃ prepared, prepareRepair runner request config (environment goMod) start = .ok prepared ∧
      prepared.material.privateKey = [1] := by
  have hdesc : validateDescriptor ⟨"/repo", "0123456789012345678901234567890123456789",
      "refs/heads/feat/ananke-repair", "slot_" ++ runner.formatStamp start,
      "/slot" ++ "/worktree"⟩ = true := by
    decide
  obtain ⟨worktree, htree⟩ := materialize_environment hdesc goMod
  have hmat : ∃ material, generateSigningMaterial runner (environment goMod).keyPair start =
      .ok material ∧ material.privateKey = [1] := ⟨_, rfl, rfl⟩
  obtain ⟨material, hmat, hpriv⟩ := hmat
  simp only [prepareRepair, ok_iff]
  exact ⟨_, ⟨material, hmat, _, rfl, _, rfl, _, rfl, worktree, htree, _, rfl, _, rfl, rfl⟩, hpriv⟩

theorem signatureBytes_sealed (unsigned : RepairReviewAttestation) (sig attestationHash : String) :
    runtimeSignatureCanonicalBytes runner.toSigning (sealedRecord unsigned sig attestationHash) =
      runtimeSignatureCanonicalBytes runner.toSigning unsigned := by
  have hfloats (members : List (String × Value)) : runner.floats members = members := rfl
  have hmem : (sealedRecord unsigned sig attestationHash).content.filter
      (·.1 ≠ "signature") = unsigned.content.filter (·.1 ≠ "signature") := rfl
  rw [runtimeSignatureCanonicalBytes, runtimeSignatureCanonicalBytes, hfloats, hfloats, hmem]

theorem signRecord_runner (hkey : material.privateKey = [1]) (unsigned : RepairReviewAttestation) :
    ∃ sig content, signRecord runner material unsigned =
      .ok (sealedRecord unsigned sig (own content)) := by
  obtain ⟨bytes, hbytes⟩ : ∃ bytes, runtimeSignatureCanonicalBytes runner.toSigning unsigned =
      some bytes := ⟨_, rfl⟩
  let sig := signatureMark ++ String.ofList (encodeHex (signatureOf bytes))
  have hsigned : material.signAttestationBytes runner bytes = some sig := by
    simp [RepairSigningMaterial.signAttestationBytes, hkey, sig, runner]
  have hverify : ed25519Verify runner.toSigning material.publicKey bytes (signatureOf bytes) =
      true := by
    simp [ed25519Verify, signatureOf, runner, signing]
  have hmark : hasSignatureMark sig = true := by
    simp [sig, hasSignatureMark]
  have hver : material.verifyAttestationBytes runner bytes sig = true := by
    rw [RepairSigningMaterial.verifyAttestationBytes, hmark, hkey]
    simp only [sig, trim_mark, decodeHex_encodeHex, hverify]
    rfl
  have hseal := signatureBytes_sealed unsigned sig (own (sealedRecord unsigned sig "").content)
  refine ⟨sig, (sealedRecord unsigned sig "").content, ?_⟩
  simp only [signRecord, ok_iff, exists_const]
  exact ⟨bytes, hbytes, sig, hsigned, _, rfl, bytes, hseal.trans hbytes, hver, rfl⟩

theorem runRepair_environment (goMod : Bool) :
    ∃ row, row ∈ (runRepair runner ⟨[]⟩ request config (environment goMod) start
      true).1.attestations := by
  obtain ⟨prepared, hprep, hkey⟩ := prepareRepair_environment goMod
  obtain ⟨_, content, hsign⟩ := signRecord_runner hkey (unsignedRecord runner
    prepared.context prepared.worktree prepared.adapter prepared.test start)
  have hhash : own content ≠ "" := sha_ne_empty _
  have hid (attemptHash : String) : generateAttestationID runner attemptHash start ≠ "" := by
    intro h
    have := congrArg String.length h
    simp [generateAttestationID] at this
  have hdomain : signatureDomain ≠ "" := by decide
  have hmarshal (v : Value) : runner.marshalCanonical v = some (fingerprint v) := rfl
  rw [runRepair, hprep]
  simp only [produceSignedAttestation, hsign]
  simp [persistRepairAttestation, sealedRecord, unsignedRecord, hhash, hid, hdomain, hmarshal]

end Instance

/-- Of every attestation that is stored the hash is that of its content and the signature is
one of the key it was signed with. It is valid exactly if what it was put together from is well
formed; in a run, exactly if the tests were run, and the user and the group were not those of
the superuser. -/
theorem stored_attestation_valid_iff {β : Type} [DecidableEq β] {p : Runner β}
    {s : AttestationStore β} {now : Instant} {commits : Bool} {row : RepairAttestationRow β}
    (hnew : row ∉ s.attestations) :
    (∀ (ctx : RepairContext) (worktree : WorktreeResult) (adapter : AdapterResult)
        (test : TestProfileResult) (material : Option RepairSigningMaterial),
      row ∈ (produceSignedAttestation p s ctx worktree adapter test material now
        commits).1.attestations →
      ∃ signer record json, material = some signer ∧
        p.marshalCanonical record.toValue = some json ∧ row = rowOf record json ∧
        Sealed p record signer.publicKey ∧
        (validateAttestationRecord p.toPrimitives record = true ↔
          WellFormed p ctx worktree adapter test)) ∧
    ∀ (req : RepairRequest) (cfg : RepairConfig) (env : RepairEnvironment),
      row ∈ (runRepair p s req cfg env now commits).1.attestations →
      ∃ keys record json, env.keyPair = some keys ∧
        p.marshalCanonical record.toValue = some json ∧ row = rowOf record json ∧
        Sealed p record keys.1 ∧
        (validateAttestationRecord p.toPrimitives record = true ↔
          env.Tested ∧ env.uid ≠ 0 ∧ env.gid ≠ 0) := by
  constructor
  · intro ctx worktree adapter test material hrow
    exact produceSigned_new hrow hnew
  · intro req cfg env hrow
    exact runRepair_new hrow hnew

open Instance in
/-- With a module that is tested, the stored attestation is valid. -/
theorem stored_attestation_valid_iff_tested :
    ∃ row ∈ (runRepair runner ⟨[]⟩ request config (environment true) start true).1.attestations,
      ∃ record json, row = rowOf record json ∧
        validateAttestationRecord runner.toPrimitives record = true := by
  obtain ⟨row, hrow⟩ := runRepair_environment true
  obtain ⟨-, record, json, -, -, heq, -, hvalid⟩ :=
    (stored_attestation_valid_iff not_mem_nil).2 _ _ _ hrow
  have htested : (environment true).Tested := ⟨rfl, _, rfl⟩
  exact ⟨row, hrow, record, json, heq, hvalid.mpr ⟨htested, by decide, by decide⟩⟩

open Instance in
/-- Without a module the tests are skipped, and an attestation is stored that is not valid. -/
theorem stored_attestation_untested :
    ∃ row ∈ (runRepair runner ⟨[]⟩ request config (environment false) start true).1.attestations,
      ∃ record json, row = rowOf record json ∧
        validateAttestationRecord runner.toPrimitives record = false := by
  obtain ⟨row, hrow⟩ := runRepair_environment false
  obtain ⟨-, record, json, -, -, heq, -, hvalid⟩ := runRepair_new hrow not_mem_nil
  refine ⟨row, hrow, record, json, heq, ?_⟩
  rw [← Bool.not_eq_true, hvalid]
  rintro ⟨⟨hmod, -⟩, -⟩
  cases hmod

end Ananke.Repair
