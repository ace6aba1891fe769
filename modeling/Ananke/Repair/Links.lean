import Ananke.Repair.Instance

/-! The links between the evidence of a repair: which of them an evaluation that gives out a
capability has compared, and which it leaves to its caller. -/
namespace Ananke.Repair

open List

section Links

variable {β : Type}

/-- All evidence of a request is about the expected attempt, its claims are one chain, and the
record names them and the journal head of the last one. -/
structure Unmixed (r : AttestationRequest β) : Prop where
  authorization : ∀ hash ∈ [r.record.authorizationHash, r.testClaim.claim.authorizationHash,
    r.worktree.authorizationHash, r.adapterSandbox.authorizationHash,
    r.testSandbox.authorizationHash], hash = r.authorization.authorization.authorizationHash
  attempt : ∀ hash ∈ [r.record.attemptHash, r.testClaim.claim.attemptHash,
    r.worktree.attemptHash, r.adapterSandbox.attemptHash, r.testSandbox.attemptHash],
    hash = r.expected.attemptHash
  predecessor : ∃ previous, r.predecessorClaim = some previous ∧
    previous.claim.authorizationHash = r.authorization.authorization.authorizationHash ∧
    previous.claim.attemptHash = r.expected.attemptHash ∧
    r.testClaim.claim.predecessorClaimHash = previous.claim.claimHash
  materialization : r.record.materializationClaimHash = r.worktree.claimHash
  adapter : r.record.adapterClaimHash = r.testClaim.claim.predecessorClaimHash
  worktreeFirst : r.adapterSandbox.predecessorClaimHash = r.worktree.claimHash
  adapterNext : r.testClaim.claim.predecessorClaimHash = r.adapterSandbox.claimHash
  testLast : r.testSandbox.predecessorClaimHash = r.adapterSandbox.claimHash
  journalHead : r.record.supervisorJournalHeadHash = r.testClaim.slotCommit.journalHeadHash

/-- The opaque evidence names the expected authorization and attempt, each piece of it the
claim before its own, and the record the claims and the journal head that are expected. -/
structure Linked (r : AttestationRequest β) : Prop where
  worktree : r.worktree.authorizationHash = r.authorization.authorization.authorizationHash ∧
    r.worktree.attemptHash = r.expected.attemptHash
  adapterSandbox : r.adapterSandbox.authorizationHash =
      r.authorization.authorization.authorizationHash ∧
    r.adapterSandbox.attemptHash = r.expected.attemptHash ∧
    r.adapterSandbox.predecessorClaimHash = r.worktree.claimHash ∧
    r.adapterSandbox.claimHash = r.expected.predecessorClaimHash
  testSandbox : r.testSandbox.authorizationHash = r.authorization.authorization.authorizationHash ∧
    r.testSandbox.attemptHash = r.expected.attemptHash ∧
    r.testSandbox.predecessorClaimHash = r.adapterSandbox.claimHash
  record : r.record.materializationClaimHash = r.worktree.claimHash ∧
    r.record.adapterClaimHash = r.expected.predecessorClaimHash ∧
    r.record.supervisorJournalHeadHash = r.expected.journalHeadHash

variable [DecidableEq β] {p : Primitives β}

theorem admissible_of_evaluate {r : AttestationRequest β}
    {assessment : AttestationAssessment} {capability : VerifiedAttestation β}
    (h : evaluateAttestation p r = .ok (assessment, some capability)) :
    attestationAdmissible p r = true := by
  unfold evaluateAttestation at h
  split at h
  · cases h
  next hadm => simpa using hadm

section Admissible

variable {r : AttestationRequest β} (h : attestationAdmissible p r = true)

include h

theorem testClaim_of_admissible :
    verifiedSupervisorIntentClaimIntact p r.testClaim = true ∧ r.expected.sequence = 3 ∧
      validateSupervisorIntentClaim p r.expected r.authorization r.predecessorClaim
        r.predecessorTerminal r.testClaim.claim = true := by
  simp only [attestationAdmissible, checks_iff, and_assoc] at h
  obtain ⟨-, -, hseq, -, -, hint, hclaim, -⟩ := h
  exact ⟨hint, hseq, hclaim⟩

theorem bound_of_admissible : authorizationBound r = true := by
  simp only [attestationAdmissible, attestationSnapshotMatchesAuthority, Bool.and_eq_true,
    and_assoc] at h
  obtain ⟨-, -, -, -, -, -, -, -, -, -, -, -, hbound, -⟩ := h
  exact hbound

theorem record_of_admissible :
    r.record.authorizationHash = r.authorization.authorization.authorizationHash ∧
      r.record.attemptHash = r.expected.attemptHash := by
  have hbound := bound_of_admissible h
  simp only [authorizationBound, checks_iff, and_assoc] at hbound
  obtain ⟨hauth, -, -, -, hatt, -⟩ := hbound
  exact ⟨hauth, hatt⟩

theorem testClaim_matches :
    r.testClaim.claim.authorizationHash = r.authorization.authorization.authorizationHash ∧
      r.testClaim.claim.attemptHash = r.expected.attemptHash ∧
      r.testClaim.claim.predecessorClaimHash = r.expected.predecessorClaimHash ∧
      r.testClaim.slotCommit.journalHeadHash = r.expected.journalHeadHash := by
  obtain ⟨hint, -, hclaim⟩ := testClaim_of_admissible h
  unfold validateSupervisorIntentClaim at hclaim
  simp only [claimMatchesAuthority, checks_iff, and_assoc] at hclaim
  obtain ⟨-, -, -, -, hatt, -, -, hauth, -, -, -, -, -, -, -, -, -, -, -, -, -,
    hpred, -, -, hhead, -⟩ := hclaim
  simp only [verifiedSupervisorIntentClaimIntact, slotCommitMatchesClaim, checks_iff,
    and_assoc] at hint
  obtain ⟨-, -, -, -, -, -, -, -, hcommit, -⟩ := hint
  exact ⟨hauth, hatt, hpred, hcommit.trans hhead⟩

theorem predecessor_of_admissible : ∃ prev, r.predecessorClaim = some prev ∧
    prev.claim.authorizationHash = r.authorization.authorization.authorizationHash ∧
    prev.claim.attemptHash = r.expected.attemptHash ∧
    r.testClaim.claim.predecessorClaimHash = prev.claim.claimHash := by
  obtain ⟨hauth, hatt, hpred, -⟩ := testClaim_matches h
  obtain ⟨-, hseq, hclaim⟩ := testClaim_of_admissible h
  unfold validateSupervisorIntentClaim at hclaim
  simp only [hseq, Bool.and_eq_true] at hclaim
  obtain ⟨-, hfol⟩ := hclaim
  split at hfol
  next hthree => simp at hthree
  split at hfol
  next prev term hprev hterm =>
    simp only [claimFollows, checks_iff, and_assoc] at hfol
    obtain ⟨-, -, -, -, hhash, hatt', -, -, hauth', -⟩ := hfol
    exact ⟨prev, hprev, hauth'.trans hauth, hatt'.trans hatt, hpred.trans hhash.symm⟩
  · cases hfol

end Admissible

end Links

namespace Instance

open TrustedSupervisor.Instance (sha)

theorem deriveSeal_codec (schemaVersion verifierAuthorityHash observationHash
    canonicalHash kind : String) (evidence : Value) :
    deriveVerificationSeal codec schemaVersion verifierAuthorityHash observationHash canonicalHash
      kind evidence = sha 6 := by
  have hevid : evidenceHash codec evidence = sha (fingerprint evidence) := rfl
  rw [deriveVerificationSeal, hevid, validHash_sha, if_pos rfl, hashRecord_codec]
  rfl

theorem sealsHash_codec {seals : List String} (h : seals.all validHash = true) :
    verificationSealsHash codec seals = sha seals.length := by
  rw [verificationSealsHash, if_pos h]
  simp [evidenceHash, fingerprint]

section Checks

variable (t : Nat)

theorem worktree_observation {attempt : Int}
    (hatt : attempt = 1 ∨ attempt = 2) {authorizationHash attemptHash claimHash : String}
    (hhashes : [authorizationHash, attemptHash, claimHash].all validHash = true) :
    validateRepositoryWorktreeObservation (prims t)
      (worktreeObservation attempt authorizationHash attemptHash claimHash) = true := by
  have hrange : 1 ≤ attempt ∧ attempt ≤ 2 := by omega
  simp only [all_cons, all_nil, Bool.and_eq_true] at hhashes
  have hdesc (id : RepositoryDescriptorID) :
      validateRepositoryDescriptor (prims t) (descriptor id) = true := by
    simp [validateRepositoryDescriptor, descriptor, RepositoryDescriptorIdentity.content]
  have hdelta : validateCommonGitDelta (prims t) delta = true := by
    simp +decide [validateCommonGitDelta, delta, CommonGitDeltaObservation.content]
  have hcandidate : validateRepositoryCandidate (prims t) candidate = true := by
    simp [validateRepositoryCandidate, candidate, RepositoryCandidateObservation.content]
  have hsource : validateRepositorySourceClosure (prims t) sourceClosure = true := by
    simp [validateRepositorySourceClosure, sourceClosure, RepositorySourceClosure.content]
  have hpaths : validateRepositoryWritablePaths (prims t) pathClosure = true := by
    simp [validateRepositoryWritablePaths, pathClosure, RepositoryWritablePathClosure.content]
  have hconfig : validateRepositoryConfigClosure (prims t) configClosure = true := by
    simp +decide [validateRepositoryConfigClosure, configClosure,
      RepositoryGitConfigClosure.content]
  have hattributes : validateRepositoryAttributesClosure (prims t) attributesClosure =
      true := by
    simp [validateRepositoryAttributesClosure, attributesClosure,
      RepositoryGitAttributesClosure.content, validOptionalDescriptorContentPair]
  have hobs : recordHashMatches codec
      (worktreeObservation attempt authorizationHash attemptHash claimHash).content
      (worktreeObservation attempt authorizationHash attemptHash claimHash).observationHash =
        true := by
    simp [worktreeObservation, RepositoryWorktreeMaterializationObservation.content]
  have hrepo : recordHashMatches codec repository.content repository.repositoryBindingHash =
      true := matches_repository
  have hbind : repository.schemaVersion = "ananke.controlled-repair-repository-binding.v1" ∧
      gitObjectPattern repository.baseCommit = true ∧ gitObjectPattern repository.baseTree = true :=
    ⟨rfl, objectPattern_gitObject _, objectPattern_gitObject _⟩
  simp only [validateRepositoryWorktreeObservation, toCanonical_eq, hobs]
  simp +decide [worktreeObservation, hhashes, hdesc, hdelta, hcandidate, hsource, hpaths,
    hconfig, hattributes, hrepo, hbind, attemptCap, hrange,
    validRepositoryWorktreeStateReason]

variable {obs : RepositoryWorktreeMaterializationObservation}
  (h : obs = foreignObservation ∨ obs = ownObservation)

include h in
theorem decode_worktree : decodeRepositoryWorktreeObservation (prims t) (fingerprint obs.toValue) =
      some obs := by
  have hforeign : fingerprint foreignObservation.toValue = 1032 := rfl
  have hown : fingerprint ownObservation.toValue = 2032 := rfl
  have hdec : (prims t).decodeWorktreeObservation (fingerprint obs.toValue) =
      some obs := by
    obtain rfl | rfl := h <;> simp [prims, decode, hforeign, hown]
  have hvalid : validateRepositoryWorktreeObservation (prims t) obs = true := by
    obtain rfl | rfl := h
    · exact worktree_observation t (.inl rfl) (by simp)
    · refine worktree_observation t (.inr rfl) ?_
      simp [authorization, attemptHash, materializationClaim, claimOf]
  simp [decodeRepositoryWorktreeObservation, hdec, hvalid]

include h in
theorem intact_worktree : verifiedRepositoryWorktreeIntact (prims t) (worktreeOf obs) = true := by
  have hdec := decode_worktree t h
  have hint : verifiedRepositoryWorktreeIntegrityHash (prims t) (worktreeOf obs) = sha 12 := rfl
  have hver : repositoryWorktreeVerifierAuthorityHash (prims t) = sha 6 := rfl
  have hseals (canonicalHash : String) : verificationSealsHash codec
      (repositoryWorktreeVerificationSeals (prims t) obs canonicalHash true true
        true true) = sha 7 := by
    rw [sealsHash_codec]
    · rfl
    · simp [repositoryWorktreeVerificationSeals, deriveSeal_codec]
  have hhashes : [obs.authorizationHash, obs.claimHash, obs.attemptHash].all validHash = true := by
    obtain rfl | rfl := h
    all_goals
      simp [foreignObservation, ownObservation, worktreeObservation, authorization, attemptHash,
        materializationClaim, claimOf]
  simp only [all_cons, all_nil, Bool.and_eq_true] at hhashes
  have hobs : obs.state = .newExact ∧ validClosedIdentifier obs.worktreeSlotID 192 = true ∧
      validHash obs.writablePaths.authorizedPathSetHash = true ∧
      validHash obs.candidateRootDescriptor.noFollowIdentityHash = true := by
    have hslot : validClosedIdentifier "worktree" 192 = true := by decide
    obtain rfl | rfl := h
    all_goals
      simp [foreignObservation, ownObservation, worktreeObservation, hslot, pathClosure, descriptor]
  rw [verifiedRepositoryWorktreeIntact, hint, hver]
  simp [worktreeOf, hdec, hseals, hhashes, hobs]

theorem adapterUIDPoolHash_pool : adapterUIDPoolHash (prims t) = sha 62000006 := by
  simp [adapterUIDPoolHash, own, fingerprint, adapterUIDPoolGroupID]

theorem decode_adapter : decodeAdapterSandboxObservation (prims t) adapterSandbox.canonical =
      some adapterObservation := by
  have hseatbelt : adapterSeatbeltProfileHash (prims t) = sha 13 := rfl
  have hproof : validateAdapterTerminalProof (prims t) adapterProof = true := by
    simp +decide [validateAdapterTerminalProof, adapterProof, AdapterTerminalProof.content]
  have hmatch : recordHashMatches codec adapterObservation.content
      adapterObservation.observationHash = true := hashMatches_own _
  have hvalid : validateAdapterSandboxObservation (prims t) adapterObservation = true := by
    simp only [validateAdapterSandboxObservation, toCanonical_eq, hmatch, hseatbelt,
      adapterUIDPoolHash_pool]
    simp +decide [adapterObservation, hproof, validAdapterSandboxStateReason, authorization,
      approval, dispatchRequest, dispatch, attemptHash, adapterClaim, materializationClaim, claimOf,
      repository]
  have hdec : (prims t).decodeAdapterObservation adapterSandbox.canonical =
      some adapterObservation := by
    simp [prims, decode, adapterSandbox]
  simp [decodeAdapterSandboxObservation, hdec, hvalid]

theorem intact_adapterSandbox : verifiedAdapterSandboxIntact (prims t) adapterSandbox = true := by
  have hint : verifiedAdapterSandboxIntegrityHash (prims t) adapterSandbox =
      sha 13 := rfl
  have hver : adapterSandboxVerifierAuthorityHash (prims t) = sha 7 := rfl
  have hseals (canonicalHash : String) : verificationSealsHash codec
      (adapterSandboxVerificationSeals (prims t) adapterObservation canonicalHash) =
        sha 7 := by
    rw [sealsHash_codec]
    · rfl
    · simp [adapterSandboxVerificationSeals, adapterSandboxSealEvidence, deriveSeal_codec]
  rw [verifiedAdapterSandboxIntact, hint, hver, decode_adapter]
  simp only [toCanonical_eq, sha256Digest_codec, hseals]
  simp [adapterSandbox, adapterObservation, authorization, attemptHash, adapterClaim,
    materializationClaim, claimOf, adapterProof]

theorem decode_test : decodeTestSandboxObservation (prims t) testSandbox.canonical =
      some testObservation := by
  have hmanifest : goToolchainManifestHash (prims t) = sha 7 := rfl
  have hprofile : goTestProfileHash (prims t) = sha 300019 := by
    simp [goTestProfileHash, own, fingerprint]
  have hproof : validateTestTerminalProof (prims t) testProof = true := by
    simp +decide [validateTestTerminalProof, testProof, TestTerminalProof.content]
  have hcopy : validateTestCandidateCopy (prims t) candidateCopy = true := by
    simp [validateTestCandidateCopy, candidateCopy, TestCandidateCopyObservation.content]
  have hmatch : recordHashMatches codec testObservation.content testObservation.observationHash =
      true := hashMatches_own _
  have hvalid : validateTestSandboxObservation (prims t) testObservation = true := by
    simp only [validateTestSandboxObservation, toCanonical_eq, hmatch, hmanifest, hprofile,
      adapterUIDPoolHash_pool]
    simp +decide [testObservation, hproof, hcopy, validTestSandboxStateReason, authorization,
      approval, dispatchRequest, dispatch, attemptHash, testClaim, adapterClaim, claimOf,
        repository]
  have hdec : (prims t).decodeTestObservation testSandbox.canonical =
      some testObservation := by
    simp [prims, decode, testSandbox]
  simp [decodeTestSandboxObservation, hdec, hvalid]

theorem intact_testSandbox : verifiedTestSandboxIntact (prims t) testSandbox = true := by
  have hint : verifiedTestSandboxIntegrityHash (prims t) testSandbox =
      sha 13 := rfl
  have hver : testSandboxVerifierAuthorityHash (prims t) = sha 9 := rfl
  have hseals (canonicalHash : String) : verificationSealsHash codec
      (testSandboxVerificationSeals (prims t) testObservation canonicalHash) =
        sha 7 := by
    rw [sealsHash_codec]
    · rfl
    · simp [testSandboxVerificationSeals, testSandboxSealEvidence, deriveSeal_codec]
  rw [verifiedTestSandboxIntact, hint, hver, decode_test]
  simp only [toCanonical_eq, sha256Digest_codec, hseals]
  simp [testSandbox, testObservation, authorization, attemptHash, testClaim, adapterClaim,
    claimOf, testProof]

theorem verifierHash_instance : attestationVerifierAuthorityHash (prims t) = sha 5 := rfl

theorem seals_attestation (canonicalHash : String) :
    attestationVerificationSeals (prims t) attestation canonicalHash =
      List.replicate 7 (sha 7) := by
  have hseal (kind : String) (evidence : Value) :
      deriveAttestationVerificationSeal (prims t) attestation canonicalHash kind
        evidence = sha 7 := rfl
  simp [attestationVerificationSeals, attestationVerificationKinds, attestationSealEvidence, hseal,
    List.replicate]

theorem record_attestation : validateAttestationRecord (prims t) attestation = true := by
  have hsig : validSignature (sha 111) = true := by
    simp [validSignature]
  have hmatch : recordHashMatches codec attestation.content attestation.attestationHash = true := by
    simp [attestation, RepairReviewAttestation.content]
  simp only [validateAttestationRecord, toCanonical_eq, hmatch]
  simp +decide [attestation, hsig, pins, bundle, authorization, approval, dispatchRequest,
    dispatch, attemptHash, testClaim, adapterClaim, materializationClaim, claimOf, repository,
    adapterObservation, adapterProof, adapterSandbox, testObservation, testProof, testSandbox,
    candidateCopy]

theorem decode_attestation : (prims t).decodeAttestation (fingerprint attestation.toValue) =
      some attestation := by
  simp [prims, decode]

theorem intact_snapshot : verifiedAttestationSnapshotIntact (prims t) snapshot = true := by
  have hint : attestationSnapshotIntegrityHash (prims t) snapshot =
      sha 18 := rfl
  have hattest : snapshot.attestation = attestation := rfl
  have hcanon : snapshot.canonical = fingerprint attestation.toValue := rfl
  rw [verifiedAttestationSnapshotIntact, hint, verifierHash_instance, hattest, hcanon,
    decode_attestation, record_attestation,
    seals_attestation]
  simp [snapshot, VerifiedAttestationSnapshot.flags, VerifiedAttestationSnapshot.seals,
    List.replicate]

theorem intact_mint : verifiedAttestationIntact (prims t) (mintAttestation (prims t) snapshot) =
      true := by
  have hattest : snapshot.attestation = attestation := rfl
  have hcanon : snapshot.canonical = fingerprint attestation.toValue := rfl
  have hseals : verificationSealsHash codec (List.replicate 7 (sha 7)) = sha 7 := by
    rw [sealsHash_codec]
    · rfl
    · simp [List.replicate]
  simp only [verifiedAttestationIntact, mintAttestation, hattest, hcanon,
    toCanonical_eq, verifierHash_instance,
    seals_attestation, decode_attestation,
    record_attestation, hseals]
  simp [verifiedAttestationIntegrityHash, snapshot, attestation, authorization, testClaim,
    adapterClaim, materializationClaim, claimOf, repository, adapterSandbox, testSandbox]

/-- The evaluation of the attestation of the second attempt, with this worktree. -/
@[simps] def attestationRequest (obs : RepositoryWorktreeMaterializationObservation) :
    AttestationRequest Nat where
  expected := expected
  authorization := verifiedAuthorization
  testClaim := verifiedClaim testClaim
  predecessorClaim := some (verifiedClaim adapterClaim)
  predecessorTerminal := some adapterTerminal
  worktree := worktreeOf obs
  adapterSandbox := adapterSandbox
  testSandbox := testSandbox
  snapshot := snapshot
  action := .admitForReview
  now := 5

theorem trustBound_request : trustBound (prims t) (attestationRequest obs) = true := by
  simp only [trustBound, checks_iff]
  exact ⟨⟨⟨⟨rfl, rfl⟩, rfl⟩, rfl⟩, rfl⟩

theorem boundAuth_request : authorizationBound (attestationRequest obs) = true := by
  simp only [authorizationBound, checks_iff]
  exact ⟨⟨⟨⟨⟨⟨⟨⟨rfl, rfl⟩, rfl⟩, rfl⟩, rfl⟩, rfl⟩, rfl⟩, rfl⟩, rfl⟩

theorem phaseClaimBound_request : phaseClaimBound (attestationRequest obs) = true := by
  have hnamed : attestation.materializationClaimHash ≠ "" ∧ attestation.adapterClaimHash ≠ "" :=
    ⟨sha_ne_empty _, sha_ne_empty _⟩
  simp only [phaseClaimBound, checks_iff]
  exact ⟨⟨⟨⟨hnamed, rfl⟩, rfl⟩, rfl⟩, rfl⟩

include h in
theorem repositoryBound_request : repositoryBound (prims t) (attestationRequest obs) = true := by
  have hcanon : (attestationRequest obs).worktree.canonical = fingerprint obs.toValue := rfl
  rw [repositoryBound, hcanon, decode_worktree t h]
  simp only [checks_iff]
  obtain rfl | rfl := h
  all_goals exact ⟨⟨⟨rfl, rfl⟩, rfl⟩, rfl⟩

theorem adapterBound_request : adapterBound (prims t) (attestationRequest obs) = true := by
  rw [adapterBound, attestationRequest_adapterSandbox, decode_adapter]
  simp only [checks_iff]
  exact ⟨⟨⟨⟨⟨⟨rfl, rfl⟩, rfl⟩, rfl⟩, rfl⟩, rfl⟩, rfl⟩

theorem testBound_request : testBound (prims t) (attestationRequest obs) = true := by
  rw [testBound, attestationRequest_testSandbox, decode_test]
  simp only [checks_iff]
  exact ⟨⟨⟨⟨⟨rfl, rfl⟩, rfl⟩, rfl⟩, rfl⟩, rfl⟩

include h in
theorem evaluation_request : evaluateAttestation (prims t) (attestationRequest obs) =
      .ok (⟨.capabilityReady, false, .nextVerification⟩,
        some (mintAttestation (prims t) snapshot)) := by
  have hfrozen : (prims t).frozen = release := rfl
  have hphase : expected.phase = .testClaim ∧ expected.sequence = 3 := ⟨rfl, rfl⟩
  have hclaim : (verifiedClaim testClaim).claim = testClaim := rfl
  have htrust : verifyReleaseTrust (prims t) release 5 = true :=
    verifyTrust_release t (by omega) (by omega)
  have hadm : attestationAdmissible (prims t) (attestationRequest obs) =
      true := by
    simp [attestationAdmissible, hfrozen, hphase, hclaim, htrust,
      authority_expected, validateFreshness_expected,
      claimIntact_claim t (.inr rfl),
      validateClaim_testClaim, intact_worktree t h,
      intact_adapterSandbox, intact_testSandbox,
      intact_snapshot, attestationSnapshotMatchesAuthority,
      trustBound_request, boundAuth_request, phaseClaimBound_request,
      repositoryBound_request t h, adapterBound_request, testBound_request]
  have hstate : (attestationRequest obs).record.state = .waitingForReview := rfl
  have hflags : snapshot.flags.all id = true := rfl
  simp [evaluateAttestation, hadm, hstate, hflags, intact_mint]

end Checks

end Instance

/-- Whenever a capability is given out, the evidence is unmixed exactly if the opaque evidence
and the record are linked: the claims and the record are compared with the expected attempt,
the worktree and the sandboxes are not. -/
theorem unmixed_iff_linked {β : Type} [DecidableEq β] {p : Primitives β}
    {r : AttestationRequest β} {assessment : AttestationAssessment}
    {capability : VerifiedAttestation β}
    (h : evaluateAttestation p r = .ok (assessment, some capability)) : Unmixed r ↔ Linked r := by
  have hadmissible := admissible_of_evaluate h
  obtain ⟨hauthorization, hattempt⟩ := record_of_admissible hadmissible
  obtain ⟨hauthorization', hattempt', hpredecessor, hhead⟩ := testClaim_matches hadmissible
  constructor
  · intro hunmixed
    have hauthorizations := hunmixed.authorization
    have hattempts := hunmixed.attempt
    simp only [forall_mem_cons] at hauthorizations hattempts
    obtain ⟨-, -, hworktree, hadapter, htest, -⟩ := hauthorizations
    obtain ⟨-, -, hworktree', hadapter', htest', -⟩ := hattempts
    exact
      { worktree := ⟨hworktree, hworktree'⟩
        adapterSandbox := ⟨hadapter, hadapter', hunmixed.worktreeFirst,
          hunmixed.adapterNext.symm.trans hpredecessor⟩
        testSandbox := ⟨htest, htest', hunmixed.testLast⟩
        record := ⟨hunmixed.materialization, hunmixed.adapter.trans hpredecessor,
          hunmixed.journalHead.trans hhead⟩ }
  · rintro ⟨⟨hworktree, hworktree'⟩, ⟨hadapter, hadapter', hfirst, hnext⟩,
      ⟨htest, htest', hlast⟩, hmaterialization, hclaim, hjournal⟩
    exact
      { authorization := by simp [hauthorization, hauthorization', hworktree, hadapter, htest]
        attempt := by simp [hattempt, hattempt', hworktree', hadapter', htest']
        predecessor := predecessor_of_admissible hadmissible
        materialization := hmaterialization
        adapter := hclaim.trans hpredecessor.symm
        worktreeFirst := hfirst
        adapterNext := hpredecessor.trans hnext.symm
        testLast := hlast
        journalHead := hjournal.trans hhead.symm }

open Instance in
/-- The evidence of the second attempt is linked. -/
theorem unmixed_iff_linked_own : evaluateAttestation (prims 4) (attestationRequest ownObservation) =
        .ok (⟨.capabilityReady, false, .nextVerification⟩,
          some (mintAttestation (prims 4) snapshot)) ∧
      Unmixed (attestationRequest ownObservation) := by
  have hminted := evaluation_request 4 (.inr rfl : ownObservation = foreignObservation ∨ _)
  refine ⟨hminted, (unmixed_iff_linked hminted).mpr ?_⟩
  exact
    { worktree := ⟨rfl, rfl⟩
      adapterSandbox := ⟨rfl, rfl, rfl, rfl⟩
      testSandbox := ⟨rfl, rfl, rfl⟩
      record := ⟨rfl, rfl, rfl⟩ }

open Instance TrustedSupervisor.Instance in
/-- The worktree of the first attempt is admitted with the sandboxes of the second. -/
theorem evaluateAttestation_foreign_worktree :
    (∃ capability, evaluateAttestation (prims 4) (attestationRequest foreignObservation) =
        .ok (⟨.capabilityReady, false, .nextVerification⟩, some capability)) ∧
      ¬ Unmixed (attestationRequest foreignObservation) := by
  refine ⟨⟨_, evaluation_request 4 (.inl rfl)⟩, ?_⟩
  intro hunmixed
  have hclaim := hunmixed.materialization.symm
  have hown : materializationClaim.claimHash = sha 1040 := rfl
  exact sha_ne (by decide) (hclaim.trans hown)

end Ananke.Repair
