import Ananke.Repair.Authorization

/-! Phase claims: the commitment of a claim in its journal slot, the terminal event of a
phase, and the evaluation that gives out the evidence of a fresh claim. -/
namespace Ananke.Repair

variable {β : Type} (p : Primitives β)

section

variable (ev : VerifiedSupervisorTerminalEvent) (commit : VerifiedSupervisorClaimSlotCommit β)
  (want : SupervisorIntentAuthority) (verified : VerifiedAuthorization β)

def durabilityPolicyFullFullFSync : String := "FULL+fullfsync"

def maxSupervisorIntentLifetime : Int := minute

def phaseSequence : SupervisorIntentPhase → Int
  | .materializationClaim => 1
  | .adapterClaim => 2
  | .testClaim => 3
  | .other _ => 0

/-- The hash that identifies an attempt, empty where it cannot be encoded. -/
def supervisorAttemptIdentityHash (authorization : Authorization) (dispatch : ImmutableDispatch) :
    String :=
  (hashRecord p.toCanonical
    [("schema_version", .text "ananke.controlled-repair-supervisor-attempt-identity.v1"),
      ("attempt_number", .number authorization.scope.attempt.attemptNumber),
      ("attempt_cap", .number authorization.scope.attempt.attemptCap),
      ("authorization_hash", .text authorization.authorizationHash),
      ("approval_hash", .text authorization.approvalHash),
      ("request_hash", .text dispatch.request.requestHash),
      ("dispatch_hash", .text dispatch.dispatchHash)]).getD ""

def supervisorClaimSlotCommitIntegrityHash : String :=
  (hashRecord p.toCanonical
    [("valid", .flag commit.valid), ("commit_verified", .flag commit.commitVerified),
      ("tuple_unique", .flag commit.tupleUnique), ("slot_unique", .flag commit.slotUnique),
      ("attempt_hash", .text commit.attemptHash), ("phase", .text commit.phase.name),
      ("sequence", .number commit.sequence), ("slot_id", .text commit.slotID),
      ("journal_head_hash", .text commit.journalHeadHash),
      ("boot_epoch_id", .text commit.bootEpochID),
      ("boot_epoch_hash", .text commit.bootEpochHash), ("claim_id", .text commit.claimID),
      ("claim_hash", .text commit.claimHash),
      ("authorization_hash", .text commit.authorizationHash),
      ("approval_hash", .text commit.approvalHash), ("request_hash", .text commit.requestHash),
      ("dispatch_hash", .text commit.dispatchHash),
      ("committed_canonical_hash", .text commit.committedCanonicalHash)]).getD ""

def slotCommitMatchesClaim (claim : SupervisorIntentClaim) : Bool :=
  commit.attemptHash = claim.attemptHash && commit.phase = claim.phase &&
    commit.sequence = claim.sequence && commit.slotID = claim.journalSlotID &&
    commit.journalHeadHash = claim.journalHeadHash &&
    commit.bootEpochID = claim.supervisorBootEpochID &&
    commit.bootEpochHash = claim.supervisorBootEpochHash && commit.claimID = claim.claimID &&
    commit.claimHash = claim.claimHash && commit.authorizationHash = claim.authorizationHash &&
    commit.approvalHash = claim.approvalHash && commit.requestHash = claim.requestHash &&
    commit.dispatchHash = claim.dispatchHash

def slotCommitMatchesAuthority : Bool :=
  commit.attemptHash = want.attemptHash && commit.phase = want.phase &&
    commit.sequence = want.sequence && commit.slotID = want.journalSlotID &&
    commit.journalHeadHash = want.journalHeadHash &&
    commit.bootEpochID = want.bootEpochID && commit.bootEpochHash = want.bootEpochHash &&
    commit.claimID = want.claimID &&
    commit.authorizationHash = verified.authorization.authorizationHash &&
    commit.approvalHash = verified.authorization.approvalHash &&
    commit.requestHash = want.acceptedDispatch.request.requestHash &&
    commit.dispatchHash = want.acceptedDispatch.dispatchHash

def verifiedSupervisorClaimSlotCommitIntact : Bool :=
  commit.valid && commit.commitVerified && commit.tupleUnique && commit.slotUnique &&
    validHash commit.integrityHash &&
    commit.integrityHash = supervisorClaimSlotCommitIntegrityHash p commit &&
    validHash commit.committedCanonicalHash &&
    commit.committedCanonicalHash = p.sha256Digest commit.committedCanonical &&
    [commit.attemptHash, commit.journalHeadHash, commit.bootEpochHash, commit.claimHash,
      commit.authorizationHash, commit.approvalHash, commit.requestHash,
      commit.dispatchHash].all validHash &&
    validClosedIdentifier commit.slotID 192 && validClosedIdentifier commit.bootEpochID 192 &&
    phaseSequence commit.phase = commit.sequence &&
    match p.decodeClaim commit.committedCanonical with
    | some claim => slotCommitMatchesClaim commit claim &&
        recordHashMatches p.toCanonical claim.content claim.claimHash
    | none => false

def supervisorTerminalEventIntegrityHash : String :=
  (hashRecord p.toCanonical
    [("valid", .flag ev.valid), ("terminal_verified", .flag ev.terminalVerified),
      ("attempt_hash", .text ev.attemptHash), ("phase", .text ev.phase.name),
      ("sequence", .number ev.sequence), ("claim_hash", .text ev.claimHash),
      ("terminal_event_hash", .text ev.terminalEventHash),
      ("boot_epoch_hash", .text ev.bootEpochHash), ("slot_id", .text ev.slotID),
      ("claim_journal_head_hash", .text ev.claimJournalHeadHash),
      ("terminal_journal_head_hash", .text ev.terminalJournalHeadHash),
      ("terminal_status", .text ev.terminalStatus)]).getD ""

def verifiedSupervisorTerminalEventIntact : Bool :=
  ev.valid && ev.terminalVerified && ev.terminalStatus = "succeeded" &&
    1 ≤ ev.sequence && ev.sequence < 3 && phaseSequence ev.phase = ev.sequence &&
    validHash ev.integrityHash &&
    ev.integrityHash = supervisorTerminalEventIntegrityHash p ev &&
    [ev.attemptHash, ev.claimHash, ev.terminalEventHash, ev.bootEpochHash,
      ev.claimJournalHeadHash, ev.terminalJournalHeadHash].all validHash &&
    validClosedIdentifier ev.slotID 192

def validSupervisorIntentClaimHashes (claim : SupervisorIntentClaim) : Bool :=
  [claim.claimHash, claim.attemptHash, claim.authorizationHash, claim.approvalHash,
      claim.policyHash, claim.p4FactHash, claim.p4ProposalHash, claim.p4InputHash,
      claim.p4EvidenceBundleHash, claim.p4AdmissionHash, claim.fenceHash,
      claim.fenceClaimTokenHash, claim.requestHash, claim.dispatchHash, claim.channelBindingHash,
      claim.peerIdentityHash, claim.supervisorBootEpochHash, claim.journalHeadHash,
      claim.repositoryBindingHash, claim.repositoryIdentityHash, claim.executableIdentityHash,
      claim.sandboxProfileHash, claim.namespaceIdentityHash, claim.rootIdentityHash].all
    validHash &&
    if claim.sequence = 1 then
      claim.predecessorClaimHash = "" && claim.predecessorTerminalEventHash = ""
    else validHash claim.predecessorClaimHash && validHash claim.predecessorTerminalEventHash

/-- The claim says what the authority expects. -/
def claimMatchesAuthority (claim : SupervisorIntentClaim) : Bool :=
  let authorization := verified.authorization
  let p4 := authorization.scope.p4
  let dispatch := want.acceptedDispatch
  claim.schemaVersion = "ananke.controlled-repair-supervisor-intent-claim.v1" &&
    claim.claimID = want.claimID && claim.phase = want.phase &&
    claim.sequence = want.sequence && claim.attemptHash = want.attemptHash &&
    claim.attemptNumber = want.attemptNumber && claim.attemptCap = want.attemptCap &&
    claim.authorizationHash = authorization.authorizationHash &&
    claim.approvalHash = authorization.approvalHash &&
    claim.policyHash = authorization.policyHash && claim.p4FactHash = p4.p4FactHash &&
    claim.p4ProposalHash = p4.p4ProposalHash && claim.p4InputHash = p4.p4InputHash &&
    claim.p4EvidenceBundleHash = p4.p4EvidenceBundleHash &&
    claim.p4AdmissionHash = p4.p4AdmissionHash && claim.fenceHash = p4.fullFence.fenceHash &&
    claim.fenceClaimTokenHash = p4.fullFence.claimTokenHash &&
    claim.requestHash = dispatch.request.requestHash &&
    claim.dispatchHash = dispatch.dispatchHash &&
    claim.channelBindingHash = dispatch.channelBindingHash &&
    claim.peerIdentityHash = dispatch.expectedPeer.peerIdentityHash &&
    claim.predecessorClaimHash = want.predecessorClaimHash &&
    claim.supervisorBootEpochID = want.bootEpochID &&
    claim.supervisorBootEpochHash = want.bootEpochHash &&
    claim.journalHeadHash = want.journalHeadHash &&
    claim.journalSlotID = want.journalSlotID &&
    claim.repositoryBindingHash = want.repository.repositoryBindingHash &&
    claim.repositoryIdentityHash = want.repository.repositoryIdentityHash &&
    claim.baseCommit = want.repository.baseCommit &&
    claim.baseTree = want.repository.baseTree &&
    claim.executableIdentityHash = want.executableIdentityHash &&
    claim.sandboxProfileID = want.sandboxProfileID &&
    claim.sandboxProfileHash = want.sandboxProfileHash &&
    claim.namespaceID = want.namespaceID &&
    claim.namespaceIdentityHash = want.namespaceIdentityHash &&
    claim.rootIdentityHash = want.rootIdentityHash &&
    claim.durabilityPolicyID = durabilityPolicyFullFullFSync &&
    claim.createdAt = want.createdAt && claim.notAfter = want.notAfter

/-- The identifiers and hashes of the authority are those of the authorization and are well
formed. -/
def authorityMatchesAuthorization (authorization : Authorization) : Bool :=
  let dispatch := want.acceptedDispatch
  let attempt := authorization.scope.attempt
  supervisorAttemptIdentityHash p authorization dispatch ≠ "" &&
    want.attemptHash = supervisorAttemptIdentityHash p authorization dispatch &&
    want.attemptNumber = attempt.attemptNumber && want.attemptCap = attemptCap &&
    want.attemptCap = attempt.attemptCap &&
    want.repository = authorization.scope.repository &&
    dispatch.attemptNumber = want.attemptNumber &&
    dispatch.attemptCap = want.attemptCap &&
    dispatch.authorizationHash = authorization.authorizationHash &&
    dispatch.approvalHash = authorization.approvalHash &&
    dispatch.policyHash = authorization.policyHash &&
    dispatch.request.authorizationHash = authorization.authorizationHash &&
    dispatch.request.attemptNumber = want.attemptNumber &&
    dispatch.request.attemptCap = want.attemptCap &&
    phaseSequence want.phase = want.sequence &&
    [want.claimID, want.bootEpochID, want.journalSlotID, want.sandboxProfileID,
      want.namespaceID].all (validClosedIdentifier · 192) &&
    want.durabilityPolicyID = durabilityPolicyFullFullFSync &&
    [want.bootEpochHash, want.journalHeadHash, want.attemptHash,
      want.executableIdentityHash, want.sandboxProfileHash,
      want.namespaceIdentityHash, want.rootIdentityHash].all validHash &&
    recordHashMatches p.toCanonical want.repository.content want.repository.repositoryBindingHash &&
    if want.sequence = 1 then want.predecessorClaimHash = ""
    else validHash want.predecessorClaimHash

end

section Evaluation

variable [DecidableEq β]

/-- The intent lives at most a minute, within the life of the dispatch, and the dispatch can
still take effect in the last nanosecond of it. -/
def intentWindow (want : SupervisorIntentAuthority) (verified : VerifiedAuthorization β) :
    Bool :=
  let dispatch := want.acceptedDispatch
  match p.parseUTC want.createdAt, p.parseUTC want.notAfter,
    p.parseUTC dispatch.createdAt, p.parseUTC dispatch.dispatchNotAfter with
  | some createdAt, some notAfter, some dispatchCreatedAt, some dispatchNotAfter =>
    createdAt < notAfter && notAfter - createdAt ≤ maxSupervisorIntentLifetime &&
      dispatchCreatedAt ≤ createdAt && notAfter ≤ dispatchNotAfter && createdAt ≤ notAfter - 1 &&
      validateDispatchRecord p verified.authority verified dispatch none .admission &&
      validateDispatchRecord p verified.authority verified dispatch (some (notAfter - 1)) .effect
  | _, _, _, _ => false

def validateSupervisorIntentAuthority (want : SupervisorIntentAuthority)
    (verified : VerifiedAuthorization β) : Bool :=
  verifiedAuthorizationIntact p verified &&
    authorityMatchesAuthorization p want verified.authorization &&
    intentWindow p want verified

def validateSupervisorIntentFreshness (want : SupervisorIntentAuthority)
    (verified : VerifiedAuthorization β) (now : Int) : Bool :=
  within p want.createdAt want.notAfter now &&
    validateDispatchRecord p verified.authority verified want.acceptedDispatch (some now) .effect

def verifiedSupervisorIntentClaimIntact (verified : VerifiedSupervisorIntentClaim β) : Bool :=
  verified.valid && verifiedSupervisorClaimSlotCommitIntact p verified.slotCommit &&
    p.canonicalBytes verified.claim.toValue = some verified.canonical &&
    verified.slotCommit.committedCanonical = verified.canonical &&
    slotCommitMatchesClaim verified.slotCommit verified.claim &&
    recordHashMatches p.toCanonical verified.claim.content verified.claim.claimHash

/-- The claim goes on from the claim before it, and from the end of its phase. -/
def claimFollows (want : SupervisorIntentAuthority)
    (pred : VerifiedSupervisorIntentClaim β) (term : VerifiedSupervisorTerminalEvent)
    (claim : SupervisorIntentClaim) : Bool :=
  let prev := pred.claim
  verifiedSupervisorIntentClaimIntact p pred && verifiedSupervisorTerminalEventIntact p term &&
    prev.sequence = want.sequence - 1 &&
    phaseSequence prev.phase = want.sequence - 1 &&
    prev.claimHash = want.predecessorClaimHash &&
    prev.attemptHash = claim.attemptHash && prev.attemptNumber = claim.attemptNumber &&
    prev.attemptCap = claim.attemptCap &&
    prev.authorizationHash = claim.authorizationHash &&
    prev.approvalHash = claim.approvalHash &&
    prev.supervisorBootEpochHash = claim.supervisorBootEpochHash &&
    term.attemptHash = claim.attemptHash && term.phase = prev.phase &&
    term.sequence = prev.sequence && term.claimHash = prev.claimHash &&
    term.terminalEventHash = claim.predecessorTerminalEventHash &&
    term.bootEpochHash = claim.supervisorBootEpochHash &&
    term.slotID = prev.journalSlotID &&
    term.claimJournalHeadHash = prev.journalHeadHash &&
    term.terminalJournalHeadHash = claim.journalHeadHash

def validateSupervisorIntentClaim (want : SupervisorIntentAuthority)
    (verified : VerifiedAuthorization β) (pred : Option (VerifiedSupervisorIntentClaim β))
    (predecessorTerminal : Option VerifiedSupervisorTerminalEvent)
    (claim : SupervisorIntentClaim) : Bool :=
  claimMatchesAuthority want verified claim &&
    recordHashMatches p.toCanonical claim.content claim.claimHash &&
    validSupervisorIntentClaimHashes claim &&
    if want.sequence = 1 then pred.isNone && predecessorTerminal.isNone
    else
      match pred, predecessorTerminal with
      | some prev, some term => claimFollows p want prev term claim
      | _, _ => false

inductive SupervisorClaimDisposition
  | awaitingJournalCommit | exactReplay

inductive SupervisorIntentError
  | invalidSupervisorIntent | supervisorClaimConflict

/-- One call of `EvaluateSupervisorIntentClaim`. -/
structure ClaimRequest (β : Type) where
  expected : SupervisorIntentAuthority
  authorization : VerifiedAuthorization β
  journalCommit : Option (VerifiedSupervisorClaimSlotCommit β)
  predecessor : Option (VerifiedSupervisorIntentClaim β)
  predecessorTerminal : Option VerifiedSupervisorTerminalEvent
  raw : β
  now : Int

def evaluateSupervisorIntentClaim (r : ClaimRequest β) : Except SupervisorIntentError
    (SupervisorClaimDisposition × Option (VerifiedSupervisorIntentClaim β)) :=
  if !validateSupervisorIntentAuthority p r.expected r.authorization then
    .error .invalidSupervisorIntent
  else
    match r.journalCommit with
    | none =>
      match p.decodeClaim r.raw with
      | none => .error .invalidSupervisorIntent
      | some claim =>
        if validateSupervisorIntentClaim p r.expected r.authorization r.predecessor
              r.predecessorTerminal claim &&
            validateSupervisorIntentFreshness p r.expected r.authorization r.now then
          .ok (.awaitingJournalCommit, none)
        else .error .invalidSupervisorIntent
    | some commit =>
      if !(verifiedSupervisorClaimSlotCommitIntact p commit &&
          slotCommitMatchesAuthority commit r.expected r.authorization) then
        .error .invalidSupervisorIntent
      else if commit.committedCanonical ≠ r.raw then .error .supervisorClaimConflict
      else
        match p.decodeClaim commit.committedCanonical with
        | none => .error .invalidSupervisorIntent
        | some claim =>
          if !validateSupervisorIntentClaim p r.expected r.authorization r.predecessor
              r.predecessorTerminal claim then
            .error .invalidSupervisorIntent
          -- An exact replay that is no longer fresh is recognised, but gives no capability.
          else if !validateSupervisorIntentFreshness p r.expected r.authorization r.now then
            .ok (.exactReplay, none)
          else .ok (.exactReplay, some ⟨true, claim, commit.committedCanonical, commit⟩)

end Evaluation

end Ananke.Repair
