import Ananke.Repair.Record

/-! The records of the supervisor's phase claims, and the opaque evidence about them. -/
namespace Ananke.Repair

/-- The phases of an attempt; an unknown phase keeps its name. -/
inductive SupervisorIntentPhase
  | materializationClaim | adapterClaim | testClaim
  | other (name : String)
deriving DecidableEq

def SupervisorIntentPhase.name : SupervisorIntentPhase → String
  | .materializationClaim => "materialization_claim"
  | .adapterClaim => "adapter_claim"
  | .testClaim => "test_claim"
  | .other name => name

/-- A journal value that describes one phase intent. -/
structure SupervisorIntentClaim where
  (schemaVersion claimHash claimID : String)
  phase : SupervisorIntentPhase
  sequence : Int
  attemptHash : String
  (attemptNumber attemptCap : Int)
  (authorizationHash approvalHash policyHash p4FactHash p4ProposalHash p4InputHash
    p4EvidenceBundleHash p4AdmissionHash fenceHash fenceClaimTokenHash requestHash dispatchHash
    channelBindingHash peerIdentityHash predecessorClaimHash predecessorTerminalEventHash
    supervisorBootEpochID supervisorBootEpochHash journalHeadHash journalSlotID
    repositoryBindingHash repositoryIdentityHash baseCommit baseTree executableIdentityHash
    sandboxProfileID sandboxProfileHash namespaceID namespaceIdentityHash rootIdentityHash
    durabilityPolicyID createdAt notAfter : String)

def SupervisorIntentClaim.content (r : SupervisorIntentClaim) : List (String × Value) :=
  [("schema_version", .text r.schemaVersion), ("claim_id", .text r.claimID),
    ("phase", .text r.phase.name), ("sequence", .number r.sequence),
    ("attempt_hash", .text r.attemptHash), ("attempt_number", .number r.attemptNumber),
    ("attempt_cap", .number r.attemptCap), ("authorization_hash", .text r.authorizationHash),
    ("approval_hash", .text r.approvalHash), ("policy_hash", .text r.policyHash),
    ("p4_fact_hash", .text r.p4FactHash), ("p4_proposal_hash", .text r.p4ProposalHash),
    ("p4_input_hash", .text r.p4InputHash),
    ("p4_evidence_bundle_hash", .text r.p4EvidenceBundleHash),
    ("p4_admission_hash", .text r.p4AdmissionHash), ("fence_hash", .text r.fenceHash),
    ("fence_claim_token_hash", .text r.fenceClaimTokenHash),
    ("request_hash", .text r.requestHash), ("dispatch_hash", .text r.dispatchHash),
    ("channel_binding_hash", .text r.channelBindingHash),
    ("peer_identity_hash", .text r.peerIdentityHash),
    ("predecessor_claim_hash", .text r.predecessorClaimHash),
    ("predecessor_terminal_event_hash", .text r.predecessorTerminalEventHash),
    ("supervisor_boot_epoch_id", .text r.supervisorBootEpochID),
    ("supervisor_boot_epoch_hash", .text r.supervisorBootEpochHash),
    ("journal_head_hash", .text r.journalHeadHash), ("journal_slot_id", .text r.journalSlotID),
    ("repository_binding_hash", .text r.repositoryBindingHash),
    ("repository_identity_hash", .text r.repositoryIdentityHash),
    ("base_commit", .text r.baseCommit), ("base_tree", .text r.baseTree),
    ("executable_identity_hash", .text r.executableIdentityHash),
    ("sandbox_profile_id", .text r.sandboxProfileID),
    ("sandbox_profile_hash", .text r.sandboxProfileHash), ("namespace_id", .text r.namespaceID),
    ("namespace_identity_hash", .text r.namespaceIdentityHash),
    ("root_identity_hash", .text r.rootIdentityHash),
    ("durability_policy_id", .text r.durabilityPolicyID), ("created_at", .text r.createdAt),
    ("not_after", .text r.notAfter)]

def SupervisorIntentClaim.toValue (r : SupervisorIntentClaim) : Value :=
  .object (("claim_hash", .text r.claimHash) :: r.content)

/-- The phase, slot and journal state that a trusted caller expects. -/
structure SupervisorIntentAuthority where
  (bootEpochID bootEpochHash journalHeadHash journalSlotID attemptHash : String)
  (attemptNumber attemptCap : Int)
  phase : SupervisorIntentPhase
  sequence : Int
  claimID : String
  acceptedDispatch : ImmutableDispatch
  repository : RepositoryBinding
  (executableIdentityHash sandboxProfileID sandboxProfileHash namespaceID namespaceIdentityHash
    rootIdentityHash durabilityPolicyID createdAt notAfter predecessorClaimHash : String)

/-- Evidence that the journal committed a claim in its slot. -/
structure VerifiedSupervisorClaimSlotCommit (β : Type) where
  (valid commitVerified tupleUnique slotUnique : Bool)
  attemptHash : String
  phase : SupervisorIntentPhase
  sequence : Int
  (slotID journalHeadHash bootEpochID bootEpochHash claimID claimHash authorizationHash
    approvalHash requestHash dispatchHash : String)
  committedCanonical : β
  (committedCanonicalHash integrityHash : String)

/-- Evidence that a phase ended, and how. -/
structure VerifiedSupervisorTerminalEvent where
  (valid terminalVerified : Bool)
  attemptHash : String
  phase : SupervisorIntentPhase
  sequence : Int
  (claimHash terminalEventHash bootEpochHash slotID claimJournalHeadHash terminalJournalHeadHash
    terminalStatus integrityHash : String)

/-- Evidence that a claim was fresh when its commitment was checked. -/
structure VerifiedSupervisorIntentClaim (β : Type) where
  valid : Bool
  claim : SupervisorIntentClaim
  canonical : β
  slotCommit : VerifiedSupervisorClaimSlotCommit β

/-- Evidence that the repair was authorized. -/
structure VerifiedAuthorization (β : Type) where
  valid : Bool
  authorization : Authorization
  authority : AuthorityContext
  canonical : β

end Ananke.Repair
