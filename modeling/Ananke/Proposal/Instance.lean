import Ananke.Proposal.Effect
import Ananke.ExternalSupervisor.Instance

/-! Primitives for one proposal: a few bodies that can be canonicalised, each with its hash,
and snapshots that are their own bytes. The proposal is created and approved. -/
namespace Ananke.Proposal.Instance

open Validation Relational
open TrustedSupervisor.Instance (sha sha_ne clockText)

def name : String := "one"

def input : RevisionInput := ⟨⟨name, name⟩, [name], fixedPolicy⟩

def request : CreateProposalRequest := ⟨name, name, name, input⟩

def request' : CreateProposalRequest := ⟨name, name, "two", input⟩

def decision : DecideProposalApprovalRequest := ⟨name, name, name, 1, sha 0, "approved", name⟩

def bodies : List Body :=
  [createRequestBody request, createRequestBody request', decisionRequestBody decision]

def prims : Primitives Revision where
  bodyHash body := (bodies.idxOf? body).map sha
  encodeRevision := some
  decodeRevision := some
  digest _ := sha 0
  timeOf := ExternalSupervisor.Instance.prims.timeOf
  formatTime := ExternalSupervisor.Instance.prims.formatTime

def identity : ProposalMutation := ⟨name, 1, sha 0, name⟩

def revision : Revision :=
  ⟨proposalRevisionSchemaVersion, name, 1, none, none, 0, Launch.localGUIOperator, name, input⟩

def pending : DB Revision :=
  { proposals := [⟨name, name, name, clockText 0, Launch.localGUIOperator, .opened, 1, sha 0⟩] :
      DB Revision }.addRevision identity revision (clockText 0)

def created : DB Revision :=
  pending.log ⟨Launch.localGUIOperator, .createProposal, "proposal_collection", name, sha 0,
    identity⟩ (clockText 0)

theorem validateCreateRequest_ok : validateCreateProposalRequest request = .ok () := by
  have hid : Launch.identifierPattern name = true := by decide
  have hkey : idempotencyKeyPattern name = true := by decide
  have hsize : name.utf8ByteSize = 3 := by decide
  have hne : name ≠ "" := by decide
  simp only [validateCreateProposalRequest, validateIdentifier, Launch.validateIdentifier,
    validateIdempotencyKey, validateRevisionInput, validateText, ok_iff, each_eq_ok]
  simp [request, input, hid, hkey, hsize, hne]

theorem bodyHash_request : prims.bodyHash (createRequestBody request) = some (sha 0) := rfl

theorem bodyHash_request' : prims.bodyHash (createRequestBody request') = some (sha 1) := rfl

theorem bodyHash_decision : prims.bodyHash (decisionRequestBody decision) = some (sha 2) := rfl

theorem insertPendingRevision_ok {actions : String × String × String} {row : ProposalRow} :
    insertPendingRevision { proposals := [row] } actions identity revision (clockText 0) =
      .ok ({ proposals := [row] : DB Revision }.addRevision identity revision (clockText 0)) := by
  simp only [insertPendingRevision, ok_iff, insertOne_eq_ok]
  exact ⟨_, ⟨by simp [identity], rfl⟩, _, ⟨by simp, rfl⟩, _, ⟨by simp, rfl⟩, rfl⟩

theorem conclude_ok : conclude pending .createProposal "proposal_collection" name (sha 0) identity
    (clockText 0) = .ok created := by
  have hnamed : Named pending identity := by
    simp [Named, pending, DB.addRevision, RevisionRow.names, ProposalMutation.names]
  simp only [conclude, insertProposalIdempotency, appendProposalActivity, ok_iff, insertOne_eq_ok,
    mutation_eq_ok]
  exact ⟨_, ⟨(), hnamed, _, ⟨by simp [pending, DB.addRevision, identity], rfl⟩, rfl⟩, _,
    ⟨by simp [rowsOf, pending, DB.addRevision, identity], rfl⟩, rfl⟩

theorem createProposal_ok : createProposal prims {} request (some name) (some name) 0 =
    .ok (identity, some created) := by
  refine replayOr_eq_ok.mpr ⟨sha 0, bodyHash_request, .inr ⟨rfl, ?_⟩⟩
  simp only [ok_iff, insertOne_eq_ok]
  exact ⟨(), validateCreateRequest_ok, name, rfl, name, rfl, 0,
    ExternalSupervisor.Instance.timeOf_clockText 0, (revision, sha 0), rfl, _, ⟨by simp, rfl⟩,
      pending, insertPendingRevision_ok, created, conclude_ok, rfl⟩

def creating : Op := .create request (some name) (some name) 0

theorem exec_creating : exec prims {} (creating, true) = (created, .ok identity) := by
  rw [exec, creating, Op.result, createProposal_ok]
  rfl

def decided : DB Revision :=
  { created with
    proposals :=
      [⟨name, name, name, clockText 0, Launch.localGUIOperator, .approved, 1, sha 0⟩]
    approvals := [{
      identity := identity, createdAt := clockText 0, createdBy := Launch.localGUIOperator
      state := .approved, decidedAt := some (clockText 1)
      decidedBy := some Launch.localGUIOperator, decisionIdempotencyKey := some name
      reason := some name }]
    lifecycles := [⟨identity, .approved, clockText 0, clockText 1, 2⟩] }

def approved : DB Revision :=
  decided.log ⟨Launch.localGUIOperator, .decideApproval, name, name, sha 2, identity⟩ (clockText 1)

theorem validateRevisionHash_ok (field : String) : validateRevisionHash (sha 0) field = .ok () := by
  simp only [validateRevisionHash, ok_iff]
  exact ⟨(), ⟨by decide, by decide +kernel⟩, by decide +kernel⟩

theorem validateDecideRequest_ok : validateDecideProposalApprovalRequest decision = .ok () := by
  have hid : Launch.identifierPattern name = true := by decide
  have hkey : idempotencyKeyPattern name = true := by decide
  have hsize : name.utf8ByteSize = 3 := by decide
  simp only [validateDecideProposalApprovalRequest, validateIdentifier, Launch.validateIdentifier,
    validateIdempotencyKey, validateText, ok_iff]
  simp [decision, hid, hkey, hsize, validateRevisionHash_ok]

theorem movePending_ok : movePending created .approvalConflict (fun m => m = identity)
      (fun m => m.approvalID = name) .approved (clockText 1) (fun row =>
        { row with
          decidedAt := some (clockText 1)
          decidedBy := some Launch.localGUIOperator
          decisionIdempotencyKey := some name
          reason := some name }) = .ok { decided with proposals := created.proposals } := by
  simp only [movePending, ok_iff, updateOne_eq_ok]
  exact ⟨_, ⟨rfl, rfl⟩, _, ⟨rfl, rfl⟩, rfl⟩

theorem updateProposal_ok :
    onlyIf (decidedState decision.decision = .approved) (fun db : DB Revision =>
      updateProposal db .approvalConflict identity.names fun row => { row with state := .approved })
      { decided with proposals := created.proposals } = .ok decided := by
  have happr : decidedState decision.decision = .approved := rfl
  rw [onlyIf, if_pos happr]
  simp only [updateProposal, ok_iff, updateOne_eq_ok]
  exact ⟨_, ⟨rfl, rfl⟩, rfl⟩

theorem conclude_decided : conclude decided .decideApproval name name (sha 2) identity
    (clockText 1) = .ok approved := by
  have hnamed : Named decided identity := by
    simp [Named, decided, created, pending, DB.log, DB.addRevision, RevisionRow.names,
      ProposalMutation.names]
  simp only [conclude, insertProposalIdempotency, appendProposalActivity, ok_iff, insertOne_eq_ok,
    mutation_eq_ok]
  refine ⟨_, ⟨(), hnamed, _, ⟨?_, rfl⟩, rfl⟩, _, ⟨?_, rfl⟩, rfl⟩
  · decide
  · decide

theorem decideProposalApproval_ok :
    decideProposalApproval prims created decision 1 = .ok (identity, some approved) := by
  refine replayOr_eq_ok.mpr ⟨sha 2, bodyHash_decision, .inr ⟨rfl, ?_⟩⟩
  simp only [ok_iff]
  exact ⟨(), validateDecideRequest_ok, _, rfl, (), ⟨rfl, rfl⟩, _, rfl, _, rfl, (),
    ⟨rfl, rfl, rfl, rfl⟩, _, movePending_ok, _, updateProposal_ok, _, conclude_decided, rfl⟩

def deciding : Op := .decide decision 1

theorem exec_deciding : exec prims created (deciding, true) = (approved, .ok identity) := by
  rw [exec, deciding, Op.result, decideProposalApproval_ok]
  rfl

end Ananke.Proposal.Instance
