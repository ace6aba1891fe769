import Ananke.Launch.Record

/-! What an operator proposes, and the four requests that change a proposal. -/
namespace Ananke.Proposal

open Text Validation
open Launch (ReviewState ProposalState)

structure ProposalTask where
  (title instructions : String)
deriving DecidableEq

structure ProposalAdapterPolicy where
  (access kind status : String)
deriving DecidableEq

structure ProposalBudgetPolicy where
  dimensions : List String
  status : String
deriving DecidableEq

structure ProposalPolicy where
  adapter : ProposalAdapterPolicy
  authority : String
  budget : ProposalBudgetPolicy
  modelRole : String
deriving DecidableEq

structure RevisionInput where
  task : ProposalTask
  acceptanceCriteria : List String
  policy : ProposalPolicy
deriving DecidableEq

/-- The immutable snapshot of a revision. Its hash is the hash of its canonical bytes and
not part of it. -/
structure Revision where
  (schemaVersion proposalID : String)
  revision : Int
  parentRevision : Option Int
  parentRevisionHash : Option String
  createdAt : Int
  (createdBy idempotencyKey : String)
  input : RevisionInput
deriving DecidableEq

/-- What a mutation answers with, and its replay again: the revision it is about and the
approval paired with that revision. -/
structure ProposalMutation where
  proposalID : String
  revision : Int
  (revisionHash approvalID : String)
deriving DecidableEq

structure CreateProposalRequest where
  (idempotencyKey projectID workstreamID : String)
  revisionInput : RevisionInput

structure AppendProposalRevisionRequest where
  (idempotencyKey proposalID : String)
  expectedCurrentRevision : Int
  expectedCurrentRevisionHash : String
  revisionInput : RevisionInput

/-- The decision is any text until it is validated. -/
structure DecideProposalApprovalRequest where
  (idempotencyKey approvalID proposalID : String)
  revision : Int
  (revisionHash decision reason : String)

structure WithdrawProposalRequest where
  (idempotencyKey proposalID : String)

/-- The bodies whose hashes tell a replay from a conflict. A request's key is not part of its
body, and the schema version tells the four kinds apart. -/
inductive Body
  | create (projectID workstreamID : String) (input : RevisionInput)
  | append (proposalID : String) (expectedCurrentRevision : Int)
      (expectedCurrentRevisionHash : String) (input : RevisionInput)
  | decide (approvalID proposalID : String) (revision : Int) (revisionHash decision reason : String)
  | withdraw (proposalID : String)
deriving DecidableEq

def createRequestBody (req : CreateProposalRequest) : Body :=
  .create req.projectID req.workstreamID req.revisionInput

def appendRevisionRequestBody (req : AppendProposalRevisionRequest) : Body :=
  .append req.proposalID req.expectedCurrentRevision req.expectedCurrentRevisionHash
    req.revisionInput

def decisionRequestBody (req : DecideProposalApprovalRequest) : Body :=
  .decide req.approvalID req.proposalID req.revision req.revisionHash req.decision req.reason

def withdrawProposalRequestBody (req : WithdrawProposalRequest) : Body :=
  .withdraw req.proposalID

inductive Err
  | proposalNotFound
  | revisionNotFound
  | approvalNotFound
  | proposalConflict
  | revisionConflict
  | approvalConflict
  | idempotencyConflict
  | proposalRecordCorrupt (detail : String)
  /-- The database refused the statement. -/
  | sql (action : String)
  | other (text : String)

/-- What the proposals take from elsewhere. -/
structure Primitives (β : Type) where
  /-- `canonicalJSONHash` of a request body, where the body can be canonicalised. -/
  bodyHash : Body → Option String
  /-- `canonicalJSON` of a snapshot, where it can be canonicalised. -/
  encodeRevision : Revision → Option β
  /-- `json.Unmarshal` into a snapshot. -/
  decodeRevision : β → Option Revision
  /-- The SHA-256 digest of canonical bytes. -/
  digest : β → String
  /-- `parseStamp` -/
  timeOf : String → Option Int
  /-- `Format(time.RFC3339Nano)` in UTC. -/
  formatTime : Int → String

variable {β : Type} (p : Primitives β)

def canonicalRevisionSnapshot (rev : Revision) : Option (β × String) :=
  (p.encodeRevision rev).map fun snap => (snap, p.digest snap)

def proposalRevisionSchemaVersion : String := "ananke.proposal-revision.v1"

/-- `^[a-z][a-z0-9_]{2,127}$` -/
def idempotencyKeyPattern : String → Bool := namePattern 127

def validateIdentifier (v name : String) : Except Err Unit :=
  (Launch.validateIdentifier v name).mapError .other

def validateIdempotencyKey (v : String) : Except Err Unit :=
  require (.other "idempotency key must be a P1a idempotency key") (idempotencyKeyPattern v = true)

def validateText (v : String) (maximumBytes : Nat) (name : String) : Except Err Unit :=
  require (.other (name ++ " must be valid UTF-8 text from 1 through " ++ toString maximumBytes ++
      " bytes"))
    (v.utf8ByteSize ≠ 0 ∧ v.utf8ByteSize ≤ maximumBytes)

def validateRevisionHash (v name : String) : Except Err Unit := do
  require (.other (name ++ " must be a SHA-256 hash"))
    ("sha256:".toList.isPrefixOf v.toList = true ∧ v.utf8ByteSize = 7 + 64)
  require (.other (name ++ " must be a lowercase SHA-256 hash"))
    ((v.toList.drop 7).all isHex = true)

/-- The policy that every revision has to carry. -/
def fixedPolicy : ProposalPolicy where
  adapter := ⟨"read_only", "omp_audit", "future"⟩
  authority := "deterministic"
  budget := ⟨["deadline", "attempt_cap"], "future"⟩
  modelRole := "advisory_only"

def validateRevisionInput (input : RevisionInput) : Except Err Unit := do
  validateText input.task.title 160 "task title"
  validateText input.task.instructions 8000 "task instructions"
  require (.other "acceptance criteria count must be 1 through 32")
    (1 ≤ input.acceptanceCriteria.length ∧ input.acceptanceCriteria.length ≤ 32)
  each (fun (criterion, index) =>
    validateText criterion 1000 ("acceptance criterion " ++ toString index))
    input.acceptanceCriteria.zipIdx
  require (.other "revision policy must be the fixed P1a policy") (input.policy = fixedPolicy)

def validateCreateProposalRequest (req : CreateProposalRequest) : Except Err Unit := do
  validateIdentifier req.projectID "project id"
  validateIdentifier req.workstreamID "workstream id"
  validateIdempotencyKey req.idempotencyKey
  validateRevisionInput req.revisionInput

def validateAppendProposalRevisionRequest (req : AppendProposalRevisionRequest) :
    Except Err Unit := do
  validateIdentifier req.proposalID "proposal id"
  validateIdempotencyKey req.idempotencyKey
  require (.other "expected current revision must be positive") (1 ≤ req.expectedCurrentRevision)
  validateRevisionHash req.expectedCurrentRevisionHash "expected current revision hash"
  validateRevisionInput req.revisionInput

def validateDecideProposalApprovalRequest (req : DecideProposalApprovalRequest) :
    Except Err Unit := do
  validateIdentifier req.approvalID "approval id"
  validateIdentifier req.proposalID "proposal id"
  validateIdempotencyKey req.idempotencyKey
  require (.other "revision must be positive") (1 ≤ req.revision)
  validateRevisionHash req.revisionHash "revision hash"
  require (.other "decision must be approved or rejected")
    (req.decision = "approved" ∨ req.decision = "rejected")
  validateText req.reason 1000 "decision reason"

def validateWithdrawProposalRequest (req : WithdrawProposalRequest) : Except Err Unit := do
  validateIdentifier req.proposalID "proposal id"
  validateIdempotencyKey req.idempotencyKey

/-- The state that a validated decision names. -/
def decidedState (decision : String) : ReviewState :=
  if decision = "approved" then .approved else .rejected

end Ananke.Proposal
