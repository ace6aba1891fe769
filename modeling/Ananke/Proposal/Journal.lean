import Ananke.Launch.Admission
import Ananke.Proposal.Record
import Ananke.Relational.Statement

/-! The tables of the proposals and the four operations that write them. Each operation is one
transaction; what it wrote is there after its commit or not at all. -/
namespace Ananke.Proposal

open Text Validation Relational
open Launch (ReviewState ProposalState localGUIOperator addInt settle)

/-- The four mutations, as the idempotency records and the activity name them. -/
inductive Operation
  | createProposal
  | appendRevision
  | decideApproval
  | withdrawProposal
deriving DecidableEq

structure ProposalRow where
  (proposalID projectID workstreamID createdAt createdBy : String)
  state : ProposalState
  currentRevision : Int
  currentRevisionHash : String

structure RevisionRow (β : Type) where
  proposalID : String
  revision : Int
  revisionHash : String
  snapshotJSON : β

/-- The columns `proposal_id`, `revision`, `revision_hash` and `approval_id`, here and below,
are the identity. -/
structure ApprovalRow where
  identity : ProposalMutation
  (createdAt createdBy : String)
  state : ReviewState
  decidedAt : Option String := none
  decidedBy : Option String := none
  decisionIdempotencyKey : Option String := none
  reason : Option String := none

structure LifecycleRow where
  identity : ProposalMutation
  state : ReviewState
  (createdAt updatedAt : String)
  version : Int

structure ActivityRow where
  sequence : Int
  operation : Operation
  identity : ProposalMutation
  writtenAt : String

structure IdempotencyRow where
  actor : String
  operation : Operation
  (resource idempotencyKey requestBodyHash : String)
  identity : ProposalMutation

structure DB (β : Type) where
  proposals : List ProposalRow := []
  revisions : List (RevisionRow β) := []
  approvals : List ApprovalRow := []
  lifecycles : List LifecycleRow := []
  activity : List ActivityRow := []
  idempotency : List IdempotencyRow := []

variable {β : Type}

/-- The revision that an identity is about. -/
def ProposalMutation.names (m : ProposalMutation) : String × Int × String :=
  (m.proposalID, m.revision, m.revisionHash)

def RevisionRow.names (row : RevisionRow β) : String × Int × String :=
  (row.proposalID, row.revision, row.revisionHash)

def ProposalRow.names (row : ProposalRow) : String × Int × String :=
  (row.proposalID, row.currentRevision, row.currentRevisionHash)

def ApprovalRow.approvalID (row : ApprovalRow) : String := row.identity.approvalID

def ActivityRow.proposalID (row : ActivityRow) : String := row.identity.proposalID

def LifecycleRow.proposalID (row : LifecycleRow) : String := row.identity.proposalID

/-- What is asked of a lifecycle and its approval together. -/
def LifecycleRow.review (row : LifecycleRow) : ProposalMutation × ReviewState :=
  (row.identity, row.state)

def ApprovalRow.review (row : ApprovalRow) : ProposalMutation × ReviewState :=
  (row.identity, row.state)

/-- The primary key of the idempotency records. -/
def IdempotencyRow.key (row : IdempotencyRow) : String × Operation × String × String :=
  (row.actor, row.operation, row.resource, row.idempotencyKey)

/-- The lifecycles joined with their approvals. -/
def DB.pairs (db : DB β) : List (LifecycleRow × ApprovalRow) :=
  db.lifecycles.flatMap fun life =>
    (db.approvals.filter fun approval => approval.identity = life.identity).map
      fun approval => (life, approval)

def validateProposalMutationIdentity (db : DB β) (res : ProposalMutation) : Except Err Unit :=
  require (.proposalRecordCorrupt "mutation identity does not name one revision lifecycle pair")
    (∃ pair ∈ db.pairs, pair.1.identity = res ∧ res.names ∈ db.revisions.map RevisionRow.names)

def lookupProposalIdempotency (db : DB β) (operation : Operation) (resource key bodyHash : String) :
    Except Err (Option ProposalMutation) :=
  match select IdempotencyRow.key (localGUIOperator, operation, resource, key) db.idempotency with
  | none => .ok none
  | some row => do
    validateProposalMutationIdentity db row.identity
    require .idempotencyConflict (row.requestBodyHash = bodyHash)
    pure (some row.identity)

def insertProposalIdempotency (db : DB β) (operation : Operation) (resource key bodyHash : String)
    (res : ProposalMutation) : Except Err (DB β) := do
  validateProposalMutationIdentity db res
  let row : IdempotencyRow := ⟨localGUIOperator, operation, resource, key, bodyHash, res⟩
  let idempotency ← insertOne (.sql "insert proposal idempotency")
    (row.key ∉ db.idempotency.map IdempotencyRow.key ∧ 0 < res.revision) row db.idempotency
  pure { db with idempotency := idempotency }

def appendProposalActivity (db : DB β) (res : ProposalMutation) (operation : Operation)
    (now : String) : Except Err (DB β) := do
  let seq := match ((rowsOf ActivityRow.proposalID res.proposalID db.activity).map
        ActivityRow.sequence).max? with
    | none => 1
    | some maximum => addInt maximum 1
  let row : ActivityRow := ⟨seq, operation, res, now⟩
  let activity ← insertOne (.sql "insert proposal activity")
    ((∀ r ∈ db.activity, ¬ (r.proposalID = row.proposalID ∧ r.sequence = seq)) ∧
      0 < seq ∧ 0 < res.revision) row db.activity
  pure { db with activity := activity }

/-- The end of every mutation: its idempotency record and its activity. -/
def conclude (db : DB β) (operation : Operation) (resource key bodyHash : String)
    (res : ProposalMutation) (now : String) : Except Err (DB β) := do
  let db ← insertProposalIdempotency db operation resource key bodyHash res
  appendProposalActivity db res operation now

/-- The rows of a new revision: its snapshot and its pending approval and lifecycle. The
actions are what the three insertions are called. -/
def insertPendingRevision (db : DB β) (actions : String × String × String)
    (res : ProposalMutation) (snap : β) (now : String) : Except Err (DB β) := do
  let rev : RevisionRow β :=
    ⟨res.proposalID, res.revision, res.revisionHash, snap⟩
  let revisions ← insertOne (.sql actions.1)
    (rev.revisionHash ∉ db.revisions.map RevisionRow.revisionHash ∧
      (∀ r ∈ db.revisions, ¬ (r.proposalID = rev.proposalID ∧
        r.revision = rev.revision)) ∧ 0 < rev.revision) rev db.revisions
  let approval : ApprovalRow := {
    identity := res, createdAt := now, createdBy := localGUIOperator, state := .pending }
  let approvals ← insertOne (.sql actions.2.1)
    (res.approvalID ∉ db.approvals.map ApprovalRow.approvalID ∧
      ∀ r ∈ db.approvals, r.identity.revisionHash ≠ res.revisionHash ∧
        ¬ (r.identity.proposalID = res.proposalID ∧ r.identity.revision = res.revision))
    approval db.approvals
  let life : LifecycleRow := ⟨res, .pending, now, now, 1⟩
  let lifecycles ← insertOne (.sql actions.2.2)
    (∀ r ∈ db.lifecycles, r.identity.revisionHash ≠ res.revisionHash ∧
      r.identity.approvalID ≠ res.approvalID ∧
      ¬ (r.identity.proposalID = res.proposalID ∧ r.identity.revision = res.revision))
    life db.lifecycles
  pure { db with revisions := revisions, approvals := approvals, lifecycles := lifecycles }

/-- A pending lifecycle and its pending approval move to another state, the lifecycle first. -/
def movePending (db : DB β) (conflict : Err) (life : ProposalMutation → Prop)
    [DecidablePred life] (approval : ProposalMutation → Prop) [DecidablePred approval]
    (state : ReviewState) (now : String) (note : ApprovalRow → ApprovalRow) :
    Except Err (DB β) := do
  let lifecycles ← updateOne conflict (fun row => life row.identity ∧ row.state = .pending)
    (fun row => { row with state := state, updatedAt := now, version := row.version + 1 })
    db.lifecycles
  let approvals ← updateOne conflict (fun row => approval row.identity ∧ row.state = .pending)
    (fun row => { note row with state := state }) db.approvals
  pure { db with lifecycles := lifecycles, approvals := approvals }

def supersedePendingRevisionPair (db : DB β) (proposalID : String) (rev : Int)
    (now : String) : Except Err (DB β) :=
  movePending db .revisionConflict (fun m => m.proposalID = proposalID ∧ m.revision = rev)
    (fun m => m.proposalID = proposalID ∧ m.revision = rev) .superseded now id

/-- The open proposal is changed where its current revision is still the one that was read. -/
def updateProposal (db : DB β) (conflict : Err) (cur : String × Int × String)
    (f : ProposalRow → ProposalRow) : Except Err (DB β) := do
  let proposals ← updateOne conflict (fun row => row.names = cur ∧ row.state = .opened) f
    db.proposals
  pure { db with proposals := proposals }

/-- The head of every mutation. What is recorded for the key is looked up before the request is
validated, so that a replay is answered whatever has become of the proposal since. -/
def replayOr (db : DB β) (operation : Operation) (resource key : String) (fail : Err)
    (bodyHash : Option String) (mutate : String → Except Err (ProposalMutation × Option (DB β))) :
    Except Err (ProposalMutation × Option (DB β)) := do
  let bodyHash ← expect fail bodyHash
  match ← lookupProposalIdempotency db operation resource key bodyHash with
  | some replay => pure (replay, none)
  | none => mutate bodyHash

/-- A statement that is made under a condition. -/
def onlyIf (c : Prop) [Decidable c] (statement : DB β → Except Err (DB β)) (db : DB β) :
    Except Err (DB β) :=
  if c then statement db else .ok db

variable (p : Primitives β)

def createProposal (db : DB β) (req : CreateProposalRequest)
    (proposalID approvalID : Option String) (now : Int) :
    Except Err (ProposalMutation × Option (DB β)) :=
  replayOr db .createProposal "proposal_collection" req.idempotencyKey
      (.other "canonical create body") (p.bodyHash (createRequestBody req)) fun bodyHash => do
    validateCreateProposalRequest req
    let proposalID ← expect (.other "generate proposal identifier") proposalID
    let approvalID ← expect (.other "generate approval identifier") approvalID
    let nowText := p.formatTime now
    let createdAt ← expect (.other "parse creation timestamp") (p.timeOf nowText)
    let rev : Revision := {
      schemaVersion := proposalRevisionSchemaVersion
      proposalID := proposalID
      revision := 1
      parentRevision := none
      parentRevisionHash := none
      createdAt := createdAt
      createdBy := localGUIOperator
      idempotencyKey := req.idempotencyKey
      input := req.revisionInput }
    let (snap, revisionHash) ← expect (.other "canonical revision snapshot")
      (canonicalRevisionSnapshot p rev)
    let row : ProposalRow := ⟨proposalID, req.projectID, req.workstreamID, nowText,
      localGUIOperator, .opened, 1, revisionHash⟩
    let proposals ← insertOne (.sql "insert proposal")
      (row.proposalID ∉ db.proposals.map ProposalRow.proposalID) row db.proposals
    let res : ProposalMutation := ⟨proposalID, 1, revisionHash, approvalID⟩
    let db ← insertPendingRevision { db with proposals := proposals }
      ("insert proposal revision", "insert approval", "insert revision lifecycle") res snap
      nowText
    let db ← conclude db .createProposal "proposal_collection" req.idempotencyKey bodyHash
      res nowText
    pure (res, some db)

def appendProposalRevision (db : DB β) (req : AppendProposalRevisionRequest)
    (approvalID : Option String) (now : Int) : Except Err (ProposalMutation × Option (DB β)) :=
  replayOr db .appendRevision req.proposalID req.idempotencyKey
      (.other "canonical append body") (p.bodyHash (appendRevisionRequestBody req))
      fun bodyHash => do
    validateAppendProposalRevisionRequest req
    let proposal ← expect .proposalNotFound
      (select ProposalRow.proposalID req.proposalID db.proposals)
    require .revisionConflict (proposal.state = .opened ∧
      proposal.currentRevision = req.expectedCurrentRevision ∧
      proposal.currentRevisionHash = req.expectedCurrentRevisionHash)
    let (life, approval) ← expect (.proposalRecordCorrupt "current lifecycle missing")
      (db.pairs.find? fun pair => pair.1.identity.names = proposal.names)
    require (.proposalRecordCorrupt "current lifecycle and approval diverged")
      (life.state = approval.state)
    require .revisionConflict (life.state = .pending ∨ life.state = .rejected)
    let approvalID ← expect (.other "generate approval identifier") approvalID
    let nowText := p.formatTime now
    let createdAt ← expect (.other "parse append timestamp") (p.timeOf nowText)
    let nextRevision := addInt proposal.currentRevision 1
    let rev : Revision := {
      schemaVersion := proposalRevisionSchemaVersion
      proposalID := req.proposalID
      revision := nextRevision
      parentRevision := some proposal.currentRevision
      parentRevisionHash := some proposal.currentRevisionHash
      createdAt := createdAt
      createdBy := localGUIOperator
      idempotencyKey := req.idempotencyKey
      input := req.revisionInput }
    let (snap, revisionHash) ← expect (.other "canonical appended revision snapshot")
      (canonicalRevisionSnapshot p rev)
    let res : ProposalMutation := ⟨req.proposalID, nextRevision, revisionHash, approvalID⟩
    let db ← insertPendingRevision db
      ("insert appended revision", "insert appended approval", "insert appended lifecycle") res
      snap nowText
    let db ← onlyIf (life.state = .pending) (fun db =>
      supersedePendingRevisionPair db req.proposalID proposal.currentRevision nowText) db
    let db ← updateProposal db .revisionConflict proposal.names fun row =>
      { row with currentRevision := nextRevision, currentRevisionHash := revisionHash }
    let db ← conclude db .appendRevision req.proposalID req.idempotencyKey bodyHash res nowText
    pure (res, some db)

/-- The pair that a decision is about, with the proposal's name for its current revision. -/
def DecideProposalApprovalRequest.identity (req : DecideProposalApprovalRequest) :
    ProposalMutation :=
  ⟨req.proposalID, req.revision, req.revisionHash, req.approvalID⟩

def decideProposalApproval (db : DB β) (req : DecideProposalApprovalRequest) (now : Int) :
    Except Err (ProposalMutation × Option (DB β)) :=
  replayOr db .decideApproval req.approvalID req.idempotencyKey
      (.other "canonical decision body") (p.bodyHash (decisionRequestBody req))
      fun bodyHash => do
    validateDecideProposalApprovalRequest req
    let approval ← expect .approvalNotFound
      (select ApprovalRow.approvalID req.approvalID db.approvals)
    require .approvalConflict (approval.identity.names = req.identity.names ∧
      approval.state = .pending)
    let missing : Err := .proposalRecordCorrupt "proposal or lifecycle missing"
    let proposal ← expect missing (select ProposalRow.proposalID req.proposalID db.proposals)
    let life ← expect missing (select LifecycleRow.identity req.identity db.lifecycles)
    require .approvalConflict (proposal.state = .opened ∧ proposal.currentRevision = req.revision ∧
      proposal.currentRevisionHash = req.revisionHash ∧ life.state = .pending)
    let nowText := p.formatTime now
    let state := decidedState req.decision
    let db ← movePending db .approvalConflict (fun m => m = req.identity)
      (fun m => m.approvalID = req.approvalID) state nowText fun row =>
        { row with
          decidedAt := some nowText
          decidedBy := some localGUIOperator
          decisionIdempotencyKey := some req.idempotencyKey
          reason := some req.reason }
    let db ← onlyIf (state = .approved) (fun db =>
      updateProposal db .approvalConflict req.identity.names fun row =>
        { row with state := .approved }) db
    let db ← conclude db .decideApproval req.approvalID req.idempotencyKey bodyHash
      req.identity nowText
    pure (req.identity, some db)

def withdrawProposal (db : DB β) (req : WithdrawProposalRequest) (now : Int) :
    Except Err (ProposalMutation × Option (DB β)) :=
  replayOr db .withdrawProposal req.proposalID req.idempotencyKey
      (.other "canonical withdrawal body") (p.bodyHash (withdrawProposalRequestBody req))
      fun bodyHash => do
    validateWithdrawProposalRequest req
    let proposal ← expect .proposalNotFound
      (select ProposalRow.proposalID req.proposalID db.proposals)
    require .proposalConflict (proposal.state = .opened)
    let (life, approval) ← expect (.proposalRecordCorrupt "current approval pair missing")
      (db.pairs.find? fun pair => pair.1.identity.names = proposal.names)
    require (.proposalRecordCorrupt "current lifecycle and approval diverged")
      (life.state = approval.state)
    require .proposalConflict (life.state = .pending ∨ life.state = .rejected)
    let nowText := p.formatTime now
    let res := life.identity
    let db ← onlyIf (life.state = .pending) (fun db =>
      movePending db .proposalConflict (fun m => m = res)
        (fun m => m.approvalID = res.approvalID) .withdrawn nowText id) db
    let db ← updateProposal db .proposalConflict proposal.names fun row =>
      { row with state := .withdrawn }
    let db ← conclude db .withdrawProposal req.proposalID req.idempotencyKey bodyHash res nowText
    pure (res, some db)

inductive Op
  | create (request : CreateProposalRequest) (proposalID approvalID : Option String) (now : Int)
  | append (request : AppendProposalRevisionRequest) (approvalID : Option String) (now : Int)
  | decide (request : DecideProposalApprovalRequest) (now : Int)
  | withdraw (request : WithdrawProposalRequest) (now : Int)

def Op.result (db : DB β) : Op → Except Err (ProposalMutation × Option (DB β))
  | .create req proposalID approvalID now =>
    createProposal p db req proposalID approvalID now
  | .append req approvalID now => appendProposalRevision p db req approvalID now
  | .decide req now => decideProposalApproval p db req now
  | .withdraw req now => withdrawProposal p db req now

/-- One operation, in a transaction whose commit succeeds or not. -/
def exec (db : DB β) (op : Op × Bool) : DB β × Except Err ProposalMutation :=
  settle op.2 (.sql "commit") db (op.1.result p db)

end Ananke.Proposal
